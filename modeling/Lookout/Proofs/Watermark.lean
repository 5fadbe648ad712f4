import Lookout.Proofs.Histories
import Lookout.Proofs.Reachability
import Mathlib.Data.Prod.Lex
import Mathlib.Order.Bounds.Basic
import Mathlib.Order.MinMax

/-!
# Watermarks

The watermark of a thread moves forward only. Marks are ordered by their first number and then by
their second one, and in whatever order a thread is told of some marks, it keeps the greatest of
them and of the one that it had. Nothing but an advance touches a watermark.
-/

namespace Lookout

open Operation Store
open Schema (TableName)

variable {database before after : Database} {context : Context}

namespace Thread

/-- Watermarks are compared in the lexicographic order. -/
theorem isBehind_iff {mark reached : Int × Int} :
    isBehind mark reached = true ↔ toLex mark < toLex reached := by
  simp [isBehind, Prod.Lex.toLex_lt_toLex]

/-- Whether both numbers of a watermark are there. -/
def IsMarked (thread : Thread) : Prop :=
  thread.lastPostNo = some thread.watermark.1 ∧ thread.lastPostSubNo = some thread.watermark.2

theorem isMarked_withWatermark (thread : Thread) (mark : Int × Int) :
    (thread.withWatermark mark).IsMarked :=
  ⟨rfl, rfl⟩

theorem IsMarked.withWatermark {thread : Thread} (marked : thread.IsMarked) :
    thread.withWatermark thread.watermark = thread := by
  unfold Thread.withWatermark
  rw [← marked.1, ← marked.2]

theorem IsMarked.of_same {thread other : Thread} (marked : thread.IsMarked)
    (same : other.lastPostNo = thread.lastPostNo ∧ other.lastPostSubNo = thread.lastPostSubNo) :
    other.IsMarked := by
  unfold IsMarked watermark at *
  rwa [same.1, same.2]

/-- Threads keep their watermarks from one table to another, and new ones start at zero. -/
structure KeepMarks (before after : Table Thread) : Prop where
  kept : ∀ entry ∈ before.entries, ∃ later ∈ after.entries, later.id = entry.id ∧
    later.row.lastPostNo = entry.row.lastPostNo ∧
    later.row.lastPostSubNo = entry.row.lastPostSubNo
  marked : ∀ later ∈ after.entries,
    later.row.lastPostNo = some 0 ∧ later.row.lastPostSubNo = some 0 ∨
      ∃ entry ∈ before.entries, entry.id = later.id ∧
        later.row.lastPostNo = entry.row.lastPostNo ∧
        later.row.lastPostSubNo = entry.row.lastPostSubNo

namespace KeepMarks

theorem refl (table : Table Thread) : KeepMarks table table where
  kept entry stored := ⟨entry, stored, rfl, rfl, rfl⟩
  marked later stored := .inr ⟨later, stored, rfl, rfl, rfl⟩

/-- A new thread starts at zero. -/
theorem add {row : Thread} (table : Table Thread)
    (starts : row.lastPostNo = some 0 ∧ row.lastPostSubNo = some 0) :
    KeepMarks table (table.add row) where
  kept entry stored := ⟨entry, List.mem_append_left _ stored, rfl, rfl, rfl⟩
  marked later stored := by
    rcases List.mem_append.mp stored with old | new
    · exact .inr ⟨later, old, rfl, rfl, rfl⟩
    · rw [List.mem_singleton.mp new]
      exact .inl starts

/-- A change of other columns keeps watermarks. -/
theorem update (table : Table Thread) (wanted : Entry Thread → Bool) (step : Thread → Thread)
    (same : ∀ row, (step row).lastPostNo = row.lastPostNo ∧
      (step row).lastPostSubNo = row.lastPostSubNo) :
    KeepMarks table (table.update wanted step) := by
  have columns (entry : Entry Thread) :
      (if wanted entry then { entry with row := step entry.row } else entry).row.lastPostNo =
          entry.row.lastPostNo ∧
        (if wanted entry then { entry with row := step entry.row } else entry).row.lastPostSubNo =
          entry.row.lastPostSubNo := by
    split
    · exact same entry.row
    · exact ⟨rfl, rfl⟩
  constructor
  · intro entry stored
    refine ⟨_, List.mem_map_of_mem stored, ?_, columns entry⟩
    split <;> rfl
  · intro later stored
    obtain ⟨entry, isOld, rfl⟩ := List.mem_map.mp stored
    refine .inr ⟨entry, isOld, ?_, columns entry⟩
    split <;> rfl

end KeepMarks

theorem Inserted.keepMarks {site board : Option String} {number : Option Int} {id : Int}
    (inserted : Inserted context before site board number id after) :
    KeepMarks before.threads after.threads := by
  cases inserted with
  | intro prepared inserts =>
      cases inserts with
      | present found => exact .refl _
      | added absent admitted => exact .add _ ⟨rfl, rfl⟩

end Thread

open Thread (KeepMarks)

/-- A request that has had its effect has kept all watermarks, unless it was an advance. -/
theorem Request.Effect.keepMarks {request : Request} {answer : request.Answer}
    (effective : request.Effect context before answer after)
    (other : ∀ id postNo postSubNo, request ≠ .advanceWatermark id postNo postSubNo) :
    KeepMarks before.threads after.threads := by
  by_cases written : .threads ∈ request.writes
  · cases request with
    | watchPost accountId site board threadNo postNo postSubNo application =>
        obtain ⟨number, _, placed⟩ := effective
        cases placed with
        | intro named valid threaded described posted watched =>
            have rest : Database.Writes [.descriptors, .posts, .watches] _ after :=
              .trans (described.writes (.head _))
                (.trans (posted.writes (.tail _ (.head _)))
                  (watched.writes (.tail _ (.tail _ (.head _)))))
            have spared : .threads ∉ [TableName.descriptors, .posts, .watches] := by decide
            have same : _ = after.threads := rest.agree spared
            exact same ▸ threaded.keepMarks
    | resolveThread site board number => exact Thread.Inserted.keepMarks effective
    | advanceWatermark id postNo postSubNo => exact absurd rfl (other id postNo postSubNo)
    | storeLastModified id date =>
        obtain ⟨held, _, _, rfl⟩ := effective
        exact .update before.threads (fun entry => entry.id = held.id)
          (fun row => { row with lastModified := date.map (·.wall) }) fun _ => ⟨rfl, rfl⟩
    | markThreadDead id =>
        obtain ⟨held, _, _, _, rfl⟩ := effective
        exact .update before.threads (fun entry => entry.id = held.id)
          (fun row => { row with isDead := some true }) fun _ => ⟨rfl, rfl⟩
    | _ => simp [Request.writes] at written
  · have same : before.threads = after.threads := effective.writes.agree written
    rw [same]
    exact .refl _

/-- No other turn than an advance changes a watermark. -/
theorem Turn.keepMarks (turn : Turn)
    (other : ∀ id postNo postSubNo, turn.request ≠ .advanceWatermark id postNo postSubNo)
    (database : Database) :
    KeepMarks database.threads (turn.outcome database).database.threads := by
  rcases turn.changes database with same | ⟨answer, effective⟩
  · rw [same]
    exact .refl _
  · exact effective.keepMarks other

namespace Database

/-- All threads of a database have their watermarks. -/
def IsMarked (database : Database) : Prop :=
  ∀ entry ∈ database.threads.entries, entry.row.IsMarked

/-- Turns leave no thread without a watermark. -/
theorem IsMarked.outcome (marked : database.IsMarked) (turn : Turn) :
    (turn.outcome database).database.IsMarked := by
  rcases turn.changes database with same | ⟨answer, effective⟩
  · rw [same]
    exact marked
  · intro later stored
    by_cases other : ∀ id postNo postSubNo, turn.request ≠ .advanceWatermark id postNo postSubNo
    · rcases (effective.keepMarks other).marked later stored with starts | ⟨entry, isOld, -, same⟩
      · unfold Thread.IsMarked Thread.watermark
        simp [starts]
      · exact (marked entry isOld).of_same same
    · push Not at other
      obtain ⟨id, postNo, postSubNo, isAdvance⟩ := other
      generalize (turn.outcome database).database = after at effective stored
      -- What an answer is depends on the request, so the answer waits until the request is known.
      revert answer
      rw [isAdvance]
      rintro answer ⟨number, subNumber, _, _, _, _, rfl⟩
      obtain ⟨entry, isOld, rfl⟩ := List.mem_map.mp stored
      split
      · exact Thread.isMarked_withWatermark _ _
      · exact marked entry isOld

/-- Removing rows brings no threads. -/
theorem threads_erase_subset (database : Database) (table : TableName) (gone : Int → Bool) :
    (database.erase table gone).threads.entries ⊆ database.threads.entries := by
  cases table with
  | threads => exact List.filter_sublist.subset
  | _ => exact List.Subset.refl _

/-- That threads have watermarks lasts through schema changes. -/
theorem isLasting_isMarked : Migration.IsLasting IsMarked :=
  Migration.isLasting_forall threads_erase_subset (fun _ _ => rfl) (fun _ _ => rfl) fun _ _ => rfl

/-- In every reachable database all threads have their watermarks. -/
theorem Reached.isMarked (reached : database.Reached) : database.IsMarked := by
  refine reached.of_isLasting isLasting_isMarked ?_ ?_ fun turn _ marked => marked.outcome turn
  · exact fun _ stored => absurd stored List.not_mem_nil
  · exact fun _ _ _ stored => absurd stored List.not_mem_nil

/-- A database in which a thread has another watermark. -/
def withWatermark (database : Database) (id : Int) (mark : Int × Int) : Database :=
  database.updated (fun entry => entry.id = id) fun (row : Thread) => row.withWatermark mark

variable {held : Entry Thread}

/-- The watermark that a thread has already changes nothing. -/
theorem withWatermark_self (stored : held ∈ database.threads.entries)
    (marked : held.row.IsMarked) :
    database.withWatermark held.id held.row.watermark = database := by
  refine updated_self fun entry isStored isHeld => ?_
  obtain rfl := database.threads.eq_of_id_eq isStored stored (of_decide_eq_true isHeld)
  exact marked.withWatermark

/-- Of two watermarks given one after the other the second one stays. -/
theorem withWatermark_withWatermark (database : Database) (id : Int) (first second : Int × Int) :
    (database.withWatermark id first).withWatermark id second =
      database.withWatermark id second := by
  have same : (database.threads.update (fun entry => entry.id = id)
      (·.withWatermark first)).update (fun entry => entry.id = id) (·.withWatermark second) =
        database.threads.update (fun entry => entry.id = id) (·.withWatermark second) := by
    ext1
    simp only [Table.entries_update, List.map_map]
    refine List.map_congr_left fun entry _ => ?_
    by_cases isHeld : entry.id = id <;> simp [isHeld, Thread.withWatermark]
  exact congrArg (fun threads => { database with threads }) same

/-- An advance moves the thread that it names, where the thread is behind. -/
theorem isBehindAt_iff (stored : held ∈ database.threads.entries) {entry : Entry Thread}
    (isStored : entry ∈ database.threads.entries) {mark : Int × Int} :
    Thread.isBehindAt (some held.id) mark entry = true ↔
      entry.id = held.id ∧ toLex held.row.watermark < toLex mark := by
  rw [Thread.isBehindAt, Bool.and_eq_true, decide_eq_true_eq, Option.some.injEq]
  refine and_congr_right fun same => ?_
  rw [database.threads.eq_of_id_eq isStored stored same, Thread.isBehind_iff]

/-- Some thread is moved exactly where the named one is behind. -/
theorem count_isBehindAt_pos (stored : held ∈ database.threads.entries) (mark : Int × Int) :
    0 < database.threads.count (Thread.isBehindAt (some held.id) mark) ↔
      toLex held.row.watermark < toLex mark := by
  rw [Table.count, List.countP_pos_iff]
  constructor
  · rintro ⟨entry, isStored, isWanted⟩
    exact ((isBehindAt_iff stored isStored).mp isWanted).2
  · exact fun behind => ⟨held, stored, (isBehindAt_iff stored stored).mpr ⟨rfl, behind⟩⟩

/-- Moving a thread where it is behind leaves the greater one of two watermarks. -/
theorem updated_isBehindAt (stored : held ∈ database.threads.entries)
    (marked : held.row.IsMarked) {mark : Int × Int} :
    database.updated (Thread.isBehindAt (some held.id) mark)
        (fun (row : Thread) => row.withWatermark mark) =
      database.withWatermark held.id (ofLex (max (toLex held.row.watermark) (toLex mark))) := by
  by_cases behind : toLex held.row.watermark < toLex mark
  · rw [max_eq_right behind.le, ofLex_toLex]
    refine updated_congr fun entry isStored => ?_
    have sameKind : Thread.isBehindAt (some held.id) mark entry = decide (entry.id = held.id) := by
      rw [Bool.eq_iff_iff, isBehindAt_iff stored isStored, decide_eq_true_eq,
        and_iff_left behind]
    change (if Thread.isBehindAt (some held.id) mark entry = true then _ else _) = _
    rw [sameKind]
  · rw [max_eq_left (not_lt.mp behind), ofLex_toLex, withWatermark_self stored marked]
    refine updated_of_count _ _ _ (Nat.eq_zero_of_not_pos ?_)
    exact mt (count_isBehindAt_pos stored mark).mp behind

/-- A thread is found with the watermark that it was given. -/
theorem mem_withWatermark (stored : held ∈ database.threads.entries) (mark : Int × Int) :
    ⟨held.id, held.row.withWatermark mark⟩ ∈
      (database.withWatermark held.id mark).threads.entries := by
  refine List.mem_map.mpr ⟨held, stored, ?_⟩
  simp

end Database

/-- A call that tells a thread of a mark, with what surrounds it. -/
structure Advance where
  mark : Int × Int
  context : Context
  draws : Draws := {}

namespace Advance

variable {held : Entry Thread} {advance : Advance}

/-- The turn that tells a thread of a mark. -/
def turn (id : Int) (advance : Advance) : Turn where
  request := .advanceWatermark (some id) (some advance.mark.1) (some advance.mark.2)
  context := advance.context
  draws := advance.draws

/-- Whether the store can keep a mark. -/
def IsStorable (advance : Advance) : Prop :=
  isStorable advance.mark.1 = true ∧ isStorable advance.mark.2 = true

/-- A thread that exists is found when it is demanded. -/
theorem ends_demand {session : Session} (stored : held ∈ session.current.threads.entries)
    (present : session.current.catalog.hasTable .threads = true)
    (numbered : isStorable held.id = true) :
    (Thread.demand (some held.id)).Ends context session (fun _ _ => True) (fun _ _ => False) := by
  have complete : session.current.missing? [.threads] = none := by
    simp [Database.missing?, present]
  simp only [Thread.demand, Thread.lookup, ends_bind, ends_require, complete, ends_fits, ends_rows,
    ends_pure, reduceCtorEq, false_implies, implies_true, true_and, true_implies, List.all_cons,
    List.all_nil, Option.all_some, numbered, Bool.and_self, Bool.true_eq_false]
  intro _
  cases found : (Relation.read session.current : Table Thread).find? fun entry =>
    some entry.id = some held.id with
  | none => simpa using List.find?_eq_none.mp found held stored
  | some entry => trivial

/-- An advance of a thread that exists does not fail. -/
theorem ends_advance (stored : held ∈ database.threads.entries)
    (present : database.catalog.hasTable .threads = true)
    (numbered : isStorable held.id = true) (storable : advance.IsStorable) :
    (advance.turn held.id).request.operation.Ends context
      { saved := database, current := database, draws := advance.draws }
      (fun _ _ => True) (fun _ _ => False) := by
  have complete : database.missing? [.threads] = none := by
    simp [Database.missing?, present]
  simp only [turn, Request.operation, Thread.advance, ends_bind, ends_require, complete, ends_fits,
    ends_updateWhere, ends_commit, ends_ite, ends_log, ends_pure, reduceCtorEq, false_implies,
    implies_true, true_and, true_implies, List.all_cons, List.all_nil, Option.all_some, numbered,
    storable.1, storable.2, Bool.and_self, Bool.true_eq_false]
  intro _ unmoved
  rw [Database.updated_of_count _ _ _ (Nat.eq_zero_of_not_pos unmoved)]
  exact ends_demand stored present numbered

/-- An advance leaves the greater one of two watermarks and tells whether it is the new one. -/
theorem outcome_turn (stored : held ∈ database.threads.entries) (marked : held.row.IsMarked)
    (present : database.catalog.hasTable .threads = true)
    (numbered : isStorable held.id = true) (storable : advance.IsStorable) :
    ((advance.turn held.id).outcome database).answer =
        .ok (decide (toLex held.row.watermark < toLex advance.mark)) ∧
      ((advance.turn held.id).outcome database).database =
        database.withWatermark held.id
          (ofLex (max (toLex held.row.watermark) (toLex advance.mark))) := by
  rcases (ends_advance stored present numbered storable).outcome with
    ⟨answer, _, -, answered, -⟩ | ⟨_, _, never, -⟩
  · have dated : (advance.turn held.id).request.isDated := trivial
    obtain ⟨number, subNumber, isNumber, isSubNumber, -, hasMoved, same⟩ :=
      (Request.achieves dated).of_answer answered
    cases isNumber
    cases isSubNumber
    have moves := Database.count_isBehindAt_pos stored advance.mark
    exact ⟨answered.trans (congrArg Except.ok (hasMoved.trans (decide_eq_decide.mpr moves))),
      same.trans (Database.updated_isBehindAt stored marked)⟩
  · exact never.elim

/-- The greatest of a watermark and the marks of some calls. -/
def peak (start : Int × Int) (advances : List Advance) : Int ×ₗ Int :=
  (advances.map fun advance => toLex advance.mark).foldl max (toLex start)

/-- The peak is one of the marks, and no mark is above it. -/
theorem isGreatest_peak (start : Int × Int) (advances : List Advance) :
    IsGreatest {mark | mark ∈ toLex start :: advances.map fun advance => toLex advance.mark}
      (peak start advances) := by
  unfold peak
  generalize toLex start = first
  generalize (advances.map fun advance => toLex advance.mark) = marks
  induction marks generalizing first with
  | nil => simp [IsGreatest]
  | cons mark rest ih =>
      obtain ⟨attained, bound⟩ := ih (max first mark)
      constructor
      · rcases List.mem_cons.mp attained with isMax | later
        · rcases max_choice first mark with isFirst | isMark
          · exact List.mem_cons.mpr (.inl (isMax.trans isFirst))
          · exact .tail _ (List.mem_cons.mpr (.inl (isMax.trans isMark)))
        · exact .tail _ (.tail _ later)
      · have top := bound (List.mem_cons_self (a := max first mark) (l := rest))
        intro other isOther
        rcases List.mem_cons.mp isOther with rfl | isOther
        · exact (le_max_left _ _).trans top
        · rcases List.mem_cons.mp isOther with rfl | later
          · exact (le_max_right _ _).trans top
          · exact bound (.tail _ later)

/-- A mark is above the peak where it is above all. -/
theorem peak_lt_iff {start : Int × Int} {advances : List Advance} {mark : Int ×ₗ Int} :
    peak start advances < mark ↔
      ∀ other ∈ start :: advances.map Advance.mark, toLex other < mark := by
  have same : toLex start :: advances.map (fun advance => toLex advance.mark) =
      (start :: advances.map Advance.mark).map toLex := by simp
  have greatest := isGreatest_peak start advances
  rw [same] at greatest
  constructor
  · exact fun below other isOther => (greatest.2 (List.mem_map_of_mem isOther)).trans_lt below
  · intro above
    obtain ⟨other, isOther, isPeak⟩ := List.mem_map.mp greatest.1
    exact isPeak ▸ above other isOther

/-- The order of the calls does not matter to their peak. -/
theorem peak_perm {start : Int × Int} {advances others : List Advance}
    (perm : others.Perm advances) : peak start others = peak start advances := by
  have same : {mark | mark ∈ toLex start :: others.map fun advance => toLex advance.mark} =
      {mark | mark ∈ toLex start :: advances.map fun advance => toLex advance.mark} := by
    ext mark
    exact ((perm.map _).cons _).mem_iff
  exact (same ▸ isGreatest_peak start others).unique (isGreatest_peak start advances)

/-- After some calls a thread has the greatest watermark. -/
theorem after_turns (stored : held ∈ database.threads.entries) (marked : held.row.IsMarked)
    (present : database.catalog.hasTable .threads = true) (numbered : isStorable held.id = true)
    {advances : List Advance} (storable : ∀ advance ∈ advances, advance.IsStorable) :
    database.after (advances.map (·.turn held.id)) =
      database.withWatermark held.id (ofLex (peak held.row.watermark advances)) := by
  induction advances generalizing database held with
  | nil => exact (Database.withWatermark_self stored marked).symm
  | cons advance rest ih =>
      have first := (outcome_turn stored marked present numbered (storable advance (.head _))).2
      rw [List.map_cons, Database.after, first]
      refine (ih (Database.mem_withWatermark stored _) (Thread.isMarked_withWatermark _ _) present
        numbered fun other later => storable other (.tail _ later)).trans ?_
      exact Database.withWatermark_withWatermark ..

end Advance

open Advance (peak)

/-- In whatever order a thread of a reachable database is told of some marks, its watermark is
the greatest of them and of the one that it had, and everything else is as it was. A call answers
whether its mark is above all that came before it. Other requests change no watermark. The number
of the thread and the marks are those that a call can give to the store. -/
theorem Database.Reached.greatest_watermark {database : Database} (reached : database.Reached)
    {held : Entry Thread} (stored : held ∈ database.threads.entries)
    (numbered : isStorable held.id = true) {advances : List Advance}
    (storable : ∀ advance ∈ advances, advance.IsStorable) :
    (∃ greatest : Int × Int,
      IsGreatest {mark | mark ∈ toLex held.row.watermark :: advances.map (toLex ·.mark)}
        (toLex greatest) ∧
      ∀ others : List Advance, others.Perm advances →
        database.after (others.map (·.turn held.id)) =
          database.updated (fun entry => entry.id = held.id) fun (row : Thread) =>
            { row with lastPostNo := some greatest.1, lastPostSubNo := some greatest.2 }) ∧
    (∀ (earlier : List Advance) (advance : Advance) (later : List Advance),
      advances = earlier ++ advance :: later →
      ((advance.turn held.id).outcome
          (database.after (earlier.map (·.turn held.id)))).answer =
        .ok (decide (∀ mark ∈ held.row.watermark :: earlier.map Advance.mark,
          toLex mark < toLex advance.mark))) ∧
    (∀ turn : Turn,
      (∀ id postNo postSubNo, turn.request ≠ .advanceWatermark id postNo postSubNo) →
      ∀ entry ∈ database.threads.entries,
        ∃ later ∈ (turn.outcome database).database.threads.entries, later.id = entry.id ∧
          later.row.lastPostNo = entry.row.lastPostNo ∧
          later.row.lastPostSubNo = entry.row.lastPostSubNo) := by
  have marked := reached.isMarked held stored
  have present : database.catalog.hasTable .threads = true := by
    cases found : database.catalog.hasTable .threads with
    | true => rfl
    | false =>
        have empty := reached.isSettled.orderly.tidy .threads found
        exact absurd stored (List.map_eq_nil_iff.mp empty ▸ List.not_mem_nil)
  refine ⟨⟨ofLex (peak held.row.watermark advances), ?_, ?_⟩, ?_, ?_⟩
  · rw [toLex_ofLex]
    exact Advance.isGreatest_peak _ _
  · intro others perm
    rw [Advance.after_turns stored marked present numbered fun advance isOther =>
      storable advance (perm.subset isOther), Advance.peak_perm perm]
    rfl
  · rintro earlier advance later rfl
    have isHeld := mem_withWatermark stored (ofLex (peak held.row.watermark earlier))
    rw [Advance.after_turns stored marked present numbered fun other isEarlier =>
      storable other (List.mem_append_left _ isEarlier)]
    have isStorable : advance.IsStorable := storable advance (by simp)
    have answered := (Advance.outcome_turn isHeld (Thread.isMarked_withWatermark _ _) present
      numbered isStorable).1
    exact answered.trans (congrArg Except.ok (decide_eq_decide.mpr Advance.peak_lt_iff))
  · exact fun turn other entry isStored => (turn.keepMarks other database).kept entry isStored

/-- A thread that is told of three marks keeps the second one, also in the reverse order. -/
theorem Database.Reached.greatest_watermark_reverse :
    let database := (Database.atRevision .invites ⟨⟨0⟩, true⟩).after
      [{ request := .resolveThread (some "s") (some "b") (some 1), context := { clock := ⟨0⟩ } }]
    let held : Entry Thread :=
      ⟨1, { site := "s", board := "b", number := 1, createdOn := Time.Stamp.ofClock ⟨0⟩ }⟩
    let advances : List Advance :=
      [(5, -1), (5, 2), (3, 9)].map fun mark => { mark, context := { clock := ⟨7⟩ } }
    database.Reached ∧ held ∈ database.threads.entries ∧ isStorable held.id = true ∧
      (∀ advance ∈ advances, advance.IsStorable) ∧
      database.after (advances.reverse.map (·.turn held.id)) =
        database.updated (fun entry => entry.id = held.id) fun (row : Thread) =>
          { row with lastPostNo := some 5, lastPostSubNo := some 2 } := by
  intro database held advances
  have isReached : database.Reached := (Database.Reached.founded .invites ⟨⟨0⟩, true⟩).after _
  have stored : held ∈ database.threads.entries := by decide +kernel
  have storable : ∀ advance ∈ advances, advance.IsStorable := by
    intro advance isOne
    simp only [advances, List.map_cons, List.map_nil, List.mem_cons, List.not_mem_nil,
      or_false] at isOne
    rcases isOne with rfl | rfl | rfl <;> exact ⟨rfl, rfl⟩
  refine ⟨isReached, stored, rfl, storable, ?_⟩
  obtain ⟨⟨greatest, isGreatest, kept⟩, -⟩ := isReached.greatest_watermark stored rfl storable
  have attained : toLex (5, 2) ∈ toLex held.row.watermark :: advances.map (toLex ·.mark) := by
    decide
  have bound : ∀ mark ∈ toLex held.row.watermark :: advances.map (toLex ·.mark),
      mark ≤ toLex (5, 2) := by
    decide
  rw [kept _ (List.reverse_perm _), toLex.injective (isGreatest.unique ⟨attained, bound⟩)]

end Lookout
