import Lookout.Proofs.Draining
import Lookout.Proofs.StaleNumbers
import Mathlib.Data.List.Dedup

/-!
# Attempts

What a reply has been tried for is a matter of its number alone: each call that names it counts
once, from the turn on that recorded it. A number that was in use before, and that deletion has set
free, starts again. A call with a number that the store cannot keep is turned down and counts for
nothing.
-/

namespace Lookout

open Operation Store

variable {context : Context} {before after database : Database} {draws : Draws}

/-- The replies that a request counts a failed delivery of, as they are given. -/
def Request.tried : Request → List (Option Int)
  | countAttempt id => [id]
  | countAttempts ids => ids.getD []
  | _ => []

/-- Whether a request counts a failed delivery of the reply under a number: it names the reply, and
the store can keep all numbers that it names. -/
def Request.tries (id : Int) (request : Request) : Bool :=
  request.tried.contains (some id) && request.tried.all fun id => id.all isStorable

/-- Whether a request records replies. -/
def Request.recordsReplies : Request → Prop
  | recordReply .. | recordReplies .. => True
  | _ => False

namespace Reply

/-- Where a reply comes from: a request has recorded it under a number that was free, or it was
there, and has been tried once more if the request says so. -/
inductive Stems (request : Request) (before : Database) (entry : Entry Reply) : Prop where
  | recorded (records : request.recordsReplies) (isNew : before.replies.has entry.id = false)
      (untried : entry.row.attempts = some 0)
  | kept {row : Reply} (stored : ⟨entry.id, row⟩ ∈ before.replies.entries)
      (attempts : entry.row.attempts =
        if request.tries entry.id then row.attempts.map countOneMore else row.attempts)

/-- Where no failed delivery is counted, what was there is as it was. -/
theorem Stems.of_mem {request : Request} {entry : Entry Reply}
    (stored : entry ∈ before.replies.entries) (untried : request.tries entry.id = false) :
    Stems request before entry :=
  .kept stored (by rw [untried, if_neg Bool.false_ne_true])

/-- Where replies are recorded, each was there before or is new. -/
theorem Stems.of_recording {request : Request} {entry : Entry Reply}
    (records : request.recordsReplies) (silent : request.tries entry.id = false)
    (came : entry ∈ before.replies.entries ∨
      before.replies.has entry.id = false ∧ entry.row.attempts = some 0) :
    Stems request before entry := by
  rcases came with old | ⟨isNew, untried⟩
  · exact .of_mem old silent
  · exact .recorded records isNew untried

/-- A reply that is there after an insertion was there before or is new. -/
theorem Inserted.of_mem {account descriptor replyTo : Option Int} {answer : Int × Bool}
    {entry : Entry Reply}
    (inserted : Inserted context before account descriptor replyTo answer after)
    (stored : entry ∈ after.replies.entries) :
    entry ∈ before.replies.entries ∨
      before.replies.has entry.id = false ∧ entry.row.attempts = some 0 := by
  cases inserted with
  | intro prepared inserts =>
      cases inserts with
      | present found => exact .inl stored
      | added absent admitted =>
          rcases List.mem_append.mp stored with old | new
          · exact .inl old
          · rw [List.mem_singleton.mp new]
            exact .inr ⟨Table.has_nextId _, rfl⟩

theorem InsertedAll.of_mem {values : List Value} {count : Nat} {entry : Entry Reply}
    (inserted : InsertedAll context before values count after)
    (stored : entry ∈ after.replies.entries) :
    entry ∈ before.replies.entries ∨
      before.replies.has entry.id = false ∧ entry.row.attempts = some 0 := by
  induction inserted with
  | nil database => exact .inl stored
  | cons first others ih =>
      rcases ih stored with middle | ⟨isNew, untried⟩
      · exact first.of_mem middle
      · refine .inr ⟨?_, untried⟩
        rw [← Bool.not_eq_true, Table.has_iff] at isNew ⊢
        rintro ⟨other, isStored, same⟩
        exact isNew ⟨other, first.mem isStored, same⟩

/-- After failed deliveries have been counted, a reply has one attempt more if it is among those. -/
theorem of_mem_attempted {ids : List (Option Int)} {entry : Entry Reply}
    (stored : entry ∈ (attempted before ids).replies.entries) :
    ∃ row, ⟨entry.id, row⟩ ∈ before.replies.entries ∧ entry.row.attempts =
      if ids.contains (some entry.id) then row.attempts.map countOneMore else row.attempts := by
  obtain ⟨held, isStored, rfl⟩ := List.mem_map.mp stored
  by_cases isOne : ids.contains (some held.id) = true
  · rw [if_pos isOne]
    exact ⟨held.row, isStored, (if_pos isOne).symm⟩
  · rw [if_neg isOne]
    exact ⟨held.row, isStored, (if_neg isOne).symm⟩

/-- A delivery counts no attempt. -/
theorem of_mem_delivered {wanted : Entry Reply → Bool} {date : Time.Moment} {entry : Entry Reply}
    (stored : entry ∈ (delivered before wanted date).replies.entries) :
    ∃ row, ⟨entry.id, row⟩ ∈ before.replies.entries ∧ entry.row.attempts = row.attempts := by
  obtain ⟨held, isStored, rfl⟩ := List.mem_map.mp stored
  by_cases isWanted : wanted held = true
  · rw [if_pos isWanted]
    exact ⟨held.row, isStored, rfl⟩
  · rw [if_neg isWanted]
    exact ⟨held.row, isStored, rfl⟩

end Reply

/-- After a request that counts no failed delivery, each reply has been recorded by it or has as
many attempts as before. -/
theorem Request.Effect.stems {request : Request} {answer : request.Answer} {entry : Entry Reply}
    (effective : request.Effect context before answer after) (untried : request.tried = [])
    (stored : entry ∈ after.replies.entries) : Reply.Stems request before entry := by
  have silent : request.tries entry.id = false := by
    rw [Request.tries, untried]
    rfl
  by_cases written : .replies ∈ request.writes
  · cases request with
    | deleteAccount accountId =>
        obtain ⟨-, rfl⟩ := effective
        exact .of_mem (List.mem_filter.mp stored).1 silent
    | recordReply account descriptor replyTo =>
        obtain ⟨_, inserted⟩ := effective
        exact .of_recording trivial silent (inserted.of_mem stored)
    | recordReplies edges =>
        obtain ⟨given, _, inserted⟩ := effective
        exact .of_recording trivial silent (inserted.of_mem stored)
    | countAttempt id => cases untried
    | countAttempts ids =>
        obtain ⟨_, rfl⟩ := effective
        obtain ⟨row, isStored, same⟩ := Reply.of_mem_attempted stored
        rw [show ids.getD [] = [] from untried] at same
        exact .kept isStored (by rw [silent]; exact same)
    | deliverReply id date =>
        obtain ⟨_, _, rfl⟩ := effective
        obtain ⟨row, isStored, same⟩ := Reply.of_mem_delivered stored
        exact .kept isStored (by rw [silent]; exact same)
    | deliverReplies accountId ids date =>
        obtain ⟨_, rfl⟩ := effective
        obtain ⟨row, isStored, same⟩ := Reply.of_mem_delivered stored
        exact .kept isStored (by rw [silent]; exact same)
    | _ => simp [Request.writes] at written
  · have same : before.replies = after.replies := effective.writes.agree written
    exact .of_mem (same ▸ stored) silent

namespace Turn

variable {entry : Entry Reply}

/-- A request that counts failed deliveries counts one for each reply that it names, unless the
store cannot keep one of the numbers. -/
theorem database_of_tried (newest : database.IsNewest) (turn : Turn)
    (names : turn.request.tried ≠ []) :
    (turn.outcome database).database =
      if turn.request.tried.all fun id => id.all isStorable then
        Reply.attempted database turn.request.tried
      else database := by
  obtain ⟨request, context, draws⟩ := turn
  cases request with
  | countAttempt id =>
      have told := Reply.result_markAttempt newest id context draws
      change ((Reply.markAttempt id).perform context database draws).database =
        if [id].all (fun id => id.all isStorable) then Reply.attempted database [id] else database
      rw [List.all_cons, List.all_nil, Bool.and_true]
      split at told
      · rename_i storable
        rw [if_pos storable]
        split at told
        · exact (Outcome.result_eq_ok_iff.mp told).2
        · -- There is no such reply, so that counting an attempt of it would change nothing.
          rename_i missing
          have nothing : database.replies.count (fun held => [id].contains (some held.id)) = 0 := by
            cases id <;> simp_all [Table.count, Table.has]
          rw [Reply.attempted, Database.updated_of_count _ _ _ nothing]
          exact (Reply.markAttempt_achieves id).of_failure (Outcome.result_eq_error_iff.mp told)
      · rename_i large
        rw [if_neg large]
        exact (Reply.markAttempt_achieves id).of_failure (Outcome.result_eq_error_iff.mp told)
  | countAttempts ids =>
      have told := Reply.result_markAttempts newest ids context draws
      change ((Reply.markAttempts ids).perform context database draws).database =
        if (ids.getD []).all (fun id => id.all isStorable) then
          Reply.attempted database (ids.getD [])
        else database
      split at told
      · rename_i storable
        rw [if_pos storable]
        exact (Outcome.result_eq_ok_iff.mp told).2
      · rename_i large
        rw [if_neg large]
        exact (Reply.markAttempts_achieves ids).of_failure (Outcome.result_eq_error_iff.mp told)
  | _ => exact absurd rfl names

/-- After a turn, each reply stems from the database before. -/
theorem stems (newest : database.IsNewest) (turn : Turn)
    (stored : entry ∈ (turn.outcome database).database.replies.entries) :
    Reply.Stems turn.request database entry := by
  by_cases names : turn.request.tried = []
  · rcases turn.changes database with same | ⟨answer, effective⟩
    · refine .of_mem (same ▸ stored) ?_
      rw [Request.tries, names]
      rfl
    · exact effective.stems names stored
  · rw [turn.database_of_tried newest names] at stored
    split at stored
    · rename_i storable
      obtain ⟨row, isStored, same⟩ := Reply.of_mem_attempted stored
      exact .kept isStored (by rw [Request.tries, storable, Bool.and_true]; exact same)
    · rename_i large
      exact .of_mem stored (by rw [Request.tries, Bool.eq_false_iff.mpr large, Bool.and_false])

end Turn

namespace Reply

/-- So many failed deliveries more. -/
def countMore (count : Nat) (attempts : Int) : Int :=
  min (attempts + count) (Cell.maxInteger + 1)

theorem countMore_countOneMore (count : Nat) (attempts : Int) :
    countMore count (countOneMore attempts) = countMore (count + 1) attempts := by
  unfold countMore countOneMore
  omega

theorem countMore_zero {attempts : Int} (counted : attempts ≤ Cell.maxInteger + 1) :
    countMore 0 attempts = attempts := by
  unfold countMore
  omega

/-- How many turns count a failed delivery of the reply under a number. -/
def tries (id : Int) (turns : List Turn) : Nat :=
  turns.countP fun turn => turn.request.tries id

/-- What the attempts of a reply amount to after a run. It was there from the start, or a turn of
the run has recorded it under a number that was free; and it has been there ever since. -/
inductive Tally (database : Database) (turns : List Turn) (entry : Entry Reply) : Prop where
  | kept {row : Reply} (stored : ⟨entry.id, row⟩ ∈ database.replies.entries)
      (keeps : database.KeepsReply entry.id turns)
      (attempts : entry.row.attempts = row.attempts.map (countMore (tries entry.id turns)))
  | recorded (earlier : List Turn) (record : Turn) (later : List Turn)
      (isRun : turns = earlier ++ record :: later) (records : record.request.recordsReplies)
      (isNew : (database.after earlier).replies.has entry.id = false)
      (keeps : (database.after (earlier ++ [record])).KeepsReply entry.id later)
      (attempts : entry.row.attempts = some (countMore (tries entry.id later) 0))

/-- Attempts are tallied along every run. -/
theorem tally_after (reached : database.Reached) (newest : database.IsNewest) {turns : List Turn}
    {entry : Entry Reply} (stored : entry ∈ (database.after turns).replies.entries) :
    Tally database turns entry := by
  induction turns generalizing database with
  | nil =>
      apply Tally.kept stored
      · exact .of_not_isDeletion stored fun _ isOne => absurd isOne List.not_mem_nil
      · cases isCount : entry.row.attempts with
        | none => rfl
        | some count =>
            rw [Option.map_some]
            exact congrArg some (countMore_zero (reached.isCounted entry stored count isCount)).symm
  | cons turn rest ih =>
      cases ih (reached.served turn) (newest.outcome turn) stored with
      | recorded earlier record later isRun records isNew keeps attempts =>
          have isWhole : turn :: rest = (turn :: earlier) ++ record :: later := by
            rw [isRun, List.cons_append]
          exact .recorded (turn :: earlier) record later isWhole records isNew keeps attempts
      | @kept row isStored keeps attempts =>
          cases turn.stems newest isStored with
          | recorded records isNew untried =>
              refine .recorded [] turn rest rfl records isNew keeps ?_
              rw [attempts, untried]
              rfl
          | @kept first wasStored same =>
              have there : database.replies.has entry.id = true :=
                Table.has_iff.mpr ⟨_, wasStored, rfl⟩
              refine .kept wasStored (Database.keepsReply_cons_iff.mpr ⟨there, keeps⟩) ?_
              rw [attempts, same, tries, tries, List.countP_cons]
              by_cases isTried : turn.request.tries entry.id = true
              · rw [if_pos isTried, if_pos isTried, Option.map_map]
                exact congrArg (first.attempts.map ·) (funext fun count =>
                  countMore_countOneMore _ count)
              · rw [if_neg isTried, if_neg isTried, Nat.add_zero]

/-- In every reachable database each reply has a count of its attempts. -/
theorem exists_attempts (reached : database.Reached) {entry : Entry Reply}
    (stored : entry ∈ database.replies.entries) : ∃ count, entry.row.attempts = some count := by
  have stable : IsStable fun row => ∃ count, row.attempts = some count :=
    { recorded := fun _ _ _ _ => ⟨0, rfl⟩
      attempted := by
        rintro row ⟨count, isCount⟩
        exact ⟨countOneMore count, by rw [isCount]; rfl⟩
      delivered := fun _ _ counted => counted }
  exact reached.forall_replies stable entry stored

/-- Of listed numbers, those that are in use are counted once each. -/
theorem count_contains (replies : Table Reply) (ids : List Int) :
    replies.count (fun held => (ids.map some).contains (some held.id)) =
      ids.dedup.countP replies.has := by
  rw [Table.count_eq_countP ids.nodup_dedup fun entry _ isOne => by simpa using isOne]
  refine List.countP_congr fun id isOne => ?_
  have isListed : id ∈ ids := List.mem_dedup.mp isOne
  rw [Table.has_iff, List.any_eq_true]
  constructor
  · rintro ⟨entry, isSelected, isId⟩
    exact ⟨entry, (List.mem_filter.mp isSelected).1, of_decide_eq_true isId⟩
  · rintro ⟨entry, stored, rfl⟩
    exact ⟨entry, List.mem_filter.mpr ⟨stored, by simpa using isListed⟩, decide_eq_true rfl⟩

/-- After every run on a reached database of the newest revision, the attempts of each reply are the
calls that have named it since it was recorded, once each, up to the largest number that is kept. A
call for many replies answers how many different ones exist, and a call for one reply fails where it
does not exist. Calls with a number that the store cannot keep are turned down. -/
theorem attempts_counted (reached : database.Reached)
    (newest : database.position = some .invites) (turns : List Turn) :
    (∀ entry ∈ (database.after turns).replies.entries,
      Tally database turns entry ∧ ∃ count, entry.row.attempts = some count) ∧
    ∀ (context : Context) (draws : Draws),
      (∀ ids : List Int,
        ((markAttempts (some (ids.map some))).perform context (database.after turns)
          draws).answer =
          if ids.all isStorable then .ok (ids.dedup.countP (database.after turns).replies.has)
          else .error (.store .numberTooLarge)) ∧
      ∀ id : Int,
        ((markAttempt (some id)).perform context (database.after turns) draws).answer =
          if isStorable id then
            if (database.after turns).replies.has id then .ok () else .error (.noReply (some id))
          else .error (.store .numberTooLarge) := by
  have isNewest : (database.after turns).IsNewest := (reached.isNewest newest).after turns
  refine ⟨?_, fun context draws => ⟨?_, ?_⟩⟩
  · intro entry stored
    exact ⟨tally_after reached (reached.isNewest newest) stored,
      exists_attempts (reached.after turns) stored⟩
  · intro ids
    have told := result_markAttempts isNewest (some (ids.map some)) context draws
    have fits : (ids.map some).all (fun id => id.all isStorable) = ids.all isStorable := by
      simp [List.all_map, Function.comp_def]
    rw [Option.getD_some, fits, count_contains] at told
    by_cases storable : ids.all isStorable = true
    · rw [if_pos storable] at told ⊢
      exact (Outcome.result_eq_ok_iff.mp told).1
    · rw [if_neg storable] at told ⊢
      exact Outcome.result_eq_error_iff.mp told
  · intro id
    have told := result_markAttempt isNewest (some id) context draws
    rw [Option.all_some, Option.any_some] at told
    by_cases storable : isStorable id = true
    · rw [if_pos storable] at told ⊢
      by_cases there : (database.after turns).replies.has id = true
      · rw [if_pos there] at told ⊢
        exact (Outcome.result_eq_ok_iff.mp told).1
      · rw [if_neg there] at told ⊢
        exact Outcome.result_eq_error_iff.mp told
    · rw [if_neg storable] at told ⊢
      exact Outcome.result_eq_error_iff.mp told

/-- A reply is tried, its account is deleted, and its number goes to another reply, which is tried
by a call that names it twice. -/
def triedAgain : List Turn :=
  [.countAttempt (some 1), .deleteAccount (some "a"), .recordReply (some 2) (some 2) (some 1),
    .countAttempts (some [some 1, some 1, some 9]), .recordReply (some 2) (some 2) (some 1),
    .deliverReply (some 1) none].map fun request => { request, context := { clock := ⟨7⟩ } }

/-- The reply that has been given the number counts one attempt. -/
theorem attempts_counted_again :
    queued.Reached ∧ queued.position = some .invites ∧
      (∃ entry ∈ (queued.after triedAgain).replies.entries,
        entry.id = 1 ∧ Tally queued triedAgain entry ∧ entry.row.attempts = some 1) ∧
      ((markAttempts (some ([1, 1, 9].map some))).perform { clock := ⟨7⟩ }
        (queued.after triedAgain) {}).answer = .ok 1 ∧
      ((markAttempt (some 9)).perform { clock := ⟨7⟩ } (queued.after triedAgain) {}).answer =
        .error (.noReply (some 9)) := by
  have reached : queued.Reached := (Database.Reached.founded .invites ⟨⟨0⟩, true⟩).after _
  have newest : queued.position = some .invites := by decide +kernel
  obtain ⟨counts, answers⟩ := attempts_counted reached newest triedAgain
  obtain ⟨together, alone⟩ := answers { clock := ⟨7⟩ } {}
  have once : ∃ entry ∈ (queued.after triedAgain).replies.entries,
      entry.id = 1 ∧ entry.row.attempts = some 1 := by decide +kernel
  obtain ⟨entry, stored, isFirst, isOnce⟩ := once
  have free : (queued.after triedAgain).replies.has 9 = false := by decide +kernel
  have distinct : ([1, 1, 9] : List Int).dedup = [1, 9] := by decide
  have there : (queued.after triedAgain).replies.has 1 = true :=
    Table.has_iff.mpr ⟨entry, stored, isFirst⟩
  refine ⟨reached, newest, ⟨entry, stored, isFirst, (counts entry stored).1, isOnce⟩, ?_, ?_⟩
  · rw [together, distinct, if_pos (by decide), List.countP_cons_of_pos there,
      List.countP_cons_of_neg (by rw [free]; exact Bool.false_ne_true), List.countP_nil]
  · rw [alone, free]
    rfl

/-- A call that names a reply that has just been recorded counts no attempt of it, because it names
another number that the store cannot keep. A call for that number alone does not tell that there is
no such reply. -/
theorem attempts_too_large :
    let large : Int := Cell.maxInteger + 1
    let call : Turn :=
      { request := .countAttempts (some [some 1, some large]), context := { clock := ⟨7⟩ } }
    oldest ∈ queued.replies.entries ∧ oldest.row.attempts = some 0 ∧
      queued.KeepsReply oldest.id [call] ∧ oldest ∈ (queued.after [call]).replies.entries ∧
      some oldest.id ∈ call.request.tried ∧
      [oldest.id, large].dedup.countP queued.replies.has = 1 ∧
      ((markAttempts (some [some 1, some large])).perform { clock := ⟨7⟩ } queued {}).answer =
        .error (.store .numberTooLarge) ∧
      queued.replies.has large = false ∧
      ∃ cause, ((markAttempt (some large)).perform { clock := ⟨7⟩ } queued {}).answer =
        .error cause ∧ cause.kind ≠ .notFound := by
  intro large call
  have stored : oldest ∈ queued.replies.entries := by decide +kernel
  have reached : queued.Reached := (Database.Reached.founded .invites ⟨⟨0⟩, true⟩).after _
  have isNewest : queued.IsNewest := reached.isNewest (by decide +kernel)
  have keeps : queued.KeepsReply oldest.id [call] :=
    .of_not_isDeletion stored (by simp [call, Request.isDeletion])
  have together := result_markAttempts isNewest (some [some 1, some large]) { clock := ⟨7⟩ } {}
  have alone := result_markAttempt isNewest (some large) { clock := ⟨7⟩ } {}
  rw [if_neg (by decide)] at together alone
  exact ⟨stored, rfl, keeps, by decide +kernel, by decide, by decide +kernel,
    Outcome.result_eq_error_iff.mp together, by decide +kernel, _,
    Outcome.result_eq_error_iff.mp alone, by decide⟩

end Reply

end Lookout
