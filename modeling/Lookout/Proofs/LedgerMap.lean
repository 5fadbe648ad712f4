import Mathlib.Data.Finmap
import Mathlib.Order.Bounds.Basic
import Lookout.Proofs.CheckedUpgrade

/-!
# The ledger as a map

The ledger is a finite map from versions to what is recorded of them, and the first record of a
version stays. `Ledger.Meets` says what each call answers and makes of such a map. One call of the
ledger does what its case says, and so do all calls of a run, whatever the ledger holds at first.
-/

namespace Lookout

open Operation Store
open Time (Stamp)

namespace Ledger

variable {context : Context} {session : Session} {ledger : Table LedgerLine} {version : Int}
  {line : LedgerLine}

/-- What is recorded of the versions. -/
abbrev Notes :=
  Finmap fun _ : Int => LedgerLine

/-- What a ledger records. -/
def notes (ledger : Table LedgerLine) : Notes :=
  (ledger.entries.map fun entry => (⟨entry.id, entry.row⟩ : (_ : Int) × LedgerLine)).toFinmap

/-- What is recorded of a version is the row under its number. -/
theorem lookup_notes (ledger : Table LedgerLine) (version : Int) :
    (notes ledger).lookup version = (ledger.get? version).map (·.row) := by
  rw [notes, Finmap.dlookup_list_toFinmap, Table.get?]
  induction ledger.entries with
  | nil => rfl
  | cons entry rest ih =>
      by_cases same : entry.id = version
      · subst same
        simp
      · rw [List.map_cons, List.dlookup_cons_ne _ _ (Ne.symm same), ih,
          List.find?_cons_of_neg (by simpa using same)]

theorem lookup_notes_eq_some :
    (notes ledger).lookup version = some line ↔ ⟨version, line⟩ ∈ ledger.entries := by
  rw [lookup_notes, Option.map_eq_some_iff]
  constructor
  · rintro ⟨entry, found, rfl⟩
    obtain ⟨stored, same⟩ := Table.of_find? found
    rwa [← of_decide_eq_true same]
  · exact fun stored => ⟨_, Table.get?_of_mem stored, rfl⟩

theorem mem_notes : version ∈ notes ledger ↔ ∃ entry ∈ ledger.entries, entry.id = version := by
  rw [Finmap.mem_iff]
  constructor
  · rintro ⟨line, found⟩
    exact ⟨_, lookup_notes_eq_some.mp found, rfl⟩
  · rintro ⟨entry, stored, rfl⟩
    exact ⟨entry.row, lookup_notes_eq_some.mpr stored⟩

/-- A row that is put into a ledger is what is recorded of its version from then on. -/
theorem notes_put (ledger : Table LedgerLine) (version : Int) (line : LedgerLine) :
    notes (ledger.put version line) = (notes ledger).insert version line := by
  refine Finmap.ext_lookup fun other => Option.ext fun recorded => ?_
  rw [lookup_notes_eq_some, Table.mem_put]
  by_cases same : other = version
  · subst same
    rw [Finmap.lookup_insert]
    simp [eq_comm]
  · rw [Finmap.lookup_insert_of_ne _ same, lookup_notes_eq_some]
    simp [same]

/-- A version that is erased from a ledger is recorded no more. -/
theorem notes_erase (ledger : Table LedgerLine) (version : Int) :
    notes (ledger.erase version) = (notes ledger).erase version := by
  refine Finmap.ext_lookup fun other => Option.ext fun recorded => ?_
  rw [lookup_notes_eq_some]
  by_cases same : other = version
  · subst same
    rw [Finmap.lookup_erase]
    simp [Table.erase]
  · rw [Finmap.lookup_erase_ne same, lookup_notes_eq_some]
    simp [Table.erase, same]

/-- A call of the ledger. -/
inductive Call where
  | apply (version : Int) (name checksum : Option String)
  | forget (version : Int)
  | verify (expected : Int → Option (Option String))
  | recorded
  | currentVersion

namespace Call

/-- What a call is answered with. -/
abbrev Answer : Call → Type
  | apply .. => Bool
  | forget _ => Unit
  | verify _ => Unit
  | recorded => List (Entry LedgerLine)
  | currentVersion => Option Int

/-- What is done at a call. -/
def operation : (call : Call) → Operation call.Answer
  | apply version name checksum => Ledger.apply (some version) name checksum
  | forget version => Ledger.forget (some version)
  | verify expected => Ledger.verify expected
  | recorded => Ledger.recorded
  | currentVersion => Ledger.currentVersion

/-- Whether the store takes the version that a call is about. -/
def fits : Call → Bool
  | apply version _ _ => isStorable version
  | forget version => isStorable version
  | _ => true

end Call

/-- Whether a version is recorded with another checksum than is expected of it. -/
def IsContested (notes : Notes) (expected : Int → Option (Option String)) (version : Int) : Prop :=
  ∃ line checksum, notes.lookup version = some line ∧ expected version = some checksum ∧
    line.checksum ≠ checksum

/-- What a call answers, and what it makes of a map in which the first record of a version stays. -/
inductive Meets (appliedOn : Stamp) (before : Notes) :
    (call : Call) → Except Failure call.Answer → Notes → Prop where
  | added {version : Int} {name checksum : Option String}
      (absent : before.lookup version = none) :
      Meets appliedOn before (.apply version name checksum) (.ok true)
        (before.insert version { name, appliedOn, checksum })
  | known {version : Int} {name : Option String} {line : LedgerLine}
      (found : before.lookup version = some line) :
      Meets appliedOn before (.apply version name line.checksum) (.ok false) before
  | drifted {version : Int} {name checksum : Option String} {line : LedgerLine}
      (found : before.lookup version = some line) (other : line.checksum ≠ checksum) :
      Meets appliedOn before (.apply version name checksum)
        (.error (.drift version line.checksum checksum)) before
  | forgotten {version : Int} :
      Meets appliedOn before (.forget version) (.ok ()) (before.erase version)
  | verified {expected : Int → Option (Option String)}
      (agree : ∀ version, ¬IsContested before expected version) :
      Meets appliedOn before (.verify expected) (.ok ()) before
  | refuted {expected : Int → Option (Option String)} {version : Int} {line : LedgerLine}
      {checksum : Option String}
      (least : IsLeast {version | IsContested before expected version} version)
      (found : before.lookup version = some line) (expects : expected version = some checksum) :
      Meets appliedOn before (.verify expected) (.error (.drift version line.checksum checksum))
        before
  | recorded {lines : List (Entry LedgerLine)}
      (ascending : lines.Pairwise fun earlier later => earlier.id < later.id)
      (listed : ∀ version line, ⟨version, line⟩ ∈ lines ↔ before.lookup version = some line) :
      Meets appliedOn before .recorded (.ok lines) before
  | latest {version : Int} (greatest : IsGreatest {version | version ∈ before} version) :
      Meets appliedOn before .currentVersion (.ok (some version)) before
  | noLatest (empty : before = ∅) : Meets appliedOn before .currentVersion (.ok none) before

/-- A session after calls of the ledger differs in the ledger at most, and nothing is saved. -/
structure Stays (before after : Session) : Prop where
  saved : after.saved = before.saved
  elsewhere : after.current = { before.current with ledger := after.current.ledger }

/-- Recording a version, the first time and again. -/
theorem ends_apply_meets (present : session.current.catalog.hasTable .ledger = true)
    (storable : isStorable version = true) (name checksum : Option String) :
    (Ledger.apply (some version) name checksum).Ends context session
      (fun answer final => Stays session final ∧
        Meets (Stamp.ofClock context.clock) (notes session.current.ledger)
          (.apply version name checksum) (.ok answer) (notes final.current.ledger))
      (fun failure final => Stays session final ∧
        Meets (Stamp.ofClock context.clock) (notes session.current.ledger)
          (.apply version name checksum) (.error failure) (notes final.current.ledger)) := by
  have complete : session.current.missing? [.ledger] = none := by
    simp [Database.missing?, present]
  simp only [Ledger.apply, ends_bind, ends_require, complete, ends_fits, storable, ends_rows,
    List.all_cons, Option.all_some, List.all_nil, Bool.and_self, Bool.true_eq_false, false_implies,
    reduceCtorEq, implies_true, true_and, List.mem_cons, List.not_mem_nil, or_false, forall_eq,
    Option.bind_some, true_implies]
  have looked := lookup_notes session.current.ledger version
  have same : (Relation.read session.current : Table LedgerLine) = session.current.ledger := rfl
  rw [same]
  cases found : session.current.ledger.get? version with
  | none =>
      rw [found, Option.map_none] at looked
      simp only [ends_bind, ends_stamp, ends_put, ends_log, ends_pure]
      refine ⟨⟨rfl, rfl⟩, ?_⟩
      change Meets _ _ _ _ (notes (session.current.ledger.put version _))
      rw [notes_put]
      exact .added looked
  | some line =>
      rw [found, Option.map_some] at looked
      obtain rfl : line.id = version := of_decide_eq_true (Table.of_find? found).2
      simp only [ends_ite, ends_bind, ends_log, ends_pure, ends_throw]
      refine ⟨?_, fun other => ⟨⟨rfl, rfl⟩, .drifted looked other⟩⟩
      rintro rfl
      exact ⟨⟨rfl, rfl⟩, .known looked⟩

/-- Removing a version. -/
theorem ends_forget_meets (present : session.current.catalog.hasTable .ledger = true)
    (storable : isStorable version = true) :
    (Ledger.forget (some version)).Ends context session
      (fun answer final => Stays session final ∧
        Meets (Stamp.ofClock context.clock) (notes session.current.ledger) (.forget version)
          (.ok answer) (notes final.current.ledger))
      (fun _ _ => False) := by
  refine (Migration.ends_forget storable present).imp ?_ fun _ _ never => never
  rintro _ final ⟨-, saved, current⟩
  refine ⟨⟨saved, by rw [current]⟩, ?_⟩
  rw [current, notes_erase]
  exact .forgotten

/-- A line strays where its version is contested. -/
theorem strays_iff {expected : Int → Option (Option String)} {entry : Entry LedgerLine}
    (stored : entry ∈ ledger.entries) :
    strays expected entry = true ↔ IsContested (notes ledger) expected entry.id := by
  have recorded : (notes ledger).lookup entry.id = some entry.row :=
    lookup_notes_eq_some.mpr stored
  simp [strays, IsContested, recorded, Option.any_eq_true]

/-- A contested version is recorded. -/
theorem IsContested.stored {expected : Int → Option (Option String)}
    (contested : IsContested (notes ledger) expected version) :
    ∃ line, ⟨version, line⟩ ∈ ledger.entries :=
  contested.imp fun _ ⟨_, found, _⟩ => lookup_notes_eq_some.mp found

/-- Comparing what is recorded with what is expected. -/
theorem ends_verify_meets (expected : Int → Option (Option String)) :
    (Ledger.verify expected).Ends context session
      (fun answer final => Stays session final ∧
        Meets (Stamp.ofClock context.clock) (notes session.current.ledger) (.verify expected)
          (.ok answer) (notes final.current.ledger))
      (fun failure final => Stays session final ∧
        Meets (Stamp.ofClock context.clock) (notes session.current.ledger) (.verify expected)
          (.error failure) (notes final.current.ledger)) := by
  refine (ends_verifyAgainst expected).imp ?_ ?_
  · rintro _ final ⟨passes, log, rfl⟩
    refine ⟨⟨rfl, rfl⟩, .verified fun version contested => ?_⟩
    obtain ⟨line, stored⟩ := contested.stored
    exact List.find?_eq_none.mp passes _ stored ((strays_iff stored).mpr contested)
  · rintro _ final ⟨⟨entry, found, rfl⟩, log, rfl⟩
    obtain ⟨stored, strayed⟩ := Table.of_find? found
    obtain ⟨line, checksum, recorded, expects, -⟩ := (strays_iff stored).mp strayed
    cases (lookup_notes_eq_some.mpr stored).symm.trans recorded
    rw [expects]
    refine ⟨⟨rfl, rfl⟩, .refuted ⟨(strays_iff stored).mp strayed, ?_⟩ recorded expects⟩
    intro version contested
    obtain ⟨other, isStored⟩ := contested.stored
    exact Table.le_of_find? found isStored ((strays_iff isStored).mpr contested)

theorem meets_recorded (appliedOn : Stamp) (ledger : Table LedgerLine) :
    Meets appliedOn (notes ledger) .recorded (.ok ledger.entries) (notes ledger) :=
  .recorded ledger.ascending fun _ _ => lookup_notes_eq_some.symm

theorem meets_currentVersion (appliedOn : Stamp) (ledger : Table LedgerLine) :
    Meets appliedOn (notes ledger) .currentVersion (.ok ledger.lastId?) (notes ledger) := by
  rw [Table.lastId?_eq_max?]
  cases largest : (ledger.entries.map (·.id)).max? with
  | none =>
      have empty : ledger.entries = [] := by simpa using largest
      refine .noLatest (Finmap.ext_lookup fun version => ?_)
      simp [lookup_notes, Table.get?, empty]
  | some version =>
      obtain ⟨isOne, isLargest⟩ := List.max?_eq_some_iff.mp largest
      refine .latest ⟨mem_notes.mpr (List.mem_map.mp isOne), fun other isOther => ?_⟩
      exact isLargest other (List.mem_map.mpr (mem_notes.mp isOther))

/-- Every call whose version the store takes does what it does to a map. -/
theorem ends_operation (present : session.current.catalog.hasTable .ledger = true) (call : Call)
    (fits : call.fits = true) :
    call.operation.Ends context session
      (fun answer final => Stays session final ∧
        Meets (Stamp.ofClock context.clock) (notes session.current.ledger) call (.ok answer)
          (notes final.current.ledger))
      (fun failure final => Stays session final ∧
        Meets (Stamp.ofClock context.clock) (notes session.current.ledger) call (.error failure)
          (notes final.current.ledger)) := by
  cases call with
  | apply version name checksum => exact ends_apply_meets present fits name checksum
  | forget version =>
      exact (ends_forget_meets present fits).imp (fun _ _ meets => meets)
        fun _ _ never => never.elim
  | verify expected => exact ends_verify_meets expected
  | recorded => exact ⟨⟨rfl, rfl⟩, meets_recorded _ _⟩
  | currentVersion => exact ⟨⟨rfl, rfl⟩, meets_currentVersion _ _⟩

/-- A call with a version that the store does not take fails and changes nothing. -/
theorem ends_operation_beyond (present : session.current.catalog.hasTable .ledger = true)
    {call : Call} (beyond : call.fits = false) :
    call.operation.Ends context session (fun _ _ => False)
      (fun failure final => failure = .store .numberTooLarge ∧ final = session) := by
  have complete : session.current.missing? [.ledger] = none := by
    simp [Database.missing?, present]
  cases call with
  | apply version name checksum =>
      simp only [Call.fits] at beyond
      simp [Call.operation, Ledger.apply, complete, beyond]
  | forget version =>
      simp only [Call.fits] at beyond
      simp [Call.operation, Ledger.forget, complete, beyond]
  | _ => cases beyond

/-- Carry out a call in a session that goes on whether the call answers or fails. -/
def Call.step (call : Call) (context : Context) (session : Session) :
    Except Failure call.Answer × Session :=
  match call.operation context session with
  | .ok answer final => (.ok answer, final)
  | .error failure final => (.error failure, final)

/-- A call with what it was answered. -/
structure Exchange where
  context : Context
  call : Call
  answer : Except Failure call.Answer

/-- Carry out calls one after the other in one session. -/
def run : List (Context × Call) → Session → List Exchange × Session
  | [], session => ([], session)
  | (context, call) :: rest, session =>
      let (answer, middle) := call.step context session
      let (exchanges, final) := run rest middle
      (⟨context, call, answer⟩ :: exchanges, final)

/-- Calls that were answered one after the other as a map answers them. A version that the store
does not take is refused, and that changes nothing. -/
inductive Simulates : Notes → List Exchange → Notes → Prop where
  | nil (notes : Notes) : Simulates notes [] notes
  | met {before middle after : Notes} {exchange : Exchange} {rest : List Exchange}
      (fits : exchange.call.fits = true)
      (meets : Meets (Stamp.ofClock exchange.context.clock) before exchange.call exchange.answer
        middle)
      (others : Simulates middle rest after) : Simulates before (exchange :: rest) after
  | refused {before after : Notes} {exchange : Exchange} {rest : List Exchange}
      (beyond : exchange.call.fits = false)
      (failed : exchange.answer = .error (.store .numberTooLarge))
      (others : Simulates before rest after) : Simulates before (exchange :: rest) after

/-- What a call can only end in is what carrying it out gives. -/
theorem Call.step_of_ends {call : Call} (holds : Except Failure call.Answer → Session → Prop)
    (ends : call.operation.Ends context session (fun answer final => holds (.ok answer) final)
      (fun failure final => holds (.error failure) final)) :
    holds (call.step context session).1 (call.step context session).2 := by
  unfold Ends at ends
  unfold Call.step
  cases result : call.operation context session with
  | ok answer final => rwa [result] at ends
  | error failure final => rwa [result] at ends

/-- To carry out a call does to the ledger what the call does to a map. -/
theorem Call.step_meets (present : session.current.catalog.hasTable .ledger = true) {call : Call}
    (fits : call.fits = true) (context : Context) :
    Stays session (call.step context session).2 ∧
      Meets (Stamp.ofClock context.clock) (notes session.current.ledger) call
        (call.step context session).1 (notes (call.step context session).2.current.ledger) :=
  step_of_ends (fun answer final => Stays session final ∧
    Meets (Stamp.ofClock context.clock) (notes session.current.ledger) call answer
      (notes final.current.ledger)) (ends_operation present call fits)

/-- To carry out a call with a version that the store does not take does nothing. -/
theorem Call.step_beyond (present : session.current.catalog.hasTable .ledger = true) {call : Call}
    (beyond : call.fits = false) (context : Context) :
    call.step context session = (.error (.store .numberTooLarge), session) := by
  refine step_of_ends (fun answer final =>
    (answer, final) = (.error (.store .numberTooLarge), session)) ?_
  refine (ends_operation_beyond present beyond).imp (fun _ _ never => never.elim) ?_
  rintro _ _ ⟨rfl, rfl⟩
  rfl

theorem Stays.trans {first second third : Session} (left : Stays first second)
    (right : Stays second third) : Stays first third where
  saved := right.saved.trans left.saved
  elsewhere := by rw [right.elsewhere, left.elsewhere]

theorem Stays.hasTable {before after : Session} (stays : Stays before after) :
    after.current.catalog.hasTable .ledger = before.current.catalog.hasTable .ledger := by
  rw [stays.elsewhere]

/-- The ledger is a map in which the first record of a version stays. Whatever it holds, and
whatever calls come one after the other, each is answered as the map answers it and changes the map
as it should: a new version is recorded, the same version with the same checksum is known, with
another one it is drift, a version that is forgotten is gone, the recorded versions come in
ascending order, and a comparison names the least version that is contested, if there is one. -/
theorem run_simulates (calls : List (Context × Call)) (session : Session)
    (present : session.current.catalog.hasTable .ledger = true) :
    let (exchanges, final) := run calls session
    exchanges.map (fun exchange => (exchange.context, exchange.call)) = calls ∧
      Simulates (notes session.current.ledger) exchanges (notes final.current.ledger) ∧
      Stays session final := by
  induction calls generalizing session with
  | nil => exact ⟨rfl, .nil _, rfl, rfl⟩
  | cons given rest ih =>
      obtain ⟨context, call⟩ := given
      cases fits : call.fits with
      | true =>
          obtain ⟨stays, meets⟩ := Call.step_meets present fits context
          obtain ⟨same, simulates, others⟩ := ih _ (stays.hasTable.trans present)
          exact ⟨congrArg (List.cons (context, call)) same, .met fits meets simulates,
            stays.trans others⟩
      | false =>
          have stands := Call.step_beyond present fits context
          obtain ⟨same, simulates, others⟩ := ih session present
          simp only [run, stands]
          exact ⟨congrArg (List.cons (context, call)) same, .refused fits rfl simulates, others⟩

/-- A session on a database of the newest revision. -/
def begun : Session where
  saved := .atRevision .invites ⟨⟨0⟩, true⟩
  current := .atRevision .invites ⟨⟨0⟩, true⟩

/-- A version that no revision has is recorded, and then again with another checksum. -/
def recordedTwice : List (Context × Call) :=
  [({ clock := ⟨7⟩ }, .apply 99 (some "future") (some "abc")),
    ({ clock := ⟨8⟩ }, .apply 99 (some "future") none)]

/-- Of the two records the first one stays. -/
theorem run_simulates_twice :
    begun.current.catalog.hasTable .ledger = true ∧
      Simulates (notes begun.current.ledger) (run recordedTwice begun).1
        (notes (run recordedTwice begun).2.current.ledger) ∧
      (notes (run recordedTwice begun).2.current.ledger).lookup 99 =
        some { name := some "future", appliedOn := Stamp.ofClock ⟨7⟩, checksum := some "abc" } := by
  have present : begun.current.catalog.hasTable .ledger = true := by decide
  refine ⟨present, (run_simulates recordedTwice begun present).2.1, ?_⟩
  rw [lookup_notes]
  decide +kernel

/-- A new version that does not fit into the store is not recorded. -/
theorem apply_beyond :
    let call : Call := .apply (Cell.maxInteger + 1) (some "n") (some "c")
    begun.current.catalog.hasTable .ledger = true ∧
      (notes begun.current.ledger).lookup (Cell.maxInteger + 1) = none ∧
      (call.step { clock := ⟨0⟩ } begun).1 ≠ .ok true := by
  intro call
  have present : begun.current.catalog.hasTable .ledger = true := by decide
  refine ⟨present, ?_, ?_⟩
  · rw [lookup_notes]
    decide +kernel
  · rw [Call.step_beyond present (by decide) { clock := ⟨0⟩ }]
    exact nofun

end Ledger

end Lookout
