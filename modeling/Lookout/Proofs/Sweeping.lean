import Lookout.Proofs.Acceptance
import Lookout.Proofs.Invitations
import Lookout.Proofs.Plain

/-!
# Sweeping

Invites that expired before a moment without having been accepted are swept. From that moment on
none of them could be accepted: what can still be accepted expires later. So every call to accept
an invite is answered as it would have been without the sweep, with the same draws, and leaves the
same accounts.
-/

namespace Lookout

open Operation Store
open Schema (Column TableName)
open Time (Moment)

variable {α β : Type} {context : Context} {database : Database} {draws : Draws}

namespace Store.Table

variable {wanted kept : Entry α → Bool} {step : α → α}

/-- Where rows of a kind are kept and stay so when they are changed, it does not matter whether
others go before the change or after it. -/
theorem update_keep (table : Table α) (spared : ∀ entry, wanted entry = true →
      kept entry = true ∧ kept { entry with row := step entry.row } = true) :
    (table.keep kept).update wanted step = (table.update wanted step).keep kept := by
  ext1
  rw [entries_update, entries_keep, entries_keep, entries_update, List.filter_map]
  refine congrArg _ (List.filter_congr fun entry _ => ?_)
  by_cases isWanted : wanted entry = true
  · simp [isWanted, spared entry isWanted]
  · simp [isWanted]

/-- Where rows of a kind are kept, they are as many as they were. -/
theorem count_keep (table : Table α) (spared : ∀ entry, wanted entry = true → kept entry = true) :
    (table.keep kept).count wanted = table.count wanted := by
  rw [count, entries_keep, List.countP_filter]
  refine List.countP_congr fun entry _ => ?_
  rw [Bool.and_eq_true, and_iff_left_iff_imp]
  exact spared entry

end Store.Table

/-! ### Operations that overlook invites -/

variable {kept : Entry Invite → Bool}

/-- A database with the invites of a kind only. -/
def Database.keeping (kept : Entry Invite → Bool) (database : Database) : Database :=
  { database with invites := database.invites.keep kept }

@[simp] theorem Database.entries_keeping (database : Database) :
    (database.keeping kept).invites.entries = database.invites.entries.filter kept := rfl

/-- A session on databases with the invites of a kind only. -/
def Session.keeping (kept : Entry Invite → Bool) (session : Session) : Session :=
  { session with saved := session.saved.keeping kept, current := session.current.keeping kept }

/-- What is left of an operation, with the invites of a kind only. -/
def Outcome.keeping (kept : Entry Invite → Bool) (outcome : Outcome α) : Outcome α :=
  { outcome with database := outcome.database.keeping kept }

/-- An operation overlooks the invites that are not of a kind: without them it answers or fails as
it does with them, and leaves the same session but for them. -/
def Operation.Overlooks (operation : Operation α) (kept : Entry Invite → Bool)
    (context : Context) : Prop :=
  ∀ session : Session, operation context (session.keeping kept) =
    match operation context session with
    | .ok answer final => .ok answer (final.keeping kept)
    | .error failure final => .error failure (final.keeping kept)

namespace Operation.Overlooks

theorem pure (answer : α) : (pure answer : Operation α).Overlooks kept context := fun _ => rfl

theorem throw (failure : Failure) : (throw failure : Operation α).Overlooks kept context :=
  fun _ => rfl

theorem bind {operation : Operation α} {next : α → Operation β}
    (first : operation.Overlooks kept context)
    (second : ∀ answer, (next answer).Overlooks kept context) :
    (operation >>= next).Overlooks kept context := by
  intro session
  simp only [Bind.bind, ReaderT.bind, EStateM.bind, first session]
  cases operation context session with
  | ok answer middle => exact second answer middle
  | error failure middle => rfl

theorem ite {condition : Prop} [Decidable condition] {first second : Operation α}
    (holds : first.Overlooks kept context) (fails : second.Overlooks kept context) :
    (if condition then first else second).Overlooks kept context := by
  split <;> assumption

/-- What surrounds an operation is known. -/
theorem bindRead {next : Context → Operation α}
    (overlooks : (next context).Overlooks kept context) :
    (read >>= next).Overlooks kept context := fun session => overlooks session

/-- The present moment is known. -/
theorem bindNow {next : Moment → Operation α}
    (overlooks : (next (Moment.utc context.clock)).Overlooks kept context) :
    (Operation.now >>= next).Overlooks kept context := fun session => overlooks session

theorem stamp : stamp.Overlooks kept context := fun _ => rfl

theorem commit : commit.Overlooks kept context := fun _ => rfl

theorem rollback : rollback.Overlooks kept context := fun _ => rfl

theorem log (level : Level) (source : Source) (text : String) :
    (log level source text).Overlooks kept context := fun _ => rfl

theorem drawText (length : Nat) : (drawText length).Overlooks kept context := fun _ => rfl

theorem rowsAccount : (rows Account).Overlooks kept context := fun _ => rfl

/-- What is done with a database may depend on other things than its invites. -/
theorem bindDatabase {next : Database → Operation α}
    (blind : ∀ database, next (database.keeping kept) = next database)
    (overlooks : ∀ database, (next database).Overlooks kept context) :
    (Operation.database >>= next).Overlooks kept context := by
  intro session
  change next (session.current.keeping kept) context (session.keeping kept) = _
  rw [blind]
  exact overlooks session.current session

theorem require (tables : List TableName) : (require tables).Overlooks kept context := by
  refine bindDatabase (fun _ => rfl) fun database => ?_
  dsimp only
  split
  · exact throw _
  · exact pure _

theorem prepareInsertion (table : TableName) (ignoring : Option (List Column)) :
    (prepareInsertion table ignoring).Overlooks kept context := by
  refine bind (require _) fun _ => bindDatabase (fun _ => rfl) fun database => ?_
  dsimp only
  refine ite (bind (throw _) fun _ => ?_) ?_
  all_goals
    split
    · exact throw _
    · exact pure _

/-- An account is added whatever the invites are. -/
theorem addAccount (account : Account) : (add account).Overlooks kept context := by
  refine bindDatabase (fun _ => rfl) fun database => ?_
  dsimp only
  split
  · exact throw _
  · refine ite (bind (fun _ => rfl) fun _ => pure _) (throw _)

theorem addAccountUnlessAlike (key : List Column) (account : Account) :
    (addUnlessAlike key account).Overlooks kept context := by
  refine bind rowsAccount fun accounts => ?_
  split
  · exact pure _
  · exact bind (addAccount account) fun _ => pure _

theorem drawWhere {length : Nat} {isFree : String → Operation Bool}
    (looks : ∀ text, (isFree text).Overlooks kept context) (attempts : Nat) :
    (drawWhere length isFree attempts).Overlooks kept context := by
  induction attempts with
  | zero => exact throw _
  | succ attempts ih =>
      exact bind (drawText length) fun text => bind (looks text) fun _ => ite (pure _) ih

theorem drawFree {length : Nat} {isFree : String → Operation Bool}
    (looks : ∀ text, (isFree text).Overlooks kept context) :
    (drawFree length isFree).Overlooks kept context :=
  fun session => drawWhere looks session.draws.attempts session

theorem lookupAccount (accountId : Option String) (includeDeleted : Bool) :
    (Account.lookup accountId includeDeleted).Overlooks kept context :=
  bind (require _) fun _ => bind rowsAccount fun _ => pure _

theorem later (moment : Moment) (days : Int) :
    (Invite.later moment days).Overlooks kept context := by
  unfold Invite.later
  split
  · exact pure _
  · exact throw _

/-- Invites are changed alike if they are of the kind and stay so. -/
theorem updateWhere {wanted : Entry Invite → Bool} {step : Invite → Invite}
    (spared : ∀ entry, wanted entry = true →
      kept entry = true ∧ kept { entry with row := step entry.row } = true) :
    (updateWhere wanted step).Overlooks kept context := by
  intro session
  have updated := session.current.invites.update_keep spared
  have counted := session.current.invites.count_keep fun entry isWanted =>
    (spared entry isWanted).1
  have result (session : Session) : Operation.updateWhere wanted step context session =
      .ok (session.current.invites.count wanted)
        { session with
          current := { session.current with
            invites := session.current.invites.update wanted step }
          isOpen := true } := rfl
  rw [result, result]
  exact congrArg₂ (fun count (invites : Table Invite) => EStateM.Result.ok count
    { session.keeping kept with current := { session.current with invites }, isOpen := true })
    counted updated

/-- What is left of an operation without the invites that it overlooks. -/
theorem perform {operation : Operation α} (overlooks : operation.Overlooks kept context)
    (database : Database) (draws : Draws) :
    operation.perform context (database.keeping kept) draws =
      (operation.perform context database draws).keeping kept := by
  have same : operation context
      { saved := database.keeping kept, current := database.keeping kept, draws } = _ :=
    overlooks { saved := database, current := database, draws }
  unfold Operation.perform EStateM.run
  rw [same]
  cases operation context { saved := database, current := database, draws } <;> rfl

end Operation.Overlooks

namespace Invite

/-! ### Accepting after a sweep -/

/-- To accept an invite is to overlook the others, if those that can be accepted are of the kind
and stay so. -/
theorem accept_overlooks (inviteId : Option String) (date : Option Moment)
    (spared : ∀ entry, isOpenFor inviteId (context.moment date) entry = true →
      kept entry = true ∧ kept { entry with row :=
        { entry.row with acceptedOn := some (context.moment date).wall } } = true) :
    (accept inviteId date).Overlooks kept context := by
  refine .bindNow <| .bind (.require _) fun _ => .bind (.updateWhere spared) fun accepted => ?_
  refine .ite (.bind .rollback fun _ => .bind (.log _ _ _) fun _ => .pure _) ?_
  refine .bindRead <| .bind (.drawFree fun userId => .bind ?_ fun accountId => ?_) fun userId =>
    .bind ?_ fun accountId => .bind (.later _ _) fun validUntil => ?_
  · -- A drawn user id is hashed, or the number of rounds forbids it.
    dsimp only
    cases Account.idOfUserId context.settings (some userId) with
    | ok accountId => exact .pure _
    | error failure => exact .throw _
  · exact .bind (.lookupAccount _ _) fun _ => .pure _
  · dsimp only
    cases Account.idOfUserId context.settings (some userId) with
    | ok accountId => exact .pure _
    | error failure => exact .throw _
  refine .bind (.prepareInsertion _ _) fun _ => .bind .stamp fun createdOn => ?_
  refine .bind (.addAccountUnlessAlike _ _) fun inserted => ?_
  obtain ⟨_, isNew⟩ := inserted
  refine .ite (.bind .rollback fun _ => .bind (.log _ _ _) fun _ => .pure _) ?_
  exact .bind .commit fun _ => .bind (.log _ _ _) fun _ => .pure _

/-- A call to accept an invite, with what surrounds it. -/
structure Acceptance where
  inviteId : Option String
  date : Option Moment
  context : Context

/-- The moment at which a call accepts. -/
def Acceptance.moment (call : Acceptance) : Moment :=
  call.context.moment call.date

/-- How calls end that are made one after the other, with one supply of draws. -/
def acceptAll (database : Database) (draws : Draws) : List Acceptance →
    List (Outcome (Option String))
  | [] => []
  | call :: rest =>
      let outcome := (accept call.inviteId call.date).perform call.context database draws
      outcome :: acceptAll outcome.database outcome.draws rest

/-- Calls that overlook invites end as they do with them. -/
theorem acceptAll_keeping {calls : List Acceptance}
    (overlooked : ∀ call ∈ calls, (accept call.inviteId call.date).Overlooks kept call.context)
    (database : Database) (draws : Draws) :
    acceptAll (database.keeping kept) draws calls =
      (acceptAll database draws calls).map (·.keeping kept) := by
  induction calls generalizing database draws with
  | nil => rfl
  | cons call rest ih =>
      have first := (overlooked call (.head _)).perform database draws
      have others := ih fun call later => overlooked call (.tail _ later)
      rw [acceptAll, acceptAll, first, List.map_cons]
      exact congrArg _ (others _ _)

/-- Whether a sweep at a moment spares an invite. -/
def isSpared (date : Moment) (entry : Entry Invite) : Bool :=
  !isStale date entry

/-- An invite is spared if it has been accepted or expires no earlier. -/
theorem isSpared_iff {date : Moment} {entry : Entry Invite} :
    isSpared date entry = true ↔
      entry.row.acceptedOn.isSome = true ∨ date.wall.micros ≤ entry.row.expiresOn.micros := by
  have le : date.wall.micros ≤ entry.row.expiresOn.micros ↔ ¬entry.row.expiresOn < date.wall :=
    Nat.not_lt.symm
  rw [le, isSpared, isStale]
  cases entry.row.acceptedOn <;> simp

/-- An invite that can be accepted from a moment on is spared at that moment, and it is spared when
it has been accepted. -/
theorem isSpared_of_isOpenFor {inviteId : Option String} {first date : Moment}
    {entry : Entry Invite} (ordered : first.wall ≤ date.wall)
    (isOpen : isOpenFor inviteId date entry = true) :
    isSpared first entry = true ∧
      isSpared first { entry with row := { entry.row with acceptedOn := some date.wall } } =
        true := by
  simp only [isOpenFor, Invite.isOpen, Bool.and_eq_true, decide_eq_true_eq] at isOpen
  have ordered : first.wall.micros ≤ date.wall.micros := ordered
  have ahead : date.wall.micros < entry.row.expiresOn.micros := isOpen.2.2
  exact ⟨isSpared_iff.mpr (.inr (by omega)), isSpared_iff.mpr (.inl rfl)⟩

/-- What a later sweep spares an earlier one spares. -/
theorem isSpared_of_le {first later : Moment} {entry : Entry Invite}
    (ordered : first.wall ≤ later.wall) (spared : isSpared later entry = true) :
    isSpared first entry = true := by
  have ordered : first.wall.micros ≤ later.wall.micros := ordered
  exact isSpared_iff.mpr ((isSpared_iff.mp spared).imp_right (Nat.le_trans ordered))

/-- A sweep is answered with the number of invites that it does not spare, and they are gone. -/
theorem cleanup_outcome (newest : database.IsNewest) (date : Option Moment) (context : Context)
    (draws : Draws) :
    ((cleanup date).perform context database draws).answer =
        .ok (database.invites.count (isStale (context.moment date))) ∧
      ((cleanup date).perform context database draws).database =
        database.keeping (isSpared (context.moment date)) := by
  have present : database.missing? [.invites] = none := newest.missing?_eq_none _
  have gone : database.erased (isStale (context.moment date)) =
      database.keeping (isSpared (context.moment date)) :=
    congrArg (fun invites => { database with invites }) (database.invites.keep_others _)
  rw [← gone, ← Outcome.result_eq_ok_iff]
  refine result_perform_of_ends ?_
  simp only [cleanup, ends_bind, ends_now, ends_require, ends_eraseWhere, ends_commit, ends_log,
    ends_pure, present, reduceCtorEq, false_implies, implies_true, true_and, forall_const]
  exact congrArg (fun count => Except.ok (count, database.erased (isStale (context.moment date))))
    List.countP_eq_length_filter

/-- What a sweep leaves and what it removes are the invites that there were. -/
theorem length_add_count (database : Database) (date : Moment) :
    (database.keeping (isSpared date)).invites.entries.length +
      database.invites.count (isStale date) = database.invites.entries.length := by
  have split := List.length_eq_countP_add_countP (isStale date) (l := database.invites.entries)
  simp only [decide_not, Bool.decide_eq_true] at split
  rw [split, Nat.add_comm]
  exact congrArg _ List.countP_eq_length_filter.symm

/-- After an earlier sweep a later one leaves what it leaves alone. -/
theorem keeping_keeping (database : Database) {first later : Moment}
    (ordered : first.wall ≤ later.wall) :
    (database.keeping (isSpared first)).keeping (isSpared later) =
      database.keeping (isSpared later) := by
  refine congrArg (fun invites => { database with invites }) (Table.ext ?_)
  rw [Table.entries_keep, Database.entries_keeping, List.filter_filter]
  refine List.filter_congr fun entry _ => ?_
  rw [Bool.eq_iff_iff, Bool.and_eq_true, and_iff_left_iff_imp]
  exact isSpared_of_le ordered

/-- Calls at or after the moment of a sweep end as they do without it. -/
theorem acceptAll_swept {first : Moment} {calls : List Acceptance}
    (ordered : ∀ call ∈ calls, first.wall ≤ call.moment.wall) :
    acceptAll (database.keeping (isSpared first)) draws calls =
      (acceptAll database draws calls).map (·.keeping (isSpared first)) := by
  refine acceptAll_keeping (fun call isCall => ?_) database draws
  exact accept_overlooks call.inviteId call.date fun _ isOpen =>
    isSpared_of_isOpenFor (ordered call isCall) isOpen

/-- In a reachable database of the newest revision a sweep takes no invite that anybody could still
accept. It is answered with the number of rows that it removes, and no invite that has been accepted
is among them. Whatever calls to accept an invite come at or after its moment, by the clock on the
wall, they are answered as they are without the sweep, with the same supply of draws, and leave the
same accounts. A later sweep leaves the same invites after it as it leaves alone, and both together
remove as many. -/
theorem cleanup_spares (reached : database.Reached) (position : database.position = some .invites)
    (date : Option Moment) (context : Context) (draws : Draws) :
    let first := context.moment date
    let sweep := (cleanup date).perform context database draws
    ∃ count, sweep.answer = .ok count ∧
      sweep.database.invites.entries.Sublist database.invites.entries ∧
      sweep.database.invites.entries.length + count = database.invites.entries.length ∧
      (∀ entry ∈ database.invites.entries, entry.row.acceptedOn.isSome = true →
        entry ∈ sweep.database.invites.entries) ∧
      (∀ calls : List Acceptance, (∀ call ∈ calls, first.wall ≤ call.moment.wall) → ∀ supply,
        (acceptAll sweep.database supply calls).map (·.answer) =
          (acceptAll database supply calls).map (·.answer) ∧
        (acceptAll sweep.database supply calls).map (·.database.accounts) =
          (acceptAll database supply calls).map (·.database.accounts)) ∧
      ∀ later (surroundings : Context) supply,
        first.wall ≤ (surroundings.moment later).wall →
        ∃ rest whole,
          ((cleanup later).perform surroundings sweep.database supply).answer = .ok rest ∧
          ((cleanup later).perform surroundings database supply).answer = .ok whole ∧
          count + rest = whole ∧
          ((cleanup later).perform surroundings sweep.database supply).database.invites =
            ((cleanup later).perform surroundings database supply).database.invites := by
  intro first sweep
  have newest := reached.isNewest position
  obtain ⟨answered, swept⟩ := cleanup_outcome newest date context draws
  have swept : sweep.database = database.keeping (isSpared first) := swept
  have stillNewest : (database.keeping (isSpared first)).IsNewest := by
    have served := newest.outcome ⟨.sweepInvites date, context, draws⟩
    exact swept ▸ served
  refine ⟨_, answered, ?_⟩
  rw [swept]
  refine ⟨List.filter_sublist, length_add_count database first, ?_, ?_, ?_⟩
  · intro entry stored isAccepted
    exact List.mem_filter.mpr ⟨stored, isSpared_iff.mpr (.inl isAccepted)⟩
  · intro calls ordered supply
    rw [acceptAll_swept ordered, List.map_map, List.map_map]
    exact ⟨rfl, rfl⟩
  · intro later surroundings supply ordered
    obtain ⟨rest, restSwept⟩ := cleanup_outcome stillNewest later surroundings supply
    obtain ⟨whole, wholeSwept⟩ := cleanup_outcome newest later surroundings supply
    refine ⟨_, _, rest, whole, ?_, ?_⟩
    · have once := length_add_count database first
      have twice := length_add_count (database.keeping (isSpared first)) (surroundings.moment later)
      have alone := length_add_count database (surroundings.moment later)
      rw [keeping_keeping database ordered] at twice
      change database.invites.count (isStale first) + _ = _
      omega
    · rw [restSwept, wholeSwept, keeping_keeping database ordered]

/-- A database with two invites, of which the second expires two microseconds later. -/
def madeTwice : Database :=
  made.after [{ making with
    request := .generateInvites (some 1) (some (Moment.utc ⟨2⟩))
    draws := { state := 1, attempts := 1 } }]

/-- A call to accept the second one when the first one has expired by a microsecond. -/
def acceptingSecond : Acceptance where
  inviteId := (madeTwice.invites.get? 2).map fun entry => entry.row.inviteId
  date := none
  context := { clock := ⟨Time.microsPerDay + 1⟩ }

/-- At that moment the first invite is swept, and calls to accept the second one are answered as
they are without the sweep. -/
theorem cleanup_spares_second :
    madeTwice.Reached ∧ madeTwice.position = some .invites ∧
      ((cleanup none).perform acceptingSecond.context madeTwice {}).answer = .ok 1 ∧
      (acceptAll ((cleanup none).perform acceptingSecond.context madeTwice {}).database {}
          [acceptingSecond, acceptingSecond]).map (·.answer) =
        (acceptAll madeTwice {} [acceptingSecond, acceptingSecond]).map (·.answer) := by
  have reached : madeTwice.Reached :=
    ((Database.Reached.founded .invites ⟨⟨0⟩, true⟩).served making).after _
  have isMade : made.IsAt (some .invites) :=
    (Database.isAt_atRevision .invites ⟨⟨0⟩, true⟩).after [making]
  have position : madeTwice.position = some .invites := (isMade.after _).position
  have ordered : ∀ call ∈ [acceptingSecond, acceptingSecond],
      (acceptingSecond.context.moment none).wall ≤ call.moment.wall := by
    intro call isCall
    rcases List.mem_pair.mp isCall with rfl | rfl <;> exact Nat.le_refl _
  obtain ⟨_, -, -, -, -, alike, -⟩ :=
    cleanup_spares reached position none acceptingSecond.context {}
  exact ⟨reached, position, Outcome.answer_eq_ok (by decide +kernel), (alike _ ordered {}).1⟩

end Invite

end Lookout
