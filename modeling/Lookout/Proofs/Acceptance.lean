import Lookout.Proofs.Newest

/-!
# Acceptance of invites

To accept an invite is done as a whole or not at all. The invite is marked before a user id is
drawn and hashed, a date is reckoned and an account is made; whatever of this fails, the invite is
still open. Nothing else can fail on the way: a drawn user id has an admissible length, and an
account under an id that is free is always new. So an open invite is accepted wherever user ids can
be hashed, one of those that the supply gives leads to a free account id, and the trial ends on a
date of the calendar.
-/

namespace Lookout

open Operation Store
open Schema (Column Revision TableName)
open Time (Moment)

variable {context : Context} {database : Database} {draws : Draws}

/-- The account id of a drawn user id fails to be reckoned exactly for want of a round of
hashing. -/
theorem Account.idOfUserId_of_isDrawn (settings : Settings) {userId : String}
    (isDrawn : Draws.IsDrawn Settings.userIdMax userId) :
    settings.hashRounds < 1 ∧
        idOfUserId settings (some userId) = .error (.tooFewRounds settings.hashRounds) ∨
      1 ≤ settings.hashRounds ∧
        ∃ accountId, idOfUserId settings (some userId) = .ok accountId := by
  have admissible : Settings.userIdMin ≤ userId.length ∧ userId.length ≤ Settings.userIdMax := by
    rw [isDrawn.1]
    decide
  simp only [idOfUserId, if_pos admissible, Digest.ofTextRounds, Digest.ofGiven, Digest.rounds?]
  by_cases few : settings.hashRounds < 1
  · exact .inl ⟨few, by simp [few]⟩
  · exact .inr ⟨by omega, by simp [few]⟩

/-- A user id has an account already. -/
def Account.IsTaken (settings : Settings) (accounts : Table Account) (userId : String) : Prop :=
  ∃ entry ∈ accounts.entries, idOfUserId settings (some userId) = .ok entry.row.accountId

/-- A user id has no account where none is found under its account id. -/
theorem Account.isNone_find?_iff {settings : Settings} {accounts : Table Account}
    {userId accountId : String}
    (identified : idOfUserId settings (some userId) = .ok accountId) :
    (accounts.find? (isNamed (some accountId))).isNone = true ↔
      ¬IsTaken settings accounts userId := by
  have named (entry : Entry Account) : isNamed (some accountId) entry = true ↔
      accountId = entry.row.accountId := by
    simp [isNamed, eq_comm]
  simp [IsTaken, identified, Table.find?, named]

/-- A drawn text consists of letters and digits. -/
theorem Draws.IsDrawn.isAlphanum {length : Nat} {text : String} (isDrawn : IsDrawn length text) :
    text.toList.all Char.isAlphanum = true := by
  have plain : alphabet.all Char.isAlphanum = true := by decide
  exact List.all_eq_true.mpr fun character isOne =>
    List.all_eq_true.mp plain character (isDrawn.2 character isOne)

namespace Invite

/-- An invite can be accepted under an id at a moment. -/
structure IsOpenAt (database : Database) (inviteId : Option String) (date : Moment)
    (entry : Entry Invite) : Prop where
  stored : entry ∈ database.invites.entries
  named : some entry.row.inviteId = inviteId
  unspent : entry.row.acceptedOn = none
  ahead : date.wall < entry.row.expiresOn

/-- A user id is the first one of a supply that has no account yet, and this is its account id. -/
structure IsFirstFree (settings : Settings) (accounts : Table Account) (draws : Draws)
    (userId accountId : String) : Prop where
  drawn : ∃ place < draws.attempts, draws.textAt Settings.userIdMax place = userId ∧
    ∀ earlier < place,
      Account.IsTaken settings accounts (draws.textAt Settings.userIdMax earlier)
  identified : Account.idOfUserId settings (some userId) = .ok accountId
  free : ∀ entry ∈ accounts.entries, entry.row.accountId ≠ accountId

/-- Why an open invite may fail to be accepted: every user id that is drawn has an account already,
none can be hashed, or no date is so many days ahead. -/
inductive Hindrance (settings : Settings) (accounts : Table Account) (draws : Draws)
    (date : Moment) : Failure → Prop where
  | exhausted (taken : ∀ place < draws.attempts,
      Account.IsTaken settings accounts (draws.textAt Settings.userIdMax place)) :
      Hindrance settings accounts draws date .drawsExhausted
  | unhashed (few : settings.hashRounds < 1) :
      Hindrance settings accounts draws date (.tooFewRounds settings.hashRounds)
  | unreckoned {error : Time.SpanError} (beyond : date.addDays settings.trialDays = .error error) :
      Hindrance settings accounts draws date (.span error)

variable {inviteId : Option String} {date : Moment}

theorem count_eq_zero_iff :
    database.invites.count (isOpenFor inviteId date) = 0 ↔
      ¬∃ entry, IsOpenAt database inviteId date entry := by
  rw [Table.count, List.countP_eq_zero, not_exists]
  refine forall_congr' fun entry => ⟨fun closed opens => ?_, fun closed stored opens => ?_⟩
  · refine closed opens.stored ?_
    simp [isOpenFor, Invite.isOpen, opens.named, opens.unspent, opens.ahead]
  · simp only [isOpenFor, Invite.isOpen, Bool.and_eq_true, decide_eq_true_eq,
      Option.isNone_iff_eq_none] at opens
    exact closed ⟨stored, opens.1, opens.2.1, opens.2.2⟩

/-- A date is reckoned, and nothing else done, unless no date is so many days ahead. -/
theorem ends_later {session : Session} (moment : Moment) (days : Int) :
    (later moment days).Ends context session (fun _ final => final = session)
      (fun failure _ => ∃ error, failure = .span error ∧ moment.addDays days = .error error) := by
  unfold later
  cases trial : moment.addDays days with
  | ok validUntil => exact rfl
  | error error => exact ⟨error, rfl, rfl⟩

/-- Once an invite is marked, an account under an unused id is taken, and it is new. -/
theorem ends_addUnlessAlike_unused (newest : database.IsNewest) {session : Session}
    {account : Account} (current : session.current = spent database inviteId date)
    (unused : ∀ entry ∈ database.accounts.entries, entry.row.accountId ≠ account.accountId) :
    (addUnlessAlike [.accountId] account).Ends context session
      (fun answer _ => answer.2 = true) (fun _ _ => False) := by
  have only : ∀ columns ∈ database.catalog.uniqueKeys .accounts, columns = [.accountId] :=
    newest.only_key (by decide)
  have absent : database.accounts.find? (Relation.alike [.accountId] account ·.row) = none := by
    rw [Account.find?_alike database account]
    exact List.find?_eq_none.mpr fun entry stored named =>
      unused entry stored (Option.some.inj (of_decide_eq_true named))
  have admitted : (spent database inviteId date).refusal? account = none :=
    Database.admitted_of_absent only absent fun _ isKey => absurd isKey List.not_mem_nil
  rw [ends_addUnlessAlike, current]
  constructor
  · rintro error ⟨_, refused⟩
    cases admitted.symm.trans refused
  · intro id isNew after inserts
    cases inserts with
    | present found => cases found.symm.trans absent
    | added => exact rfl

/-- What is known of an acceptance besides its effect: the user id is the first free one of the
supply, and what fails is one of the hindrances. -/
theorem ends_accept (newest : database.IsNewest) (inviteId : Option String)
    (date : Option Moment) :
    (accept inviteId date).Ends context { saved := database, current := database, draws }
      (fun answer _ => ∀ userId ∈ answer, ∃ accountId,
        IsFirstFree context.settings database.accounts draws userId accountId)
      (fun failure _ => (∃ entry, IsOpenAt database inviteId (context.moment date) entry) ∧
        Hindrance context.settings database.accounts draws (context.moment date) failure) := by
  simp only [accept, drawFree, ends_bind, ends_now, ends_require, newest.missing?_eq_none,
    ends_updateWhere, ends_ite, ends_rollback, ends_log, ends_pure, ends_read, ends_get,
    reduceCtorEq, false_implies, implies_true, true_and, forall_const]
  refine ⟨fun _ userId isOne => ?_, fun isOpen => ?_⟩
  · cases isOne
  have opens : ∃ entry, IsOpenAt database inviteId (context.moment date) entry :=
    not_not.mp (mt count_eq_zero_iff.mpr isOpen)
  have present : database.missing? [.accounts] = none := newest.missing?_eq_none _
  have prepared : database.obstacle? .accounts (some [.accountId]) = none :=
    newest.obstacle?_eq_none (by decide)
  refine (ends_drawWhere_first
    (fun userId => ¬Account.IsTaken context.settings database.accounts userId)
    (fun failure => context.settings.hashRounds < 1 ∧
      failure = .tooFewRounds context.settings.hashRounds)
    ?_ _ (.refl _ _) fun _ none => absurd none (Nat.not_lt_zero _)).imp ?_ ?_
  · intro count userId middle isText hasDrawn
    have stillPresent : middle.current.missing? [.accounts] = none := by
      rw [hasDrawn.current]
      exact present
    have sameAccounts : middle.current.accounts = database.accounts := by
      rw [hasDrawn.current]
      rfl
    have isDrawn : Draws.IsDrawn Settings.userIdMax userId := isText ▸ draws.isDrawn_textAt _ _
    rcases Account.idOfUserId_of_isDrawn context.settings isDrawn with
      ⟨few, failed⟩ | ⟨-, accountId, identified⟩
    · simp only [failed, ends_bind, ends_throw]
      exact ⟨⟨few, trivial⟩, hasDrawn.saved⟩
    · simp only [identified, ends_bind, ends_pure]
      rw [Account.ends_lookup_of_present stillPresent, sameAccounts]
      exact ⟨hasDrawn, Account.isNone_find?_iff identified⟩
  · rintro userId middle ⟨⟨_, hasDrawn⟩, place, early, isText, free, passed⟩
    rw [Nat.zero_add] at early
    have isDrawn : Draws.IsDrawn Settings.userIdMax userId := isText ▸ draws.isDrawn_textAt _ _
    have taken : ∀ earlier < place, Account.IsTaken context.settings database.accounts
        (draws.textAt Settings.userIdMax earlier) :=
      fun earlier before => not_not.mp (passed earlier before)
    rcases Account.idOfUserId_of_isDrawn context.settings isDrawn with
      ⟨few, failed⟩ | ⟨-, accountId, identified⟩
    · simp only [failed, ends_throw]
      exact ⟨opens, .unhashed few⟩
    have unused : ∀ entry ∈ database.accounts.entries, entry.row.accountId ≠ accountId := by
      rintro entry stored rfl
      exact free ⟨entry, stored, identified⟩
    have first : IsFirstFree context.settings database.accounts draws userId accountId :=
      ⟨⟨place, early, isText, taken⟩, identified, unused⟩
    simp only [identified, ends_pure, ends_prepareInsertion, ends_stamp]
    refine (ends_later _ _).imp ?_ ?_
    · rintro validUntil _ rfl
      refine ⟨fun error blocked => ?_, fun _ => ?_⟩
      · rw [hasDrawn.current] at blocked
        cases prepared.symm.trans blocked
      refine (ends_addUnlessAlike_unused newest hasDrawn.current unused).imp ?_
        fun _ _ never => never.elim
      rintro ⟨id, isNew⟩ final rfl
      refine ⟨fun known => ?_, fun _ other isOther => ?_⟩
      · cases known
      · cases isOther
        exact ⟨accountId, first⟩
    · rintro _ _ ⟨error, rfl, trial⟩
      exact ⟨opens, .unreckoned trial⟩
  · rintro failure final ⟨-, ⟨few, rfl⟩ | ⟨rfl, taken⟩⟩
    · exact ⟨opens, .unhashed few⟩
    · rw [Nat.zero_add] at taken
      exact ⟨opens, .exhausted fun place early => not_not.mp (taken place early)⟩

/-- The invite that is marked is the only one that is open under the id. -/
theorem spent_eq (newest : database.IsNewest) {entry : Entry Invite}
    (opens : IsOpenAt database inviteId date entry) :
    spent database inviteId date =
      database.updated (fun other => other.id = entry.id) fun (row : Invite) =>
        { row with acceptedOn := some date.wall } := by
  refine Database.updated_congr fun other stored => ?_
  have isMarked : isOpenFor inviteId date other = decide (other.id = entry.id) := by
    rw [Bool.eq_iff_iff, decide_eq_true_eq]
    constructor
    · intro isOpen
      have named := of_decide_eq_true (Bool.and_eq_true_iff.mp isOpen).1
      have sameId := Option.some.inj (named.trans opens.named.symm)
      have unique : [.inviteId] ∈ Revision.invites.catalog.uniqueKeys (Relation.table Invite) := by
        decide
      rw [newest.eq_of_alike unique stored opens.stored
        (by simp [Relation.alike, Relation.keyOf, Relation.cell, sameId])]
    · intro same
      rw [database.invites.eq_of_id_eq stored opens.stored same]
      simp [isOpenFor, Invite.isOpen, opens.named, opens.unspent, opens.ahead]
  rw [isMarked]

/-- A user id is answered only where user ids can be hashed. -/
theorem IsFirstFree.hashed {settings : Settings} {userId accountId : String}
    (first : IsFirstFree settings database.accounts draws userId accountId) :
    1 ≤ settings.hashRounds := by
  obtain ⟨place, -, rfl, -⟩ := first.drawn
  rcases Account.idOfUserId_of_isDrawn settings (draws.isDrawn_textAt _ place) with
    ⟨-, failed⟩ | ⟨hashed, -⟩
  · cases failed.symm.trans first.identified
  · exact hashed

/-- A user id is answered only where one that has no account is drawn. -/
theorem IsFirstFree.exists_free {settings : Settings} {userId accountId : String}
    (first : IsFirstFree settings database.accounts draws userId accountId) :
    ∃ place < draws.attempts,
      ¬Account.IsTaken settings database.accounts (draws.textAt Settings.userIdMax place) := by
  obtain ⟨place, early, isText, -⟩ := first.drawn
  refine ⟨place, early, ?_⟩
  rw [isText]
  rintro ⟨entry, stored, identified⟩
  exact first.free entry stored (Except.ok.inj (identified.symm.trans first.identified))

/-- To accept an invite is done as a whole or not at all. It is answered with nothing exactly where
no invite is open under the id, and then nothing changes. A user id is answered exactly where an
invite is open, user ids are hashed at least once, the trial ends on a date of the calendar, and one
of the user ids that are drawn has no account yet. It is the first such one; the invite has been
marked and one account been made, under an id that no account had, and nothing else has changed.
Where it fails an invite is open and stays so, and what failed is one of the hindrances. -/
theorem accept_all_or_nothing (reached : database.Reached)
    (position : database.position = some .invites) (inviteId : Option String)
    (date : Option Moment) (context : Context) (draws : Draws) :
    let outcome := (accept inviteId date).perform context database draws
    let now := context.moment date
    (outcome.answer = .ok none ↔ ¬∃ entry, IsOpenAt database inviteId now entry) ∧
    (outcome.answer = .ok none → outcome.database = database) ∧
    ((∃ userId, outcome.answer = .ok (some userId)) ↔
      (∃ entry, IsOpenAt database inviteId now entry) ∧ 1 ≤ context.settings.hashRounds ∧
        (∃ validUntil, now.addDays context.settings.trialDays = .ok validUntil) ∧
        ∃ place < draws.attempts,
          ¬Account.IsTaken context.settings database.accounts (draws.textAt 128 place)) ∧
    (∀ userId, outcome.answer = .ok (some userId) →
      userId.length = 128 ∧ userId.toList.all Char.isAlphanum = true ∧
      ∃ entry accountId validUntil, IsOpenAt database inviteId now entry ∧
        IsFirstFree context.settings database.accounts draws userId accountId ∧
        now.addDays context.settings.trialDays = .ok validUntil ∧
        outcome.database =
          (database.updated (fun other => other.id = entry.id) fun (row : Invite) =>
            { row with acceptedOn := some now.wall }).added
          { accountId, validUntil := some validUntil.wall
            createdOn := Time.Stamp.ofClock context.clock : Account }) ∧
    (∀ failure, outcome.answer = .error failure →
      outcome.database = database ∧ (∃ entry, IsOpenAt database inviteId now entry) ∧
        Hindrance context.settings database.accounts draws now failure) := by
  intro outcome now
  have newest := reached.isNewest position
  have effects : (accept inviteId date).Ends context
    { saved := database, current := database, draws } _ _ := accept_achieves inviteId date draws
  rcases (effects.and (ends_accept newest inviteId date)).outcome with
    ⟨answer, final, ⟨effective, isFirst⟩, answered, same⟩ |
    ⟨failure, final, ⟨kept, opens, hindered⟩, failed, same⟩
  · have answered : outcome.answer = .ok answer := answered
    have same : outcome.database = final.saved := same
    have accepted : Accepted context database inviteId now answer final.saved := effective
    generalize final.saved = after at same accepted
    cases accepted with
    | refused closed =>
        have closed := count_eq_zero_iff.mp closed
        simp only [answered, same]
        exact ⟨iff_of_true trivial closed, fun _ => trivial,
          iff_of_false nofun fun opens => closed opens.1, nofun, nofun⟩
    | @opened userId accountId validUntil isOpen identified free trial prepared admitted =>
        obtain ⟨entry, opens⟩ := not_not.mp (mt count_eq_zero_iff.mpr isOpen)
        obtain ⟨other, first⟩ := isFirst userId rfl
        cases Except.ok.inj (identified.symm.trans first.identified)
        obtain ⟨place, -, isText, -⟩ := first.drawn
        have isDrawn : Draws.IsDrawn 128 userId := isText ▸ draws.isDrawn_textAt 128 place
        simp only [answered, same]
        refine ⟨iff_of_false nofun (not_not.mpr ⟨entry, opens⟩), nofun,
          iff_of_true ⟨userId, rfl⟩
            ⟨⟨entry, opens⟩, first.hashed, ⟨validUntil, trial⟩, first.exists_free⟩, ?_, nofun⟩
        rintro _ ⟨⟩
        refine ⟨isDrawn.1, isDrawn.isAlphanum, entry, accountId, validUntil, opens, first, trial,
          ?_⟩
        rw [spent_eq newest opens]
        rfl
  · have failed : outcome.answer = .error failure := failed
    simp only [failed]
    refine ⟨iff_of_false nofun (not_not.mpr opens), nofun, iff_of_false nofun ?_, nofun, ?_⟩
    · rintro ⟨-, hashed, ⟨validUntil, trial⟩, place, early, free⟩
      cases hindered with
      | exhausted taken => exact free (taken place early)
      | unhashed few => omega
      | unreckoned beyond => cases trial.symm.trans beyond
    · rintro _ ⟨⟩
      exact ⟨same.trans kept, opens, hindered⟩

/-- A turn that makes one invite. -/
def making : Turn where
  request := .generateInvites (some 1) none
  context := { clock := ⟨0⟩ }
  draws := { attempts := 1 }

/-- A database with one invite. -/
def made : Database :=
  (making.outcome (.atRevision .invites ⟨⟨0⟩, true⟩)).database

/-- The id of that invite. -/
def madeId : Option String :=
  (made.invites.get? 1).map fun entry => entry.row.inviteId

/-- Surroundings in which user ids are hashed so many times. -/
def hashing (rounds : Int) : Context where
  clock := ⟨0⟩
  settings := { hashRounds := rounds }

theorem isOpenAt_made : ∃ entry, IsOpenAt made madeId (Moment.utc ⟨0⟩) entry := by
  have new : ((made.invites.get? 1).any fun entry => entry.row.acceptedOn.isNone &&
      (Moment.utc ⟨0⟩).wall < entry.row.expiresOn) = true := by
    decide +kernel
  cases found : made.invites.get? 1 with
  | none =>
      rw [found] at new
      cases new
  | some entry =>
      rw [found, Option.any_some, Bool.and_eq_true, Option.isNone_iff_eq_none,
        decide_eq_true_eq] at new
      exact ⟨entry, (Table.of_find? found).1, by simp [madeId, found], new.1, new.2⟩

/-- The account that is made comes after the others. -/
theorem entries_accounts_added (database : Database) (marked : Entry Invite → Bool)
    (mark : Invite → Invite) (account : Account) :
    ((database.updated marked mark).added account).accounts.entries =
      database.accounts.entries ++ [⟨database.accounts.nextId, account⟩] := rfl

/-- With a round of hashing that invite is accepted, and it opens the only account. Without one it
is not accepted, and it stays open. -/
theorem accept_all_or_nothing_hashed :
    (∃ userId accountId,
      ((accept madeId none).perform (hashing 1) made {}).answer = .ok (some userId) ∧
        IsFirstFree (hashing 1).settings made.accounts {} userId accountId ∧
        ((accept madeId none).perform (hashing 1) made {}).database.accounts.entries.map
          (·.row.accountId) = [accountId]) ∧
      (∃ failure, ((accept madeId none).perform (hashing 0) made {}).answer = .error failure) ∧
      ((accept madeId none).perform (hashing 0) made {}).database = made := by
  have reached : made.Reached := (Database.Reached.founded .invites ⟨⟨0⟩, true⟩).served making
  have position : made.position = some .invites := by
    rw [made, (making.schema_outcome _).2]
    rfl
  have empty : made.accounts.entries = [] := by decide +kernel
  constructor
  · obtain ⟨-, -, opens, accepted, -⟩ :=
      accept_all_or_nothing reached position madeId none (hashing 1) {}
    have free : ¬Account.IsTaken (hashing 1).settings made.accounts
        (({} : Draws).textAt 128 0) := by
      simp [Account.IsTaken, empty]
    obtain ⟨userId, answered⟩ :=
      opens.mpr ⟨isOpenAt_made, Int.le_refl 1, ⟨_, rfl⟩, 0, by decide, free⟩
    obtain ⟨-, -, entry, accountId, validUntil, -, first, -, same⟩ := accepted userId answered
    refine ⟨userId, accountId, answered, first, ?_⟩
    rw [same, entries_accounts_added, empty]
    rfl
  · obtain ⟨refused, -, opens, -, failed⟩ :=
      accept_all_or_nothing reached position madeId none (hashing 0) {}
    cases answered : ((accept madeId none).perform (hashing 0) made {}).answer with
    | ok answer =>
        cases answer with
        | none => exact absurd isOpenAt_made (refused.mp answered)
        | some userId => exact absurd (opens.mp ⟨userId, answered⟩).2.1 (by decide)
    | error failure => exact ⟨⟨failure, rfl⟩, (failed failure answered).1⟩

end Invite

end Lookout
