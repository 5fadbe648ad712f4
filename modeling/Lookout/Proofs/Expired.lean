import Lookout.Proofs.NaturalKeys
import Lookout.Proofs.Queries

/-!
# Expired accounts

An account that has been expired keeps its row, and requests may still write to it: give it
another date, or record watches and replies under its number. None of them brings it back. Until
it is deleted it is hidden, it gets neither tokens nor watches, and nothing of it is handed out.
-/

namespace Lookout

open Operation Store
open Time (Moment)

/-- An operation failed because an account is not valid. -/
def Outcome.IsNotValid {α : Type} (outcome : Outcome α) : Prop :=
  ∃ failure, outcome.answer = .error failure ∧ failure.kind = .notValid

namespace Account

/-- The account under a number has an id and has been expired. -/
def IsExpired (database : Database) (accountId : String) (id : Int) : Prop :=
  database.Has id fun row : Account => row.accountId = accountId ∧ row.deletedOn.isSome = true

/-- An account is hidden by its id, but its number is still answered where it would be made
again. It gets neither tokens nor watches, and queries leave out what it owns. -/
structure IsGone (context : Context) (draws : Draws) (database : Database) (accountId : String)
    (id : Int) : Prop where
  hidden : ((lookup (some accountId) false).perform context database draws).answer = .ok none
  remade : ∀ validUntil,
    ((upsert (some accountId) validUntil).perform context database draws).answer = .ok id
  tokenless : ∀ (text : Option String) (application kind : Value) (applicationNo kindNo : Int),
    text.all Token.isAdmissible → application.toInteger = .ok applicationNo →
      kind.toInteger = .ok kindNo →
        ((Token.register (some accountId) text application kind).perform context database
          draws).IsNotValid
  watchless : ∀ (site board : Option String) (threadNo postNo postSubNo : Option Int)
    (application : Value),
    ((Watch.watchPost (some accountId) site board threadNo postNo postSubNo application).perform
      context database draws).IsNotValid
  unqueued : ∀ (limit : Option Int) (replies : List (Entry Reply)),
    ((Reply.pending limit).perform context database draws).answer = .ok replies →
      ∀ reply ∈ replies, reply.row.account ≠ id
  unfound : ∀ (descriptors : Option (List (Option Int))) (pairs : List (Int × Int)),
    ((Watch.watchers descriptors).perform context database draws).answer = .ok pairs →
      ∀ pair ∈ pairs, pair.2 ≠ id

variable {context : Context} {database : Database} {draws : Draws} {accountId : String} {id : Int}

/-- Expiring an account makes it an expired one. -/
theorem isExpired_of_expire {date : Option Moment}
    (answered : ((expire (some accountId) date).perform context database draws).answer = .ok ()) :
    ∃ id, IsExpired ((expire (some accountId) date).perform context database draws).database
      accountId id := by
  obtain ⟨held, named, after⟩ := (expire_achieves (some accountId) date).of_answer answered
  obtain ⟨stored, isNamed⟩ := Table.of_find? named
  refine ⟨held.id, ?_⟩
  have changed := Database.mem_updated stored (fun entry => entry.id = held.id)
    fun (row : Account) =>
      { row with
        validUntil := some (context.moment date).wall
        deletedOn := some (context.moment date).wall }
  rw [if_pos (decide_eq_true rfl), ← after] at changed
  exact ⟨_, changed, by simpa [Account.isNamed] using isNamed, rfl⟩

namespace IsExpired

/-- No turn brings an expired account back. -/
theorem outcome (expired : IsExpired database accountId id) (turn : Turn)
    (spared : turn.request ≠ .deleteAccount (some accountId)) :
    IsExpired (turn.outcome database).database accountId id := by
  obtain ⟨row, stored, rfl, isDeleted⟩ := expired
  obtain ⟨later, isStored, continues⟩ := turn.has_account ⟨row, stored, .refl row⟩ spared
  exact ⟨later, isStored, continues.accountId, continues.expired isDeleted⟩

theorem after (expired : IsExpired database accountId id) {turns : List Turn}
    (spared : ∀ turn ∈ turns, turn.request ≠ .deleteAccount (some accountId)) :
    IsExpired (database.after turns) accountId id := by
  have kept (turn : Turn) (isTurn : turn ∈ turns) (before : Database)
      (expired : IsExpired before accountId id) :
      IsExpired (turn.outcome before).database accountId id :=
    expired.outcome turn (spared turn isTurn)
  exact Database.after_of_kept_by kept expired

/-- Queries do not count an expired account. -/
theorem not_counts (expired : IsExpired database accountId id) (clock : Time.WallTime) :
    ¬database.counts clock id = true := by
  obtain ⟨row, stored, -, isDeleted⟩ := expired
  have isCounted : database.counts clock id = true ↔ row.isNotifiable clock = true :=
    Database.counts_iff stored
  rw [isCounted, isNotifiable]
  simp [Option.isSome_iff_ne_none.mp isDeleted]

/-- Making an expired account again answers its number. -/
theorem answer_upsert (newest : database.IsNewest) (expired : IsExpired database accountId id)
    (validUntil : Option Moment) :
    ((upsert (some accountId) validUntil).perform context database draws).answer = .ok id := by
  obtain ⟨row, stored, rfl, -⟩ := expired
  exact NaturalKey.answer_account newest stored

/-- An expired account gets no token. -/
theorem isNotValid_register (newest : database.IsNewest)
    (expired : IsExpired database accountId id) {text : Option String} {application kind : Value}
    {applicationNo kindNo : Int} (admissible : text.all Token.isAdmissible)
    (isApplication : application.toInteger = .ok applicationNo)
    (isKind : kind.toInteger = .ok kindNo) :
    ((Token.register (some accountId) text application kind).perform context database
      draws).IsNotValid := by
  obtain ⟨row, stored, rfl, isDeleted⟩ := expired
  obtain ⟨date, deletedOn⟩ := Option.isSome_iff_exists.mp isDeleted
  refine ⟨.accountDeleted (some row.accountId), Ends.answer_perform (.error _) ?_, rfl⟩
  cases text with
  | none => simp [Token.register, ends_demand newest stored, deletedOn, isApplication, isKind]
  | some characters =>
      rw [Option.all_some] at admissible
      simp [Token.register, ends_demand newest stored, deletedOn, isApplication, isKind, admissible]

/-- An expired account gets no watch. -/
theorem isNotValid_watchPost (newest : database.IsNewest)
    (expired : IsExpired database accountId id) (site board : Option String)
    (threadNo postNo postSubNo : Option Int) (application : Value) :
    ((Watch.watchPost (some accountId) site board threadNo postNo postSubNo application).perform
      context database draws).IsNotValid := by
  obtain ⟨row, stored, rfl, isDeleted⟩ := expired
  obtain ⟨date, deletedOn⟩ := Option.isSome_iff_exists.mp isDeleted
  refine ⟨.lapsed .deleted, Ends.answer_perform (.error _) ?_, rfl⟩
  simp [Watch.watchPost, ends_lookup newest stored, lapseAt, lapse, lapseOf, deletedOn]

/-- An expired account is gone. -/
theorem isGone (newest : database.IsNewest) (expired : IsExpired database accountId id) :
    IsGone context draws database accountId id where
  hidden := by
    obtain ⟨row, stored, rfl, isDeleted⟩ := expired
    obtain ⟨date, deletedOn⟩ := Option.isSome_iff_exists.mp isDeleted
    rw [answer_lookup newest stored]
    simp [deletedOn]
  remade := expired.answer_upsert newest
  tokenless _ _ _ _ _ := expired.isNotValid_register newest
  watchless := expired.isNotValid_watchPost newest
  unqueued limit replies answered reply isOne owned :=
    expired.not_counts context.clock (owned ▸ Reply.counts_of_pending answered isOne)
  unfound descriptors pairs answered pair isOne owned := by
    rw [Watch.answer_watchers newest] at answered
    split at answered
    · cases answered
      exact expired.not_counts context.clock (owned ▸ (Watch.mem_found.mp isOne).2.2)
    · cases answered

end IsExpired

/-- Whatever is asked of the services after an account has expired, it is gone at any time, until
it is deleted itself. -/
theorem expired_for_good {database : Database} (reached : database.Reached)
    (newest : database.position = some .invites) (accountId : String) :
    (∀ (date : Option Moment) (context : Context) (draws : Draws),
      let expired := (expire (some accountId) date).perform context database draws
      expired.answer = .ok () → ∃ id, IsExpired expired.database accountId id) ∧
    ∀ id, IsExpired database accountId id → ∀ later : List Turn,
      (∀ turn ∈ later, turn.request ≠ .deleteAccount (some accountId)) →
        ∀ (context : Context) (draws : Draws),
          IsGone context draws (database.after later) accountId id := by
  refine ⟨fun date context draws => isExpired_of_expire, ?_⟩
  intro id expired later spared context draws
  exact (expired.after spared).isGone ((reached.isNewest newest).after later)

/-- An account has expired. It is given another date, a watch and a reply are recorded under its
number, and its own id is asked for again. -/
theorem expired_for_good_revived :
    let context : Context := { clock := ⟨7⟩ }
    let database := (Database.atRevision .invites ⟨⟨0⟩, true⟩).after <|
      [.upsertAccount (some "a") (some (Moment.utc ⟨60000000⟩)),
        .watchPost (some "a") (some "s") (some "b") (some 1) (some 2) (some 0) (.integer 0),
        .expireAccount (some "a") none].map fun request => { request, context }
    let later : List Turn :=
      [.setExpiry (some "a") (some (Moment.utc ⟨90000000⟩)),
        .subscribe (some 1) (some 1) (.integer 1), .recordReply (some 1) (some 1) (some 1),
        .upsertAccount (some "a") none].map fun request => { request, context }
    let again := (expire (some "a") none).perform context database {}
    database.Reached ∧ database.position = some .invites ∧ IsExpired database "a" 1 ∧
      (∀ turn ∈ later, turn.request ≠ .deleteAccount (some "a")) ∧
      IsGone context {} (database.after later) "a" 1 ∧
      again.answer = .ok () ∧ ∃ id, IsExpired again.database "a" id := by
  intro context database later again
  have reached : database.Reached := (Database.Reached.founded .invites ⟨⟨0⟩, true⟩).after _
  have isExpired : IsExpired database "a" 1 :=
    ⟨{ accountId := "a", validUntil := some ⟨7⟩, createdOn := Time.Stamp.ofClock ⟨7⟩,
        deletedOn := some ⟨7⟩ }, by decide +kernel, rfl, rfl⟩
  have spared : ∀ turn ∈ later, turn.request ≠ .deleteAccount (some "a") := by
    simp [later]
  have newest : database.position = some .invites := by decide +kernel
  have isOk : again.answer.isOk = true := by decide +kernel
  have answered : again.answer = .ok () := by
    cases told : again.answer with
    | ok answer => rfl
    | error failure => rw [told] at isOk; cases isOk
  obtain ⟨expires, forGood⟩ := expired_for_good reached newest "a"
  exact ⟨reached, newest, isExpired, spared, forGood 1 isExpired later spared context {}, answered,
    expires none context {} answered⟩

end Account

end Lookout
