import Lookout.Proofs.Expired
import Lookout.Proofs.Queue
import Lookout.Proofs.WatchParts

/-!
# Instants of expiry

A date of expiry names an instant by its wall-clock time and its offset. The store keeps the time
without the offset, and whoever reads it takes it for universal time. So an account lasts longer
than it was given by as much as its date was ahead of universal time, and two names of one instant
are told apart, unless their offsets are the same or the account has been expired for good.
-/

namespace Lookout

open Operation Store
open Time (Moment WallTime)

/-- The wall-clock time is ahead of the instant by the offset. -/
theorem Time.Moment.instant_add_offset (wall : WallTime) (offset : Int) :
    instant wall offset + offset * 60 * microsPerSecond = wall.micros := by
  unfold instant
  omega

/-- Two names of one instant have the same wall-clock time exactly where they have the same
offset. -/
theorem Time.Moment.offset_eq_iff {first second : WallTime} {firstOffset secondOffset : Int}
    (same : instant first firstOffset = instant second secondOffset) :
    firstOffset = secondOffset ↔ first = second := by
  obtain ⟨firstMicros⟩ := first
  obtain ⟨secondMicros⟩ := second
  simp only [instant, microsPerSecond, WallTime.mk.injEq] at same ⊢
  omega

namespace Account

/-- The ways in which an account is given a date of expiry: a missing one is made with it, and one
that is there, expired or not, gets another. -/
inductive Dating where
  | made
  | changed
  deriving DecidableEq, Repr

namespace Dating

/-- Whether an account can be given a date in a way. -/
def IsOpen (dating : Dating) (database : Database) (accountId : String) : Prop :=
  match dating with
  | made => ∀ account ∈ database.accounts.entries, account.row.accountId ≠ accountId
  | changed => ∃ account ∈ database.accounts.entries, account.row.accountId = accountId

/-- An account is given a date. -/
def turn (dating : Dating) (accountId : String) (date : Moment) (context : Context)
    (draws : Draws) : Turn :=
  match dating with
  | made => { request := .upsertAccount (some accountId) (some date), context, draws }
  | changed => { request := .setExpiry (some accountId) (some date), context, draws }

/-- The database in which an account has been given a date. -/
def dated (dating : Dating) (context : Context) (database : Database) (accountId : String)
    (validUntil : WallTime) : Database :=
  match dating with
  | made => database.added (fresh context accountId (some validUntil))
  | changed => database.updated (isNamed (some accountId)) fun (row : Account) =>
      { row with validUntil := some validUntil }

end Dating

/-- The account under a number is in good standing up to an instant, and watches posts as their
parts say; later it has lapsed. Its watches are found, and its replies are handed out, before that
instant only. -/
structure LastsUntil (database : Database) (accountId : String) (id last : Int) : Prop where
  standing : ∀ (context : Context) (draws : Draws),
    ((status (some accountId) (Moment.utc context.clock)).perform context database draws).answer =
      .ok none ↔ context.clock.micros ≤ last
  admitted : ∀ (context : Context) (draws : Draws) (site board : Option String)
    (threadNo postNo postSubNo : Option Int) (application : Value), context.clock.micros ≤ last →
      ((Watch.watchPost (some accountId) site board threadNo postNo postSubNo application).perform
        context database draws).result =
      Watch.byParts context draws id site board threadNo postNo postSubNo application database
  refused : ∀ (context : Context) (draws : Draws) (site board : Option String)
    (threadNo postNo postSubNo : Option Int) (application : Value), last < context.clock.micros →
      ((Watch.watchPost (some accountId) site board threadNo postNo postSubNo application).perform
        context database draws).IsNotValid
  found : ∀ (context : Context) (draws : Draws) (wanted : List (Option Int))
    (pairs : List (Int × Int)),
    ((Watch.watchers (some wanted)).perform context database draws).answer = .ok pairs →
      ∀ watch ∈ database.watches.entries, watch.row.account = id →
        some watch.row.descriptor ∈ wanted →
          ((watch.row.descriptor, id) ∈ pairs ↔ context.clock.micros < last)
  queued : ∀ (context : Context) (draws : Draws) (replies : List (Entry Reply)),
    ((Reply.pending none).perform context database draws).answer = .ok replies →
      ∀ reply ∈ database.replies.entries, reply.row.account = id →
        reply.row.isWaiting context.settings.deliveryAttempts = true →
          (reply ∈ replies ↔ context.clock.micros < last)

/-- Two databases answer alike whether an account may be notified, whether it may watch posts, and
who is to be notified. -/
structure AnswerAlike (accountId : String) (context : Context) (draws : Draws)
    (left right : Database) : Prop where
  status : ((Account.status (some accountId) (Moment.utc context.clock)).perform context left
      draws).answer =
    ((Account.status (some accountId) (Moment.utc context.clock)).perform context right
      draws).answer
  admission : ∀ (site board : Option String) (threadNo postNo postSubNo : Option Int)
    (application : Value),
    ((Watch.watchPost (some accountId) site board threadNo postNo postSubNo application).perform
        context left draws).answer =
      ((Watch.watchPost (some accountId) site board threadNo postNo postSubNo application).perform
        context right draws).answer
  queued : ∀ limit : Option Int,
    ((Reply.pending limit).perform context left draws).answer =
      ((Reply.pending limit).perform context right draws).answer
  found : ∀ descriptors : Option (List (Option Int)),
    ((Watch.watchers descriptors).perform context left draws).answer =
      ((Watch.watchers descriptors).perform context right draws).answer

variable {context : Context} {database left right : Database} {draws : Draws} {accountId : String}
  {id : Int} {held : Entry Account} {row : Account} {validUntil : WallTime}

namespace AnswerAlike

theorem refl (accountId : String) (context : Context) (draws : Draws) (database : Database) :
    AnswerAlike accountId context draws database database :=
  ⟨rfl, fun _ _ _ _ _ _ => rfl, fun _ => rfl, fun _ => rfl⟩

/-- Databases that answer as a third one answer alike. -/
theorem of_both {middle : Database} (first : AnswerAlike accountId context draws left middle)
    (second : AnswerAlike accountId context draws right middle) :
    AnswerAlike accountId context draws left right where
  status := first.status.trans second.status.symm
  admission site board threadNo postNo postSubNo application :=
    (first.admission site board threadNo postNo postSubNo application).trans
      (second.admission site board threadNo postNo postSubNo application).symm
  queued limit := (first.queued limit).trans (second.queued limit).symm
  found descriptors := (first.found descriptors).trans (second.found descriptors).symm

end AnswerAlike

/-- The standing of a stored account is answered. -/
theorem answer_status (newest : database.IsNewest) (stored : held ∈ database.accounts.entries)
    {moment : Moment} {told : Option Lapse} (isTold : held.row.lapse moment = .ok told) :
    ((status (some held.row.accountId) moment).perform context database draws).answer =
      .ok told := by
  refine Ends.answer_perform (.ok _) ?_
  simp [status, ends_lookup newest stored, lapseAt, isTold]

/-- An account whose date has passed has lapsed on it. -/
theorem lapse_of_passed (standing : row.deletedOn = none)
    (expires : row.validUntil = some validUntil) {clock : WallTime}
    (passed : validUntil.micros < clock.micros) :
    row.lapse (Moment.utc clock) =
      .ok (some (.expired (Moment.utc clock) (Moment.utc validUntil))) := by
  simp [lapse, lapseOf, standing, expires, expiry, Moment.utc, Moment.instant, passed]

/-- In a database of the newest revision the account under a number has a date of expiry, and it has
not been expired. -/
structure HasDate (database : Database) (accountId : String) (id : Int) (validUntil : WallTime) :
    Prop where
  newest : database.IsNewest
  account : database.Has id fun row : Account =>
    row.accountId = accountId ∧ row.deletedOn = none ∧ row.validUntil = some validUntil

namespace HasDate

/-- An account lasts until the date that it has. -/
theorem lastsUntil (hasDate : HasDate database accountId id validUntil) :
    LastsUntil database accountId id validUntil.micros := by
  obtain ⟨newest, row, stored, rfl, standing, expires⟩ := hasDate
  have present : database.missing? [.accounts] = none := newest.missing?_eq_none _
  have named : database.accounts.find? (isNamed (some row.accountId)) = some ⟨id, row⟩ :=
    find?_isNamed newest stored
  have valid (clock : WallTime) : row.lapse (Moment.utc clock) = .ok none ↔
      clock.micros ≤ validUntil.micros := by
    simp [lapse_eq_none_iff, standing, expires]
  have counted (clock : WallTime) : database.counts clock id = true ↔
      (clock.micros : Int) < validUntil.micros := by
    rw [Database.counts_iff stored, isNotifiable, standing, expires]
    simp only [Option.isNone_none, Option.any_some, Bool.true_and, decide_eq_true_eq]
    exact Int.ofNat_lt.symm
  refine ⟨fun context draws => ?_, ?_, ?_, ?_, ?_⟩
  · by_cases before : context.clock.micros ≤ validUntil.micros
    · rw [answer_status newest stored ((valid _).mpr before)]
      simpa using before
    · have lapsed := lapse_of_passed standing expires (Nat.lt_of_not_le before)
      rw [answer_status newest stored lapsed]
      simpa using before
  · intro context draws site board threadNo postNo postSubNo application before
    exact (Watch.result_watchPost present named ((valid _).mpr (Int.ofNat_le.mp before)) :)
  · intro context draws site board threadNo postNo postSubNo application passed
    have lapsed := lapse_of_passed standing expires (Int.ofNat_lt.mp passed)
    exact ⟨_, (Watch.watchPost_lapsed present named lapsed).1, rfl⟩
  · intro context draws wanted pairs answered watch isWatch owned isWanted
    rw [Watch.answer_watchers newest] at answered
    split at answered
    · cases answered
      rw [Watch.mem_found, ← counted]
      exact ⟨fun isFound => isFound.2.2, fun isCounted =>
        ⟨isWanted, ⟨watch, isWatch, rfl, owned⟩, isCounted⟩⟩
    · cases answered
  · intro context draws replies answered reply isReply owned waiting
    rw [Reply.answer_pending newest] at answered
    split at answered
    · cases answered
      change reply ∈ Reply.queue _ _ _ ↔ _
      rw [Reply.mem_queue_iff, Reply.isDue_iff, owned, counted]
      simp [isReply, waiting]
    · cases answered

/-- Once it has passed, the answer names the date that an account has. -/
theorem answer_status (hasDate : HasDate database accountId id validUntil) {clock : WallTime}
    (passed : validUntil.micros < clock.micros) :
    ((status (some accountId) (Moment.utc clock)).perform context database draws).answer =
      .ok (some (.expired (Moment.utc clock) (Moment.utc validUntil))) := by
  obtain ⟨newest, row, stored, rfl, standing, expires⟩ := hasDate
  exact Account.answer_status newest stored (lapse_of_passed standing expires passed)

/-- Two dates are told apart once both of them have passed. -/
theorem eq_of_answerAlike {first second : WallTime} (ofFirst : HasDate left accountId id first)
    (ofSecond : HasDate right accountId id second)
    (firstPassed : first.micros < context.clock.micros)
    (secondPassed : second.micros < context.clock.micros)
    (alike : AnswerAlike accountId context draws left right) : first = second := by
  have answered := alike.status
  rw [ofFirst.answer_status firstPassed, ofSecond.answer_status secondPassed] at answered
  simpa [Moment.utc] using answered

end HasDate

/-- An account that is there is stored with another date. -/
theorem mem_changed {given : Context} (stored : ⟨id, row⟩ ∈ database.accounts.entries)
    (validUntil : WallTime) :
    ⟨id, { row with validUntil := some validUntil }⟩ ∈
      (Dating.changed.dated given database row.accountId validUntil).accounts.entries := by
  have changed := Database.mem_updated stored (isNamed (some row.accountId))
    fun (row : Account) => { row with validUntil := some validUntil }
  have named : isNamed (some row.accountId) ⟨id, row⟩ = true := decide_eq_true rfl
  rwa [if_pos named] at changed

/-- Another date for an expired account makes no difference to whom queries count. -/
theorem counts_changed (newest : database.IsNewest) (expired : IsExpired database accountId id)
    (validUntil clock : WallTime) (owner : Int) :
    (Dating.changed.dated context database accountId validUntil).counts clock owner =
      database.counts clock owner := by
  obtain ⟨row, stored, rfl, isDeleted⟩ := expired
  rw [Bool.eq_iff_iff]
  change ((List.map _ database.accounts.entries).any _ = true) ↔ _
  rw [List.any_map, Database.counts, List.any_eq_true, List.any_eq_true]
  refine exists_congr fun entry => and_congr_right fun isEntry => ?_
  by_cases named : isNamed (some row.accountId) entry = true
  · have same : entry = ⟨id, row⟩ :=
      newest.eq_of_accountId isEntry stored (by simpa [isNamed] using named)
    have gone : row.deletedOn.isNone = false := by simpa using isDeleted
    simp [same, isNamed, isNotifiable, gone]
  · simp [named]

namespace IsExpired

/-- An expired account is told to be deleted. -/
theorem answer_status (newest : database.IsNewest) (expired : IsExpired database accountId id)
    (moment : Moment) :
    ((status (some accountId) moment).perform context database draws).answer =
      .ok (some .deleted) := by
  obtain ⟨row, stored, rfl, isDeleted⟩ := expired
  obtain ⟨date, deletedOn⟩ := Option.isSome_iff_exists.mp isDeleted
  exact Account.answer_status newest stored (by simp [lapse, lapseOf, deletedOn])

/-- An expired account is turned down for being deleted. -/
theorem answer_watchPost (newest : database.IsNewest) (expired : IsExpired database accountId id)
    (site board : Option String) (threadNo postNo postSubNo : Option Int) (application : Value) :
    ((Watch.watchPost (some accountId) site board threadNo postNo postSubNo application).perform
      context database draws).answer = .error (.lapsed .deleted) := by
  obtain ⟨row, stored, rfl, isDeleted⟩ := expired
  obtain ⟨date, deletedOn⟩ := Option.isSome_iff_exists.mp isDeleted
  have lapsed : row.lapse (Moment.utc context.clock) = .ok (some .deleted) := by
    simp [lapse, lapseOf, deletedOn]
  exact (Watch.watchPost_lapsed (newest.missing?_eq_none _) (find?_isNamed newest stored) lapsed).1

/-- Another date does not bring an expired account back. -/
theorem changed {given : Context} (expired : IsExpired database accountId id)
    (validUntil : WallTime) :
    IsExpired (Dating.changed.dated given database accountId validUntil) accountId id := by
  obtain ⟨row, stored, rfl, isDeleted⟩ := expired
  exact ⟨_, mem_changed stored validUntil, rfl, isDeleted⟩

/-- Another date for an expired account makes no difference to the answers. -/
theorem answerAlike_changed (newest : database.IsNewest)
    (expired : IsExpired database accountId id) {validUntil : WallTime} {given : Context}
    (stillNewest : (Dating.changed.dated given database accountId validUntil).IsNewest) :
    AnswerAlike accountId context draws (Dating.changed.dated given database accountId validUntil)
      database := by
  let after := Dating.changed.dated given database accountId validUntil
  have stillExpired : IsExpired after accountId id := expired.changed validUntil
  have counts (owner : Int) : after.counts context.clock owner =
      database.counts context.clock owner :=
    counts_changed newest expired validUntil context.clock owner
  refine ⟨?_, fun site board threadNo postNo postSubNo application => ?_, fun limit => ?_,
    fun descriptors => ?_⟩
  · rw [stillExpired.answer_status stillNewest, expired.answer_status newest]
  · rw [stillExpired.answer_watchPost stillNewest, expired.answer_watchPost newest]
  · have same (attempts : Int) :
        Reply.queue after context.clock attempts =
          Reply.queue database context.clock attempts := by
      have waiting := funext fun entry : Entry Reply => counts entry.row.account
      simp only [Database.counts] at waiting
      simp only [Reply.queue, congrFun waiting]
      rfl
    rw [Reply.answer_pending stillNewest, Reply.answer_pending newest, same]
  · have same (wanted : List (Option Int)) :
        Watch.found after context.clock wanted = Watch.found database context.clock wanted := by
      simp only [Watch.found, counts]
      rfl
    rw [Watch.answer_watchers stillNewest, Watch.answer_watchers newest, same]

end IsExpired

/-- A missing account is made with a date. -/
theorem result_upsert (newest : database.IsNewest)
    (missing : ∀ account ∈ database.accounts.entries, account.row.accountId ≠ accountId)
    (date : Moment) :
    ((upsert (some accountId) (some date)).perform context database draws).result =
      .ok (database.accounts.nextId,
        Dating.made.dated context database accountId date.wall) := by
  let row := fresh context accountId (some date.wall)
  have prepared : database.obstacle? .accounts (some [.accountId]) = none :=
    newest.obstacle?_eq_none (by decide)
  have absent : (Relation.read database : Table Account).find?
      (fun entry => Relation.alike [.accountId] row entry.row) = none := by
    refine List.find?_eq_none.mpr fun entry stored alike => ?_
    have same : row.accountId = entry.row.accountId := by
      simpa [NaturalKey.ofAccount] using NaturalKey.alike_account.mp alike
    exact missing entry stored same.symm
  have admitted : database.refusal? row = none :=
    Database.admitted_of_absent (newest.only_key (by decide)) absent
      fun foreign isForeign => by cases isForeign
  refine result_perform_of_ends ?_
  simp only [upsert, prepared, ends_bind, ends_prepareInsertion, ends_needed, ends_stamp,
    reduceCtorEq, false_implies, implies_true, true_and, Option.some.injEq, forall_eq',
    forall_const]
  refine (Operation.ends_addUnlessAlike _ _).mpr ⟨?_, ?_⟩
  · rintro error ⟨-, refused⟩
    cases admitted.symm.trans refused
  · intro id isNew after inserts
    cases inserts with
    | present found => cases absent.symm.trans found
    | added => exact rfl

/-- An account that is there is given another date. -/
theorem result_setExpiry (newest : database.IsNewest)
    (stored : held ∈ database.accounts.entries) (date : Moment) :
    ((setExpiry (some held.row.accountId) (some date)).perform context database draws).result =
      .ok ((), Dating.changed.dated context database held.row.accountId date.wall) := by
  have same : database.updated (fun entry => entry.id = held.id)
      (fun (row : Account) => { row with validUntil := some date.wall }) =
        Dating.changed.dated context database held.row.accountId date.wall := by
    refine Database.updated_congr fun entry isEntry => ?_
    have isHeld : decide (entry.id = held.id) = isNamed (some held.row.accountId) entry := by
      rw [Bool.eq_iff_iff, decide_eq_true_eq, isNamed, decide_eq_true_eq, Option.some.injEq]
      constructor
      · intro sameId
        rw [database.accounts.eq_of_id_eq isEntry stored sameId]
      · intro sameName
        rw [newest.eq_of_accountId isEntry stored sameName]
    rw [isHeld]
  refine result_perform_of_ends ?_
  simp [setExpiry, ends_demand newest stored, same]

namespace Dating

/-- Giving an account a date in an open way succeeds, and keeps nothing of it but its wall-clock
time. -/
theorem dates (newest : database.IsNewest) {dating : Dating}
    (isOpen : dating.IsOpen database accountId) (date : Moment) (context : Context)
    (draws : Draws) :
    (∃ answer, ((dating.turn accountId date context draws).outcome database).answer =
        .ok answer) ∧
      ((dating.turn accountId date context draws).outcome database).database =
        dating.dated context database accountId date.wall := by
  cases dating with
  | made =>
      obtain ⟨answered, left⟩ := Outcome.result_eq_ok_iff.mp (result_upsert newest isOpen date)
      exact ⟨⟨_, answered⟩, left⟩
  | changed =>
      obtain ⟨held, stored, rfl⟩ := isOpen
      obtain ⟨answered, left⟩ := Outcome.result_eq_ok_iff.mp (result_setExpiry newest stored date)
      exact ⟨⟨_, answered⟩, left⟩

/-- Under one number an account is stored with each date that it is given. It has been expired where
it had been before. -/
theorem exists_dated {dating : Dating} (isOpen : dating.IsOpen database accountId)
    (context : Context) :
    ∃ id, ∀ validUntil, ∃ row,
      ⟨id, row⟩ ∈ (dating.dated context database accountId validUntil).accounts.entries ∧
        row.accountId = accountId ∧ row.validUntil = some validUntil ∧
        (row.deletedOn.isSome = true ↔ IsExpired database accountId id) := by
  cases dating with
  | made =>
      refine ⟨database.accounts.nextId, fun validUntil =>
        ⟨fresh context accountId (some validUntil), List.mem_concat_self, rfl, rfl, ?_⟩⟩
      refine iff_of_false Bool.false_ne_true ?_
      rintro ⟨row, stored, named, -⟩
      exact isOpen _ stored named
  | changed =>
      obtain ⟨⟨id, row⟩, stored, rfl⟩ := isOpen
      refine ⟨id, fun validUntil => ⟨_, mem_changed stored validUntil, rfl, rfl, ?_⟩⟩
      refine ⟨fun isDeleted => ⟨row, stored, rfl, isDeleted⟩, ?_⟩
      rintro ⟨other, isOther, -, isDeleted⟩
      cases database.accounts.eq_of_id_eq isOther stored rfl
      exact isDeleted

end Dating

/-- Of the date that an account is given only the wall-clock time is kept. So an account that has
not been expired lasts longer than up to the instant that it was given, by the offset of the date.
Two names of one instant are told apart by a later answer, unless their offsets are the same or the
account has been expired. -/
theorem expiry_means_instant_iff {database : Database} (reached : database.Reached)
    (newest : database.position = some .invites) {dating : Dating} {accountId : String}
    (isOpen : dating.IsOpen database accountId) {first second : WallTime}
    {firstOffset secondOffset : Int}
    (same : Moment.instant first firstOffset = Moment.instant second secondOffset)
    (context : Context) (draws : Draws) :
    let given (wall : WallTime) (offset : Int) :=
      (dating.turn accountId ⟨wall, some offset⟩ context draws).outcome database
    ∃ id, (∀ wall offset, ∃ answer, (given wall offset).answer = .ok answer) ∧
      (¬IsExpired database accountId id → ∀ wall offset,
        LastsUntil (given wall offset).database accountId id
          (Moment.instant wall offset + offset * 60 * Time.microsPerSecond)) ∧
      ((∀ (later : Context) (moreDraws : Draws), context.clock ≤ later.clock →
          AnswerAlike accountId later moreDraws (given first firstOffset).database
            (given second secondOffset).database) ↔
        firstOffset = secondOffset ∨ IsExpired database accountId id) := by
  intro given
  have newest := reached.isNewest newest
  have left (wall : WallTime) (offset : Int) :
      (given wall offset).database = dating.dated context database accountId wall :=
    (Dating.dates newest isOpen _ context draws).2
  have stillNewest (wall : WallTime) :
      (dating.dated context database accountId wall).IsNewest := by
    rw [← left wall 0]
    exact newest.outcome _
  obtain ⟨id, stored⟩ := Dating.exists_dated isOpen context
  have hasDate (standing : ¬IsExpired database accountId id) (wall : WallTime) :
      HasDate (dating.dated context database accountId wall) accountId id wall := by
    obtain ⟨row, isStored, named, expires, isDeleted⟩ := stored wall
    exact ⟨stillNewest wall, row, isStored, named, by simpa using mt isDeleted.mp standing, expires⟩
  refine ⟨id, fun wall offset => (Dating.dates newest isOpen _ context draws).1, ?_, ?_, ?_⟩
  · intro standing wall offset
    rw [left, Moment.instant_add_offset]
    exact (hasDate standing wall).lastsUntil
  · intro alike
    by_cases expired : IsExpired database accountId id
    · exact .inr expired
    -- At a time after both dates the answers name them.
    let late : Context :=
      { clock := ⟨max context.clock.micros (max first.micros second.micros) + 1⟩ }
    have lateAlike := alike late {} (by change _ ≤ _ + 1; omega)
    rw [left, left] at lateAlike
    refine .inl ((Moment.offset_eq_iff same).mpr ?_)
    exact (hasDate expired first).eq_of_answerAlike (hasDate expired second)
      (by change _ < _ + 1; omega) (by change _ < _ + 1; omega) lateAlike
  · rintro (sameOffset | expired) later moreDraws -
    · rw [left, left, (Moment.offset_eq_iff same).mp sameOffset]
      exact .refl ..
    · rw [left, left]
      cases dating with
      | made =>
          obtain ⟨row, isStored, named, -⟩ := expired
          exact absurd named (isOpen _ isStored)
      | changed =>
          exact .of_both (expired.answerAlike_changed newest (stillNewest first))
            (expired.answerAlike_changed newest (stillNewest second))

/-- The same instant, an hour after the start, two hours ahead of universal time and in universal
time. An hour later the account is in good standing by the one name and has lapsed by the other. -/
theorem expiry_tells_names_apart :
    let given (wall : WallTime) (offset : Int) : Database :=
      ((Dating.made.turn "a" ⟨wall, some offset⟩ { clock := ⟨0⟩ } {}).outcome
        (.atRevision .invites ⟨⟨0⟩, true⟩)).database
    let answer (database : Database) :=
      ((status (some "a") (Moment.utc ⟨7200000000⟩)).perform { clock := ⟨7200000000⟩ } database
        {}).answer
    Moment.instant ⟨10800000000⟩ 120 = Moment.instant ⟨3600000000⟩ 0 ∧
      answer (given ⟨10800000000⟩ 120) = .ok none ∧
      answer (given ⟨3600000000⟩ 0) =
        .ok (some (.expired (Moment.utc ⟨7200000000⟩) (Moment.utc ⟨3600000000⟩))) :=
  ⟨rfl, rfl, rfl⟩

/-- An account that was made without a date gets one that is two hours ahead of universal time. -/
theorem expiry_means_instant_ahead :
    let database := (Database.atRevision .invites ⟨⟨0⟩, true⟩).after
      [{ request := .upsertAccount (some "a") none, context := { clock := ⟨0⟩ } }]
    let given (wall : WallTime) (offset : Int) :=
      ((Dating.changed.turn "a" ⟨wall, some offset⟩ { clock := ⟨0⟩ } {}).outcome database).database
    (∃ id, LastsUntil (given ⟨10800000000⟩ 120) "a" id 10800000000) ∧
      ¬∀ (later : Context) (draws : Draws), AnswerAlike "a" later draws
        (given ⟨10800000000⟩ 120) (given ⟨3600000000⟩ 0) := by
  intro database given
  have reached : database.Reached := .after (.founded .invites _) _
  have isOpen : Dating.changed.IsOpen database "a" := ⟨_, .head _, rfl⟩
  have same : Moment.instant ⟨10800000000⟩ 120 = Moment.instant ⟨3600000000⟩ 0 := rfl
  obtain ⟨id, -, lasts, alike⟩ :=
    expiry_means_instant_iff reached rfl isOpen same { clock := ⟨0⟩ } {}
  have standing : ¬IsExpired database "a" id := by
    rintro ⟨row, stored, -, isDeleted⟩
    cases List.mem_singleton.mp (show _ ∈ [_] from stored)
    cases isDeleted
  refine ⟨⟨id, lasts standing ⟨10800000000⟩ 120⟩, fun answered => ?_⟩
  rcases alike.mp fun later draws _ => answered later draws with sameOffset | expired
  · exact absurd sameOffset (by decide)
  · exact standing expired

end Account

end Lookout
