import Lookout.Proofs.Histories
import Lookout.Proofs.Soundness
import Mathlib.Data.List.Nodup

/-!
# Invitations

An invite opens one account. The user ids that a run has handed out are counted by the invites
that are marked as accepted, and such an invite stays as it is for ever: it cannot be accepted
again, it is not swept, and its id is not made again.
-/

namespace Lookout

open Operation Store
open Time (Moment WallTime)

variable {context : Context} {database before after : Database} {draws : Draws}

namespace Event

/-- Whether a call hands out a user id for an invite id of a kind. -/
def handsOut (kind : Option String → Bool) : Event → Bool
  | ⟨⟨.acceptInvite inviteId date, context, draws⟩, before⟩ =>
      kind inviteId &&
        ((Invite.accept inviteId date).perform context before draws).answer.toOption.join.isSome
  | _ => false

end Event

namespace Database

/-- No two invites of a database have the same id. -/
structure TellsInvites (database : Database) : Prop where
  integral : database.IsIntegral
  unique : [.inviteId] ∈ database.catalog.uniqueKeys .invites

theorem tellsInvites_after (appliedOn : Time.Stamp) (turns : List Turn) :
    ((atRevision .invites appliedOn).after turns).TellsInvites := by
  have keeps := keeps_after (atRevision .invites appliedOn) turns
  refine ⟨keeps.integral (isIntegral_atRevision .invites appliedOn), ?_⟩
  have unique : [.inviteId] ∈ Schema.Revision.invites.catalog.uniqueKeys .invites := by decide
  rw [keeps.catalog]
  exact unique

namespace TellsInvites

variable {entry other : Entry Invite}

theorem nodup (tells : database.TellsInvites) :
    (database.invites.entries.map fun entry => entry.row.inviteId).Nodup :=
  tells.integral.nodup_map tells.unique Invite.inviteId (fun inviteId => [.text inviteId])
    fun _ => rfl

/-- An id names at most one invite. -/
theorem eq_of_inviteId (tells : database.TellsInvites) (stored : entry ∈ database.invites.entries)
    (isOther : other ∈ database.invites.entries)
    (same : entry.row.inviteId = other.row.inviteId) : entry = other :=
  List.inj_on_of_nodup_map tells.nodup stored isOther same

/-- One invite of a database has the id of a stored one. -/
theorem count_inviteId (tells : database.TellsInvites)
    (stored : entry ∈ database.invites.entries) :
    database.invites.count (fun other => other.row.inviteId = entry.row.inviteId) = 1 := by
  have once := List.count_eq_one_of_mem tells.nodup
    (List.mem_map_of_mem (f := fun entry : Entry Invite => entry.row.inviteId) stored)
  rw [List.count, List.countP_map] at once
  exact once

end TellsInvites

end Database

namespace Invite

/-- Whether an invite with an id of a kind has been accepted. -/
def isSpent (kind : Option String → Bool) (entry : Entry Invite) : Bool :=
  entry.row.acceptedOn.isSome && kind (some entry.row.inviteId)

/-- Accepting the invites that are open under an id adds them to those that are spent. -/
theorem count_spent (kind : Option String → Bool) (inviteId : Option String) (date : Moment) :
    (spent before inviteId date).invites.count (isSpent kind) =
      before.invites.count (isSpent kind) +
        before.invites.count fun entry =>
          isOpenFor inviteId date entry && kind (some entry.row.inviteId) := by
  change List.countP _ (List.map _ _) = List.countP _ _ + List.countP _ _
  induction before.invites.entries with
  | nil => rfl
  | cons entry rest ih =>
      simp only [List.map_cons, List.countP_cons, ih]
      cases isOpen : isOpenFor inviteId date entry with
      | false => simp; omega
      | true =>
          have unspent : entry.row.acceptedOn = none := by
            simp only [isOpenFor, Invite.isOpen, Bool.and_eq_true,
              Option.isNone_iff_eq_none] at isOpen
            exact isOpen.2.1
          simp [isSpent, unspent]; omega

/-- Where an id is that of an open invite, it is the only one. -/
theorem count_isOpenFor (tells : before.TellsInvites) (kind : Option String → Bool)
    {inviteId : Option String} {date : Moment}
    (isOpen : before.invites.count (isOpenFor inviteId date) ≠ 0) :
    (before.invites.count fun entry =>
      isOpenFor inviteId date entry && kind (some entry.row.inviteId)) =
        if kind inviteId then 1 else 0 := by
  obtain ⟨entry, stored, opens⟩ := Table.exists_of_count isOpen
  have same {other : Entry Invite} (isOther : isOpenFor inviteId date other = true) :
      some other.row.inviteId = inviteId :=
    of_decide_eq_true (Bool.and_eq_true_iff.mp isOther).1
  have named := same opens
  cases isKind : kind inviteId with
  | false =>
      refine List.countP_eq_zero.mpr fun other _ isOther => ?_
      obtain ⟨otherOpens, otherKind⟩ := Bool.and_eq_true_iff.mp isOther
      rw [same otherOpens, isKind] at otherKind
      cases otherKind
  | true =>
      refine (List.countP_congr fun other isStored => ?_).trans (tells.count_inviteId stored)
      rw [Bool.and_eq_true, decide_eq_true_eq]
      constructor
      · rintro ⟨otherOpens, -⟩
        exact Option.some.inj ((same otherOpens).trans named.symm)
      · intro sameId
        rw [tells.eq_of_inviteId isStored stored sameId, named]
        exact ⟨opens, isKind⟩

/-- Invites that have been made have not been accepted. -/
theorem count_addsAll (kind : Option String → Bool) {expiresOn : WallTime} {ids : List String}
    (adds : before.AddsAll (ids.map (fresh context expiresOn)) after) :
    after.invites.count (isSpent kind) = before.invites.count (isSpent kind) := by
  obtain ⟨new, areRows, same⟩ := adds.entries
  change after.invites.entries = before.invites.entries ++ new at same
  rw [Table.count, Table.count, same, List.countP_append, Nat.add_eq_left, List.countP_eq_zero]
  intro entry isNew isSpent
  have isFresh : entry.row ∈ ids.map (fresh context expiresOn) :=
    areRows ▸ List.mem_map_of_mem isNew
  obtain ⟨_, _, made⟩ := List.mem_map.mp isFresh
  rw [Invite.isSpent, ← made] at isSpent
  cases isSpent

/-- Sweeping spares invites that have been accepted. -/
theorem not_swept {entry : Entry Invite} (stored : entry ∈ before.invites.entries)
    (isAccepted : entry.row.acceptedOn.isSome = true) (date : Moment) :
    ((before.invites.select (isStale date)).any fun gone => gone.id = entry.id) = false := by
  rw [List.any_eq_false]
  intro gone isGone same
  obtain ⟨isStored, stale⟩ := List.mem_filter.mp isGone
  rw [before.invites.eq_of_id_eq isStored stored (of_decide_eq_true same), isStale,
    Bool.and_eq_true, Option.isNone_iff_eq_none] at stale
  rw [stale.1] at isAccepted
  cases isAccepted

end Invite

/-- No other request than one to accept an invite changes which ones have been accepted. -/
theorem Request.Effect.count_isSpent {request : Request} {answer : request.Answer}
    (effective : request.Effect context before answer after)
    (other : ∀ inviteId date, request ≠ .acceptInvite inviteId date)
    (kind : Option String → Bool) :
    after.invites.count (Invite.isSpent kind) = before.invites.count (Invite.isSpent kind) := by
  by_cases written : .invites ∈ request.writes
  · cases request with
    | generateInvites amount date =>
        obtain ⟨expiresOn, -, -, -, adds⟩ := effective
        exact Invite.count_addsAll kind adds
    | sweepInvites date =>
        obtain ⟨-, rfl⟩ := effective
        refine (List.countP_filter).trans (List.countP_congr fun entry stored => ?_)
        rw [Bool.and_eq_true, and_iff_left_iff_imp]
        intro isSpent
        have spared := Invite.not_swept stored (Bool.and_eq_true_iff.mp isSpent).1
        exact Bool.not_eq_true' _ |>.mpr (spared _)
    | acceptInvite inviteId date => exact absurd rfl (other inviteId date)
    | _ => simp [Request.writes] at written
  · have same : before.invites = after.invites := effective.writes.agree written
    rw [same]

/-- An invite is spent exactly where a user id is handed out. -/
theorem Invite.Accepted.count_isSpent {inviteId userId : Option String} {date : Moment}
    (accepted : Accepted context before inviteId date userId after) (tells : before.TellsInvites)
    (kind : Option String → Bool) :
    after.invites.count (isSpent kind) =
      before.invites.count (isSpent kind) + if kind inviteId && userId.isSome then 1 else 0 := by
  cases accepted with
  | refused closed => simp
  | opened isOpen =>
      rw [Option.isSome_some, Bool.and_true, ← count_isOpenFor tells kind isOpen]
      exact count_spent kind inviteId date

/-- Each call that hands out a user id spends one invite, and no other turn does. -/
theorem Event.count_isSpent {event : Event} (tells : event.before.TellsInvites)
    (kind : Option String → Bool) :
    event.after.invites.count (Invite.isSpent kind) =
      event.before.invites.count (Invite.isSpent kind) + if event.handsOut kind then 1 else 0 := by
  by_cases other : ∀ inviteId date, event.turn.request ≠ .acceptInvite inviteId date
  · have same : event.after.invites.count (Invite.isSpent kind) =
        event.before.invites.count (Invite.isSpent kind) := by
      rcases event.turn.changes event.before with unchanged | ⟨answer, effective⟩
      · exact congrArg (·.invites.count (Invite.isSpent kind)) unchanged
      · exact effective.count_isSpent other kind
    have silent : event.handsOut kind = false := by
      obtain ⟨⟨request, context, draws⟩, before⟩ := event
      cases request with
      | acceptInvite inviteId date => exact absurd rfl (other inviteId date)
      | _ => rfl
    simp [same, silent]
  · push Not at other
    obtain ⟨inviteId, date, isAcceptance⟩ := other
    obtain ⟨⟨request, context, draws⟩, before⟩ := event
    cases isAcceptance
    let turn : Turn := ⟨.acceptInvite inviteId date, context, draws⟩
    rcases turn.ends trivial before with ⟨userId, answered, effective⟩ | ⟨failure, answered, same⟩
    · have told : ((Invite.accept inviteId date).perform context before draws).answer =
        .ok userId := answered
      have hands : handsOut kind ⟨turn, before⟩ = (kind inviteId && userId.isSome) := by
        simp only [turn, handsOut, told, Except.toOption, Option.join_some]
      rw [hands]
      exact Invite.Accepted.count_isSpent effective tells kind
    · have failed : ((Invite.accept inviteId date).perform context before draws).answer =
        .error failure := answered
      have silent : handsOut kind ⟨turn, before⟩ = false := by
        simp [turn, handsOut, failed, Except.toOption]
      rw [silent]
      exact congrArg (·.invites.count (Invite.isSpent kind)) same

/-- An invite that has been accepted stays as it is. -/
theorem Turn.mem_invites (turn : Turn) {entry : Entry Invite}
    (stored : entry ∈ database.invites.entries)
    (isAccepted : entry.row.acceptedOn.isSome = true) :
    entry ∈ (turn.outcome database).database.invites.entries := by
  rcases turn.changes database with same | ⟨answer, effective⟩
  · rwa [same]
  · generalize (turn.outcome database).database = after at effective
    by_cases written : .invites ∈ turn.request.writes
    · obtain ⟨request, context, draws⟩ := turn
      cases request with
      | generateInvites amount date =>
          obtain ⟨expiresOn, -, -, -, adds⟩ := effective
          obtain ⟨new, -, same⟩ := adds.entries
          exact same ▸ List.mem_append_left new stored
      | sweepInvites date =>
          obtain ⟨-, rfl⟩ := effective
          have spared := Invite.not_swept stored isAccepted
          exact List.mem_filter.mpr ⟨stored, Bool.not_eq_true' _ |>.mpr (spared _)⟩
      | acceptInvite inviteId date =>
          cases effective with
          | refused closed => exact stored
          | opened =>
              have kept := Database.mem_updated stored
                (Invite.isOpenFor inviteId (context.moment date))
                fun row => { row with acceptedOn := some (context.moment date).wall }
              have closed : Invite.isOpenFor inviteId (context.moment date) entry = false := by
                simp [Invite.isOpenFor, Invite.isOpen, Option.ne_none_iff_isSome.mpr isAccepted]
              rw [closed] at kept
              exact kept
      | _ => simp [Request.writes] at written
    · have same : database.invites = after.invites := effective.writes.agree written
      exact same ▸ stored

/-- Rows that the store takes have other invite ids than those that are there. -/
theorem Database.AddsAll.inviteId_ne {rows : List Invite} {entry : Entry Invite}
    (adds : before.AddsAll rows after)
    (unique : [.inviteId] ∈ before.catalog.uniqueKeys .invites)
    (stored : entry ∈ before.invites.entries) :
    ∀ row ∈ rows, row.inviteId ≠ entry.row.inviteId := by
  induction adds with
  | nil database => exact fun _ isRow => absurd isRow List.not_mem_nil
  | @cons before after row rows admitted rest ih =>
      intro other isOther same
      rcases List.mem_cons.mp isOther with rfl | later
      · have unlike := (unlike_and_rooted_of_admitted admitted).1 _ unique entry stored
        have alike : Relation.alike [.inviteId] other entry.row = true :=
          Relation.alike_iff.mpr ⟨[.text entry.row.inviteId], by rw [← same]; rfl, rfl⟩
        rw [unlike] at alike
        cases alike
      · exact ih unique (mem_added stored row) other later same

/-- Ids of invites that are there are not made again. -/
theorem Invite.not_mem_of_generate {amount : Option Int} {date : Option Moment}
    {ids : List String} {entry : Entry Invite} (tells : database.TellsInvites)
    (stored : entry ∈ database.invites.entries)
    (answered : ((generate amount date).perform context database draws).answer = .ok ids) :
    entry.row.inviteId ∉ ids := by
  obtain ⟨expiresOn, -, -, -, adds⟩ := (generate_achieves amount date).of_answer answered
  intro isMade
  exact adds.inviteId_ne tells.unique stored _ (List.mem_map_of_mem isMade) rfl

namespace Invite

/-- The user ids that a run has handed out are counted by the invites that are spent. -/
theorem count_isSpent_after (appliedOn : Time.Stamp) (turns : List Turn)
    (kind : Option String → Bool) :
    ((Database.atRevision .invites appliedOn).after turns).invites.count (isSpent kind) =
      ((Database.atRevision .invites appliedOn).history turns).countP (·.handsOut kind) := by
  let spent (database : Database) : Nat := database.invites.count (isSpent kind)
  have counts : spent ((Database.atRevision .invites appliedOn).after turns) =
      spent (Database.atRevision .invites appliedOn) +
        ((Database.atRevision .invites appliedOn).history turns).countP (·.handsOut kind) := by
    refine Database.countP_history spent fun event happened => ?_
    obtain ⟨earlier, -, -, found⟩ := Database.before_of_mem_history happened
    exact Event.count_isSpent (found ▸ Database.tellsInvites_after appliedOn earlier) kind
  have nothing : spent (Database.atRevision .invites appliedOn) = 0 := rfl
  rwa [nothing, Nat.zero_add] at counts

/-- Of an id at most one invite is spent. -/
theorem count_isSpent_le_one (tells : database.TellsInvites) (inviteId : String) :
    database.invites.count (isSpent fun given => given = some inviteId) ≤ 1 := by
  by_cases nothing : database.invites.count (isSpent fun given => given = some inviteId) = 0
  · rw [nothing]
    exact Nat.zero_le 1
  · have named {entry : Entry Invite}
        (spent : isSpent (fun given => given = some inviteId) entry = true) :
        entry.row.inviteId = inviteId :=
      Option.some.inj (of_decide_eq_true (Bool.and_eq_true_iff.mp spent).2)
    obtain ⟨entry, stored, spent⟩ := Table.exists_of_count nothing
    rw [← tells.count_inviteId stored]
    refine List.countP_mono_left fun other _ isOther => ?_
    exact decide_eq_true ((named isOther).trans (named spent).symm)

/-- No run changes an invite that has been accepted. -/
theorem mem_invites_after {entry : Entry Invite} (stored : entry ∈ database.invites.entries)
    (isAccepted : entry.row.acceptedOn.isSome = true) (turns : List Turn) :
    entry ∈ (database.after turns).invites.entries := by
  have kept (turn : Turn) (before : Database) (stored : entry ∈ before.invites.entries) :
      entry ∈ (turn.outcome before).database.invites.entries :=
    turn.mem_invites stored isAccepted
  exact Database.after_of_kept kept stored turns

/-- In every run that starts without rows, at most one call hands out a user id for an invite id,
and as many are handed out in all as invites are marked as accepted. An invite that has been
accepted is there ever after just as it is then, and its id is not made again. -/
theorem accepted_once (appliedOn : Time.Stamp) (turns : List Turn) :
    let database := Database.atRevision .invites appliedOn
    (∀ inviteId : String,
      (database.history turns).countP (·.handsOut fun given => given = some inviteId) ≤ 1) ∧
    (database.history turns).countP (·.handsOut fun _ => true) =
      (database.after turns).invites.count (fun entry => entry.row.acceptedOn.isSome) ∧
    ∀ (earlier : List Turn) (turn : Turn) (inviteId : String),
      Event.handsOut (fun given => given = some inviteId) ⟨turn, database.after earlier⟩ = true →
      ∃ entry : Entry Invite,
        entry.row.inviteId = inviteId ∧ entry.row.acceptedOn.isSome = true ∧
        ∀ rest : List Turn,
          entry ∈ (database.after (earlier ++ turn :: rest)).invites.entries ∧
          ∀ amount date context draws ids,
            ((generate amount date).perform context
              (database.after (earlier ++ turn :: rest)) draws).answer = .ok ids →
            inviteId ∉ ids := by
  intro database
  have tells := Database.tellsInvites_after appliedOn
  refine ⟨fun inviteId => ?_, ?_, ?_⟩
  · rw [← count_isSpent_after]
    exact count_isSpent_le_one (tells turns) inviteId
  · rw [← count_isSpent_after]
    exact List.countP_congr fun entry _ => by rw [isSpent, Bool.and_true]
  · intro earlier turn inviteId hands
    let event : Event := ⟨turn, database.after earlier⟩
    have counts : event.after.invites.count (isSpent fun given => given = some inviteId) =
        event.before.invites.count _ + _ := Event.count_isSpent (tells earlier) _
    rw [if_pos hands] at counts
    obtain ⟨entry, stored, spent⟩ :=
      Table.exists_of_count (counts.trans_ne (Nat.succ_ne_zero _))
    obtain ⟨isAccepted, named⟩ := Bool.and_eq_true_iff.mp spent
    have isNamed : entry.row.inviteId = inviteId := Option.some.inj (of_decide_eq_true named)
    refine ⟨entry, isNamed, isAccepted, fun rest => ?_⟩
    have stays : entry ∈ (database.after (earlier ++ turn :: rest)).invites.entries := by
      rw [Database.after_append]
      exact mem_invites_after stored isAccepted rest
    refine ⟨stays, fun amount date context draws ids answered => ?_⟩
    exact isNamed ▸ not_mem_of_generate (tells _) stays answered

end Invite

end Lookout
