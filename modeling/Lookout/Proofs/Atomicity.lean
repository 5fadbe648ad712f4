import Lookout.Proofs.Effects.Board
import Lookout.Proofs.Effects.Records

/-!
# Atomicity

A request is answered and has its effect, or it fails and leaves no trace. The one exception
is setting an expiry without a date, which fails after its commit.
-/

namespace Lookout

open Operation Store

variable {context : Context} {database : Database}

namespace Request

/-- Requests that only read. -/
def isReading : Request → Prop
  | findAccount .. | checkAccount .. | listBelongings .. | identifyUser .. | listTokens ..
  | findInvite .. | readLines .. | pendingReplies .. | listReplies .. | listWatches ..
  | findWatchers .. | findDescriptor .. | listDescriptors .. | findThread .. | locateThread ..
  | readWatermark .. | readLastModified .. | watchedThreads => True
  | _ => False

/-- A request that only reads changes nothing. -/
theorem achieves_of_isReading {request : Request} (reading : request.isReading) :
    request.operation.Achieves context database fun _ after => after = database := by
  intro draws
  cases request with
  | findAccount accountId includeDeleted => simp [operation, Account.lookup]
  | checkAccount accountId moment => exact Account.status_achieves accountId moment draws
  | listBelongings accountId =>
      simp only [operation, Account.belongings, ends_bind]
      refine (Account.lookup_prepares accountId).ends rfl ?_
      rintro found middle saved ⟨-, current⟩
      cases found <;> simp [saved]
  | identifyUser userId =>
      simp only [operation, identified, ends_bind, ends_read]
      cases Account.idOfUserId context.settings userId <;> simp
  | listTokens accountId => simp [operation, Token.ofAccount]
  | findInvite inviteId => simp [operation, Invite.lookup]
  | readLines limit before => simp [operation, Journal.newest]
  | pendingReplies limit => simp [operation, Reply.pending]
  | listReplies accountId => simp [operation, Reply.ofAccount]
  | listWatches account => simp [operation, Watch.ofAccount]
  | findWatchers descriptors =>
      simp only [operation, Watch.watchers]
      split <;> simp
  | findDescriptor id =>
      simp only [operation, Descriptor.lookup, ends_bind, ends_require, ends_fits, ends_rows,
        implies_true, true_and]
      intro _ _
      split <;> simp
  | listDescriptors thread => simp [operation, Descriptor.ofThread]
  | findThread id => simp [operation, Thread.lookup]
  | locateThread site board number => simp [operation, Thread.find]
  | readWatermark id =>
      simp only [operation, Thread.lastProcessed, Thread.lookup, ends_bind, ends_require,
        ends_fits, ends_rows, ends_pure, implies_true, true_and]
      intro _ _
      split <;> simp
  | readLastModified id =>
      simp only [operation, Thread.lastModified?, ends_bind]
      exact (Thread.demand_prepares id).ends rfl fun _ _ saved _ => saved
  | watchedThreads => simp [operation, Thread.watched]
  | _ => exact reading.elim

/-- A request that gives the date it needs has its effect where it is answered and leaves no
trace where it fails. -/
theorem achieves {request : Request} (dated : request.isDated) :
    request.operation.Achieves context database (request.Effect context database) := by
  cases request with
  | upsertAccount accountId validUntil => exact Account.upsert_achieves accountId validUntil
  | setExpiry accountId validUntil =>
      obtain ⟨date, rfl⟩ := Option.isSome_iff_exists.mp dated
      exact Account.setExpiry_achieves accountId date
  | expireAccount accountId date => exact Account.expire_achieves accountId date
  | deleteAccount accountId => exact Account.delete_achieves accountId
  | registerToken accountId text application kind =>
      exact Token.register_achieves accountId text application kind
  | generateInvites amount date => exact Invite.generate_achieves amount date
  | acceptInvite inviteId date => exact Invite.accept_achieves inviteId date
  | sweepInvites date => exact Invite.cleanup_achieves date
  | appendLine draft => exact Journal.append_achieves draft
  | appendLines drafts => exact Journal.appendAll_achieves drafts
  | recordReply account descriptor replyTo => exact Reply.record_achieves account descriptor replyTo
  | recordReplies edges => exact Reply.recordAll_achieves edges
  | countAttempt id => exact Reply.markAttempt_achieves id
  | countAttempts ids => exact Reply.markAttempts_achieves ids
  | deliverReply id date => exact Reply.markDelivered_achieves id date
  | deliverReplies accountId ids date => exact Reply.markDeliveredFor_achieves accountId ids date
  | subscribe account descriptor application =>
      exact Watch.subscribe_achieves account descriptor application
  | unsubscribe account descriptor application =>
      exact Watch.unsubscribe_achieves account descriptor application
  | watchPost accountId site board threadNo postNo postSubNo application =>
      exact Watch.watchPost_achieves accountId site board threadNo postNo postSubNo application
  | resolveDescriptor thread postNo postSubNo =>
      exact Descriptor.resolve_achieves thread postNo postSubNo
  | ensurePost descriptor => exact Post.ensure_achieves descriptor
  | markPostDead descriptor => exact Post.markDead_achieves descriptor
  | resolveThread site board number => exact Thread.resolve_achieves site board number
  | advanceWatermark id postNo postSubNo => exact Thread.advance_achieves id postNo postSubNo
  | storeLastModified id date => exact Thread.storeLastModified_achieves id date
  | markThreadDead id => exact Thread.markDead_achieves id
  | _ => exact achieves_of_isReading trivial

end Request

/-- Setting an expiry without a date fails, but the account has lost its expiry by then. -/
theorem Account.setExpiry_undated (accountId : Option String) (draws : Draws) :
    (setExpiry accountId none).Ends context { saved := database, current := database, draws }
      (fun _ _ => False)
      (fun _ final => final.saved = database ∨
        (Request.setExpiry accountId none).Effect context database () final.saved) := by
  rw [setExpiry, ends_bind]
  refine (demand_prepares accountId _).imp ?_ (fun _ _ saved => .inl saved)
  rintro held middle ⟨_, found, rfl⟩
  simp only [ends_bind, ends_updateWhere, ends_commit, ends_throw]
  exact .inr ⟨held, found, rfl⟩

namespace Turn

/-- A turn leaves the database as it was, or its request has had its effect. -/
theorem changes (turn : Turn) (database : Database) :
    (turn.outcome database).database = database ∨
      ∃ answer,
        turn.request.Effect turn.context database answer (turn.outcome database).database := by
  obtain ⟨request, context, draws⟩ := turn
  refine Ends.perform (fun after =>
    after = database ∨ ∃ answer, request.Effect context database answer after) ?_
  by_cases dated : request.isDated
  · refine (Request.achieves dated draws).imp ?_ ?_
    · exact fun answer final effective => .inr ⟨answer, effective⟩
    · exact fun _ _ saved => .inl saved
  · cases request with
    | setExpiry accountId validUntil =>
        cases validUntil with
        | some date => exact absurd rfl dated
        | none =>
            refine (Account.setExpiry_undated accountId draws).imp ?_ ?_
            · exact fun _ _ answered => answered.elim
            · exact fun _ _ left => left.imp id fun effective => ⟨(), effective⟩
    | _ => exact absurd trivial dated

/-- A turn whose request fails leaves the database as it was. -/
theorem database_of_failure (turn : Turn) (dated : turn.request.isDated) (database : Database)
    {failure : Failure} (failed : (turn.outcome database).answer = .error failure) :
    (turn.outcome database).database = database :=
  (Request.achieves dated).of_failure failed

/-- A post is watched for an application whose number cannot be stored: the thread, the
descriptor and the post that were added before are gone again. -/
theorem database_of_failure_watchPost :
    let turn : Turn :=
      { request := .watchPost (some "a") (some "s") (some "b") (some 1) (some 2) (some 0)
          (.integer 9223372036854775808)
        context := { clock := ⟨7⟩ } }
    let database : Database :=
      { Database.atRevision .invites ⟨⟨0⟩, true⟩ with
        accounts := Table.empty.add
          { accountId := "a", validUntil := some ⟨9⟩, createdOn := ⟨⟨0⟩, true⟩ } }
    turn.request.isDated ∧ (turn.outcome database).answer = .error (.store .numberTooLarge) ∧
      (turn.outcome database).database = database := by
  intro turn database
  exact ⟨trivial, rfl, database_of_failure turn trivial database rfl⟩

end Turn

end Lookout
