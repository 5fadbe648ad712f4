import Lookout.Proofs.Pairing.Records

/-!
# Requests side by side

Every request is followed by its disguise. The answers are the same if nothing is in disguise.
Only the requests that hash a user id make account ids of their own, which no disguise can put
others in the place of.
-/

namespace Lookout

open Disguisable (disguised)
open Operation
open Pairing
open Store

/-- Whether a request hashes a user id to an account id. -/
def Request.hashesUserId : Request → Bool
  | identifyUser .. | acceptInvite .. => true
  | _ => false

namespace Pairing

variable {pairing : Pairing} {context : Context} {α β : Type} {first : Operation α}
  {second : Operation β} {same : α → β → Prop} {before other : Database}

/-- What is left of an operation that answers is what is left of one that follows it. -/
theorem Follows.of_answer (follows : pairing.Follows context first second same)
    (joins : pairing.Joins before other) {draws : Draws} {answer : α}
    (answered : (first.perform context before draws).answer = .ok answer) :
    ∃ reply, (second.perform context other draws).answer = .ok reply ∧ same answer reply ∧
      pairing.Joins (first.perform context before draws).database
        (second.perform context other draws).database ∧
      (second.perform context other draws).log = (first.perform context before draws).log := by
  have ends := follows { saved := before, current := before, draws }
    { saved := other, current := other, draws } ⟨joins, joins, rfl, rfl⟩
  unfold Operation.perform EStateM.run at answered ⊢
  unfold Ends at ends
  cases result : first context { saved := before, current := before, draws } with
  | error failure final =>
      rw [result] at answered
      cases answered
  | ok given final =>
      rw [result] at answered ends
      cases answered
      obtain ⟨reply, last, replied, joined, isSame⟩ := Follows.exists_of_ends ends
      rw [replied]
      exact ⟨reply, rfl, isSame, joined.saved, joined.log⟩

/-- Where failures are followed, what is left of an operation that fails is what is left of one
that follows it. -/
theorem Follows.of_failure (follows : pairing.Follows context first second same)
    (strict : pairing.isStrict) (joins : pairing.Joins before other) {draws : Draws}
    {failure : Failure} (failed : (first.perform context before draws).answer = .error failure) :
    (second.perform context other draws).answer = .error (failure.disguised pairing.disguise) ∧
      pairing.Joins (first.perform context before draws).database
        (second.perform context other draws).database ∧
      (second.perform context other draws).log = (first.perform context before draws).log := by
  have ends := follows { saved := before, current := before, draws }
    { saved := other, current := other, draws } ⟨joins, joins, rfl, rfl⟩
  unfold Operation.perform EStateM.run at failed ⊢
  unfold Ends at ends
  cases result : first context { saved := before, current := before, draws } with
  | ok answer final =>
      rw [result] at failed
      cases failed
  | error given final =>
      rw [result] at failed ends
      cases failed
      have fails := ends strict
      cases replied : second context { saved := other, current := other, draws } with
      | ok answer last =>
          rw [replied] at fails
          exact fails.elim
      | error failure last =>
          rw [replied] at fails
          exact ⟨congrArg Except.error fails.2, fails.1.saved, fails.1.log⟩

/-- Answers that are the same are so without a disguise, too. -/
theorem Follows.plainly {second : Operation α} (follows : pairing.Follows context first second Eq) :
    pairing.Follows context first second fun answer other =>
      pairing.disguise = .plain → HEq answer other :=
  follows.imp fun _ _ same _ => heq_of_eq same

/-- Answers in disguise are the same without one. -/
theorem Follows.plainlyMap {second : Operation α} {change : α → α}
    (follows : pairing.Follows context first second fun answer other => other = change answer)
    (plain : pairing.disguise = .plain → change = id) :
    pairing.Follows context first second fun answer other =>
      pairing.disguise = .plain → HEq answer other := by
  refine follows.imp fun answer other same isPlain => ?_
  rw [same, plain isPlain]
  rfl

end Pairing

/-- Every request is followed by its disguise, those that hash a user id only if nothing is in
disguise. -/
theorem Request.follows {pairing : Pairing} {context : Context} (request : Request)
    (readable : request.hashesUserId = true → pairing.disguise = .plain) :
    pairing.Follows context request.operation (request.disguised pairing.disguise).operation
      fun answer other => pairing.disguise = .plain → HEq answer other := by
  cases request with
  | upsertAccount accountId validUntil =>
      exact .plainly (Account.follows_upsert accountId validUntil)
  | setExpiry accountId validUntil =>
      exact .plainly (Account.follows_setExpiry accountId validUntil)
  | expireAccount accountId date => exact .plainly (Account.follows_expire accountId date)
  | deleteAccount accountId => exact .plainly (Account.follows_delete accountId)
  | findAccount accountId includeDeleted =>
      exact .plainlyMap (Account.follows_lookup accountId includeDeleted) fun isPlain => by
        simp [isPlain]
  | checkAccount accountId moment => exact .plainly (Account.follows_status accountId moment)
  | listBelongings accountId => exact .plainly (Account.follows_belongings accountId)
  | identifyUser userId => exact .plainly (Account.follows_identified userId)
  | registerToken accountId text application kind =>
      exact .plainly (Token.follows_register accountId text application kind)
  | listTokens accountId =>
      exact .plainlyMap (Token.follows_ofAccount accountId) fun isPlain => by simp [isPlain]
  | generateInvites amount date => exact .plainly (Invite.follows_generate amount date)
  | acceptInvite inviteId date =>
      exact .plainly (Invite.follows_accept (readable rfl) inviteId date)
  | sweepInvites date => exact .plainly (Invite.follows_cleanup date)
  | findInvite inviteId =>
      exact .plainly ((Invite.follows_lookup inviteId).imp fun _ _ same => same.1)
  | appendLine draft => exact .plainly (Journal.follows_append draft)
  | appendLines drafts => exact .plainly (Journal.follows_appendAll drafts)
  | readLines limit before => exact .plainly (Journal.follows_newest limit before)
  | recordReply account descriptor replyTo =>
      exact .plainly (Reply.follows_record account descriptor replyTo)
  | recordReplies edges => exact .plainly (Reply.follows_recordAll edges)
  | countAttempt id => exact .plainly (Reply.follows_markAttempt id)
  | countAttempts ids => exact .plainly (Reply.follows_markAttempts ids)
  | deliverReply id date => exact .plainly (Reply.follows_markDelivered id date)
  | deliverReplies accountId ids date =>
      exact .plainly (Reply.follows_markDeliveredFor accountId ids date)
  | pendingReplies limit => exact .plainly (Reply.follows_pending limit)
  | listReplies accountId =>
      exact .plainlyMap (Reply.follows_ofAccount accountId) fun isPlain => by simp [isPlain]
  | subscribe account descriptor application =>
      exact .plainly (Watch.follows_subscribe account descriptor application)
  | unsubscribe account descriptor application =>
      exact .plainly (Watch.follows_unsubscribe account descriptor application)
  | watchPost accountId site board threadNo postNo postSubNo application =>
      exact .plainly
        (Watch.follows_watchPost accountId site board threadNo postNo postSubNo application)
  | listWatches account =>
      exact .plainlyMap (Watch.follows_ofAccount account) fun isPlain => by simp [isPlain]
  | findWatchers descriptors => exact .plainly (Watch.follows_watchers descriptors)
  | resolveDescriptor thread postNo postSubNo =>
      exact .plainly (Descriptor.follows_resolve thread postNo postSubNo)
  | findDescriptor id => exact .plainly (Descriptor.follows_lookup id)
  | listDescriptors thread => exact .plainly (Descriptor.follows_ofThread thread)
  | ensurePost descriptor => exact .plainly (Post.follows_ensure descriptor)
  | markPostDead descriptor => exact .plainly (Post.follows_markDead descriptor)
  | resolveThread site board number =>
      exact .plainly (Thread.follows_resolve site board number)
  | findThread id => exact .plainly (Thread.follows_lookup id)
  | locateThread site board number => exact .plainly (Thread.follows_find site board number)
  | advanceWatermark id postNo postSubNo =>
      exact .plainly (Thread.follows_advance id postNo postSubNo)
  | readWatermark id => exact .plainly (Thread.follows_lastProcessed id)
  | storeLastModified id date => exact .plainly (Thread.follows_storeLastModified id date)
  | readLastModified id => exact .plainly (Thread.follows_lastModified? id)
  | markThreadDead id => exact .plainly (Thread.follows_markDead id)
  | watchedThreads => exact .plainly Thread.follows_watched

/-- Without a disguise a request follows itself, and to the same answer. -/
theorem Request.follows_plain {pairing : Pairing} {context : Context} (request : Request)
    (plain : pairing.disguise = .plain) :
    pairing.Follows context request.operation request.operation Eq := by
  have follows : pairing.Follows context request.operation
      (request.disguised pairing.disguise).operation _ := request.follows fun _ => plain
  have unchanged : request.disguised pairing.disguise = request := by
    rw [plain, Request.disguised_plain]
  generalize request.disguised pairing.disguise = other at follows unchanged
  subst unchanged
  exact follows.imp fun _ _ same => eq_of_heq (same plain)

end Lookout
