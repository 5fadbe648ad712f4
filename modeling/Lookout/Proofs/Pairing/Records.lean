import Lookout.Proofs.Pairing.Accounts
import Lookout.Proofs.Pairing.Board

/-!
# Records side by side

What the operations on the journal, on replies and on watches do in a run they do in the run
beside it. Answers that show the id of an account show the disguise of it.
-/

namespace Lookout

open Disguisable (disguised)
open Operation
open Pairing
open Store
open Time (Moment)

variable {pairing : Pairing} {context : Context}

namespace Journal

theorem follows_insert (draft : Draft)
    (present : pairing.earlier.hasTable .journal = true) :
    pairing.Follows context (insert draft) (insert draft) Eq := by
  refine .bindSame (.neededSame _) fun time => ?_
  exact .bindSame (.neededSame _) fun message => .add _ present

theorem follows_append (draft : Draft) :
    pairing.Follows context (append draft) (append draft) Eq := by
  refine .bind (.require _) fun _ _ present => ?_
  refine .bindSame (follows_insert draft (present _ (.head _))) fun id => ?_
  exact .bindSame .commit fun _ => .pure rfl

theorem follows_insertAll (drafts : List Draft)
    (present : pairing.earlier.hasTable .journal = true) :
    pairing.Follows context (insertAll drafts) (insertAll drafts) Eq := by
  induction drafts with
  | nil => exact .pure rfl
  | cons draft rest ih => exact .bindSame (follows_insert draft present) fun _ => ih

theorem follows_appendAll (drafts : Option (List Draft)) :
    pairing.Follows context (appendAll drafts) (appendAll drafts) Eq := by
  match drafts with
  | none => exact .throw rfl
  | some [] => exact .pure rfl
  | some (draft :: rest) =>
      refine .bind (.require _) fun _ _ present => ?_
      refine .bindSame (follows_insertAll _ (present _ (.head _))) fun _ => ?_
      exact .bindSame .commit fun _ => .pure rfl

theorem follows_newest (limit before : Option Int) :
    pairing.Follows context (newest limit before) (newest limit before) Eq := by
  refine .bind (.require _) fun _ _ _ => .bind (.fits _) fun _ _ _ => ?_
  exact .bindSame (.bareRows fun _ => rfl) fun _ => .pure rfl

end Journal

namespace Reply

theorem follows_insert (account descriptor replyTo : Option Int) :
    pairing.Follows context (insert account descriptor replyTo)
      (insert account descriptor replyTo) Eq := by
  refine .orFail (.bind (.prepareInsertion (by decide)) fun _ _ present => ?_) rfl
  refine .bind (.fits _) fun _ _ _ => ?_
  refine .bindSame (.neededSame account) fun account => ?_
  refine .bindSame (.neededSame descriptor) fun descriptor => ?_
  refine .bindSame (.neededSame replyTo) fun replyTo => ?_
  exact .bindSame .stamp fun stamp => .addUnlessAlike _ _ present

theorem follows_record (account descriptor replyTo : Option Int) :
    pairing.Follows context (record account descriptor replyTo)
      (record account descriptor replyTo) Eq :=
  .bindSame (follows_insert account descriptor replyTo) fun _ =>
    .bindSame .commit fun _ => .pure rfl

theorem follows_edge (value : Value) :
    pairing.Follows context (edge value) (edge value) Eq := by
  unfold edge
  split
  · exact .pure rfl
  · split
    · exact .throw rfl
    · exact .throw rfl
  · exact .throw rfl

theorem follows_insertAll (edges : List Value) (count : Nat) :
    pairing.Follows context (insertAll count edges) (insertAll count edges) Eq := by
  induction edges generalizing count with
  | nil => exact .pure rfl
  | cons value rest ih =>
      refine .bindSame (follows_edge value) fun (account, descriptor, replyTo) => ?_
      exact .bindSame (follows_insert account descriptor replyTo) fun _ => ih _

theorem follows_recordAll (edges : Value) :
    pairing.Follows context (recordAll edges) (recordAll edges) Eq := by
  cases edges with
  | list edges =>
      refine .bindSame (follows_insertAll edges 0) fun count => ?_
      exact .bindSame .commit fun _ => .bindSame (.log rfl) fun _ => .pure rfl
  | _ => exact .throw rfl

theorem follows_markAttempts (ids : Option (List (Option Int))) :
    pairing.Follows context (markAttempts ids) (markAttempts ids) Eq := by
  match ids with
  | none => exact .pure rfl
  | some [] => exact .pure rfl
  | some (id :: rest) =>
      refine .bind (.require _) fun _ _ _ => .bind (.fits _) fun _ _ _ => ?_
      refine .bindSame (.updateWhere (fun _ => rfl) fun _ => rfl) fun count => ?_
      exact .bindSame .commit fun _ => .bindSame (.log rfl) fun _ => .pure rfl

theorem follows_markAttempt (id : Option Int) :
    pairing.Follows context (markAttempt id) (markAttempt id) Eq :=
  .bindSame (follows_markAttempts (some [id])) fun _ =>
    .ite Iff.rfl (fun _ => .throw rfl) fun _ => .pure rfl

theorem follows_markDelivered (id : Option Int) (date : Option Moment) :
    pairing.Follows context (markDelivered id date) (markDelivered id date) Eq := by
  refine .bindSame .now fun now => ?_
  refine .bind (.require _) fun _ _ _ => .bind (.fits _) fun _ _ _ => ?_
  refine .bindSame (.updateWhere (fun _ => rfl) fun _ => rfl) fun count => ?_
  refine .bindSame .commit fun _ => .ite Iff.rfl (fun _ => .pure rfl) fun _ => ?_
  refine .bindSame (.bareRows fun _ => rfl) fun replies => ?_
  refine .ite Iff.rfl (fun _ => ?_) fun _ => .throw rfl
  exact .bindSame (.log rfl) fun _ => .pure rfl

theorem follows_markDeliveredFor (accountId : Option String) (ids : Option (List (Option Int)))
    (date : Option Moment) :
    pairing.Follows context (markDeliveredFor accountId ids date)
      (markDeliveredFor (accountId.map pairing.disguise.accounts) ids date) Eq := by
  match ids with
  | none => exact .pure rfl
  | some [] => exact .pure rfl
  | some (id :: rest) =>
      refine .bindSame .now fun now => ?_
      refine .bind (.require _) fun _ _ _ => .bind (.fits _) fun _ _ _ => ?_
      refine .bindMap .rows fun accounts => ?_
      have owners : ((accounts.map (disguised pairing.disguise)).select fun entry =>
            some entry.row.accountId = accountId.map pairing.disguise.accounts) =
          (accounts.select fun entry => some entry.row.accountId = accountId).map
            (Entry.map (disguised pairing.disguise)) :=
        Table.select_map fun entry => Account.decide_accountId_disguised _ entry accountId
      rw [owners]
      refine .bindSame (.updateWhere (fun reply => ?_) fun _ => rfl) fun count => ?_
      · rw [List.any_map]
        rfl
      refine .bindSame .commit fun _ => ?_
      refine .ite Iff.rfl (fun _ => ?_) fun _ => .pure rfl
      exact .bindSame (.log rfl) fun _ => .pure rfl

theorem follows_pending (limit : Option Int) :
    pairing.Follows context (pending limit) (pending limit) Eq := by
  refine .bindSame .read fun around => ?_
  refine .bind (.require _) fun _ _ _ => .bind (.fits _) fun _ _ _ => ?_
  refine .bind .database fun first second joins => .pure ?_
  have replies : second.replies = first.replies := joins.read_eq Reply fun _ => rfl
  simp only [queue, replies, joins.any_notifiable]

/-- Details of a reply with the id of the account in disguise. -/
def Details.disguised (disguise : Disguise) (details : Details) : Details :=
  { details with accountId := details.accountId.map disguise.accounts }

@[simp] theorem Details.disguised_plain : Details.disguised .plain = id :=
  funext fun details => congrArg (Details.mk details.reply · details.postNo details.replyToPostNo)
    (Option.map_id_apply ..)

theorem follows_ofAccount (accountId : Option String) :
    pairing.Follows context (ofAccount accountId)
      (ofAccount (accountId.map pairing.disguise.accounts))
      fun owned others => others = owned.map (Details.disguised pairing.disguise) := by
  refine .bind (.require _) fun _ _ _ => .bind .database fun first second joins => .pure ?_
  have replies : second.replies = first.replies := joins.read_eq Reply fun _ => rfl
  have descriptors : second.descriptors = first.descriptors := joins.read_eq Descriptor fun _ => rfl
  simp only [replies, descriptors, joins.any_owner, List.map_map]
  rfl

end Reply

namespace Watch

theorem follows_insert (account descriptor application : Option Int) :
    pairing.Follows context (insert account descriptor application)
      (insert account descriptor application) Eq := by
  refine .orFail (.bind (.prepareInsertion (by decide)) fun _ _ present => ?_) rfl
  refine .bind (.fits _) fun _ _ _ => ?_
  refine .bindSame (.neededSame account) fun account => ?_
  refine .bindSame (.neededSame descriptor) fun descriptor => ?_
  refine .bindSame (.neededSame application) fun application => ?_
  exact .bindSame (.addUnlessAlike _ _ present) fun _ => .pure rfl

theorem follows_subscribe (account descriptor : Option Int) (application : Value) :
    pairing.Follows context (subscribe account descriptor application)
      (subscribe account descriptor application) Eq := by
  refine .bindSame (.wholeNumber application) fun application => ?_
  refine .bindSame (follows_insert account descriptor (some application)) fun id => ?_
  exact .bindSame .commit fun _ => .pure rfl

theorem follows_unsubscribe (account descriptor : Option Int) (application : Value) :
    pairing.Follows context (unsubscribe account descriptor application)
      (unsubscribe account descriptor application) Eq := by
  unfold unsubscribe
  extract_lets unsubscribe
  have unsubscribes (application : Option Int) :
      pairing.Follows context (unsubscribe application) (unsubscribe application) Eq := by
    refine .bind (.require _) fun _ _ _ => .bind (.fits _) fun _ _ _ => ?_
    refine .bindSame (.eraseWhere (by decide) fun _ => rfl) fun count => ?_
    exact .bindSame .commit fun _ => .bindSame (.log rfl) fun _ => .pure rfl
  cases application with
  | null => exact unsubscribes none
  | _ => exact .bindSame (.map (.wholeNumber _) fun _ _ same => same ▸ rfl) unsubscribes

theorem follows_watchPost (accountId site board : Option String)
    (threadNo postNo postSubNo : Option Int) (application : Value) :
    pairing.Follows context (watchPost accountId site board threadNo postNo postSubNo application)
      (watchPost (accountId.map pairing.disguise.accounts) site board threadNo postNo postSubNo
        application) Eq := by
  unfold watchPost
  refine .bindMap (Account.follows_lookup accountId true) fun found => ?_
  -- The operation goes on once the account is found, and once it is known to be valid.
  extract_lets enroll enrollOther
  have enrolls (account : Entry Account) : pairing.Follows context (enroll account)
      (enrollOther (account.map (disguised pairing.disguise))) Eq := by
    refine .bindSame .now fun now => ?_
    refine .bindSame (Account.follows_lapseAt account.row now) fun lapse => ?_
    extract_lets place placeOther
    have places : pairing.Follows context (place ()) (placeOther ()) Eq := by
      refine .bindSame (Thread.follows_insert site board threadNo) fun thread => ?_
      refine .bindSame (Descriptor.follows_insert _ _ _) fun descriptor => ?_
      refine .bindSame (Post.follows_insert _) fun _ => ?_
      refine .bindSame (.wholeNumber application) fun application => ?_
      refine .bindSame (follows_insert _ _ _) fun id => .bindSame .commit fun _ => ?_
      exact .bindSame (.log (by simp)) fun _ => .pure rfl
    cases lapse with
    | some lapse =>
        exact .bindSame (.log (by simp)) fun _ => .bind (.throw rfl) fun _ _ => False.elim
    | none => exact places
  cases found with
  | some account => exact enrolls account
  | none => exact .bindSame (.log (by simp)) fun _ => .bind (.throw rfl) fun _ _ => False.elim

/-- Details of a watch with the id of the account in disguise. -/
def Details.disguised (disguise : Disguise) (details : Details) : Details :=
  { details with accountId := details.accountId.map disguise.accounts }

@[simp] theorem Details.disguised_plain : Details.disguised .plain = id :=
  funext fun details => congrArg (Details.mk details.watch · details.postNo)
    (Option.map_id_apply ..)

theorem follows_ofAccount (account : Option Int) :
    pairing.Follows context (ofAccount account) (ofAccount account)
      fun watches others => others = watches.map (Details.disguised pairing.disguise) := by
  refine .bind (.require _) fun _ _ _ => .bind (.fits _) fun _ _ _ => ?_
  refine .bindSame (.bareRows fun _ => rfl) fun watches => ?_
  refine .ite Iff.rfl (fun _ => .pure rfl) fun _ => ?_
  refine .bind (.require _) fun _ _ _ => .bind .database fun first second joins => .pure ?_
  have descriptors : second.descriptors = first.descriptors :=
    joins.read_eq Descriptor fun _ => rfl
  rw [descriptors, joins.accounts, List.map_map]
  refine List.map_congr_left fun watch _ => ?_
  simp only [Table.get?_map, Option.map_map, Function.comp_apply, Details.disguised]
  rfl

/-- The same watchers are found. -/
theorem follows_watchers (descriptors : Option (List (Option Int))) :
    pairing.Follows context (watchers descriptors) (watchers descriptors) Eq := by
  match descriptors with
  | none => exact .pure rfl
  | some [] => exact .pure rfl
  | some (descriptor :: rest) =>
      refine .bind (.require _) fun _ _ _ => .bind (.fits _) fun _ _ _ => ?_
      refine .bind .database fun first second joins => ?_
      refine .bindSame .read fun around => .pure ?_
      have watches : second.watches = first.watches := joins.read_eq Watch fun _ => rfl
      simp only [watches, joins.any_notifiable]

end Watch

end Lookout
