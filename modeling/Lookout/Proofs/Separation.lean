import Lookout.Proofs.Persistence
import Lookout.Proofs.Queries

/-!
# Accounts are apart

What is asked for in the name of one account, by its id or by its number, leaves the row of every
other account alone, and what that account owns. So the other account gets the same answers to
questions about itself as before.
-/

namespace Lookout

open Operation Store
open Schema (Column)
open Time (Moment Stamp)

/-- Rows of a kind stay where a row of another kind is put. -/
theorem Database.Inserts.select {α : Type} [Relation α] [LawfulRelation α]
    {before after : Database} {key : List Column} {row : α} {answer : Int × Bool}
    (inserts : before.Inserts key row answer after) {mine : Entry α → Bool}
    (other : ∀ id, mine ⟨id, row⟩ = false) :
    (Relation.read after : Table α).select mine = (Relation.read before).select mine := by
  cases inserts with
  | present found => rfl
  | added absent admitted =>
      rw [Database.added, LawfulRelation.read_write, Table.select_add (other _)]

/-! ### What there is of an account -/

namespace Account

/-- The row of an account, and the rows that it owns. -/
structure Holdings where
  rows : List (Entry Account)
  tokens : List (Entry Token)
  watches : List (Entry Watch)
  replies : List (Entry Reply)

/-- What there is of the account under a number. -/
def holdings (database : Database) (id : Int) : Holdings where
  rows := database.accounts.select fun entry => entry.id = id
  tokens := database.tokens.select fun entry => entry.row.account = id
  watches := database.watches.select fun entry => entry.row.account = id
  replies := database.replies.select fun entry => entry.row.account = id

end Account

namespace Request

/-- Whether a request is made in the name of an account. -/
def isMadeBy (owner : Entry Account) : Request → Prop
  | upsertAccount accountId _ | setExpiry accountId _ | expireAccount accountId _
  | deleteAccount accountId | registerToken accountId _ _ _ | watchPost accountId _ _ _ _ _ _
  | deliverReplies accountId _ _ => accountId = some owner.row.accountId
  | subscribe account _ _ | unsubscribe account _ _ | recordReply account _ _ =>
      account = some owner.id
  | _ => False

/-- Whether a request asks for an account or for what it owns. -/
def isAbout (owner : Entry Account) : Request → Prop
  | findAccount accountId _ | listTokens accountId | listReplies accountId =>
      accountId = some owner.row.accountId
  | listWatches account => account = some owner.id
  | _ => False

end Request

namespace Account

/-- Two accounts are stored in a database of the newest revision. -/
structure AreApart (database : Database) (own other : Entry Account) : Prop where
  newest : database.IsNewest
  isOwn : own ∈ database.accounts.entries
  isOther : other ∈ database.accounts.entries
  different : own.id ≠ other.id

variable {context : Context} {before after : Database} {own other : Entry Account}
  {request : Request} {answer : request.Answer}

namespace AreApart

/-- Who is found by the id of the other account is the other account. -/
theorem eq_other (apart : AreApart before own other) {held : Entry Account}
    (found : before.accounts.find? (isNamed (some other.row.accountId)) = some held) :
    held = other := by
  rw [find?_isNamed apart.newest apart.isOther] at found
  exact (Option.some.inj found).symm

/-- What the other account owns is not owned by the own one. -/
theorem unowned (apart : AreApart before own other) {id : Int} (isOther : id = other.id) :
    decide (id = own.id) = false :=
  decide_eq_false fun isOwn => apart.different (isOwn.symm.trans isOther)

/-- Only the other account has its id. -/
theorem id_of_named (apart : AreApart before own other) {entry : Entry Account}
    (isOne : entry ∈ before.accounts.select (isNamed (some other.row.accountId))) :
    entry.id = other.id := by
  obtain ⟨stored, named⟩ := List.mem_filter.mp isOne
  rw [apart.newest.eq_of_accountId stored apart.isOther (by simpa [isNamed] using named)]

/-- What goes with the other account is not owned by the own one. -/
theorem spared (apart : AreApart before own other) {id : Int}
    (isOwn : decide (id = own.id) = true) :
    (!(before.accounts.select (isNamed (some other.row.accountId))).any fun entry =>
      entry.id = id) = true := by
  simp only [Bool.not_eq_true', List.any_eq_false, decide_eq_true_eq]
  intro entry isOne same
  exact apart.different <|
    (of_decide_eq_true isOwn).symm.trans (same.symm.trans (apart.id_of_named isOne))

/-- A change of the other account is none of the own one. -/
theorem select_updated (apart : AreApart before own other) {held : Entry Account}
    (isOther : held = other) (step : Account → Account) :
    ((before.updated (fun entry => entry.id = held.id) step).accounts.select fun entry =>
      entry.id = own.id) = before.accounts.select fun entry => entry.id = own.id := by
  subst isOther
  refine Table.select_update fun entry _ isHeld => ?_
  have isHeld := of_decide_eq_true isHeld
  exact ⟨apart.unowned isHeld, apart.unowned isHeld⟩

/-- A request in the name of the other account leaves the row of the own one alone. -/
theorem select_accounts (apart : AreApart before own other) (made : request.isMadeBy other)
    (effective : request.Effect context before answer after) :
    (after.accounts.select fun entry => entry.id = own.id) =
      before.accounts.select fun entry => entry.id = own.id := by
  by_cases written : .accounts ∈ request.writes
  · cases request with
    | upsertAccount accountId validUntil =>
        obtain rfl := made
        cases effective with
        | intro prepared inserts =>
            rw [inserts.unchanged apart.isOther (by simp [Relation.alike, Relation.keyOf,
              Relation.cell, fresh])]
    | setExpiry accountId validUntil =>
        obtain ⟨held, found, rfl⟩ := effective
        obtain rfl := made
        exact apart.select_updated (apart.eq_other found) _
    | expireAccount accountId date =>
        obtain ⟨held, found, rfl⟩ := effective
        obtain rfl := made
        exact apart.select_updated (apart.eq_other found) _
    | deleteAccount accountId =>
        obtain ⟨-, rfl⟩ := effective
        obtain rfl := made
        exact Table.select_keep fun entry => apart.spared
    | acceptInvite => exact made.elim
    | _ => simp [Request.writes] at written
  · have same : before.accounts = after.accounts := effective.writes.agree written
    rw [same]

/-- It leaves the tokens alone. -/
theorem select_tokens (apart : AreApart before own other) (made : request.isMadeBy other)
    (effective : request.Effect context before answer after) :
    (after.tokens.select fun entry => entry.row.account = own.id) =
      before.tokens.select fun entry => entry.row.account = own.id := by
  by_cases written : .tokens ∈ request.writes
  · cases request with
    | deleteAccount accountId =>
        obtain ⟨-, rfl⟩ := effective
        obtain rfl := made
        exact Table.select_keep fun entry => apart.spared
    | registerToken accountId text application kind =>
        obtain ⟨held, applicationNo, kindNo, found, -, -, -, registered⟩ := effective
        obtain rfl := made
        obtain rfl := apart.eq_other found
        cases registered with
        | kept found owned => rfl
        | @replaced slot free found =>
            obtain ⟨stored, isSlot⟩ := Table.of_find? found
            simp only [Token.isSlot, Bool.and_eq_true, decide_eq_true_eq] at isSlot
            refine Table.select_update fun entry isStored same => ?_
            rw [before.tokens.eq_of_id_eq isStored stored (of_decide_eq_true same)]
            exact ⟨apart.unowned isSlot.1.1, apart.unowned isSlot.1.1⟩
        | added free absent prepared admitted => exact Table.select_add (apart.unowned rfl)
    | _ => simp [Request.writes] at written
  · have same : before.tokens = after.tokens := effective.writes.agree written
    rw [same]

/-- A watch of the other account is none of the own one. -/
theorem select_watched (apart : AreApart before own other) {middle : Database}
    (same : before.watches = middle.watches) {descriptor application : Option Int} {id : Int}
    (watched : Watch.Inserted middle (some other.id) descriptor application id after) :
    (after.watches.select fun entry => entry.row.account = own.id) =
      before.watches.select fun entry => entry.row.account = own.id := by
  cases watched with
  | intro prepared storable inserts =>
      rw [same]
      exact inserts.select fun id => apart.unowned rfl

/-- It leaves the watches alone. -/
theorem select_watches (apart : AreApart before own other) (made : request.isMadeBy other)
    (effective : request.Effect context before answer after) :
    (after.watches.select fun entry => entry.row.account = own.id) =
      before.watches.select fun entry => entry.row.account = own.id := by
  by_cases written : .watches ∈ request.writes
  · cases request with
    | deleteAccount accountId =>
        obtain ⟨-, rfl⟩ := effective
        obtain rfl := made
        exact Table.select_keep fun entry => apart.spared
    | subscribe account descriptor application =>
        obtain ⟨number, -, watched⟩ := effective
        obtain rfl := made
        exact apart.select_watched rfl watched
    | unsubscribe account descriptor application =>
        obtain ⟨chosen, -, -, rfl⟩ := effective
        obtain rfl := made
        have rest : (before.erased (Watch.isOf (some other.id) descriptor chosen)).watches =
            before.watches.keep fun entry => !Watch.isOf (some other.id) descriptor chosen entry :=
          before.watches.keep_others _
        rw [rest]
        refine Table.select_keep fun entry isOwn => ?_
        rw [Bool.not_eq_true']
        refine Bool.eq_false_iff.mpr fun isGone => ?_
        simp only [Watch.isOf, Bool.and_eq_true, decide_eq_true_eq, Option.some.injEq] at isGone
        rw [apart.unowned isGone.1.1] at isOwn
        cases isOwn
    | watchPost accountId site board threadNo postNo postSubNo application =>
        obtain ⟨number, -, placed⟩ := effective
        obtain rfl := made
        cases placed with
        | intro named valid threaded described posted watched =>
            obtain rfl := apart.eq_other named
            have same : before.Agree _ .watches := ((threaded.agree (by decide)).trans
              (described.agree (by decide))).trans (posted.agree (by decide))
            exact apart.select_watched same watched
    | _ => simp [Request.writes] at written
  · have same : before.watches = after.watches := effective.writes.agree written
    rw [same]

/-- It leaves the replies alone, whatever numbers of replies it gives. -/
theorem select_replies (apart : AreApart before own other) (made : request.isMadeBy other)
    (effective : request.Effect context before answer after) :
    (after.replies.select fun entry => entry.row.account = own.id) =
      before.replies.select fun entry => entry.row.account = own.id := by
  by_cases written : .replies ∈ request.writes
  · cases request with
    | deleteAccount accountId =>
        obtain ⟨-, rfl⟩ := effective
        obtain rfl := made
        exact Table.select_keep fun entry => apart.spared
    | recordReply account descriptor replyTo =>
        obtain ⟨isNew, inserted⟩ := effective
        obtain rfl := made
        cases inserted with
        | intro prepared inserts => exact inserts.select fun id => apart.unowned rfl
    | deliverReplies accountId ids date =>
        obtain ⟨-, rfl⟩ := effective
        obtain rfl := made
        refine Table.select_update fun entry _ isDelivered => ?_
        simp only [Reply.isDeliverableTo, Bool.and_eq_true, List.any_eq_true,
          decide_eq_true_eq] at isDelivered
        obtain ⟨⟨-, owner, isOne, owns⟩, -⟩ := isDelivered
        have isOther := apart.id_of_named isOne
        exact ⟨apart.unowned (owns.symm.trans isOther), apart.unowned (owns.symm.trans isOther)⟩
    | recordReplies | countAttempt | countAttempts | deliverReply => exact made.elim
    | _ => simp [Request.writes] at written
  · have same : before.replies = after.replies := effective.writes.agree written
    rw [same]

/-- What there is of the own account is there as before. -/
theorem holdings_eq (apart : AreApart before own other) (made : request.isMadeBy other)
    (effective : request.Effect context before answer after) :
    holdings after own.id = holdings before own.id := by
  simp only [holdings, apart.select_accounts made effective, apart.select_tokens made effective,
    apart.select_watches made effective, apart.select_replies made effective]

end AreApart

/-- A stored descriptor gives its post the same number for as long as it is there. -/
theorem postNo_eq {id : Int} (there : before.hasRow .descriptors id = true)
    (kept : ∀ entry ∈ before.descriptors.entries, entry ∈ after.descriptors.entries) :
    (after.descriptors.get? id).map (·.row.postNo) =
      (before.descriptors.get? id).map (·.row.postNo) := by
  obtain ⟨entry, stored, rfl⟩ := Table.has_iff.mp there
  rw [Table.get?_of_mem stored, Table.get?_of_mem (kept entry stored)]

/-- Questions about an account are answered from what there is of it. -/
theorem answer_eq_of_holdings (newest : before.IsNewest) (later : after.IsNewest)
    (isOwn : own ∈ before.accounts.entries)
    (same : holdings after own.id = holdings before own.id)
    (kept : ∀ entry ∈ before.descriptors.entries, entry ∈ after.descriptors.entries)
    {query : Request} (about : query.isAbout own) (draws : Draws) :
    (query.operation.perform context after draws).answer =
      (query.operation.perform context before draws).answer := by
  simp only [holdings, Holdings.mk.injEq] at same
  obtain ⟨sameRow, sameTokens, sameWatches, sameReplies⟩ := same
  have isMine : own ∈ before.accounts.select fun entry => entry.id = own.id :=
    List.mem_filter.mpr ⟨isOwn, decide_eq_true rfl⟩
  have stays : own ∈ after.accounts.entries := (List.mem_filter.mp (sameRow ▸ isMine)).1
  cases query with
  | findAccount accountId includeDeleted =>
      obtain rfl := about
      simp only [Request.operation]
      rw [answer_lookup newest isOwn, answer_lookup later stays]
  | listTokens accountId =>
      obtain rfl := about
      simp only [Request.operation]
      rw [Token.answer_ofAccount newest isOwn, Token.answer_ofAccount later stays, sameTokens]
  | listReplies accountId =>
      obtain rfl := about
      simp only [Request.operation]
      rw [Reply.answer_ofAccount newest isOwn, Reply.answer_ofAccount later stays, sameReplies]
      refine congrArg Except.ok (List.map_congr_left fun reply isOne => ?_)
      have stored := (List.mem_filter.mp isOne).1
      rw [postNo_eq (newest.integral.hasRow stored .ownerDescriptorId .descriptors (by decide) rfl)
          kept,
        postNo_eq (newest.integral.hasRow stored .replyToDescriptorId .descriptors (by decide) rfl)
          kept]
  | listWatches account =>
      obtain rfl := about
      simp only [Request.operation]
      rw [Watch.answer_ofAccount newest, Watch.answer_ofAccount later]
      simp only [Option.some.injEq, sameWatches]
      refine ite_congr rfl (fun _ => congrArg Except.ok ?_) fun _ => rfl
      refine List.map_congr_left fun watch isOne => ?_
      obtain ⟨stored, owned⟩ := List.mem_filter.mp isOne
      rw [postNo_eq (newest.integral.hasRow stored .ownerDescriptorId .descriptors (by decide) rfl)
          kept,
        of_decide_eq_true owned, Table.get?_of_mem isOwn, Table.get?_of_mem stays]
  | _ => exact about.elim

/-- Whatever is asked of the services in the name of one account, and however it ends, the row of
every other account is as before, and so are the tokens, watches and replies that it owns and the
answers to questions about it. -/
theorem untouched_by_others {database : Database} (reached : database.Reached)
    (newest : database.position = some .invites) {own other : Entry Account}
    (isOwn : own ∈ database.accounts.entries) (isOther : other ∈ database.accounts.entries)
    (different : own ≠ other) (turn : Turn) (made : turn.request.isMadeBy other) :
    let after := (turn.outcome database).database
    holdings after own.id = holdings database own.id ∧
    ∀ query : Request, query.isAbout own → ∀ (context : Context) (draws : Draws),
      (query.operation.perform context after draws).answer =
        (query.operation.perform context database draws).answer := by
  intro after
  have isNewest := reached.isNewest newest
  have apart : AreApart database own other :=
    ⟨isNewest, isOwn, isOther, fun same => different (Table.eq_of_id_eq _ isOwn isOther same)⟩
  have same : holdings after own.id = holdings database own.id := by
    rcases turn.changes database with unchanged | ⟨answer, effective⟩
    · exact congrArg (holdings · own.id) unchanged
    · exact apart.holdings_eq made effective
  exact ⟨same, fun query about context draws => answer_eq_of_holdings isNewest
    (isNewest.outcome turn) isOwn same (fun entry => turn.mem_descriptors) about draws⟩

/-- One account gives the number of another account's reply for delivery. -/
theorem untouched_by_others_foreign :
    let context : Context := { clock := ⟨7⟩ }
    let database := (Database.atRevision .invites ⟨⟨0⟩, true⟩).after <|
      [.upsertAccount (some "a") (some (Moment.utc ⟨60000000⟩)), .upsertAccount (some "b") none,
        .watchPost (some "a") (some "s") (some "b") (some 1) (some 2) (some 0) (.integer 0),
        .recordReply (some 1) (some 1) (some 1)].map fun request => { request, context }
    let own : Entry Account :=
      ⟨1, { accountId := "a", validUntil := some ⟨60000000⟩, createdOn := Stamp.ofClock ⟨7⟩ }⟩
    let other : Entry Account := ⟨2, { accountId := "b", createdOn := Stamp.ofClock ⟨7⟩ }⟩
    let turn : Turn := { request := .deliverReplies (some "b") (some [some 1]) none, context }
    let query : Request := .listReplies (some "a")
    let after := (turn.outcome database).database
    database.Reached ∧ database.position = some .invites ∧ own ∈ database.accounts.entries ∧
      other ∈ database.accounts.entries ∧ own ≠ other ∧ turn.request.isMadeBy other ∧
      holdings after own.id = holdings database own.id ∧ query.isAbout own ∧
      (query.operation.perform context after {}).answer =
        (query.operation.perform context database {}).answer := by
  intro context database own other turn query after
  have reached : database.Reached := (Database.Reached.founded .invites ⟨⟨0⟩, true⟩).after _
  have newest : database.position = some .invites := by decide +kernel
  have isOwn : own ∈ database.accounts.entries := by decide +kernel
  have isOther : other ∈ database.accounts.entries := by decide +kernel
  have different : own ≠ other := by decide
  obtain ⟨same, answers⟩ := untouched_by_others reached newest isOwn isOther different turn rfl
  exact ⟨reached, newest, isOwn, isOther, different, rfl, same, rfl, answers query rfl context {}⟩

end Account

end Lookout
