import Lookout.Proofs.Deletion
import Lookout.Proofs.Histories
import Lookout.Proofs.Persistence

/-!
# Deleted accounts and their successors

The number of a deleted account may be free, and the next account may get it. Since an account is
deleted with what it owns, and no row names an account that does not exist, the new account owns
nothing, whatever number it gets, until something is registered for it.
-/

namespace Lookout

open Operation Store
open Time (Moment)

variable {context : Context} {database before after : Database} {draws : Draws}
  {accountId : Option String}

/-! ### What is registered -/

/-- An account owns something. -/
def Database.Owns (database : Database) (id : Int) : Prop :=
  (∃ token ∈ database.tokens.entries, token.row.account = id) ∨
    (∃ reply ∈ database.replies.entries, reply.row.account = id) ∨
    ∃ watch ∈ database.watches.entries, watch.row.account = id

instance (database : Database) (id : Int) : Decidable (database.Owns id) :=
  inferInstanceAs (Decidable (_ ∨ _ ∨ _))

/-- Whether a request registers something for the account under a number. -/
def Request.Registers (before : Database) (id : Int) : Request → Prop
  | registerToken accountId .. | watchPost accountId .. => before.IsOwner accountId id
  | recordReply account .. | subscribe account .. => account = some id
  | recordReplies edges => ∃ values account descriptor replyTo, edges = .list values ∧
      .list [account, descriptor, replyTo] ∈ values ∧ account.integer? = some id
  | _ => False

/-- What is there after a row has been put was there or is this row. -/
theorem Database.Inserts.mem {α : Type} [Relation α] [LawfulRelation α]
    {key : List Schema.Column} {row : α} {answer : Int × Bool}
    (inserts : before.Inserts key row answer after) {entry : Entry α}
    (stored : entry ∈ (Relation.read after : Table α).entries) :
    entry ∈ (Relation.read before : Table α).entries ∨ entry.row = row := by
  cases inserts with
  | present found => exact .inl stored
  | added absent admitted =>
      rw [Database.added, LawfulRelation.read_write, Table.entries_add] at stored
      exact (List.mem_append.mp stored).imp_right fun isNew =>
        congrArg Entry.row (List.mem_singleton.mp isNew)

/-- What is there after an update was there before, with the same in what the update leaves
alone. -/
theorem Database.mem_of_updated {α β : Type} [Relation α] [LawfulRelation α]
    {wanted : Entry α → Bool} {step : α → α} {entry : Entry α}
    (stored : entry ∈ (Relation.read (before.updated wanted step) : Table α).entries)
    (part : α → β) (stays : ∀ row, part (step row) = part row) :
    ∃ old ∈ (Relation.read before : Table α).entries,
      old.id = entry.id ∧ part old.row = part entry.row := by
  rw [Database.updated, LawfulRelation.read_write, Table.entries_update] at stored
  obtain ⟨old, isOld, rfl⟩ := List.mem_map.mp stored
  refine ⟨old, isOld, ?_⟩
  split
  · exact ⟨rfl, (stays old.row).symm⟩
  · exact ⟨rfl, rfl⟩

theorem Reply.Inserted.owner {account descriptor replyTo : Option Int} {answer : Int × Bool}
    (inserted : Inserted context before account descriptor replyTo answer after)
    {reply : Entry Reply} (stored : reply ∈ after.replies.entries) :
    reply ∈ before.replies.entries ∨ account = some reply.row.account := by
  cases inserted with
  | intro prepared inserts =>
      refine (inserts.mem stored).imp_right fun isNew => ?_
      rw [isNew]

theorem Reply.InsertedAll.owner {values : List Value} {count : Nat}
    (inserted : InsertedAll context before values count after) {reply : Entry Reply}
    (stored : reply ∈ after.replies.entries) :
    reply ∈ before.replies.entries ∨ ∃ account descriptor replyTo : Value,
      .list [account, descriptor, replyTo] ∈ values ∧
        account.integer? = some reply.row.account := by
  induction inserted with
  | nil database => exact .inl stored
  | cons first others ih =>
      rcases ih stored with old | ⟨account, descriptor, replyTo, isLater, named⟩
      · exact (first.owner old).imp_right fun named => ⟨_, _, _, .head _, named⟩
      · exact .inr ⟨account, descriptor, replyTo, .tail _ isLater, named⟩

theorem Watch.Inserted.owner {account descriptor application : Option Int} {id : Int}
    (inserted : Inserted before account descriptor application id after) {watch : Entry Watch}
    (stored : watch ∈ after.watches.entries) :
    watch ∈ before.watches.entries ∨ account = some watch.row.account := by
  cases inserted with
  | intro prepared storable inserts =>
      refine (inserts.mem stored).imp_right fun isNew => ?_
      rw [isNew]

namespace Request.Effect

variable {request : Request} {answer : request.Answer} {id : Int}

/-- Whose token there is owned something before or gets something registered. -/
theorem owner_token (effective : request.Effect context before answer after)
    {token : Entry Token} (stored : token ∈ after.tokens.entries) :
    before.Owns token.row.account ∨ request.Registers before token.row.account := by
  have kept (isOld : token ∈ before.tokens.entries) : before.Owns token.row.account :=
    .inl ⟨token, isOld, rfl⟩
  by_cases written : .tokens ∈ request.writes
  · cases request with
    | deleteAccount accountId =>
        obtain ⟨-, rfl⟩ := effective
        exact .inl (kept (List.mem_filter.mp stored).1)
    | registerToken accountId text application kind =>
        obtain ⟨held, applicationNo, kindNo, found, -, -, -, registered⟩ := effective
        obtain ⟨isHeld, named⟩ := Table.of_find? found
        cases registered with
        | kept found owned => exact .inl (kept stored)
        | replaced free found =>
            have isChanged : token ∈ (Relation.read (before.updated _ _) : Table Token).entries :=
              stored
            obtain ⟨old, isOld, -, same⟩ :=
              Database.mem_of_updated isChanged Token.account fun _ => rfl
            exact .inl (.inl ⟨old, isOld, same⟩)
        | added free absent prepared admitted =>
            rcases List.mem_append.mp stored with old | new
            · exact .inl (kept old)
            · rw [List.mem_singleton.mp new]
              exact .inr ⟨held, isHeld, rfl, of_decide_eq_true named⟩
    | _ => simp [Request.writes] at written
  · have same : before.tokens = after.tokens := effective.writes.agree written
    exact .inl (kept (same ▸ stored))

/-- So did whose reply there is. -/
theorem owner_reply (effective : request.Effect context before answer after)
    {reply : Entry Reply} (stored : reply ∈ after.replies.entries) :
    before.Owns reply.row.account ∨ request.Registers before reply.row.account := by
  have kept (isOld : reply ∈ before.replies.entries) : before.Owns reply.row.account :=
    .inr (.inl ⟨reply, isOld, rfl⟩)
  have changed {wanted : Entry Reply → Bool} {step : Reply → Reply}
      (stored : reply ∈ (before.updated wanted step).replies.entries)
      (stays : ∀ row, (step row).account = row.account) : before.Owns reply.row.account := by
    obtain ⟨old, isOld, -, same⟩ := Database.mem_of_updated stored Reply.account stays
    exact .inr (.inl ⟨old, isOld, same⟩)
  by_cases written : .replies ∈ request.writes
  · cases request with
    | deleteAccount accountId =>
        obtain ⟨-, rfl⟩ := effective
        exact .inl (kept (List.mem_filter.mp stored).1)
    | recordReply account descriptor replyTo =>
        obtain ⟨isNew, inserted⟩ := effective
        exact (inserted.owner stored).imp_left kept
    | recordReplies edges =>
        obtain ⟨values, rfl, inserted⟩ := effective
        refine (inserted.owner stored).imp kept ?_
        rintro ⟨account, descriptor, replyTo, isOne, named⟩
        exact ⟨values, account, descriptor, replyTo, rfl, isOne, named⟩
    | countAttempt | countAttempts | deliverReplies =>
        obtain ⟨-, rfl⟩ := effective
        exact .inl (changed stored fun _ => rfl)
    | deliverReply id date =>
        obtain ⟨-, -, rfl⟩ := effective
        exact .inl (changed stored fun _ => rfl)
    | _ => simp [Request.writes] at written
  · have same : before.replies = after.replies := effective.writes.agree written
    exact .inl (kept (same ▸ stored))

/-- So did who watches. -/
theorem owner_watch (effective : request.Effect context before answer after)
    {watch : Entry Watch} (stored : watch ∈ after.watches.entries) :
    before.Owns watch.row.account ∨ request.Registers before watch.row.account := by
  have kept (isOld : watch ∈ before.watches.entries) : before.Owns watch.row.account :=
    .inr (.inr ⟨watch, isOld, rfl⟩)
  by_cases written : .watches ∈ request.writes
  · cases request with
    | deleteAccount accountId =>
        obtain ⟨-, rfl⟩ := effective
        exact .inl (kept (List.mem_filter.mp stored).1)
    | unsubscribe account descriptor application =>
        obtain ⟨_, -, -, rfl⟩ := effective
        exact .inl (kept (List.mem_filter.mp stored).1)
    | subscribe account descriptor application =>
        obtain ⟨number, -, inserted⟩ := effective
        exact (inserted.owner stored).imp_left kept
    | watchPost accountId site board threadNo postNo postSubNo application =>
        obtain ⟨number, -, placed⟩ := effective
        cases placed with
        | intro named valid threaded described posted watched =>
            have same : before.Agree _ .watches := ((threaded.agree (by decide)).trans
              (described.agree (by decide))).trans (posted.agree (by decide))
            obtain ⟨isOwner, isNamed⟩ := Table.of_find? named
            refine (watched.owner stored).imp (fun old => ?_) fun isAccount => ?_
            · exact kept ((show before.watches = _ from same) ▸ old)
            · exact ⟨_, isOwner, Option.some.inj isAccount, of_decide_eq_true isNamed⟩
    | _ => simp [Request.writes] at written
  · have same : before.watches = after.watches := effective.writes.agree written
    exact .inl (kept (same ▸ stored))

/-- Who owns something after a request owned something before or gets something registered. -/
theorem owns (effective : request.Effect context before answer after) (owns : after.Owns id) :
    before.Owns id ∨ request.Registers before id := by
  rcases owns with ⟨token, stored, rfl⟩ | ⟨reply, stored, rfl⟩ | ⟨watch, stored, rfl⟩
  · exact effective.owner_token stored
  · exact effective.owner_reply stored
  · exact effective.owner_watch stored

/-- An account was there before under its number and id, or its number was not in use. -/
theorem account_before (effective : request.Effect context before answer after)
    {held : Entry Account} (stored : held ∈ after.accounts.entries) :
    before.IsOwner (some held.row.accountId) held.id ∨ before.accounts.has held.id = false := by
  have kept (isOld : held ∈ before.accounts.entries) :
      before.IsOwner (some held.row.accountId) held.id := ⟨held, isOld, rfl, rfl⟩
  have changed {wanted : Entry Account → Bool} {step : Account → Account}
      (stored : held ∈ (before.updated wanted step).accounts.entries)
      (stays : ∀ row, (step row).accountId = row.accountId) :
      before.IsOwner (some held.row.accountId) held.id := by
    obtain ⟨old, isOld, isIt, same⟩ := Database.mem_of_updated stored Account.accountId stays
    exact ⟨old, isOld, isIt, congrArg some same⟩
  have free : before.accounts.has before.accounts.nextId = false := by
    rw [← Bool.not_eq_true, Table.has_iff]
    rintro ⟨entry, isEntry, same⟩
    exact absurd (before.accounts.id_lt_nextId isEntry) (by omega)
  by_cases written : .accounts ∈ request.writes
  · cases request with
    | upsertAccount accountId validUntil =>
        cases effective with
        | intro prepared inserts =>
            cases inserts with
            | present found => exact .inl (kept stored)
            | added absent admitted =>
                rcases List.mem_append.mp stored with old | new
                · exact .inl (kept old)
                · rw [List.mem_singleton.mp new]
                  exact .inr free
    | setExpiry accountId validUntil =>
        obtain ⟨_, -, rfl⟩ := effective
        exact .inl (changed stored fun _ => rfl)
    | expireAccount accountId date =>
        obtain ⟨_, -, rfl⟩ := effective
        exact .inl (changed stored fun _ => rfl)
    | deleteAccount accountId =>
        obtain ⟨-, rfl⟩ := effective
        exact .inl (kept (List.mem_filter.mp stored).1)
    | acceptInvite inviteId date =>
        cases effective with
        | refused closed => exact .inl (kept stored)
        | opened isOpen identified free' trial prepared admitted =>
            rcases List.mem_append.mp stored with old | new
            · exact .inl (kept old)
            · rw [List.mem_singleton.mp new]
              exact .inr free
    | _ => simp [Request.writes] at written
  · have same : before.accounts = after.accounts := effective.writes.agree written
    exact .inl (kept (same ▸ stored))

end Request.Effect

/-! ### Owning nothing -/

/-- An account that owns something exists. -/
theorem Database.IsIntegral.has_owner (integral : database.IsIntegral) {id : Int}
    (owns : database.Owns id) : database.accounts.has id = true := by
  rcases owns with ⟨token, stored, rfl⟩ | ⟨reply, stored, rfl⟩ | ⟨watch, stored, rfl⟩
  · exact integral.hasRow stored .ownerAccountId .accounts (by decide) rfl
  · exact integral.hasRow stored .ownerAccountId .accounts (by decide) rfl
  · exact integral.hasRow stored .ownerAccountId .accounts (by decide) rfl

/-- A request that registers something leaves the accounts alone. -/
theorem Request.Registers.accounts_not_written {request : Request} {id : Int}
    (registers : request.Registers before id) : .accounts ∉ request.writes := by
  cases request <;> first | exact registers.elim | simp [Request.writes]

/-- A turn changes nothing, or it has its effect and is answered if it registers something. -/
theorem Turn.answers_of_registers (turn : Turn) (database : Database) :
    (turn.outcome database).database = database ∨
      ∃ answer, turn.request.Effect turn.context database answer (turn.outcome database).database ∧
        ∀ id, turn.request.Registers database id → (turn.outcome database).answer.isOk = true := by
  by_cases dated : turn.request.isDated
  · rcases turn.ends dated database with ⟨answer, answered, effective⟩ | ⟨_, _, same⟩
    · exact .inr ⟨answer, effective, fun _ _ => by rw [answered]; rfl⟩
    · exact .inl same
  · refine (turn.changes database).imp_right fun ⟨answer, effective⟩ => ⟨answer, effective, ?_⟩
    intro id registers
    obtain ⟨request, context, draws⟩ := turn
    cases request <;> first | exact registers.elim | exact absurd trivial dated

/-- An event registers something for the account with an id. -/
def Event.RegistersFor (accountId : String) (event : Event) : Prop :=
  event.outcome.answer.isOk = true ∧ ∃ held ∈ event.before.accounts.entries,
    held.row.accountId = accountId ∧ event.turn.request.Registers event.before held.id

/-- The account with an id owns nothing, if there is one. -/
def Database.IsBare (database : Database) (accountId : String) : Prop :=
  ∀ held ∈ database.accounts.entries, held.row.accountId = accountId → ¬database.Owns held.id

/-- An event leaves an account bare unless it registers something for it. -/
theorem Event.isBare {accountId : String} {event : Event} (integral : event.before.IsIntegral)
    (bare : event.before.IsBare accountId) (unregistered : ¬event.RegistersFor accountId) :
    event.after.IsBare accountId := by
  rcases event.turn.answers_of_registers event.before with same | ⟨answer, effective, answers⟩
  · exact (show event.before = event.after from same.symm) ▸ bare
  · intro held stored named owns
    rcases effective.owns owns with owned | registers
    · -- Who owned something was there, so the account is not a new one under its number.
      rcases effective.account_before stored with ⟨old, isOld, isIt, same⟩ | free
      · exact bare old isOld ((Option.some.inj same).trans named) (isIt ▸ owned)
      · exact Bool.false_ne_true (free.symm.trans (integral.has_owner owned))
    · have same : event.before.accounts = event.after.accounts :=
        effective.writes.agree registers.accounts_not_written
      exact unregistered ⟨answers _ registers, held, same ▸ stored, named, registers⟩

/-- A run leaves an account bare unless something is registered for it. -/
theorem Database.isBare_after {accountId : String} (bare : database.IsBare accountId)
    (integral : database.IsIntegral) {turns : List Turn}
    (unregistered : ∀ event ∈ database.history turns, ¬event.RegistersFor accountId) :
    (database.after turns).IsBare accountId := by
  induction turns generalizing database with
  | nil => exact bare
  | cons turn rest ih =>
      obtain ⟨first, others⟩ := List.forall_mem_cons.mp unregistered
      exact ih (Event.isBare integral bare first)
        ((turn.writes database).keeps.integral integral) others

/-- In a reached database of the newest revision, deleting an account tells whether there is one,
and removes it with what it owns and with nothing else. However the run goes on, an account that was
not there at some time owns nothing later, whatever number it gets when it is made, until something
is registered for it. -/
theorem Account.deleted_with_belongings (reached : database.Reached)
    (newest : database.position = some .invites) (accountId : Option String) (context : Context)
    (draws : Draws) :
    let outcome := (delete accountId).perform context database draws
    outcome.answer = .ok (database.accounts.entries.any (isNamed accountId)) ∧
      database.IsWithout accountId outcome.database ∧
      ∀ (earlier later : List Turn) (successor : String),
        (∀ held ∈ (outcome.database.after earlier).accounts.entries,
          held.row.accountId ≠ successor) →
        (∀ event ∈ (outcome.database.after earlier).history later,
          ¬event.RegistersFor successor) →
        ∀ held ∈ (outcome.database.after (earlier ++ later)).accounts.entries,
          held.row.accountId = successor →
            ¬(outcome.database.after (earlier ++ later)).Owns held.id := by
  intro outcome
  have isNewest := reached.isNewest newest
  have result : outcome.result = .ok _ := result_delete (isNewest.missing?_eq_none [.accounts])
  obtain ⟨answered, left⟩ := Outcome.result_eq_ok_iff.mp result
  refine ⟨answered, left ▸ database.isWithout_erased accountId, ?_⟩
  intro earlier later successor absent unregistered
  let deletion : Turn := { request := .deleteAccount accountId, context, draws }
  have integral : (outcome.database.after earlier).IsIntegral :=
    ((isNewest.outcome deletion).after earlier).integral
  have bare : (outcome.database.after earlier).IsBare successor := fun held stored named =>
    absurd named (absent held stored)
  rw [Database.after_append]
  exact Database.isBare_after bare integral unregistered

/-- An account gets the number of a deleted one that owned something of each kind, and owns
nothing. -/
theorem Account.deleted_with_belongings_again :
    let context : Context := { clock := ⟨0⟩ }
    let database := (Database.atRevision .invites ⟨⟨0⟩, true⟩).after <|
      [.upsertAccount (some "a") (some (Moment.utc ⟨60000000⟩)),
        .watchPost (some "a") (some "s") (some "b") (some 1) (some 2) (some 0) (.integer 0),
        .recordReply (some 1) (some 1) (some 1),
        .registerToken (some "a") (some "t") (.integer 0) (.integer 0)].map fun request =>
          { request, context }
    let outcome := (delete (some "a")).perform context database {}
    let later : List Turn := [{ request := .upsertAccount (some "b") none, context }]
    let held : Entry Account := ⟨1, fresh context "b" none⟩
    database.Reached ∧ database.position = some .invites ∧ database.Owns 1 ∧
      outcome.answer = .ok true ∧ held ∈ (outcome.database.after later).accounts.entries ∧
      ¬(outcome.database.after later).Owns 1 := by
  intro context database outcome later held
  have reached : database.Reached := (Database.Reached.founded .invites ⟨⟨0⟩, true⟩).after _
  have newest : database.position = some .invites := by decide +kernel
  have owns : database.Owns 1 := by decide +kernel
  have isHeld : held ∈ (outcome.database.after later).accounts.entries := by decide +kernel
  have existed : database.accounts.entries.any (isNamed (some "a")) = true := by decide +kernel
  have absent : ∀ held ∈ outcome.database.accounts.entries,
      held.row.accountId ≠ "b" := by decide +kernel
  -- From here on nothing is to be computed in the database.
  clear_value database
  obtain ⟨answered, -, bare⟩ := deleted_with_belongings reached newest (some "a") context {}
  have unregistered : ∀ event ∈ (outcome.database.after []).history later,
      ¬event.RegistersFor "b" := by
    rintro event isOne ⟨-, _, -, -, registers⟩
    rw [List.mem_singleton.mp isOne] at registers
    exact registers
  have bareAfter := bare [] later "b" absent unregistered held isHeld rfl
  exact ⟨reached, newest, owns, existed ▸ answered, isHeld, bareAfter⟩

end Lookout
