import Lookout.Proofs.Deletion
import Lookout.Proofs.Persistence
import Lookout.Proofs.Queries

/-!
# Stale numbers

Whoever delivers replies takes them from the queue and reports later, by number alone, how each
delivery went. A reply goes only with the account that owns it. Its number is then free, and the
next reply may get it, so that a late report can hit a reply that was never handed out. Where the
owner has not been deleted in the meantime, a report hits the reply that was handed out and no
other.
-/

namespace Lookout

open Operation Store
open Time (Moment)

variable {context : Context} {database : Database} {draws : Draws} {id account : Int}
  {owner : Account} {turn : Turn} {turns : List Turn}

/-- Whether a request reports how the delivery of the reply under a number went. -/
def Request.Reports (id : Int) : Request → Prop
  | deliverReply given _ => given = some id
  | countAttempt given => given = some id
  | _ => False

namespace Database

/-- A reply is there under a number, and so is the account that owns it. -/
structure HasOwned (database : Database) (id account : Int) (owner : Account) : Prop where
  reply : database.Has id fun row : Reply => row.account = account
  account : database.Has account owner.Continues

namespace HasOwned

theorem has (owned : database.HasOwned id account owner) : database.replies.has id = true := by
  obtain ⟨row, stored, -⟩ := owned.reply
  exact Table.has_iff.mpr ⟨_, stored, rfl⟩

/-- Where accounts are deleted by their id, the reply stays unless its owner has that id. -/
theorem has_erased_iff (owned : database.HasOwned id account owner) (accountId : Option String) :
    (database.erased (Account.isNamed accountId)).replies.has id = true ↔
      accountId ≠ some owner.accountId := by
  obtain ⟨⟨row, stored, rfl⟩, ⟨held, isHeld, continues⟩⟩ := owned
  have isOwner_iff : database.IsOwner accountId row.account ↔ accountId = some owner.accountId := by
    constructor
    · rintro ⟨other, isOther, same, named⟩
      obtain rfl := database.accounts.eq_of_id_eq isOther isHeld same
      exact named.symm.trans (congrArg some continues.accountId)
    · intro named
      exact ⟨_, isHeld, rfl, named ▸ congrArg some continues.accountId⟩
  have kept_iff := (database.isWithout_erased accountId).replies
  rw [Table.has_iff, ne_eq, ← isOwner_iff]
  constructor
  · rintro ⟨other, there, same⟩
    obtain ⟨isStored, spared⟩ := (kept_iff other).mp there
    obtain rfl := database.replies.eq_of_id_eq isStored stored same
    exact spared
  · intro spared
    exact ⟨⟨id, row⟩, (kept_iff _).mpr ⟨stored, spared⟩, rfl⟩

/-- No turn parts a reply from its owner but the one that deletes the owner. -/
theorem outcome (owned : database.HasOwned id account owner)
    (spared : turn.request ≠ .deleteAccount (some owner.accountId)) :
    (turn.outcome database).database.HasOwned id account owner := by
  have stays (deletes : turn.request.isDeletion) :
      (turn.outcome database).database.replies.has id = true := by
    obtain ⟨request, context, draws⟩ := turn
    cases request with
    | deleteAccount accountId =>
        rcases Turn.changes ⟨.deleteAccount accountId, context, draws⟩ database with
          same | ⟨_, -, same⟩
        · rw [same]
          exact owned.has
        · rw [same, owned.has_erased_iff]
          rintro rfl
          exact spared rfl
    | _ => exact deletes.elim
  refine ⟨?_, turn.has_account owned.account spared⟩
  obtain ⟨row, stored, rfl⟩ := owned.reply
  obtain ⟨later, isStored, step⟩ := turn.step stored stays
  refine ⟨later, isStored, ?_⟩
  cases step <;> rfl

/-- The turn that deletes the owner takes the reply along. -/
theorem gone (owned : database.HasOwned id account owner)
    (present : database.missing? [.accounts] = none)
    (deletes : turn.request = .deleteAccount (some owner.accountId)) :
    (turn.outcome database).database.replies.has id = false := by
  obtain ⟨request, context, draws⟩ := turn
  obtain rfl : request = .deleteAccount (some owner.accountId) := deletes
  have erased : (Turn.outcome ⟨.deleteAccount (some owner.accountId), context, draws⟩
      database).database = database.erased (Account.isNamed (some owner.accountId)) :=
    (Outcome.result_eq_ok_iff.mp (Account.result_delete present)).2
  rw [erased, ← Bool.not_eq_true, owned.has_erased_iff]
  exact fun other => other rfl

end HasOwned

/-- A reply is there all through a turn and the run after it where it is there before the turn and
all through that run. -/
theorem keepsReply_cons_iff :
    database.KeepsReply id (turn :: turns) ↔
      database.replies.has id = true ∧ (turn.outcome database).database.KeepsReply id turns := by
  constructor
  · intro keeps
    exact ⟨keeps [] List.nil_prefix,
      KeepsReply.back (show database.KeepsReply id ([turn] ++ turns) from keeps)⟩
  · rintro ⟨there, keeps⟩ earlier isFirst
    rcases List.prefix_cons_iff.mp isFirst with rfl | ⟨others, rfl, goesOn⟩
    · exact there
    · exact keeps others goesOn

/-- A reply is there all through a run exactly where no turn deletes its owner. -/
theorem HasOwned.keepsReply_iff (owned : database.HasOwned id account owner)
    (present : database.missing? [.accounts] = none) :
    database.KeepsReply id turns ↔
      ∀ turn ∈ turns, turn.request ≠ .deleteAccount (some owner.accountId) := by
  induction turns generalizing database with
  | nil =>
      refine iff_of_true (fun earlier isFirst => ?_) fun _ isOne => absurd isOne List.not_mem_nil
      rw [List.prefix_nil.mp isFirst]
      exact owned.has
  | cons turn rest ih =>
      have stillPresent : (turn.outcome database).database.missing? [.accounts] = none :=
        (database.missing?_after [turn] _).trans present
      rw [keepsReply_cons_iff, List.forall_mem_cons]
      by_cases deletes : turn.request = .deleteAccount (some owner.accountId)
      · refine iff_of_false (fun ⟨_, keeps⟩ => ?_) fun spared => spared.1 deletes
        have stays := keeps [] List.nil_prefix
        rw [Database.after, owned.gone present deletes] at stays
        cases stays
      · have later := ih (owned.outcome deletes) stillPresent
        simp only [owned.has, deletes, later, ne_eq, not_false_eq_true, true_and]

end Database

/-! ### What a report does -/

/-- Where every row stays, an update has changed nothing. -/
theorem Database.updated_eq_self {α : Type} [Relation α] [LawfulRelation α]
    {wanted : Entry α → Bool} {step : α → α}
    (stays : ∀ held ∈ (Relation.read database : Table α).entries,
      held ∈ (Relation.read (database.updated wanted step) : Table α).entries) :
    database.updated wanted step = database := by
  refine updated_self fun held stored isWanted => ?_
  have changed := mem_updated stored wanted step
  rw [if_pos isWanted] at changed
  exact congrArg Entry.row (Table.eq_of_id_eq _ changed (stays held stored) rfl)

/-- A report changes no other row than the one under its number. -/
theorem Turn.updates_of_reports (reports : turn.request.Reports id) (database : Database) :
    ∃ step : Reply → Reply,
      (turn.outcome database).database = database.updated (fun held => held.id = id) step := by
  rcases turn.changes database with same | ⟨answer, effective⟩
  · exact ⟨fun row => row, same.trans (Database.updated_self fun _ _ _ => rfl).symm⟩
  · obtain ⟨request, context, draws⟩ := turn
    cases request with
    | deliverReply given date =>
        obtain rfl : given = some id := reports
        obtain ⟨-, -, same⟩ := effective
        refine ⟨fun row =>
          if row.isUndelivered then { row with deliveredOn := some (context.moment date).wall }
          else row, same.trans (Database.updated_congr fun ⟨number, row⟩ _ => ?_)⟩
        by_cases isOne : number = id <;> by_cases isOpen : row.isUndelivered = true <;>
          simp [Reply.isDeliverable, isOne, isOpen]
    | countAttempt given =>
        obtain rfl : given = some id := reports
        obtain ⟨-, same⟩ := effective
        refine ⟨fun row => { row with attempts := row.attempts.map Reply.countOneMore },
          same.trans (Database.updated_congr fun held _ => ?_)⟩
        by_cases isOne : held.id = id <;> simp [isOne]
    | _ => exact reports.elim

/-- A report on a number that is not in use changes nothing. -/
theorem Turn.unchanged_of_reports (reports : turn.request.Reports id)
    (free : database.replies.has id = false) : (turn.outcome database).database = database := by
  obtain ⟨step, same⟩ := turn.updates_of_reports reports database
  rw [same]
  refine Database.updated_self fun held stored isOne => ?_
  have used : database.replies.has id = true :=
    Table.has_iff.mpr ⟨held, stored, of_decide_eq_true isOne⟩
  rw [free] at used
  cases used

/-- It fails, as there is no such reply. -/
theorem Turn.fails_of_reports (reports : turn.request.Reports id)
    (present : database.missing? [.replies] = none) (storable : isStorable id = true)
    (free : database.replies.has id = false) :
    (turn.outcome database).answer = .error (.noReply (some id)) := by
  have unused : ∀ held ∈ (Relation.read database : Table Reply).entries, held.id ≠ id := by
    change (Relation.read database : Table Reply).has id = false at free
    simpa [Table.has] using free
  obtain ⟨request, context, draws⟩ := turn
  cases request with
  | deliverReply given date =>
      obtain rfl : given = some id := reports
      refine Ends.answer_perform (.error _) ?_
      change (Reply.markDelivered _ _).Ends _ _ _ _
      have nothing : (Relation.read database : Table Reply).count
          (fun held => decide (held.id = id) && held.row.isUndelivered) = 0 := by
        simpa [Table.count, List.countP_eq_zero] using fun held stored isOne =>
          absurd isOne (unused held stored)
      have same (step : Reply → Reply) := Database.updated_of_count database _ step nothing
      simpa [Reply.markDelivered, present, storable, nothing, same] using unused
  | countAttempt given =>
      obtain rfl : given = some id := reports
      refine Ends.answer_perform (.error _) ?_
      change (Reply.markAttempt _).Ends _ _ _ _
      have nothing : (Relation.read database : Table Reply).count
          (fun held => decide (held.id = id)) = 0 := by
        simpa [Table.count, List.countP_eq_zero] using unused
      simp [Reply.markAttempt, Reply.markAttempts, present, storable, nothing]
  | _ => exact reports.elim

/-- A report after a run changes nothing but the reply that was handed out before the run. -/
def Turn.HitsOnly (report : Turn) (database : Database) (turns : List Turn)
    (entry : Entry Reply) : Prop :=
  ∀ held ∈ (database.after turns).replies.entries,
    held ∉ (report.outcome (database.after turns)).database.replies.entries →
      held.id = entry.id ∧ database.KeepsReply entry.id turns ∧ entry.row.Progress held.row

/-- A report hits nothing else exactly where the reply has been there all through the run, or where
the report changes nothing. -/
theorem Turn.hitsOnly_iff {entry : Entry Reply} {report : Turn}
    (reports : report.request.Reports entry.id) (stored : entry ∈ database.replies.entries)
    (counted : entry.row.IsCounted) :
    report.HitsOnly database turns entry ↔
      database.KeepsReply entry.id turns ∨
        (report.outcome (database.after turns)).database = database.after turns := by
  obtain ⟨step, same⟩ := report.updates_of_reports reports (database.after turns)
  constructor
  · intro hits
    by_cases stays : ∀ held ∈ (database.after turns).replies.entries,
        held ∈ (report.outcome (database.after turns)).database.replies.entries
    · refine .inr ?_
      rw [same] at stays ⊢
      exact Database.updated_eq_self stays
    · simp only [not_forall] at stays
      obtain ⟨held, isHeld, isChanged⟩ := stays
      exact .inl (hits held isHeld isChanged).2.1
  · rintro (keeps | unchanged) held isHeld isChanged
    · have isNumber : held.id = entry.id := by
        by_contra other
        refine isChanged ?_
        have kept := Database.mem_updated isHeld (fun held => held.id = entry.id) step
        rwa [if_neg (by simpa using other), ← same] at kept
      obtain ⟨later, isLater, progress, -⟩ := Reply.progress_after stored counted keeps
      obtain rfl := Table.eq_of_id_eq _ isHeld isLater isNumber
      exact ⟨isNumber, keeps, progress⟩
    · rw [unchanged] at isChanged
      exact absurd isHeld isChanged

namespace Reply

/-- Whoever hands out a reply and reports on it after a run of any requests has changed no other row
than the one under its number. Where the number is not in use any more, nothing is changed, and the
report fails. The row that is changed is the reply that was handed out, all the time, exactly unless
its owner has been deleted and the report changes something. -/
theorem report_hits_iff (reached : database.Reached) {limit : Option Int}
    {handed : List (Entry Reply)}
    (answered : ((pending limit).perform context database draws).answer = .ok handed)
    {entry : Entry Reply} (isHanded : entry ∈ handed) :
    ∃ owner ∈ database.accounts.entries, owner.id = entry.row.account ∧
      ∀ (turns : List Turn) (report : Turn), report.request.Reports entry.id →
        let found := database.after turns
        let outcome := report.outcome found
        (∃ step : Reply → Reply,
          outcome.database = found.updated (fun held => held.id = entry.id) step) ∧
        (found.replies.has entry.id = false → outcome.database = found ∧
          (isStorable entry.id = true → outcome.answer = .error (.noReply (some entry.id)))) ∧
        (report.HitsOnly database turns entry ↔
          (∀ turn ∈ turns, turn.request ≠ .deleteAccount (some owner.row.accountId)) ∨
            outcome.database = found) := by
  obtain ⟨stored, -⟩ := isWaiting_of_pending answered isHanded
  have tables := (queued_of_pending answered).1
  have accounts : database.missing? [.accounts] = none :=
    Database.missing?_of_subset tables (List.subset_cons_self _ _)
  obtain ⟨owner, isOwner, isCounted⟩ := List.any_eq_true.mp (counts_of_pending answered isHanded)
  have owns : owner.id = entry.row.account :=
    of_decide_eq_true (Bool.and_eq_true_iff.mp isCounted).1
  have owned : database.HasOwned entry.id entry.row.account owner.row :=
    ⟨⟨entry.row, stored, rfl⟩, ⟨owner.row, owns ▸ isOwner, .refl owner.row⟩⟩
  refine ⟨owner, isOwner, owns, fun turns report reports => ?_⟩
  intro found outcome
  have replies : found.missing? [.replies] = none :=
    (database.missing?_after turns _).trans (Database.missing?_of_subset tables (by simp))
  refine ⟨report.updates_of_reports reports found, fun free =>
    ⟨report.unchanged_of_reports reports free, fun storable =>
      report.fails_of_reports reports replies storable free⟩, ?_⟩
  rw [← owned.keepsReply_iff accounts]
  exact Turn.hitsOnly_iff reports stored (reached.isCounted entry stored)

/-- Two accounts have been made, and a reply to the first one is in the queue. -/
def queued : Database :=
  (Database.atRevision .invites ⟨⟨0⟩, true⟩).after <|
    [.upsertAccount (some "a") (some (Moment.utc ⟨60000000⟩)),
      .upsertAccount (some "b") (some (Moment.utc ⟨60000000⟩)),
      .resolveThread (some "s") (some "b") (some 1),
      .resolveDescriptor (some 1) (some 2) (some 0),
      .resolveDescriptor (some 1) (some 3) (some 0),
      .recordReply (some 1) (some 2) (some 1)].map fun request =>
        { request, context := { clock := ⟨0⟩ } }

/-- The reply in the queue. -/
def oldest : Entry Reply :=
  ⟨1, { account := 1, descriptor := 2, replyTo := 1, createdOn := Time.Stamp.ofClock ⟨0⟩ }⟩

theorem pending_queued : ((pending none).perform { clock := ⟨0⟩ } queued {}).answer =
    .ok [oldest] :=
  Outcome.answer_eq_ok (by decide +kernel)

/-- Where the other account is deleted, a report hits the reply that was handed out. -/
theorem report_hits_oldest :
    let deletion : Turn := { request := .deleteAccount (some "b"), context := { clock := ⟨7⟩ } }
    let report : Turn := { request := .countAttempt (some 1), context := { clock := ⟨7⟩ } }
    queued.Reached ∧
      ((pending none).perform { clock := ⟨0⟩ } queued {}).answer = .ok [oldest] ∧
      report.request.Reports oldest.id ∧ report.HitsOnly queued [deletion] oldest := by
  intro deletion report
  have reached : queued.Reached := (Database.Reached.founded .invites ⟨⟨0⟩, true⟩).after _
  have reports : report.request.Reports oldest.id := rfl
  obtain ⟨owner, isOwner, owns, told⟩ := report_hits_iff reached pending_queued (.head _)
  have isFirst : ∀ held ∈ queued.accounts.entries, held.id = 1 → held.row.accountId = "a" := by
    decide +kernel
  have spared : ∀ turn ∈ [deletion], turn.request ≠ .deleteAccount (some owner.row.accountId) := by
    rw [isFirst owner isOwner owns]
    simp [deletion]
  exact ⟨reached, pending_queued, reports, (told [deletion] report reports).2.2.mpr (.inl spared)⟩

/-- Where its own account is deleted, the next reply gets its number, and the report hits that
one. -/
theorem report_hits_other :
    let turns : List Turn :=
      [.deleteAccount (some "a"), .recordReply (some 2) (some 2) (some 1)].map fun request =>
        { request, context := { clock := ⟨7⟩ } }
    let report : Turn := { request := .deliverReply (some 1) none, context := { clock := ⟨7⟩ } }
    ((pending none).perform { clock := ⟨0⟩ } queued {}).answer = .ok [oldest] ∧
      report.request.Reports oldest.id ∧ ¬report.HitsOnly queued turns oldest ∧
      (report.outcome (queued.after turns)).database.replies.entries.map
          (fun held => (held.id, held.row.account, held.row.deliveredOn)) =
        [(1, 2, some ⟨7⟩)] := by
  intro turns report
  let held : Entry Reply :=
    ⟨1, { account := 2, descriptor := 2, replyTo := 1, createdOn := Time.Stamp.ofClock ⟨7⟩ }⟩
  have isHeld : held ∈ (queued.after turns).replies.entries := by decide +kernel
  have isChanged : held ∉ (report.outcome (queued.after turns)).database.replies.entries := by
    decide +kernel
  refine ⟨pending_queued, rfl, fun hits => ?_, by decide +kernel⟩
  obtain ⟨-, -, progress⟩ := hits held isHeld isChanged
  have sameAccount : (2 : Int) = 1 := congrArg Reply.account progress.same
  exact absurd sameAccount (by decide)

end Reply

end Lookout
