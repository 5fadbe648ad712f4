import Lookout.Proofs.Soundness

/-!
# Standing in queries

Whether an account may be notified is judged in three places: by its standing, where posts are
watched; by the search for watchers; and by the queue of replies. The first one counts the
moment of expiry as valid and the other two do not. Everywhere else they agree.
-/

namespace Lookout

open Operation Store
open Time (Moment WallTime)

namespace Account

/-- Whether the present moment is the one at which an account expires. -/
def isExpiring (account : Account) (clock : WallTime) : Prop :=
  account.deletedOn = none ∧ account.validUntil = some clock

/-- An account is in good standing up to the moment of its expiry. -/
theorem lapse_eq_none_iff {account : Account} {clock : WallTime} :
    account.lapse (Moment.utc clock) = .ok none ↔
      account.deletedOn = none ∧ ∃ validUntil, account.validUntil = some validUntil ∧
        clock.micros ≤ validUntil.micros := by
  unfold lapse lapseOf Moment.utc
  cases account.deletedOn with
  | some deletedOn => simp
  | none =>
      cases account.validUntil with
      | none => simp
      | some validUntil =>
          by_cases before : clock.micros ≤ validUntil.micros
          · have after : ¬(validUntil.micros : Int) < clock.micros := by omega
            simp [expiry, Moment.instant, before, after]
          · have after : (validUntil.micros : Int) < clock.micros := by omega
            simp [expiry, Moment.instant, before, after]

/-- Queries count an account that is in good standing, except at the moment of its expiry. -/
theorem isNotifiable_iff {account : Account} {clock : WallTime} :
    account.isNotifiable clock = true ↔
      account.lapse (Moment.utc clock) = .ok none ∧ ¬account.isExpiring clock := by
  rw [lapse_eq_none_iff]
  unfold isNotifiable isExpiring
  cases account.deletedOn with
  | some deletedOn => simp
  | none =>
      cases account.validUntil with
      | none => simp
      | some validUntil =>
          obtain ⟨expiry⟩ := validUntil
          obtain ⟨now⟩ := clock
          simp only [Option.isNone_none, Option.any_some, Bool.true_and, decide_eq_true_eq,
            true_and, Option.some.injEq, WallTime.mk.injEq, exists_eq_left']
          exact Nat.lt_iff_le_and_ne.trans (and_congr_right fun _ => ne_comm)

end Account

variable {context : Context} {database : Database} {draws : Draws}

/-- Whether the search for the watchers of a descriptor finds an account. -/
def Watch.isFound (context : Context) (database : Database) (draws : Draws)
    (descriptor account : Int) : Prop :=
  ∃ pairs, ((watchers (some [some descriptor])).perform context database draws).answer =
    .ok pairs ∧ (descriptor, account) ∈ pairs

/-- Whether a reply is among those that wait for delivery. -/
def Reply.isQueued (context : Context) (database : Database) (draws : Draws) (limit : Option Int)
    (reply : Entry Reply) : Prop :=
  ∃ replies, ((pending limit).perform context database draws).answer = .ok replies ∧
    reply ∈ replies

/-- Whether queries count the account under a number. -/
def Database.counts (database : Database) (clock : WallTime) (account : Int) : Bool :=
  database.accounts.entries.any fun owner => owner.id = account && owner.row.isNotifiable clock

/-- A stored account is the one under its number. -/
theorem Database.counts_iff {clock : WallTime} {account : Entry Account}
    (stored : account ∈ database.accounts.entries) :
    database.counts clock account.id = true ↔ account.row.isNotifiable clock = true := by
  simp only [Database.counts, List.any_eq_true, Bool.and_eq_true, decide_eq_true_eq]
  constructor
  · rintro ⟨owner, isOwner, same, isCounted⟩
    rwa [database.accounts.eq_of_id_eq isOwner stored same] at isCounted
  · exact fun isCounted => ⟨account, stored, rfl, isCounted⟩

/-- Who is counted by queries is stored, was not expired, and its date is ahead of the clock. -/
theorem Database.counts_iff_exists {clock : WallTime} {account : Int} :
    database.counts clock account = true ↔
      ∃ row, ⟨account, row⟩ ∈ database.accounts.entries ∧ row.deletedOn = none ∧
        ∃ validUntil, row.validUntil = some validUntil ∧ clock < validUntil := by
  simp only [Database.counts, List.any_eq_true, Bool.and_eq_true, decide_eq_true_eq,
    Account.isNotifiable, Option.isNone_iff_eq_none, Option.any_eq_true]
  constructor
  · rintro ⟨⟨_, row⟩, stored, rfl, standing⟩
    exact ⟨row, stored, standing⟩
  · rintro ⟨row, stored, standing⟩
    exact ⟨⟨account, row⟩, stored, rfl, standing⟩

/-- The search finds those who watch a descriptor and whom queries count. -/
theorem Watch.isFound_iff {descriptor account : Int}
    (watches : database.catalog.hasTable .watches = true)
    (accounts : database.catalog.hasTable .accounts = true)
    (storable : isStorable descriptor = true) :
    isFound context database draws descriptor account ↔
      (∃ watch ∈ database.watches.entries,
        watch.row.descriptor = descriptor ∧ watch.row.account = account) ∧
      database.counts context.clock account = true := by
  have present : database.missing? [.watches, .accounts] = none := by
    simp [Database.missing?, watches, accounts]
  let found := database.watches.select fun entry =>
    [some descriptor].contains (some entry.row.descriptor) &&
      database.counts context.clock entry.row.account
  have answered : ((watchers (some [some descriptor])).perform context database draws).answer =
      .ok (((found.map fun entry => (entry.row.descriptor, entry.row.account)).mergeSort
        pairLe).eraseDups) := by
    refine Ends.answer_perform (.ok _) ?_
    simp only [watchers, ends_bind, ends_require, ends_fits, ends_database, ends_read, ends_pure,
      present, reduceCtorEq, false_implies, implies_true, true_and, forall_const,
      List.all_cons, List.all_nil, Option.all_some, storable, Bool.and_true, Bool.true_eq_false,
      List.mem_singleton, forall_eq, found, Database.counts]
  unfold isFound
  rw [answered]
  simp only [found, Table.select, List.contains_eq_mem, List.mem_cons, Option.some.injEq,
    List.not_mem_nil, or_false, Except.ok.injEq, exists_eq_left', List.mem_eraseDups,
    List.mem_mergeSort, List.mem_map, List.mem_filter, Bool.and_eq_true, decide_eq_true_eq,
    Prod.mk.injEq]
  constructor
  · rintro ⟨watch, ⟨stored, isWatched, isCounted⟩, rfl, rfl⟩
    exact ⟨⟨watch, stored, rfl, rfl⟩, isCounted⟩
  · rintro ⟨⟨watch, stored, rfl, rfl⟩, isCounted⟩
    exact ⟨watch, ⟨stored, rfl, isCounted⟩, rfl, rfl⟩

/-- The queue holds the replies that wait for delivery to accounts that queries count. -/
theorem Reply.isQueued_iff {limit : Option Int} {reply : Entry Reply}
    (replies : database.catalog.hasTable .replies = true)
    (accounts : database.catalog.hasTable .accounts = true)
    (unlimited : limit.all fun count => isStorable count && count < 0) :
    isQueued context database draws limit reply ↔
      isStorable context.settings.deliveryAttempts = true ∧
      reply ∈ database.replies.entries ∧
      reply.row.isWaiting context.settings.deliveryAttempts = true ∧
      database.counts context.clock reply.row.account = true := by
  have present : database.missing? [.replies, .accounts] = none := by
    simp [Database.missing?, replies, accounts]
  have storable : limit.all isStorable = true := by
    cases limit <;> simp_all
  have all (answers : List (Entry Reply)) : limited limit answers = answers := by
    cases limit <;> simp_all [limited]
  by_cases fits : isStorable context.settings.deliveryAttempts = true
  · have answered : ((pending limit).perform context database draws).answer =
        .ok (queue database context.clock context.settings.deliveryAttempts) := by
      refine Ends.answer_perform (.ok _) ?_
      simp [pending, present, storable, fits, all]
    unfold isQueued
    rw [answered]
    simp [fits, queue, Table.select, Database.counts]
  · have failed : ((pending limit).perform context database draws).answer =
        .error (.store .numberTooLarge) := by
      refine Ends.answer_perform (.error _) ?_
      simp [pending, present, fits]
    unfold isQueued
    rw [failed]
    simp [fits]

/-- Every watched descriptor has a number that the store can look for. -/
def Database.hasStorableWatches (database : Database) : Prop :=
  ∀ watch ∈ database.watches.entries, isStorable watch.row.descriptor = true

theorem Watch.Inserted.hasStorableWatches {before after : Database}
    {account descriptor application : Option Int} {id : Int}
    (inserted : Inserted before account descriptor application id after)
    (kept : before.hasStorableWatches) : after.hasStorableWatches := by
  obtain ⟨_, storable, inserts⟩ := inserted
  cases inserts with
  | present found => exact kept
  | added absent admitted =>
      intro watch stored
      rcases List.mem_append.mp stored with old | isNew
      · exact kept watch old
      · rw [List.mem_singleton.mp isNew]
        exact storable

/-- Requests add watches of storable descriptors only. -/
theorem Request.Effect.hasStorableWatches {before after : Database} {request : Request}
    {answer : request.Answer} (effective : request.Effect context before answer after)
    (kept : before.hasStorableWatches) : after.hasStorableWatches := by
  by_cases written : .watches ∈ request.writes
  · cases request with
    | deleteAccount accountId =>
        obtain ⟨_, rfl⟩ := effective
        exact fun watch stored => kept watch (List.mem_filter.mp stored).1
    | subscribe account descriptor application =>
        obtain ⟨number, _, inserted⟩ := effective
        exact inserted.hasStorableWatches kept
    | unsubscribe account descriptor application =>
        obtain ⟨chosen, _, _, rfl⟩ := effective
        exact fun watch stored => kept watch (List.mem_filter.mp stored).1
    | watchPost accountId site board threadNo postNo postSubNo application =>
        obtain ⟨number, _, placed⟩ := effective
        cases placed with
        | intro named valid threaded described posted watched =>
            refine watched.hasStorableWatches ?_
            have placed : before.Writes [.threads, .descriptors, .posts] _ :=
              .trans (.trans (threaded.writes (by decide)) (described.writes (by decide)))
                (posted.writes (by decide))
            have same : before.Agree _ .watches := placed.agree (by decide)
            exact fun watch stored => kept watch ((show before.watches = _ from same) ▸ stored)
    | _ => simp [Request.writes] at written
  · have same : before.watches = after.watches := effective.writes.agree written
    exact fun watch stored => kept watch (same ▸ stored)

theorem Database.hasStorableWatches_after {database : Database}
    (kept : database.hasStorableWatches) (turns : List Turn) :
    (database.after turns).hasStorableWatches := by
  refine Database.after_of_kept ?_ kept turns
  intro turn database kept
  rcases turn.changes database with same | ⟨answer, effective⟩
  · rwa [same]
  · exact effective.hasStorableWatches kept

/-- In every state that a run reaches, searching for watchers and queueing replies agree with
the standing of an account, but for the moment of its expiry; and a queue cannot be asked for
under a limit of attempts that the store cannot take. -/
theorem Account.queries_agree_iff (appliedOn : Time.Stamp) (turns : List Turn) (context : Context)
    (draws : Draws) (account : Entry Account)
    (stored : account ∈ ((Database.atRevision .invites appliedOn).after turns).accounts.entries) :
    let database := (Database.atRevision .invites appliedOn).after turns
    let isStanding := account.row.lapse (Moment.utc context.clock) = .ok none
    (∀ watch ∈ database.watches.entries, watch.row.account = account.id →
      ((Watch.isFound context database draws watch.row.descriptor account.id ↔ isStanding) ↔
        ¬account.row.isExpiring context.clock)) ∧
    ∀ reply ∈ database.replies.entries, reply.row.account = account.id →
      reply.row.isWaiting context.settings.deliveryAttempts = true →
      ∀ limit : Option Int, (limit.all fun count => isStorable count && count < 0) = true →
        ((Reply.isQueued context database draws limit reply ↔ isStanding) ↔
          ¬(account.row.isExpiring context.clock ∨
            isStorable context.settings.deliveryAttempts = false ∧ isStanding)) := by
  intro database isStanding
  have catalog : database.catalog = (Database.atRevision .invites appliedOn).catalog :=
    (Database.keeps_after _ turns).catalog
  have storable : database.hasStorableWatches :=
    Database.hasStorableWatches_after (fun _ stored => absurd stored List.not_mem_nil) turns
  have isCounted : database.counts context.clock account.id = true ↔
      isStanding ∧ ¬account.row.isExpiring context.clock :=
    (Database.counts_iff stored).trans isNotifiable_iff
  -- Who expires at this very moment is still in good standing.
  have last (isExpiring : account.row.isExpiring context.clock) : isStanding :=
    lapse_eq_none_iff.mpr ⟨isExpiring.1, _, isExpiring.2, Nat.le_refl _⟩
  constructor
  · intro watch isWatch owned
    have isFound : Watch.isFound context database draws watch.row.descriptor account.id ↔ _ :=
      Watch.isFound_iff (by rw [catalog]; rfl) (by rw [catalog]; rfl) (storable watch isWatch)
    rw [isFound, isCounted]
    have watches : ∃ other ∈ database.watches.entries,
        other.row.descriptor = watch.row.descriptor ∧ other.row.account = account.id :=
      ⟨watch, isWatch, rfl, owned⟩
    simp only [watches, true_and]
    by_cases isExpiring : account.row.isExpiring context.clock
    · simp [isExpiring, last isExpiring]
    · simp [isExpiring]
  · intro reply isReply owned waiting limit unlimited
    rw [Reply.isQueued_iff (by rw [catalog]; rfl) (by rw [catalog]; rfl) unlimited, owned,
      isCounted]
    simp only [isReply, waiting, true_and]
    by_cases isExpiring : account.row.isExpiring context.clock
    · simp [isExpiring, last isExpiring]
    · by_cases fits : isStorable context.settings.deliveryAttempts = true
      · simp [isExpiring, fits]
      · simp [isExpiring, fits]

/-- An account that expires after a minute is made and watches a post. -/
def Watch.brief : List Turn :=
  [{ request := .upsertAccount (some "a") (some (Moment.utc ⟨60000000⟩))
     context := { clock := ⟨0⟩ } },
    { request := .watchPost (some "a") (some "s") (some "b") (some 1) (some 2) (some 0) (.integer 0)
      context := { clock := ⟨0⟩ } }]

/-- The account that a brief run makes. -/
def Account.brief : Entry Account :=
  ⟨1, { accountId := "a", validUntil := some ⟨60000000⟩, createdOn := ⟨⟨0⟩, false⟩ }⟩

/-- When the minute is over, the account is in good standing, but the search misses it. -/
theorem Watch.isFound_brief :
    let database := (Database.atRevision .invites ⟨⟨0⟩, true⟩).after brief
    let context : Context := { clock := ⟨60000000⟩ }
    Account.brief ∈ database.accounts.entries ∧
      Account.brief.row.lapse (Moment.utc context.clock) = .ok none ∧
      ∃ watch ∈ database.watches.entries, watch.row.account = Account.brief.id ∧
        ¬isFound context database {} watch.row.descriptor Account.brief.id := by
  intro database context
  refine ⟨.head _, rfl, ⟨1, 1, 1, 0⟩, .head _, rfl, ?_⟩
  rw [isFound_iff rfl rfl rfl]
  rintro ⟨_, isCounted⟩
  cases isCounted

/-- When half of the minute is over, the search finds it. -/
theorem Account.queries_agree_brief :
    let database := (Database.atRevision .invites ⟨⟨0⟩, true⟩).after Watch.brief
    let context : Context := { clock := ⟨30000000⟩ }
    brief ∈ database.accounts.entries ∧ Watch.isFound context database {} 1 brief.id := by
  intro database context
  have stored : brief ∈ database.accounts.entries := .head _
  have agreed := (queries_agree_iff ⟨⟨0⟩, true⟩ Watch.brief context {} brief stored).1
    ⟨1, 1, 1, 0⟩ (.head _) rfl
  exact ⟨stored, (agreed.mpr fun isExpiring => by cases isExpiring.2).mpr rfl⟩

end Lookout
