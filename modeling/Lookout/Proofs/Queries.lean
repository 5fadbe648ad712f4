import Lookout.Proofs.Newest
import Lookout.Proofs.Delivery
import Lookout.Proofs.Standing

/-!
# Answers of queries

What queries about accounts, and about what they own, are answered with on a database of the
newest revision. An account is known by its id there, and what names it is told by its number.
-/

namespace Lookout

open Operation Store
open Schema (Revision)
open Time (WallTime)

variable {context : Context} {database : Database} {draws : Draws}

/-- An account is the only one with its id. -/
theorem Database.IsNewest.eq_of_accountId (newest : database.IsNewest) {left right : Entry Account}
    (leftStored : left ∈ database.accounts.entries)
    (rightStored : right ∈ database.accounts.entries)
    (same : left.row.accountId = right.row.accountId) : left = right := by
  have unique : [.accountId] ∈ Revision.invites.catalog.uniqueKeys (Relation.table Account) := by
    decide
  refine newest.eq_of_alike unique leftStored rightStored ?_
  simp [Relation.alike, Relation.keyOf, Relation.cell, same]

namespace Account

variable {held : Entry Account}

/-- A stored account is found under its id. -/
theorem find?_isNamed (newest : database.IsNewest) (stored : held ∈ database.accounts.entries) :
    database.accounts.find? (isNamed (some held.row.accountId)) = some held := by
  refine Table.find?_of_unique stored (by simp [isNamed]) fun other isOther named => ?_
  exact newest.eq_of_accountId isOther stored (by simpa [isNamed] using named)

/-- Who owns something of a stored account is told by its number. -/
theorem any_isNamed (newest : database.IsNewest) (stored : held ∈ database.accounts.entries)
    (owner : Int) :
    (database.accounts.entries.any fun account =>
      account.id = owner && account.row.accountId = held.row.accountId) =
        decide (owner = held.id) := by
  rw [Bool.eq_iff_iff]
  simp only [List.any_eq_true, Bool.and_eq_true, decide_eq_true_eq]
  constructor
  · rintro ⟨account, isAccount, rfl, same⟩
    rw [newest.eq_of_accountId isAccount stored same]
  · rintro rfl
    exact ⟨held, stored, rfl, rfl⟩

/-- A query for the id of a stored account answers this account, but an expired one only on
request. -/
theorem ends_lookup {answers : Option (Entry Account) → Session → Prop}
    {fails : Failure → Session → Prop} (newest : database.IsNewest)
    (stored : held ∈ database.accounts.entries) (includeDeleted : Bool) :
    (lookup (some held.row.accountId) includeDeleted).Ends context
        { saved := database, current := database, draws } answers fails ↔
      answers (if includeDeleted || held.row.deletedOn.isNone then some held else none)
        { saved := database, current := database, draws } := by
  have found : database.accounts.find? (fun entry =>
      some entry.row.accountId = some held.row.accountId &&
        (includeDeleted || entry.row.deletedOn.isNone)) =
      if includeDeleted || held.row.deletedOn.isNone then some held else none := by
    by_cases shown : (includeDeleted || held.row.deletedOn.isNone) = true
    · rw [if_pos shown]
      refine Table.find?_of_unique stored (by simp [shown]) fun other isOther isWanted => ?_
      simp only [Bool.and_eq_true, decide_eq_true_eq, Option.some.injEq] at isWanted
      exact newest.eq_of_accountId isOther stored isWanted.1
    · rw [if_neg shown]
      refine List.find?_eq_none.mpr fun other isOther isWanted => ?_
      simp only [Bool.and_eq_true, decide_eq_true_eq, Option.some.injEq] at isWanted
      obtain rfl := newest.eq_of_accountId isOther stored isWanted.1
      exact shown isWanted.2
  simp only [lookup, ends_bind, ends_require, newest.missing?_eq_none, ends_rows, ends_pure,
    reduceCtorEq, false_implies, implies_true, true_and, forall_const]
  rw [← found]
  rfl

theorem answer_lookup (newest : database.IsNewest) (stored : held ∈ database.accounts.entries)
    (includeDeleted : Bool) :
    ((lookup (some held.row.accountId) includeDeleted).perform context database draws).answer =
      .ok (if includeDeleted || held.row.deletedOn.isNone then some held else none) :=
  Ends.answer_perform (.ok _) ((ends_lookup newest stored includeDeleted).mpr rfl)

/-- A stored account that is demanded is answered. -/
theorem ends_demand {answers : Entry Account → Session → Prop} {fails : Failure → Session → Prop}
    (newest : database.IsNewest) (stored : held ∈ database.accounts.entries) :
    (demand (some held.row.accountId)).Ends context
        { saved := database, current := database, draws } answers fails ↔
      answers held { saved := database, current := database, draws } := by
  rw [demand, ends_bind, ends_lookup newest stored]
  rfl

end Account

/-- The tokens of a stored account are those under its number. -/
theorem Token.answer_ofAccount {held : Entry Account} (newest : database.IsNewest)
    (stored : held ∈ database.accounts.entries) :
    ((ofAccount (some held.row.accountId)).perform context database draws).answer =
      .ok ((database.tokens.select fun entry => entry.row.account = held.id).mergeSort
        fun left right => left.row.application < right.row.application ||
          (left.row.application = right.row.application && left.row.kind ≤ right.row.kind)) := by
  refine Ends.answer_perform (.ok _) ?_
  simp [ofAccount, newest, Account.any_isNamed newest stored]

namespace Reply

/-- The replies of a stored account are those under its number. -/
theorem answer_ofAccount {held : Entry Account} (newest : database.IsNewest)
    (stored : held ∈ database.accounts.entries) :
    ((ofAccount (some held.row.accountId)).perform context database draws).answer =
      .ok ((database.replies.select fun entry => entry.row.account = held.id).map fun reply =>
        { reply, accountId := some held.row.accountId
          postNo := (database.descriptors.get? reply.row.descriptor).map (·.row.postNo)
          replyToPostNo := (database.descriptors.get? reply.row.replyTo).map (·.row.postNo) }) := by
  refine Ends.answer_perform (.ok _) ?_
  simp [ofAccount, newest, Account.any_isNamed newest stored]

/-- What is handed out for delivery belongs to an account that queries count. -/
theorem counts_of_pending {limit : Option Int} {replies : List (Entry Reply)}
    (answered : ((pending limit).perform context database draws).answer = .ok replies)
    {reply : Entry Reply} (isOne : reply ∈ replies) :
    database.counts context.clock reply.row.account = true :=
  (mem_queue.mp ((queued_of_pending answered).2 isOne)).2.2

end Reply

namespace Watch

/-- The watches of an account are those under its number, with the id of the account and the
number of the post. -/
theorem answer_ofAccount (newest : database.IsNewest) (account : Option Int) :
    ((ofAccount account).perform context database draws).answer =
      if account.all isStorable then
        .ok ((database.watches.select fun entry => some entry.row.account = account).map
          fun watch =>
            { watch
              accountId := (database.accounts.get? watch.row.account).map (·.row.accountId)
              postNo := (database.descriptors.get? watch.row.descriptor).map (·.row.postNo) })
      else .error (.store .numberTooLarge) := by
  have isRead : (Relation.read database : Table Watch) = database.watches := rfl
  refine Ends.answer_perform _ ?_
  by_cases storable : account.all isStorable = true
  · by_cases owned : (database.watches.select fun entry => some entry.row.account = account) = []
    · simp [ofAccount, newest, storable, isRead, owned]
    · simp [ofAccount, newest, storable, isRead, owned]
  · simp [ofAccount, newest, storable]

/-- Whether a pair comes before another one. -/
def pairLt (left right : Int × Int) : Prop :=
  left.1 < right.1 ∨ left.1 = right.1 ∧ left.2 < right.2

/-- Without what comes again, pairs in order are strictly ascending. -/
theorem pairwise_eraseDups {pairs : List (Int × Int)}
    (ordered : pairs.Pairwise fun left right => pairLe left right = true) :
    pairs.eraseDups.Pairwise pairLt := by
  match pairs with
  | [] => exact .nil
  | pair :: rest =>
      rw [List.pairwise_cons] at ordered
      rw [List.eraseDups_cons, List.pairwise_cons]
      constructor
      · intro later isLater
        obtain ⟨isLater, other⟩ := List.mem_filter.mp (List.mem_eraseDups.mp isLater)
        have below := ordered.1 later isLater
        simp only [pairLe, Bool.or_eq_true, Bool.and_eq_true, decide_eq_true_eq, Bool.not_eq_true',
          beq_eq_false_iff_ne, ne_eq, Prod.ext_iff, not_and] at below other
        unfold pairLt
        omega
      · exact pairwise_eraseDups (ordered.2.filter _)
  termination_by pairs.length
  decreasing_by
    simp only [List.length_cons]
    exact Nat.lt_succ_of_le (List.length_filter_le _ rest)

/-- The descriptors among some with the accounts that watch them and that queries count. -/
def found (database : Database) (clock : WallTime) (wanted : List (Option Int)) :
    List (Int × Int) :=
  let matching := database.watches.select fun entry =>
    wanted.contains (some entry.row.descriptor) && database.counts clock entry.row.account
  ((matching.map fun entry => (entry.row.descriptor, entry.row.account)).mergeSort pairLe).eraseDups

variable {clock : WallTime} {wanted : List (Option Int)}

theorem mem_found {pair : Int × Int} :
    pair ∈ found database clock wanted ↔
      some pair.1 ∈ wanted ∧
      (∃ watch ∈ database.watches.entries,
        watch.row.descriptor = pair.1 ∧ watch.row.account = pair.2) ∧
      database.counts clock pair.2 = true := by
  obtain ⟨descriptor, account⟩ := pair
  simp only [found, List.mem_eraseDups, List.mem_mergeSort, List.mem_map, Table.select,
    List.mem_filter, List.contains_eq_mem, Bool.and_eq_true, decide_eq_true_eq, Prod.mk.injEq]
  constructor
  · rintro ⟨watch, ⟨stored, isWanted, isCounted⟩, rfl, rfl⟩
    exact ⟨isWanted, ⟨watch, stored, rfl, rfl⟩, isCounted⟩
  · rintro ⟨isWanted, ⟨watch, stored, rfl, rfl⟩, isCounted⟩
    exact ⟨watch, ⟨stored, isWanted, isCounted⟩, rfl, rfl⟩

/-- What is found is strictly ascending. -/
theorem pairwise_found : (found database clock wanted).Pairwise pairLt := by
  refine pairwise_eraseDups (List.pairwise_mergeSort ?_ ?_ _)
  · intro first second third
    simp only [pairLe, Bool.or_eq_true, Bool.and_eq_true, decide_eq_true_eq]
    omega
  · intro first second
    simp only [pairLe, Bool.or_eq_true, Bool.and_eq_true, decide_eq_true_eq]
    omega

/-- Neither the order of the descriptors that are asked for matters nor that some come again. -/
theorem found_congr {others : List (Option Int)}
    (same : ∀ descriptor, descriptor ∈ wanted ↔ descriptor ∈ others) :
    found database clock wanted = found database clock others := by
  simp only [found, List.contains_eq_mem, same]

/-- The search for the watchers of some descriptors answers what is found, unless one of the
numbers is too large. -/
theorem answer_watchers (newest : database.IsNewest) (descriptors : Option (List (Option Int))) :
    ((watchers descriptors).perform context database draws).answer =
      if (descriptors.getD []).all fun descriptor => descriptor.all isStorable then
        .ok (found database context.clock (descriptors.getD []))
      else .error (.store .numberTooLarge) := by
  have counts (account : Int) : (database.accounts.entries.any fun owner =>
      owner.id = account && owner.row.isNotifiable context.clock) =
        database.counts context.clock account := rfl
  have nothing : found database context.clock [] = [] := by
    refine List.eq_nil_iff_forall_not_mem.mpr fun pair isFound => ?_
    exact absurd (mem_found.mp isFound).1 List.not_mem_nil
  refine Ends.answer_perform _ ?_
  match descriptors with
  | none | some [] => simp [watchers, nothing]
  | some (first :: rest) =>
      simp only [watchers, ends_bind, ends_require, ends_fits, ends_database, ends_read, ends_pure,
        newest.missing?_eq_none, reduceCtorEq, false_implies, implies_true, true_and,
        forall_const, Option.getD_some]
      constructor
      · intro large
        rw [large, if_neg Bool.false_ne_true]
      · intro storable
        rw [if_pos (List.all_eq_true.mpr storable)]
        simp only [found, counts]

end Watch

end Lookout
