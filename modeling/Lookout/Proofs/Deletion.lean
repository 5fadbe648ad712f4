import Lookout.Proofs.Plain

/-!
# Deleting an account

An account goes with the tokens, the replies and the watches that it owns, and with nothing else.
-/

namespace Lookout

open Operation Store

variable {context : Context} {database : Database} {draws : Draws} {accountId : Option String}

namespace Database

/-- Whether the account under a number has an id. -/
def IsOwner (database : Database) (accountId : Option String) (id : Int) : Prop :=
  ∃ owner ∈ database.accounts.entries, owner.id = id ∧ some owner.row.accountId = accountId

/-- A database is without an account and what it owns, and otherwise as before. -/
structure IsWithout (before : Database) (accountId : Option String) (after : Database) : Prop where
  accounts : ∀ entry, entry ∈ after.accounts.entries ↔
    entry ∈ before.accounts.entries ∧ some entry.row.accountId ≠ accountId
  tokens : ∀ entry, entry ∈ after.tokens.entries ↔
    entry ∈ before.tokens.entries ∧ ¬before.IsOwner accountId entry.row.account
  replies : ∀ entry, entry ∈ after.replies.entries ↔
    entry ∈ before.replies.entries ∧ ¬before.IsOwner accountId entry.row.account
  watches : ∀ entry, entry ∈ after.watches.entries ↔
    entry ∈ before.watches.entries ∧ ¬before.IsOwner accountId entry.row.account
  others : ∀ table, table ∉ [Schema.TableName.accounts, .tokens, .replies, .watches] →
    before.Agree after table
  catalog : after.catalog = before.catalog

theorem isWithout_erased (before : Database) (accountId : Option String) :
    before.IsWithout accountId (before.erased (Account.isNamed accountId)) := by
  have owned_iff (id : Int) : (!(before.accounts.select (Account.isNamed accountId)).any
      fun entry => entry.id = id) = true ↔ ¬before.IsOwner accountId id := by
    rw [Bool.not_eq_true', ← Bool.not_eq_true, List.any_eq_true]
    refine not_congr ⟨?_, ?_⟩
    · rintro ⟨owner, isOne, same⟩
      obtain ⟨stored, named⟩ := List.mem_filter.mp isOne
      exact ⟨owner, stored, of_decide_eq_true same, of_decide_eq_true named⟩
    · rintro ⟨owner, stored, same, named⟩
      exact ⟨owner, List.mem_filter.mpr ⟨stored, decide_eq_true named⟩, decide_eq_true same⟩
  have rest : (before.erased (Account.isNamed accountId)).accounts =
      before.accounts.keep fun entry => !Account.isNamed accountId entry :=
    before.accounts.keep_others _
  refine
    { accounts := fun entry => ?_
      tokens := fun entry => List.mem_filter.trans (and_congr_right fun _ => owned_iff _)
      replies := fun entry => List.mem_filter.trans (and_congr_right fun _ => owned_iff _)
      watches := fun entry => List.mem_filter.trans (and_congr_right fun _ => owned_iff _)
      others := fun table other => ?_
      catalog := rfl }
  · rw [rest, Table.entries_keep, List.mem_filter, Account.isNamed, Bool.not_eq_true',
      decide_eq_false_iff_not]
  · cases table <;> first | rfl | simp at other

end Database

/-- Deleting an account by its id tells whether there is one, and removes it with what it owns. -/
theorem Account.result_delete (present : database.missing? [.accounts] = none) :
    ((delete accountId).perform context database draws).result =
      .ok (database.accounts.entries.any (isNamed accountId),
        database.erased (isNamed accountId)) := by
  have existed : decide (0 < (database.accounts.select (isNamed accountId)).length) =
      database.accounts.entries.any (isNamed accountId) := by
    rw [Bool.eq_iff_iff, decide_eq_true_iff, Table.select, ← List.countP_eq_length_filter,
      List.countP_pos_iff, List.any_eq_true]
  refine result_perform_of_ends ?_
  simp only [delete, ends_bind, ends_require, ends_eraseWhere, ends_commit, ends_pure, present,
    reduceCtorEq, false_implies, implies_true, true_and, forall_const]
  exact congrArg (fun answer => Except.ok (answer, database.erased (isNamed accountId)))
    existed.symm

end Lookout
