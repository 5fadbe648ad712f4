import Lookout.Proofs.Newest

/-!
# What persists

Threads, descriptors and posts are there for good, and nothing changes what they are known by.
An account is there under its id until it is deleted, and once it has expired it stays so.
-/

namespace Lookout

open Operation Store
open Schema (Column TableName)

namespace Database

variable {α : Type} [Relation α] [LawfulRelation α] {before after : Database} {id : Int}
  {property : α → Prop}

/-- The row under a number has a property. -/
def Has (database : Database) (id : Int) (property : α → Prop) : Prop :=
  ∃ row, ⟨id, row⟩ ∈ (Relation.read database : Table α).entries ∧ property row

/-- Rows stay where their table is the same. -/
theorem Has.of_same {α : Type} [Relation α] {property : α → Prop} (has : before.Has id property)
    (same : (Relation.read before : Table α) = Relation.read after) : after.Has id property := by
  unfold Has at has ⊢
  rwa [← same]

/-- A row stays where another one is put. -/
theorem Has.inserts {key : List Column} {row : α} {answer : Int × Bool}
    (has : before.Has id property) (inserts : before.Inserts key row answer after) :
    after.Has id property := by
  obtain ⟨held, stored, holds⟩ := has
  cases inserts with
  | present found => exact ⟨held, stored, holds⟩
  | added absent admitted => exact ⟨held, mem_added stored row, holds⟩

/-- A row stays through an update that keeps the property. -/
theorem Has.updated {wanted : Entry α → Bool} {step : α → α} (has : before.Has id property)
    (kept : ∀ row, property row → property (step row)) :
    (before.updated wanted step).Has id property := by
  obtain ⟨row, stored, holds⟩ := has
  have changed := mem_updated stored wanted step
  split at changed
  · exact ⟨_, changed, kept row holds⟩
  · exact ⟨_, changed, holds⟩

/-- After an insertion a row like the one that was to be put is under the number. -/
theorem Inserts.has {key : List Column} {row : α} {isNew : Bool}
    (inserts : before.Inserts key row (id, isNew) after)
    (full : Relation.alike key row row = true) :
    after.Has id fun other : α => Relation.alike key row other = true := by
  cases inserts with
  | present found =>
      obtain ⟨stored, isAlike⟩ := Table.of_find? found
      exact ⟨_, stored, isAlike⟩
  | added absent admitted =>
      refine ⟨row, ?_, full⟩
      rw [Database.added, LawfulRelation.read_write, Table.entries_add]
      exact List.mem_append_right _ (.head _)

/-- Nothing is added where a row like the one that was to be put is there. -/
theorem Inserts.unchanged {α : Type} [Relation α] {key : List Column} {row : α}
    {answer : Int × Bool} (inserts : before.Inserts key row answer after) {entry : Entry α}
    (stored : entry ∈ (Relation.read before : Table α).entries)
    (isAlike : Relation.alike key row entry.row = true) : after = before := by
  cases inserts with
  | present found => rfl
  | added absent admitted =>
      exact absurd isAlike (List.find?_eq_none.mp absent entry stored)

/-- What each turn of a run keeps holds after the run. -/
theorem after_of_kept_by {property : Database → Prop} {turns : List Turn}
    (kept : ∀ turn ∈ turns, ∀ database : Database,
      property database → property (turn.outcome database).database)
    {database : Database} (holds : property database) : property (database.after turns) := by
  induction turns generalizing database with
  | nil => exact holds
  | cons turn rest ih =>
      exact ih (fun other later => kept other (.tail _ later)) (kept turn (.head _) database holds)

end Database

variable {context : Context} {before after : Database} {table : TableName} {id : Int}

/-! ### Insertions leave the other tables alone -/

theorem Thread.Inserted.agree {site board : Option String} {number : Option Int} {id : Int}
    (inserted : Inserted context before site board number id after) (other : table ≠ .threads) :
    before.Agree after table :=
  (inserted.writes (.head [])).agree (by simpa using other)

theorem Descriptor.Inserted.agree {thread postNo postSubNo : Option Int} {id : Int}
    (inserted : Inserted before thread postNo postSubNo id after) (other : table ≠ .descriptors) :
    before.Agree after table :=
  (inserted.writes (.head [])).agree (by simpa using other)

theorem Post.Inserted.agree {descriptor : Option Int} {id : Int}
    (inserted : Inserted context before descriptor id after) (other : table ≠ .posts) :
    before.Agree after table :=
  (inserted.writes (.head [])).agree (by simpa using other)

theorem Watch.Inserted.agree {account descriptor application : Option Int} {id : Int}
    (inserted : Inserted before account descriptor application id after)
    (other : table ≠ .watches) : before.Agree after table :=
  (inserted.writes (.head [])).agree (by simpa using other)

/-! ### Threads, descriptors and posts -/

/-- What a thread is known by. -/
def Thread.name (thread : Thread) : String × String × Int :=
  (thread.site, thread.board, thread.number)

namespace Request.Effect

variable {request : Request} {answer : request.Answer}

/-- A request that has had its effect has kept every thread under its name. -/
theorem has_thread (effective : request.Effect context before answer after)
    (property : String × String × Int → Prop)
    (has : before.Has id fun row : Thread => property row.name) :
    after.Has id fun row : Thread => property row.name := by
  by_cases written : .threads ∈ request.writes
  · cases request with
    | watchPost accountId site board threadNo postNo postSubNo application =>
        obtain ⟨number, -, placed⟩ := effective
        cases placed with
        | intro named valid threaded described posted watched =>
            have rest := ((described.agree (by decide : .threads ≠ _)).trans
              (posted.agree (by decide))).trans (watched.agree (by decide))
            cases threaded with
            | intro prepared inserts => exact (has.inserts inserts).of_same rest
    | resolveThread site board number =>
        cases effective with
        | intro prepared inserts => exact has.inserts inserts
    | advanceWatermark id postNo postSubNo =>
        obtain ⟨number, subNumber, -, -, -, -, rfl⟩ := effective
        exact has.updated fun row same => same
    | storeLastModified id date =>
        obtain ⟨held, -, -, rfl⟩ := effective
        exact has.updated fun row same => same
    | markThreadDead id =>
        obtain ⟨held, -, -, -, rfl⟩ := effective
        have buried : (before.updated (Thread.hasPost before held.id) fun (row : Post) =>
            { row with isDead := true }).Has _ _ := has.of_same rfl
        exact buried.updated fun row same => same
    | _ => simp [Request.writes] at written
  · exact has.of_same (effective.writes.agree written)

/-- It has kept every descriptor as it was. -/
theorem mem_descriptors (effective : request.Effect context before answer after)
    {entry : Entry Descriptor} (stored : entry ∈ before.descriptors.entries) :
    entry ∈ after.descriptors.entries := by
  have has : before.Has entry.id fun row : Descriptor => row = entry.row := ⟨_, stored, rfl⟩
  suffices after.Has entry.id fun row : Descriptor => row = entry.row by
    obtain ⟨_, isStored, rfl⟩ := this
    exact isStored
  by_cases written : .descriptors ∈ request.writes
  · cases request with
    | watchPost accountId site board threadNo postNo postSubNo application =>
        obtain ⟨number, -, placed⟩ := effective
        cases placed with
        | intro named valid threaded described posted watched =>
            have first := threaded.agree (by decide : .descriptors ≠ _)
            have rest := (posted.agree (by decide : .descriptors ≠ _)).trans
              (watched.agree (by decide))
            cases described with
            | intro prepared inserts => exact ((has.of_same first).inserts inserts).of_same rest
    | resolveDescriptor thread postNo postSubNo =>
        cases effective with
        | intro prepared inserts => exact has.inserts inserts
    | _ => simp [Request.writes] at written
  · exact has.of_same (effective.writes.agree written)

/-- It has kept what it could not take from a post by marking it as dead. -/
theorem has_post (effective : request.Effect context before answer after) {property : Post → Prop}
    (kept : ∀ row, property row → property { row with isDead := true })
    (has : before.Has id property) : after.Has id property := by
  by_cases written : .posts ∈ request.writes
  · cases request with
    | watchPost accountId site board threadNo postNo postSubNo application =>
        obtain ⟨number, -, placed⟩ := effective
        cases placed with
        | intro named valid threaded described posted watched =>
            have first := (threaded.agree (by decide : .posts ≠ _)).trans
              (described.agree (by decide))
            have rest := watched.agree (by decide : .posts ≠ _)
            cases posted with
            | intro prepared inserts => exact ((has.of_same first).inserts inserts).of_same rest
    | ensurePost descriptor =>
        cases effective with
        | intro prepared inserts => exact has.inserts inserts
    | markPostDead descriptor =>
        obtain ⟨id, middle, inserted, -, rfl⟩ := effective
        cases inserted with
        | intro prepared inserts => exact (has.inserts inserts).updated kept
    | markThreadDead id =>
        obtain ⟨held, -, -, -, rfl⟩ := effective
        have dead : (before.updated (Thread.hasPost before held.id) fun (row : Post) =>
            { row with isDead := true }).Has _ _ := has.updated kept
        exact dead.of_same rfl
    | _ => simp [Request.writes] at written
  · exact has.of_same (effective.writes.agree written)

end Request.Effect

/-! ### Accounts -/

/-- An account goes on: it has the same id, and once it has expired it stays so. -/
structure Account.Continues (account later : Account) : Prop where
  accountId : later.accountId = account.accountId
  expired : account.deletedOn.isSome = true → later.deletedOn.isSome = true

theorem Account.Continues.refl (account : Account) : account.Continues account :=
  ⟨rfl, fun expired => expired⟩

/-- A request that has had its effect has gone on with every account but one that it deletes. -/
theorem Request.Effect.has_account {request : Request} {answer : request.Answer}
    (effective : request.Effect context before answer after) {account : Account}
    (has : before.Has id account.Continues)
    (spared : request ≠ .deleteAccount (some account.accountId)) :
    after.Has id account.Continues := by
  by_cases written : .accounts ∈ request.writes
  · cases request with
    | upsertAccount accountId validUntil =>
        cases effective with
        | intro prepared inserts => exact has.inserts inserts
    | setExpiry accountId validUntil =>
        obtain ⟨held, -, rfl⟩ := effective
        exact has.updated fun row same => ⟨same.accountId, same.expired⟩
    | expireAccount accountId date =>
        obtain ⟨held, -, rfl⟩ := effective
        exact has.updated fun row same => ⟨same.accountId, fun _ => rfl⟩
    | deleteAccount accountId =>
        obtain ⟨-, rfl⟩ := effective
        obtain ⟨row, stored, same⟩ := has
        have unnamed : Account.isNamed accountId ⟨id, row⟩ = false := by
          refine decide_eq_false fun named => spared ?_
          rw [← named, ← same.accountId]
        refine ⟨row, List.mem_filter.mpr ⟨stored, ?_⟩, same⟩
        rw [Bool.not_eq_true', ← unnamed]
        exact Table.any_select stored
    | acceptInvite inviteId date =>
        cases effective with
        | refused closed => exact has
        | opened isOpen identified free trial prepared admitted =>
            obtain ⟨row, stored, same⟩ := has
            exact ⟨row, Database.mem_added stored _, same⟩
    | _ => simp [Request.writes] at written
  · exact has.of_same (effective.writes.agree written)

namespace Turn

variable {database : Database} (turn : Turn)

/-- Threads persist. -/
theorem has_thread (property : String × String × Int → Prop)
    (has : database.Has id fun row : Thread => property row.name) :
    (turn.outcome database).database.Has id fun row : Thread => property row.name := by
  rcases turn.changes database with same | ⟨answer, effective⟩
  · rwa [same]
  · exact effective.has_thread property has

/-- So do descriptors. -/
theorem mem_descriptors {entry : Entry Descriptor}
    (stored : entry ∈ database.descriptors.entries) :
    entry ∈ (turn.outcome database).database.descriptors.entries := by
  rcases turn.changes database with same | ⟨answer, effective⟩
  · rwa [same]
  · exact effective.mem_descriptors stored

/-- So do posts, with all that marking them as dead leaves alone. -/
theorem has_post {property : Post → Prop}
    (kept : ∀ row, property row → property { row with isDead := true })
    (has : database.Has id property) : (turn.outcome database).database.Has id property := by
  rcases turn.changes database with same | ⟨answer, effective⟩
  · rwa [same]
  · exact effective.has_post kept has

/-- Accounts persist until they are deleted. -/
theorem has_account {account : Account} (has : database.Has id account.Continues)
    (spared : turn.request ≠ .deleteAccount (some account.accountId)) :
    (turn.outcome database).database.Has id account.Continues := by
  rcases turn.changes database with same | ⟨answer, effective⟩
  · rwa [same]
  · exact effective.has_account has spared

end Turn

end Lookout
