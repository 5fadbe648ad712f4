import Lookout.Proofs.Writes

/-!
# Soundness of runs

Whatever requests are made of a database that started out empty, in any order and with any of
them failing, what is kept about accounts, boards and deliveries fits together: natural keys
are unique and every row that another one names exists.
-/

namespace Lookout

open Operation Store

namespace Token

/-- The columns of the key over a token's text, application and kind. -/
def textKey : List Schema.Column := [.token, .applicationType, .tokenType]

/-- A unique key over the text of a token is over its application and kind as well. -/
theorem columns_of_token :
    ∀ index ∈ Schema.uniqueIndexes, .token ∈ index.columns → index.columns = textKey := by
  decide

/-- What a token holds in the key over its text, application and kind. -/
theorem keyIn_textKey (row : Token) :
    keyIn textKey (Relation.cell row) =
      row.text.map fun text => [.text text, .integer row.application, .integer row.kind] := by
  cases held : row.text <;> simp [keyIn, textKey, Relation.cell, held, Cell.ofText?]

/-- A text that no row holds for an application and kind is in no row's key. -/
theorem keyIn_ne_of_free {database : Database} {account application kind : Int}
    {text : Option String} {entry : Entry Token} {key : List Cell}
    (free : database.tokens.find? (holds text application kind) = none)
    (stored : entry ∈ database.tokens.entries)
    (ofRow :
      keyIn textKey (Relation.cell { account, text, application, kind : Token }) = some key) :
    keyIn textKey (Relation.cell entry.row) ≠ some key := by
  intro ofEntry
  rw [keyIn_textKey, Option.map_eq_some_iff] at ofRow ofEntry
  obtain ⟨given, isGiven, rfl⟩ := ofRow
  obtain ⟨held, isHeld, same⟩ := ofEntry
  simp only [List.cons.injEq, Cell.text.injEq, Cell.integer.injEq, and_true] at same
  obtain ⟨rfl, sameApplication, sameKind⟩ := same
  simp only at isGiven
  have unlike := List.find?_eq_none.mp free entry stored
  simp [holds, isGiven, isHeld, sameApplication, sameKind] at unlike

/-- Putting a token that no row holds into a slot keeps a database whole. -/
theorem keeps_replaced {database : Database} {account application kind : Int}
    {text : Option String} {slot : Entry Token}
    (free : database.tokens.find? (holds text application kind) = none)
    (found : database.tokens.find? (isSlot account application kind) = some slot) :
    database.Keeps (database.updated (fun entry => entry.id = slot.id) fun (row : Token) =>
      { row with text }) := by
  obtain ⟨isStored, isTheSlot⟩ := Table.of_find? found
  simp only [isSlot, Bool.and_eq_true, decide_eq_true_eq] at isTheSlot
  obtain ⟨⟨_, rfl⟩, rfl⟩ := isTheSlot
  refine Database.Keeps.updated ?_ ?_
  · intro integral columns unique
    have old := integral.unlike _ columns unique
    rw [LawfulRelation.cells_read (α := Token), AreUnlike, List.pairwise_map] at old
    rw [AreUnlike, List.pairwise_map]
    by_cases overText : .token ∈ columns
    · obtain ⟨index, isIndex, _, rfl⟩ := integral.identifying unique
      rw [columns_of_token index isIndex overText] at old ⊢
      refine (database.tokens.ascending.and old).imp_of_mem ?_
      rintro left right leftStored rightStored ⟨below, unlike⟩ key
      by_cases isLeft : left.id = slot.id
      · have other : right.id ≠ slot.id := by omega
        obtain rfl := database.tokens.eq_of_id_eq leftStored isStored isLeft
        simp only [other, decide_true, decide_false, if_true, if_false, Bool.false_eq_true]
        exact keyIn_ne_of_free free rightStored
      · by_cases isRight : right.id = slot.id
        · obtain rfl := database.tokens.eq_of_id_eq rightStored isStored isRight
          simp only [isLeft, decide_true, decide_false, if_true, if_false, Bool.false_eq_true]
          exact fun ofLeft ofRight => keyIn_ne_of_free free leftStored ofRight ofLeft
        · simp only [isLeft, isRight, decide_false, if_false, Bool.false_eq_true]
          exact unlike key
    · have held (entry : Entry Token) : keyIn columns (Relation.cell
          (if decide (entry.id = slot.id) then { entry.row with text } else entry.row)) =
          keyIn columns (Relation.cell entry.row) := by
        refine keyIn_congr fun column isColumn => ?_
        have other : column ≠ .token := by
          rintro rfl
          exact overText isColumn
        split
        · cases column <;> first | rfl | exact absurd rfl other
        · rfl
      simpa only [held] using old
  · intro row key isKey
    simp only [Relation.table, Schema.TableName.definition, List.mem_singleton] at isKey
    subst isKey
    rfl

end Token

/-- Every kind of write keeps a database whole. -/
theorem Database.Writes.keeps {before after : Database} {tables : List Schema.TableName}
    (writes : before.Writes tables after) : before.Keeps after := by
  induction writes with
  | refl database => exact .refl database
  | added written present admitted => exact .added admitted
  | updated written same => exact .updated_of_identifying same
  | replaced written free found => exact Token.keeps_replaced free found
  | erased written => exact .erase _ _ _
  | trans first second ihFirst ihSecond => exact ihFirst.trans ihSecond

namespace Database

/-- Every run keeps a database whole, whatever is asked for in it and however its turns end. -/
theorem keeps_after (database : Database) (turns : List Turn) :
    database.Keeps (database.after turns) := by
  induction turns generalizing database with
  | nil => exact .refl database
  | cons turn rest ih => exact (turn.writes database).keeps.trans (ih _)

/-- A run neither makes tables nor loses any. -/
theorem missing?_after (database : Database) (turns : List Turn) (tables : List Schema.TableName) :
    (database.after turns).missing? tables = database.missing? tables := by
  unfold missing?
  rw [(database.keeps_after turns).catalog]

/-- Where some tables are there, so are those among them. -/
theorem missing?_of_subset {database : Database} {tables more : List Schema.TableName}
    (present : database.missing? more = none) (among : tables ⊆ more) :
    database.missing? tables = none := by
  rw [missing?, List.find?_eq_none] at present ⊢
  exact fun table isOne => present table (among isOne)

/-- A database without rows of the services is whole. -/
theorem isIntegral_atRevision (revision : Schema.Revision) (appliedOn : Time.Stamp) :
    (atRevision revision appliedOn).IsIntegral where
  known := by
    change ∀ index ∈ revision.catalog.indexes, index.unique = true → index ∈ Schema.uniqueIndexes
    cases revision <;> decide
  unlike table columns unique := by
    cases table with
    | ledger => cases revision <;> cases unique
    | _ => exact .nil
  rooted table held stored key isKey := by
    cases table with
    | ledger => cases isKey
    | _ => cases stored

/-- The numbers of the rows of a table. -/
def numbers (database : Database) : Schema.TableName → List Int
  | .position => []
  | .ledger => database.ledger.entries.map (·.id)
  | .journal => database.journal.entries.map (·.id)
  | .accounts => database.accounts.entries.map (·.id)
  | .tokens => database.tokens.entries.map (·.id)
  | .invites => database.invites.entries.map (·.id)
  | .threads => database.threads.entries.map (·.id)
  | .descriptors => database.descriptors.entries.map (·.id)
  | .posts => database.posts.entries.map (·.id)
  | .replies => database.replies.entries.map (·.id)
  | .watches => database.watches.entries.map (·.id)

/-- What is kept fits together: rows have numbers of their own, natural keys are unique, and
every row that another one names exists. -/
structure IsSound (database : Database) : Prop where
  numbers : ∀ table, (database.numbers table).Nodup
  accounts : (database.accounts.entries.map fun entry => entry.row.accountId).Nodup
  invites : (database.invites.entries.map fun entry => entry.row.inviteId).Nodup
  threads : (database.threads.entries.map fun entry =>
    (entry.row.site, entry.row.board, entry.row.number)).Nodup
  descriptors : (database.descriptors.entries.map fun entry =>
    (entry.row.thread, entry.row.postNo, entry.row.postSubNo)).Nodup
  posts : (database.posts.entries.map fun entry => entry.row.descriptor).Nodup
  replies : (database.replies.entries.map fun entry =>
    (entry.row.account, entry.row.descriptor, entry.row.replyTo)).Nodup
  watches : (database.watches.entries.map fun entry =>
    (entry.row.account, entry.row.descriptor, entry.row.application)).Nodup
  tokenSlots : (database.tokens.entries.map fun entry =>
    (entry.row.account, entry.row.application, entry.row.kind)).Nodup
  /-- Slots without a text do not count. -/
  tokenTexts : (database.tokens.entries.filterMap fun entry =>
    entry.row.text.map fun text => (text, entry.row.application, entry.row.kind)).Nodup
  tokenOwners : ∀ entry ∈ database.tokens.entries, database.accounts.has entry.row.account = true
  replyOwners : ∀ entry ∈ database.replies.entries, database.accounts.has entry.row.account = true
  watchOwners : ∀ entry ∈ database.watches.entries, database.accounts.has entry.row.account = true
  descriptorThreads : ∀ entry ∈ database.descriptors.entries,
    database.threads.has entry.row.thread = true
  postDescriptors : ∀ entry ∈ database.posts.entries,
    database.descriptors.has entry.row.descriptor = true
  replyDescriptors : ∀ entry ∈ database.replies.entries,
    database.descriptors.has entry.row.descriptor = true
  replyTargets : ∀ entry ∈ database.replies.entries,
    database.descriptors.has entry.row.replyTo = true
  watchDescriptors : ∀ entry ∈ database.watches.entries,
    database.descriptors.has entry.row.descriptor = true

variable {α β : Type} [Relation α] [LawfulRelation α] {database : Database}

/-- What a unique key is made of is unique where the key is held. -/
theorem IsIntegral.nodup_filterMap (integral : database.IsIntegral) {columns : List Schema.Column}
    (unique : columns ∈ database.catalog.uniqueKeys (Relation.table α)) (name : α → Option β)
    (key : β → List Cell)
    (made : ∀ row, keyIn columns (Relation.cell row) = (name row).map key) :
    ((Relation.read database : Table α).entries.filterMap fun entry => name entry.row).Nodup := by
  have unlike := integral.unlike _ columns unique
  rw [LawfulRelation.cells_read (α := α), AreUnlike, List.pairwise_map] at unlike
  refine List.pairwise_filterMap.mpr (unlike.imp ?_)
  rintro left right unlike value ofLeft _ ofRight rfl
  refine unlike (key value) ?_ ?_
  · rw [made, ofLeft, Option.map_some]
  · rw [made, ofRight, Option.map_some]

/-- What a unique key is made of is unique. -/
theorem IsIntegral.nodup_map (integral : database.IsIntegral) {columns : List Schema.Column}
    (unique : columns ∈ database.catalog.uniqueKeys (Relation.table α)) (name : α → β)
    (key : β → List Cell)
    (made : ∀ row, keyIn columns (Relation.cell row) = some (key (name row))) :
    ((Relation.read database : Table α).entries.map fun entry => name entry.row).Nodup := by
  rw [← List.filterMap_eq_map']
  exact integral.nodup_filterMap unique (fun row => some (name row)) key made

/-- A row of an integral database names rows that exist. -/
theorem IsIntegral.hasRow (integral : database.IsIntegral) {entry : Entry α}
    (stored : entry ∈ (Relation.read database : Table α).entries) (column : Schema.Column)
    (parent : Schema.TableName)
    (isKey : (column, parent) ∈
      (Relation.table α).definition.foreignKeys.map fun key => (key.column, key.parent))
    {id : Int} (names : Relation.cell entry.row column = .integer id) :
    database.hasRow parent id = true := by
  simp only [List.mem_map, Prod.mk.injEq] at isKey
  obtain ⟨key, isKey, rfl, rfl⟩ := isKey
  refine integral.rooted (Relation.table α) (Relation.cell entry.row) ?_ key isKey id names
  rw [LawfulRelation.cells_read (α := α)]
  exact List.mem_map_of_mem stored

/-- Numbers in ascending order are unique. -/
theorem nodup_numbers (database : Database) (table : Schema.TableName) :
    (database.numbers table).Nodup := by
  have ascending {α : Type} (rows : Table α) : (rows.entries.map (·.id)).Nodup :=
    List.pairwise_map.mpr (rows.ascending.imp fun below => Int.ne_of_lt below)
  cases table with
  | position => exact .nil
  | _ => exact ascending _

/-- Every run from an empty database of the newest revision leads to one in which everything
fits together. -/
theorem isSound_after (appliedOn : Time.Stamp) (turns : List Turn) :
    ((atRevision .invites appliedOn).after turns).IsSound := by
  have keeps := keeps_after (atRevision .invites appliedOn) turns
  have integral := keeps.integral (isIntegral_atRevision .invites appliedOn)
  have catalog := keeps.catalog
  generalize (atRevision .invites appliedOn).after turns = database at integral catalog
  have unique {table : Schema.TableName} {columns : List Schema.Column}
      (isKey : columns ∈ Schema.Revision.invites.catalog.uniqueKeys table) :
      columns ∈ database.catalog.uniqueKeys table := by
    rw [catalog]
    exact isKey
  exact
    { numbers := nodup_numbers database
      accounts := integral.nodup_map (unique (by decide : [.accountId] ∈ _)) Account.accountId
        (fun accountId => [.text accountId]) (fun row => rfl)
      invites := integral.nodup_map (unique (by decide : [.inviteId] ∈ _)) Invite.inviteId
        (fun inviteId => [.text inviteId]) (fun row => rfl)
      threads := integral.nodup_map (unique (by decide : Thread.naturalKey ∈ _))
        (fun row : Thread => (row.site, row.board, row.number))
        (fun (site, board, number) => [.text site, .text board, .integer number]) (fun row => rfl)
      descriptors := integral.nodup_map (unique (by decide : Descriptor.naturalKey ∈ _))
        (fun row : Descriptor => (row.thread, row.postNo, row.postSubNo))
        (fun (thread, postNo, postSubNo) => [.integer thread, .integer postNo, .integer postSubNo])
        (fun row => rfl)
      posts := integral.nodup_map (unique (by decide : Post.naturalKey ∈ _)) Post.descriptor
        (fun descriptor => [.integer descriptor]) (fun row => rfl)
      replies := integral.nodup_map (unique (by decide : Reply.naturalKey ∈ _))
        (fun row : Reply => (row.account, row.descriptor, row.replyTo))
        (fun (account, descriptor, replyTo) =>
          [.integer account, .integer descriptor, .integer replyTo])
        (fun row => rfl)
      watches := integral.nodup_map (unique (by decide : Watch.naturalKey ∈ _))
        (fun row : Watch => (row.account, row.descriptor, row.application))
        (fun (account, descriptor, application) =>
          [.integer account, .integer descriptor, .integer application])
        (fun row => rfl)
      tokenSlots := integral.nodup_map
        (unique (by decide : [.ownerAccountId, .applicationType, .tokenType] ∈ _))
        (fun row : Token => (row.account, row.application, row.kind))
        (fun (account, application, kind) =>
          [.integer account, .integer application, .integer kind])
        (fun row => rfl)
      tokenTexts := integral.nodup_filterMap (α := Token) (unique (by decide : Token.textKey ∈ _))
        (fun row => row.text.map fun text => (text, row.application, row.kind))
        (fun (text, application, kind) => [.text text, .integer application, .integer kind])
        (fun row => by rw [Token.keyIn_textKey, Option.map_map]; rfl)
      tokenOwners := fun entry stored =>
        integral.hasRow stored .ownerAccountId .accounts (by decide) rfl
      replyOwners := fun entry stored =>
        integral.hasRow stored .ownerAccountId .accounts (by decide) rfl
      watchOwners := fun entry stored =>
        integral.hasRow stored .ownerAccountId .accounts (by decide) rfl
      descriptorThreads := fun entry stored =>
        integral.hasRow stored .ownerThreadId .threads (by decide) rfl
      postDescriptors := fun entry stored =>
        integral.hasRow stored .ownerDescriptorId .descriptors (by decide) rfl
      replyDescriptors := fun entry stored =>
        integral.hasRow stored .ownerDescriptorId .descriptors (by decide) rfl
      replyTargets := fun entry stored =>
        integral.hasRow stored .replyToDescriptorId .descriptors (by decide) rfl
      watchDescriptors := fun entry stored =>
        integral.hasRow stored .ownerDescriptorId .descriptors (by decide) rfl }

end Database

end Lookout
