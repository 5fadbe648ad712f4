import Lookout.Proofs.Relations
import Lookout.Proofs.Requests
import Mathlib.Logic.Function.Basic

/-!
# Disguises

A disguise puts other account ids and other tokens in the place of those that there are. Texts
that differ stay different, and whatever messages show of a text is the same afterwards: its
length and its masked form. Rows, databases, failures and requests are disguised by disguising
the account ids and the tokens in them.
-/

namespace Lookout

open Schema (Column TableName)
open Store

/-- Texts in the place of others, none of which can be told from the messages about it. -/
structure Renaming where
  rename : String → String
  injective : Function.Injective rename
  length_rename : ∀ text, (rename text).length = text.length
  masked_rename : ∀ text, Text.masked (some (rename text)) = Text.masked (some text)

namespace Renaming

instance : CoeFun Renaming fun _ => String → String := ⟨rename⟩

attribute [simp] length_rename masked_rename

/-- Every text in its own place. -/
def plain : Renaming where
  rename := id
  injective := Function.injective_id
  length_rename _ := rfl
  masked_rename _ := rfl

variable (renames : Renaming)

@[simp] theorem eq_iff {left right : String} : renames left = renames right ↔ left = right :=
  renames.injective.eq_iff

theorem some_eq_map_iff {text : String} {given : Option String} :
    some (renames text) = given.map renames ↔ some text = given := by
  cases given <;> simp

theorem map_eq_map_iff {left right : Option String} :
    left.map renames = right.map renames ↔ left = right :=
  (Option.map_injective renames.injective).eq_iff

@[simp] theorem masked_map (given : Option String) :
    Text.masked (given.map renames) = Text.masked given := by
  cases given with
  | none => rfl
  | some text => exact renames.masked_rename text

/-- Two texts in each other's place, if messages show the same of both. -/
def swap (left right : String) (sameLength : left.length = right.length)
    (sameMasked : Text.masked (some left) = Text.masked (some right)) : Renaming where
  rename text := if text = left then right else if text = right then left else text
  injective := by
    intro first second same
    grind
  length_rename text := by
    split
    · simp [*]
    · split <;> simp [*]
  masked_rename text := by
    split
    · simp [*]
    · split <;> simp [*]

end Renaming

/-- Other account ids and other tokens. -/
structure Disguise where
  accounts : Renaming
  tokens : Renaming

namespace Disguise

/-- No disguise at all. -/
def plain : Disguise where
  accounts := .plain
  tokens := .plain

/-- What a disguise makes of the texts in a column. -/
def text (disguise : Disguise) : Column → String → String
  | .accountId => disguise.accounts
  | .token => disguise.tokens
  | _ => id

theorem text_injective (disguise : Disguise) (column : Column) :
    Function.Injective (disguise.text column) := by
  cases column with
  | accountId => exact disguise.accounts.injective
  | token => exact disguise.tokens.injective
  | _ => exact Function.injective_id

end Disguise

namespace Cell

/-- A cell with another text, if it holds one. -/
def mapText (change : String → String) : Cell → Cell
  | .text value => .text (change value)
  | cell => cell

theorem mapText_injective {change : String → String} (injective : Function.Injective change) :
    Function.Injective (mapText change) := by
  intro left right same
  cases left <;> cases right <;> simp_all [mapText, injective.eq_iff]

@[simp] theorem mapText_id (cell : Cell) : cell.mapText id = cell := by
  cases cell <;> rfl

theorem ofText?_map (change : String → String) (given : Option String) :
    ofText? (given.map change) = (ofText? given).mapText change := by
  cases given <;> rfl

@[simp] theorem mapText_eq_null {change : String → String} {cell : Cell} :
    cell.mapText change = .null ↔ cell = .null := by
  cases cell <;> simp [mapText]

end Cell

/-- Rows that can be disguised. Rows without account ids and tokens are their own disguise. -/
class Disguisable (α : Type) [Relation α] where
  disguised : Disguise → α → α := fun _ row => row
  disguised_plain : ∀ row : α, disguised .plain row = row := by
    intros
    rfl
  cell_disguised : ∀ (disguise : Disguise) (row : α) (column : Column),
    Relation.cell (disguised disguise row) column =
      (Relation.cell row column).mapText (disguise.text column) := by
    intro _ _ column
    cases column <;> first | rfl | exact (Cell.mapText_id _).symm

open Disguisable (disguised)

attribute [simp] Disguisable.disguised_plain

instance : Disguisable Account where
  disguised disguise row := { row with accountId := disguise.accounts row.accountId }

instance : Disguisable Token where
  disguised disguise row := { row with text := row.text.map disguise.tokens }
  disguised_plain row := by
    change { row with text := row.text.map id } = row
    rw [Option.map_id_apply]
  cell_disguised disguise row column := by
    cases column <;> first | rfl | exact (Cell.mapText_id _).symm | exact Cell.ofText?_map _ _

instance : Disguisable Invite where
instance : Disguisable Thread where
instance : Disguisable Descriptor where
instance : Disguisable Post where
instance : Disguisable Reply where
instance : Disguisable Watch where
instance : Disguisable JournalLine where

namespace Relation

variable {α : Type} [Relation α]

/-- Rows are alike in a key where both hold the same in each of its columns, and no column is
empty. -/
theorem alike_iff_forall {columns : List Column} {left right : α} :
    alike columns left right = true ↔
      ∀ column ∈ columns, cell left column ≠ .null ∧ cell left column = cell right column := by
  have empty (row : α) : (columns.map (cell row)).contains .null = true ↔
      ∃ column ∈ columns, cell row column = .null := by
    simp
  simp only [alike, keyOf]
  by_cases isEmpty : (columns.map (cell left)).contains .null = true
  · obtain ⟨column, isColumn, isNull⟩ := (empty left).mp isEmpty
    simp only [isEmpty, if_true, Bool.false_eq_true, false_iff]
    exact fun held => (held column isColumn).1 isNull
  · have held : ∀ column ∈ columns, cell left column ≠ .null := fun column isColumn isNull =>
      isEmpty ((empty left).mpr ⟨column, isColumn, isNull⟩)
    simp only [isEmpty, Bool.false_eq_true, if_false, beq_iff_eq, Option.ite_none_left_eq_some,
      Option.some.injEq, List.map_inj_left]
    constructor
    · exact fun same column isColumn => ⟨held column isColumn, (same.2 column isColumn).symm⟩
    · refine fun same => ⟨fun isNull => ?_, fun column isColumn => (same column isColumn).2.symm⟩
      obtain ⟨column, isColumn, isNull⟩ := (empty right).mp isNull
      exact held column isColumn ((same column isColumn).2.trans isNull)

/-- Rows that are alike in more columns are alike in fewer. -/
theorem alike_mono {columns more : List Column} {left right : α} (fewer : columns ⊆ more)
    (isAlike : alike more left right = true) : alike columns left right = true := by
  rw [alike_iff_forall] at isAlike ⊢
  exact fun column isColumn => isAlike column (fewer isColumn)

variable [Disguisable α]

/-- Rows are alike in a key where their disguises are. -/
@[simp] theorem alike_disguised {columns : List Column} {disguise : Disguise} {left right : α} :
    alike columns (disguised disguise left) (disguised disguise right) =
      alike columns left right := by
  rw [Bool.eq_iff_iff, alike_iff_forall, alike_iff_forall]
  refine forall₂_congr fun column _ => ?_
  rw [Disguisable.cell_disguised, Disguisable.cell_disguised, ne_eq, Cell.mapText_eq_null,
    (Cell.mapText_injective (disguise.text_injective column)).eq_iff]

end Relation

namespace Store

variable {α : Type} {change : α → α}

/-- A stored row that has been changed, under the same number. -/
def Entry.map (change : α → α) (entry : Entry α) : Entry α :=
  { entry with row := change entry.row }

namespace Table

variable {table : Table α} {wanted kind : Entry α → Bool}

@[simp] theorem entries_map (table : Table α) (change : α → α) :
    (table.map change).entries = table.entries.map (Entry.map change) := rfl

/-- A table in which every row is its own change stays the same. -/
theorem map_self (same : ∀ row, change row = row) : table.map change = table := by
  ext1
  have unchanged (entry : Entry α) : entry.map change = entry :=
    congrArg (Entry.mk entry.id) (same entry.row)
  exact (List.map_congr_left fun entry _ => unchanged entry).trans (List.map_id _)

@[simp] theorem nextId_map : (table.map change).nextId = table.nextId := by
  unfold nextId
  rw [entries_map, List.getLast?_map]
  cases table.entries.getLast? <;> rfl

/-- A changed table uses the same numbers. -/
theorem has_of_map {later : Table α} (same : later = table.map change) (id : Int) :
    later.has id = table.has id := by
  rw [same, has, entries_map, List.any_map]
  rfl

/-- The rows of a kind are found changed where they are found by what the change leaves. -/
theorem find?_map (same : ∀ entry, kind (entry.map change) = wanted entry) :
    (table.map change).find? kind = (table.find? wanted).map (Entry.map change) := by
  rw [find?, entries_map, List.find?_map]
  exact congrArg (fun found => (table.find? found).map _) (funext same)

theorem get?_map (id : Int) :
    (table.map change).get? id = (table.get? id).map (Entry.map change) :=
  find?_map fun _ => rfl

theorem select_map (same : ∀ entry, kind (entry.map change) = wanted entry) :
    (table.map change).select kind = (table.select wanted).map (Entry.map change) := by
  rw [select, entries_map, List.filter_map]
  exact congrArg (fun selected => (table.select selected).map _) (funext same)

/-- The numbers of the rows of a kind are the same before and after a change that leaves the kind
alone. -/
theorem ids_select_map (same : ∀ entry, kind (entry.map change) = wanted entry) :
    ((table.map change).select kind).map (·.id) = (table.select wanted).map (·.id) := by
  rw [select_map same, List.map_map]
  rfl

theorem count_map (same : ∀ entry, kind (entry.map change) = wanted entry) :
    (table.map change).count kind = table.count wanted := by
  rw [count, entries_map, List.countP_map]
  exact congrArg table.count (funext same)

/-- Rows of a kind are kept alike before and after a change that leaves the kind alone. -/
theorem keep_of_map {later : Table α} (same : later = table.map change)
    (kinds : ∀ entry, kind (entry.map change) = wanted entry) :
    later.keep kind = (table.keep wanted).map change := by
  rw [same]
  ext1
  exact select_map kinds

theorem add_map (row : α) : (table.map change).add (change row) = (table.add row).map change := by
  ext1
  simp [Entry.map]

/-- Updates that do the same to a row before and after a change can be made before or after it. -/
theorem update_map {step later : α → α} (same : ∀ entry, kind (entry.map change) = wanted entry)
    (steps : ∀ row, later (change row) = change (step row)) :
    (table.map change).update kind later = (table.update wanted step).map change := by
  ext1
  simp only [entries_update, entries_map, List.map_map]
  refine List.map_congr_left fun entry _ => ?_
  simp only [Function.comp_apply, same]
  split
  · simp [Entry.map, steps]
  · rfl

end Table

end Store

/-- An account has an id where its disguise has the disguise of the id. -/
theorem Account.decide_accountId_disguised (disguise : Disguise) (account : Entry Account)
    (accountId : Option String) :
    decide (some (account.map (disguised disguise)).row.accountId =
      accountId.map disguise.accounts) = decide (some account.row.accountId = accountId) :=
  decide_eq_decide.mpr disguise.accounts.some_eq_map_iff

/-- A row holds a token where its disguise holds the disguise of the token. -/
theorem Token.decide_text_disguised (disguise : Disguise) (token : Entry Token)
    (text : Option String) :
    decide ((token.map (disguised disguise)).row.text = text.map disguise.tokens) =
      decide (token.row.text = text) :=
  decide_eq_decide.mpr disguise.tokens.map_eq_map_iff

@[simp] theorem Disguisable.map_plain {α : Type} [Relation α] [Disguisable α] :
    Entry.map (disguised .plain : α → α) = id :=
  funext fun entry => congrArg (Entry.mk entry.id) (disguised_plain entry.row)

/-- A database whose account ids and tokens are others. -/
def Database.disguised (database : Database) (disguise : Disguise) : Database :=
  { database with
    accounts := database.accounts.map (Disguisable.disguised disguise)
    tokens := database.tokens.map (Disguisable.disguised disguise) }

namespace Failure

/-- A failure that speaks of other account ids and tokens. -/
def disguised (disguise : Disguise) : Failure → Failure
  | noAccount accountId => noAccount (accountId.map disguise.accounts)
  | tokenTaken token => tokenTaken (token.map disguise.tokens)
  | slotRefused token accountId =>
      slotRefused (token.map disguise.tokens) (accountId.map disguise.accounts)
  | accountDeleted accountId => accountDeleted (accountId.map disguise.accounts)
  | failure => failure

/-- A failure cannot be told from its disguise. -/
@[simp] theorem message_disguised (disguise : Disguise) (failure : Failure) :
    (failure.disguised disguise).message = failure.message := by
  have masks (renames : Renaming) (given : Option String) := renames.masked_map given
  cases failure with
  | noAccount accountId =>
      exact congrArg (fun shown => s!"Account {shown} does not exist") (masks _ accountId)
  | tokenTaken token =>
      exact congrArg (fun shown => s!"Token {shown} is already registered to another account")
        (masks _ token)
  | slotRefused token accountId =>
      exact congrArg₂
        (fun shown owner => s!"Token {shown} could not be registered for account {owner}")
        (masks _ token) (masks _ accountId)
  | accountDeleted accountId =>
      exact congrArg (fun shown => s!"Account {shown} is deleted") (masks _ accountId)
  | _ => rfl

@[simp] theorem kind_disguised (disguise : Disguise) (failure : Failure) :
    (failure.disguised disguise).kind = failure.kind := by
  cases failure <;> rfl

@[simp] theorem disguised_eq_store_iff {disguise : Disguise} {failure : Failure}
    {error : StoreError} : failure.disguised disguise = .store error ↔ failure = .store error := by
  cases failure <;> simp [disguised]

end Failure

/-- A request with other account ids and tokens. -/
def Request.disguised (disguise : Disguise) : Request → Request
  | upsertAccount accountId validUntil =>
      upsertAccount (accountId.map disguise.accounts) validUntil
  | setExpiry accountId validUntil => setExpiry (accountId.map disguise.accounts) validUntil
  | expireAccount accountId date => expireAccount (accountId.map disguise.accounts) date
  | deleteAccount accountId => deleteAccount (accountId.map disguise.accounts)
  | findAccount accountId includeDeleted =>
      findAccount (accountId.map disguise.accounts) includeDeleted
  | checkAccount accountId moment => checkAccount (accountId.map disguise.accounts) moment
  | listBelongings accountId => listBelongings (accountId.map disguise.accounts)
  | registerToken accountId text application kind =>
      registerToken (accountId.map disguise.accounts) (text.map disguise.tokens) application kind
  | listTokens accountId => listTokens (accountId.map disguise.accounts)
  | deliverReplies accountId ids date =>
      deliverReplies (accountId.map disguise.accounts) ids date
  | listReplies accountId => listReplies (accountId.map disguise.accounts)
  | watchPost accountId site board threadNo postNo postSubNo application =>
      watchPost (accountId.map disguise.accounts) site board threadNo postNo postSubNo application
  | request => request

@[simp] theorem Request.disguised_plain (request : Request) :
    request.disguised .plain = request := by
  have same (given : Option String) : given.map (Disguise.plain.accounts) = given :=
    Option.map_id_apply ..
  have sameToken (given : Option String) : given.map (Disguise.plain.tokens) = given :=
    Option.map_id_apply ..
  cases request <;> simp only [disguised, same, sameToken]

end Lookout
