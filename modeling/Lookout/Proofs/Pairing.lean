import Lookout.Proofs.Disguise
import Lookout.Proofs.Orderly

/-!
# Runs side by side

A run is paired with a second one of the same operation. The second one has another catalog,
which admits at least what the first one admits, or its account ids and tokens are in a disguise.
The second run follows the first one: it answers where the first one answers, leaves the same
rows, in disguise, and writes the same log. Where the two have the same catalog it follows into
failures, too. Each primitive of sessions has one rule, and rules are put together as operations
are.
-/

namespace Lookout

open Disguisable (disguised)
open Operation
open Schema (Catalog Column Revision TableName)
open Store
open Time (Moment Stamp)

/-- How a run is paired with a second one: the disguise, the catalogs, and whether it is followed
into failures. What the earlier catalog has the later one has, and in a table that both have the
later unique keys are made of earlier ones and more. -/
structure Pairing where
  disguise : Disguise
  earlier : Catalog
  later : Catalog
  isStrict : Prop
  hasTable : ∀ {table : TableName},
    earlier.hasTable table = true → later.hasTable table = true
  ignored : ∀ {table : TableName} {key : List Column},
    key ∈ Revision.invites.catalog.uniqueKeys table → key ∈ earlier.uniqueKeys table →
      key ∈ later.uniqueKeys table
  covered : ∀ {table : TableName} {key : List Column},
    earlier.hasTable table = true → key ∈ later.uniqueKeys table →
      ∃ fewer ∈ earlier.uniqueKeys table, fewer ⊆ key
  strict : isStrict → later = earlier

namespace Pairing

/-- Two databases with the same rows of the services, in disguise in the second one. -/
structure Joins (pairing : Pairing) (first second : Database) : Prop where
  earlier : first.catalog = pairing.earlier
  later : second.catalog = pairing.later
  journal : second.journal = first.journal.map (disguised pairing.disguise)
  accounts : second.accounts = first.accounts.map (disguised pairing.disguise)
  tokens : second.tokens = first.tokens.map (disguised pairing.disguise)
  invites : second.invites = first.invites.map (disguised pairing.disguise)
  threads : second.threads = first.threads.map (disguised pairing.disguise)
  descriptors : second.descriptors = first.descriptors.map (disguised pairing.disguise)
  posts : second.posts = first.posts.map (disguised pairing.disguise)
  replies : second.replies = first.replies.map (disguised pairing.disguise)
  watches : second.watches = first.watches.map (disguised pairing.disguise)

/-- The rows of the services: databases are joined in them. -/
class Served (α : Type) [Relation α] [Disguisable α] : Prop where
  read : ∀ {pairing : Pairing} {first second : Database}, pairing.Joins first second →
    Relation.read second = (Relation.read first : Table α).map (disguised pairing.disguise)
  write : ∀ {pairing : Pairing} {first second : Database} (table : Table α),
    pairing.Joins first second →
      pairing.Joins (Relation.write first table)
        (Relation.write second (table.map (disguised pairing.disguise)))

instance : Served JournalLine := ⟨Joins.journal, fun _ joins => { joins with journal := rfl }⟩
instance : Served Account := ⟨Joins.accounts, fun _ joins => { joins with accounts := rfl }⟩
instance : Served Token := ⟨Joins.tokens, fun _ joins => { joins with tokens := rfl }⟩
instance : Served Invite := ⟨Joins.invites, fun _ joins => { joins with invites := rfl }⟩
instance : Served Thread := ⟨Joins.threads, fun _ joins => { joins with threads := rfl }⟩
instance : Served Descriptor :=
  ⟨Joins.descriptors, fun _ joins => { joins with descriptors := rfl }⟩
instance : Served Post := ⟨Joins.posts, fun _ joins => { joins with posts := rfl }⟩
instance : Served Reply := ⟨Joins.replies, fun _ joins => { joins with replies := rfl }⟩
instance : Served Watch := ⟨Joins.watches, fun _ joins => { joins with watches := rfl }⟩

variable {pairing : Pairing} {first second : Database}

namespace Joins

/-- Rows without account ids and tokens are the same in both databases. -/
theorem read_eq (α : Type) [Relation α] [Disguisable α] [Served α]
    (joins : pairing.Joins first second) (bare : ∀ row : α, disguised pairing.disguise row = row) :
    (Relation.read second : Table α) = Relation.read first := by
  rw [Served.read joins, Table.map_self bare]

/-- Both databases use the same numbers, those of the ledger apart. -/
theorem hasRow (joins : pairing.Joins first second) {table : TableName} (other : table ≠ .ledger)
    (id : Int) : second.hasRow table id = first.hasRow table id := by
  cases table with
  | position => rfl
  | ledger => exact absurd rfl other
  | journal => exact Table.has_of_map joins.journal id
  | accounts => exact Table.has_of_map joins.accounts id
  | tokens => exact Table.has_of_map joins.tokens id
  | invites => exact Table.has_of_map joins.invites id
  | threads => exact Table.has_of_map joins.threads id
  | descriptors => exact Table.has_of_map joins.descriptors id
  | posts => exact Table.has_of_map joins.posts id
  | replies => exact Table.has_of_map joins.replies id
  | watches => exact Table.has_of_map joins.watches id

/-- Removing the same numbers keeps databases joined. -/
theorem erase (joins : pairing.Joins first second) {table : TableName} (other : table ≠ .ledger)
    (gone : Int → Bool) : pairing.Joins (first.erase table gone) (second.erase table gone) := by
  have descriptors (gone : Int → Bool) :
      pairing.Joins (first.eraseDescriptors gone) (second.eraseDescriptors gone) :=
    { joins with
      descriptors := Table.keep_of_map joins.descriptors fun _ => rfl
      posts := Table.keep_of_map joins.posts fun _ => rfl
      replies := Table.keep_of_map joins.replies fun _ => rfl
      watches := Table.keep_of_map joins.watches fun _ => rfl }
  cases table with
  | position => exact joins
  | ledger => exact absurd rfl other
  | journal => exact { joins with journal := Table.keep_of_map joins.journal fun _ => rfl }
  | accounts =>
      exact { joins with
        accounts := Table.keep_of_map joins.accounts fun _ => rfl
        tokens := Table.keep_of_map joins.tokens fun _ => rfl
        replies := Table.keep_of_map joins.replies fun _ => rfl
        watches := Table.keep_of_map joins.watches fun _ => rfl }
  | tokens => exact { joins with tokens := Table.keep_of_map joins.tokens fun _ => rfl }
  | invites => exact { joins with invites := Table.keep_of_map joins.invites fun _ => rfl }
  | threads =>
      have same : second.descriptors = first.descriptors :=
        joins.descriptors.trans (Table.map_self fun _ => rfl)
      have lost := descriptors fun id => first.descriptors.entries.any fun entry =>
        entry.id = id && gone entry.row.thread
      rw [Database.erase, Database.erase, Database.eraseThreads, Database.eraseThreads, same]
      exact { lost with threads := Table.keep_of_map joins.threads fun _ => rfl }
  | descriptors => exact descriptors gone
  | posts => exact { joins with posts := Table.keep_of_map joins.posts fun _ => rfl }
  | replies => exact { joins with replies := Table.keep_of_map joins.replies fun _ => rfl }
  | watches => exact { joins with watches := Table.keep_of_map joins.watches fun _ => rfl }

/-- The rows that a row names exist where those exist that its disguise names. -/
theorem hasParents {α : Type} [Relation α] [Disguisable α] (joins : pairing.Joins first second)
    (row : α) :
    hasParents second (disguised pairing.disguise row) = Operation.hasParents first row := by
  unfold Operation.hasParents
  rw [Bool.eq_iff_iff, List.all_eq_true, List.all_eq_true]
  refine forall₂_congr fun key isKey => ?_
  have parent := (Schema.parent_ne_of_foreignKeys _ key isKey).2
  rw [Disguisable.cell_disguised]
  cases Relation.cell row key.column <;> simp [Cell.mapText, joins.hasRow parent]

/-- Where the catalogs are the same, the same tables are missing. -/
theorem missing?_eq (joins : pairing.Joins first second) (strict : pairing.isStrict)
    (tables : List TableName) : second.missing? tables = first.missing? tables := by
  rw [Database.missing?, Database.missing?, joins.later, joins.earlier, pairing.strict strict]

/-- Tables that are there in the first database are there in the second one. -/
theorem missing?_eq_none (joins : pairing.Joins first second) {tables : List TableName}
    (complete : first.missing? tables = none) :
    (∀ table ∈ tables, pairing.earlier.hasTable table = true) ∧ second.missing? tables = none := by
  have present : ∀ table ∈ tables, pairing.earlier.hasTable table = true := by
    simpa [Database.missing?, joins.earlier] using complete
  refine ⟨present, ?_⟩
  have alsoPresent : ∀ table ∈ tables, pairing.later.hasTable table = true :=
    fun table isOne => pairing.hasTable (present table isOne)
  simpa [Database.missing?, joins.later] using alsoPresent

/-- Where the catalogs are the same, the same insertions can be prepared. -/
theorem obstacle?_eq (joins : pairing.Joins first second) (strict : pairing.isStrict)
    (table : TableName) (ignoring : Option (List Column)) :
    second.obstacle? table ignoring = first.obstacle? table ignoring := by
  simp only [Database.obstacle?, joins.missing?_eq strict, joins.later, joins.earlier,
    pairing.strict strict]

/-- An insertion that can be prepared in the first database can be in the second one. -/
theorem obstacle?_eq_none (joins : pairing.Joins first second) {table : TableName}
    {ignoring : Option (List Column)}
    (known : ∀ key ∈ ignoring, key ∈ Revision.invites.catalog.uniqueKeys table)
    (clear : first.obstacle? table ignoring = none) :
    pairing.earlier.hasTable table = true ∧ second.obstacle? table ignoring = none := by
  unfold Database.obstacle? at clear ⊢
  split at clear
  · cases clear
  case h_2 exists_ =>
    obtain ⟨present, alsoPresent⟩ := joins.missing?_eq_none exists_
    refine ⟨present table (.head _), ?_⟩
    split at clear
    · cases clear
    case isFalse noConflict =>
      obtain ⟨-, parents⟩ := joins.missing?_eq_none (Option.map_eq_none_iff.mp clear)
      have stillKnown : ¬(ignoring.any fun key =>
          !(second.catalog.uniqueKeys table).contains key) = true := by
        simp only [Option.any_eq_true, not_exists, not_and, Bool.not_eq_true', Bool.not_eq_false,
          List.contains_iff_mem, joins.earlier, joins.later] at noConflict ⊢
        exact fun key isIgnored => pairing.ignored (known key isIgnored) (noConflict key isIgnored)
      rw [alsoPresent, if_neg stillKnown, parents]
      rfl

variable {α : Type} [Relation α] [Disguisable α] [Served α]

/-- A row is like a stored one where its disguise is. -/
theorem any_alike (joins : pairing.Joins first second) (columns : List Column) (row : α) :
    ((Relation.read second : Table α).entries.any fun entry =>
        Relation.alike columns (disguised pairing.disguise row) entry.row) =
      (Relation.read first : Table α).entries.any fun entry =>
        Relation.alike columns row entry.row := by
  rw [Served.read joins, Table.entries_map, List.any_map]
  refine List.any_congr rfl fun entry => ?_
  exact Relation.alike_disguised

/-- The keys in which a row is like a stored one are those of its disguise. -/
theorem violatedKey?_eq (joins : pairing.Joins first second) (row : α) :
    violatedKey? second (Relation.read second : Table α).entries
        (disguised pairing.disguise row) =
      (pairing.later.uniqueKeys (Relation.table α)).reverse.find? fun key =>
        (Relation.read first : Table α).entries.any fun entry =>
          Relation.alike key row entry.row := by
  simp only [violatedKey?, joins.later, joins.any_alike]

/-- A row is refused for the same cause where the catalogs are the same. -/
theorem refusal?_eq (joins : pairing.Joins first second) (same : pairing.later = pairing.earlier)
    (row : α) :
    second.refusal? (disguised pairing.disguise row) = first.refusal? row := by
  unfold Database.refusal?
  rw [joins.violatedKey?_eq, joins.hasParents, same, violatedKey?, joins.earlier]

/-- A row that the first database takes the second one takes, too. -/
theorem refusal?_eq_none (joins : pairing.Joins first second)
    (present : pairing.earlier.hasTable (Relation.table α) = true) {row : α}
    (admitted : first.refusal? row = none) :
    second.refusal? (disguised pairing.disguise row) = none := by
  obtain ⟨unlike, -⟩ := Database.unlike_and_rooted_of_admitted admitted
  have free : violatedKey? second (Relation.read second : Table α).entries
      (disguised pairing.disguise row) = none := by
    rw [joins.violatedKey?_eq, List.find?_eq_none]
    intro key isKey violated
    obtain ⟨fewer, isEarlier, among⟩ := pairing.covered present (List.mem_reverse.mp isKey)
    obtain ⟨entry, stored, isAlike⟩ := List.any_eq_true.mp violated
    have unlike := unlike fewer (joins.earlier ▸ isEarlier) entry stored
    rw [Relation.alike_mono among isAlike] at unlike
    cases unlike
  unfold Database.refusal? at admitted ⊢
  rw [free, joins.hasParents]
  split at admitted
  · cases admitted
  · exact admitted

end Joins

/-- Two sessions that work on joined databases, with the same log and the same draws to come. -/
structure JoinsSessions (pairing : Pairing) (first second : Session) : Prop where
  saved : pairing.Joins first.saved second.saved
  current : pairing.Joins first.current second.current
  draws : second.draws = first.draws
  log : second.log = first.log

variable {α β γ δ : Type} {context : Context}

/-- An operation follows another one: where that one answers it answers likewise, and where
failures are followed it fails for the same cause, in disguise. -/
def Follows (pairing : Pairing) (context : Context) (first : Operation α) (second : Operation β)
    (same : α → β → Prop) : Prop :=
  ∀ left right, pairing.JoinsSessions left right →
    first.Ends context left
      (fun answer final => second.Ends context right
        (fun other last => pairing.JoinsSessions final last ∧ same answer other)
        (fun _ _ => False))
      (fun failure final => pairing.isStrict → second.Ends context right
        (fun _ _ => False)
        (fun other last =>
          pairing.JoinsSessions final last ∧ other = failure.disguised pairing.disguise))

namespace Follows

variable {first : Operation α} {second : Operation β} {same : α → β → Prop}

/-- An operation that cannot fail ends in an answer. -/
theorem exists_of_ends {operation : Operation β} {session : Session} {answers : β → Session → Prop}
    (ends : operation.Ends context session answers (fun _ _ => False)) :
    ∃ answer final, operation context session = .ok answer final ∧ answers answer final := by
  unfold Ends at ends
  cases result : operation context session with
  | ok answer final => exact ⟨answer, final, rfl, by rwa [result] at ends⟩
  | error failure final => rw [result] at ends; exact ends.elim

/-- A run whose result is known ends in it. -/
theorem ends_of_ok {operation : Operation β} {session final : Session} {answer : β}
    {answers : β → Session → Prop} {fails : Failure → Session → Prop}
    (answered : operation context session = .ok answer final) :
    operation.Ends context session answers fails ↔ answers answer final := by
  unfold Ends
  rw [answered]

/-- A check that found a cause leads to what the cause leads to. -/
theorem found_cause {cause : Type} {lost : cause} {fails : cause → Prop} {answers : Prop}
    (failed : fails lost) :
    (∀ other, some lost = some other → fails other) ∧ (some lost = none → answers) := by
  refine ⟨fun other same => ?_, fun absent => ?_⟩
  · cases same
    exact failed
  · cases absent

/-- A check that found nothing leads on. -/
theorem found_nothing {cause : Type} {fails : cause → Prop} {answers : Prop} (goesOn : answers) :
    (∀ other, none = some other → fails other) ∧ ((none : Option cause) = none → answers) := by
  refine ⟨fun other absent => ?_, fun _ => goesOn⟩
  cases absent

/-- What follows in one way follows in weaker words. -/
theorem imp {weaker : α → β → Prop} (follows : pairing.Follows context first second same)
    (implies : ∀ answer other, same answer other → weaker answer other) :
    pairing.Follows context first second weaker := by
  intro left right joins
  refine (follows left right joins).imp ?_ (fun _ _ failed => failed)
  intro answer final ends
  exact ends.imp (fun other _ joined => ⟨joined.1, implies answer other joined.2⟩) fun _ _ => id

theorem pure {answer : α} {other : β} (isSame : same answer other) :
    pairing.Follows context (pure answer) (pure other) same :=
  fun _ _ joins => ⟨joins, isSame⟩

theorem throw {failure other : Failure} (isDisguised : other = failure.disguised pairing.disguise) :
    pairing.Follows context (throw failure) (throw other) same :=
  fun _ _ joins _ => ⟨joins, isDisguised⟩

theorem refuse {error : StoreError} :
    pairing.Follows context (refuse error) (refuse error) same :=
  throw rfl

/-- Operations one after the other follow others where each one follows its counterpart. -/
theorem bind {next : α → Operation γ} {nextOther : β → Operation δ} {ended : γ → δ → Prop}
    (follows : pairing.Follows context first second same)
    (goesOn : ∀ answer other, same answer other →
      pairing.Follows context (next answer) (nextOther other) ended) :
    pairing.Follows context (first >>= next) (second >>= nextOther) ended := by
  intro left right joins
  simp only [ends_bind]
  refine (follows left right joins).imp ?_ ?_
  · intro answer final ends
    obtain ⟨other, last, answered, joined, isSame⟩ := exists_of_ends ends
    simp only [ends_of_ok answered]
    exact goesOn answer other isSame final last joined
  · intro failure final fails strict
    exact (fails strict).imp (fun _ _ => False.elim) fun _ _ failed => failed

/-- Operations go on alike from the same answer. -/
theorem bindSame {operation : Operation α} {next : α → Operation γ} {nextOther : α → Operation δ}
    {ended : γ → δ → Prop} (follows : pairing.Follows context first operation Eq)
    (goesOn : ∀ answer, pairing.Follows context (next answer) (nextOther answer) ended) :
    pairing.Follows context (first >>= next) (operation >>= nextOther) ended :=
  bind follows fun answer _ same => same ▸ goesOn answer

/-- Operations go on alike from an answer and what a change makes of it. -/
theorem bindMap {change : α → β} {next : α → Operation γ} {nextOther : β → Operation δ}
    {ended : γ → δ → Prop}
    (follows : pairing.Follows context first second fun answer other => other = change answer)
    (goesOn : ∀ answer,
      pairing.Follows context (next answer) (nextOther (change answer)) ended) :
    pairing.Follows context (first >>= next) (second >>= nextOther) ended :=
  bind follows fun answer _ same => same ▸ goesOn answer

theorem map {change : α → γ} {changeOther : β → δ} {ended : γ → δ → Prop}
    (follows : pairing.Follows context first second same)
    (changed : ∀ answer other, same answer other → ended (change answer) (changeOther other)) :
    pairing.Follows context (change <$> first) (changeOther <$> second) ended := by
  intro left right joins
  simp only [ends_map]
  exact follows.imp changed left right joins

theorem ite {condition conditionOther : Prop} [Decidable condition] [Decidable conditionOther]
    {elseFirst : Operation α} {elseSecond : Operation β} (agree : conditionOther ↔ condition)
    (holds : condition → pairing.Follows context first second same)
    (fails : ¬condition → pairing.Follows context elseFirst elseSecond same) :
    pairing.Follows context (if condition then first else elseFirst)
      (if conditionOther then second else elseSecond) same := by
  by_cases isTrue : condition
  · rw [if_pos isTrue, if_pos (agree.mpr isTrue)]
    exact holds isTrue
  · rw [if_neg isTrue, if_neg (mt agree.mp isTrue)]
    exact fails isTrue

/-! ### Primitives that change nothing -/

theorem read : pairing.Follows context read read Eq :=
  fun _ _ joins => ⟨joins, rfl⟩

theorem now : pairing.Follows context now now Eq :=
  fun _ _ joins => ⟨joins, rfl⟩

theorem stamp : pairing.Follows context stamp stamp Eq :=
  fun _ _ joins => ⟨joins, rfl⟩

theorem database : pairing.Follows context database database pairing.Joins :=
  fun _ _ joins => ⟨joins, joins.current⟩

theorem rows [Relation α] [Disguisable α] [Served α] :
    pairing.Follows context (rows α) (rows α)
      fun table other => other = table.map (disguised pairing.disguise) :=
  fun _ _ joins => ⟨joins, Served.read joins.current⟩

/-- Rows without account ids and tokens are the same in both runs. -/
theorem bareRows [Relation α] [Disguisable α] [Served α]
    (bare : ∀ row : α, disguised pairing.disguise row = row) :
    pairing.Follows context (Operation.rows α) (Operation.rows α) Eq :=
  fun _ _ joins => ⟨joins, (joins.current.read_eq α bare).symm⟩

theorem fits (numbers : List (Option Int)) :
    pairing.Follows context (fits numbers) (fits numbers) fun _ _ => True :=
  ite Iff.rfl (fun _ => pure trivial) fun _ => refuse

theorem wholeNumber (value : Value) :
    pairing.Follows context (wholeNumber value) (wholeNumber value) Eq := by
  unfold Operation.wholeNumber
  cases value.toInteger with
  | ok number => exact pure rfl
  | error error => exact throw rfl

/-- What is needed is the same after a change of what is given. -/
theorem needed {table : TableName} {column : Column} (change : α → β) (given : Option α) :
    pairing.Follows context (needed table column given) (needed table column (given.map change))
      fun value other => other = change value := by
  cases given with
  | none => exact refuse
  | some value => exact pure rfl

theorem neededSame {table : TableName} {column : Column} (given : Option α) :
    pairing.Follows context (Operation.needed table column given)
      (Operation.needed table column given) Eq := by
  cases given with
  | none => exact refuse
  | some value => exact pure rfl

/-- Tables that the first run finds are there, and in the second run, too. -/
theorem require (tables : List TableName) :
    pairing.Follows context (require tables) (require tables) fun _ _ =>
      ∀ table ∈ tables, pairing.earlier.hasTable table = true := by
  intro left right joins
  simp only [ends_require]
  refine ⟨fun table missing strict => ?_, fun complete => ?_⟩
  · rw [joins.current.missing?_eq strict, missing]
    exact found_cause ⟨joins, rfl⟩
  · obtain ⟨present, alsoComplete⟩ := joins.current.missing?_eq_none complete
    rw [alsoComplete]
    exact found_nothing ⟨joins, present⟩

/-- An insertion that can be prepared in the first run can be in the second one, if the key whose
conflicts it ignores is one that the newest revision still has. -/
theorem prepareInsertion {table : TableName} {ignoring : Option (List Column)}
    (known : ∀ key ∈ ignoring, key ∈ Revision.invites.catalog.uniqueKeys table) :
    pairing.Follows context (prepareInsertion table ignoring) (prepareInsertion table ignoring)
      fun _ _ => pairing.earlier.hasTable table = true := by
  intro left right joins
  simp only [ends_prepareInsertion]
  refine ⟨fun error obstacle strict => ?_, fun clear => ?_⟩
  · rw [joins.current.obstacle?_eq strict, obstacle]
    exact found_cause ⟨joins, rfl⟩
  · obtain ⟨present, alsoClear⟩ := joins.current.obstacle?_eq_none known clear
    rw [alsoClear]
    exact found_nothing ⟨joins, present⟩

/-! ### Primitives that change the session -/

theorem log {level : Level} {source : Source} {text other : String} (same : other = text) :
    pairing.Follows context (log level source text) (log level source other) Eq := by
  intro left right joins
  rw [same]
  exact ⟨⟨joins.saved, joins.current, joins.draws, congrArg (· ++ _) joins.log⟩, rfl⟩

theorem commit : pairing.Follows context commit commit Eq :=
  fun _ _ joins => ⟨⟨joins.current, joins.current, joins.draws, joins.log⟩, rfl⟩

theorem rollback : pairing.Follows context rollback rollback Eq :=
  fun _ _ joins => ⟨⟨joins.saved, joins.saved, joins.draws, joins.log⟩, rfl⟩

section Tables

variable [Relation α] [Disguisable α] [Served α]

/-- A row is added where its disguise is, under the same number. -/
theorem add (row : α) (present : pairing.earlier.hasTable (Relation.table α) = true) :
    pairing.Follows context (add row) (add (disguised pairing.disguise row)) Eq := by
  intro left right joins
  simp only [ends_add]
  -- What the first run is refused the second one may be allowed, unless their catalogs are one.
  refine ⟨fun error refused strict => ?_, fun admitted => ?_⟩
  · rw [joins.current.refusal?_eq (pairing.strict strict), refused]
    exact found_cause ⟨joins, rfl⟩
  · rw [joins.current.refusal?_eq_none present admitted]
    refine found_nothing ⟨?_, ?_⟩
    · refine ⟨joins.saved, ?_, joins.draws, joins.log⟩
      have added := Served.write ((Relation.read left.current : Table α).add row) joins.current
      rwa [← Table.add_map, ← Served.read joins.current] at added
    · rw [Served.read joins.current, Table.nextId_map]

/-- A row is found or added where its disguise is, under the same number. -/
theorem addUnlessAlike (key : List Column) (row : α)
    (present : pairing.earlier.hasTable (Relation.table α) = true) :
    pairing.Follows context (addUnlessAlike key row)
      (addUnlessAlike key (disguised pairing.disguise row)) Eq := by
  unfold Operation.addUnlessAlike
  refine bind rows fun table other same => ?_
  subst same
  rw [Table.find?_map fun _ => Relation.alike_disguised]
  cases table.find? fun entry => Relation.alike key row entry.row with
  | some entry => exact pure rfl
  | none => exact bind (add row present) fun id other same => pure (same ▸ rfl)

/-- Rows of a kind are changed where their disguises are of the kind and changed alike. -/
theorem updateWhere {wanted kind : Entry α → Bool} {step later : α → α}
    (kinds : ∀ entry, kind (entry.map (disguised pairing.disguise)) = wanted entry)
    (steps : ∀ row, later (disguised pairing.disguise row) =
      disguised pairing.disguise (step row)) :
    pairing.Follows context (updateWhere wanted step) (updateWhere kind later) Eq := by
  intro left right joins
  simp only [ends_updateWhere]
  refine ⟨⟨joins.saved, ?_, joins.draws, joins.log⟩, ?_⟩
  · have updated := Served.write ((Relation.read left.current : Table α).update wanted step)
      joins.current
    rwa [← Table.update_map kinds steps, ← Served.read joins.current] at updated
  · rw [Served.read joins.current, Table.count_map kinds]

/-- Rows of a kind are removed where their disguises are of the kind. -/
theorem eraseWhere {wanted kind : Entry α → Bool} (other : Relation.table α ≠ .ledger)
    (kinds : ∀ entry, kind (entry.map (disguised pairing.disguise)) = wanted entry) :
    pairing.Follows context (eraseWhere wanted) (eraseWhere kind) Eq := by
  intro left right joins
  simp only [ends_eraseWhere]
  have selected : (Relation.read right.current : Table α).select kind =
      ((Relation.read left.current).select wanted).map
        (Entry.map (disguised pairing.disguise)) := by
    rw [Served.read joins.current, Table.select_map kinds]
  refine ⟨⟨joins.saved, ?_, joins.draws, joins.log⟩, ?_⟩
  · have erased := joins.current.erase other fun id =>
      ((Relation.read left.current).select wanted).any fun entry => entry.id = id
    have same : right.current.erased kind = right.current.erase (Relation.table α) fun id =>
        ((Relation.read left.current).select wanted).any fun entry => entry.id = id := by
      simp only [Database.erased, selected, List.any_map]
      rfl
    rw [same]
    exact erased
  · rw [selected, List.length_map]

end Tables

/-- An operation that fails for another cause follows one that does so. -/
theorem orFail {failure other : Failure} (follows : pairing.Follows context first second same)
    (isDisguised : other = failure.disguised pairing.disguise) :
    pairing.Follows context (orFail failure first) (orFail other second) same := by
  intro left right joins
  simp only [ends_orFail]
  refine (follows left right joins).imp ?_ ?_
  · exact fun answer final ends => ends.imp (fun _ _ joined => joined) fun _ _ => False.elim
  · rintro cause final fails
    -- Disguises leave the errors of the store alone, so both failures are replaced or neither.
    refine ⟨fun error isStore integral strict => ?_, fun other strict => ?_⟩
    · refine (fails strict).imp (fun _ _ => False.elim) ?_
      rintro _ last ⟨joined, rfl⟩
      refine ⟨fun _ _ _ => ?_, fun spared => ?_⟩
      · exact ⟨⟨joined.saved, joined.saved, joined.draws, joined.log⟩, isDisguised⟩
      · rw [spared error (by rw [isStore]; rfl)] at integral
        cases integral
    · refine (fails strict).imp (fun _ _ => False.elim) ?_
      rintro _ last ⟨joined, rfl⟩
      refine ⟨fun error isStore integral => ?_, fun _ => ⟨joined, rfl⟩⟩
      rw [other error (Failure.disguised_eq_store_iff.mp isStore)] at integral
      cases integral

/-- The same texts are drawn. -/
theorem drawText (length : Nat) :
    pairing.Follows context (drawText length) (drawText length) Eq := by
  intro left right joins
  simp only [ends_drawText, joins.draws]
  exact ⟨⟨joins.saved, joins.current, rfl, joins.log⟩, trivial⟩

theorem drawWhere {length : Nat} {isFree isFreeOther : String → Operation Bool} (holds : Prop)
    (looks : ∀ text, pairing.Follows context (isFree text) (isFreeOther text)
      fun free other => free = other ∧ (free = true → holds))
    (attempts : Nat) :
    pairing.Follows context (drawWhere length isFree attempts)
      (drawWhere length isFreeOther attempts) fun text other => text = other ∧ holds := by
  induction attempts with
  | zero => exact throw rfl
  | succ attempts ih =>
      refine bind (drawText length) fun text other same => ?_
      subst same
      refine bind (looks text) fun free other ⟨same, known⟩ => ?_
      subst same
      exact ite Iff.rfl (fun isFree => pure ⟨rfl, known isFree⟩) fun _ => ih

/-- The same text is found to be free, and what is known where a text is free is known then. -/
theorem drawFree {length : Nat} {isFree isFreeOther : String → Operation Bool} (holds : Prop)
    (looks : ∀ text, pairing.Follows context (isFree text) (isFreeOther text)
      fun free other => free = other ∧ (free = true → holds)) :
    pairing.Follows context (drawFree length isFree) (drawFree length isFreeOther)
      fun text other => text = other ∧ holds := by
  have attempts : pairing.Follows context (get : Operation Session) get
      fun session other => other.draws = session.draws :=
    fun _ _ joins => ⟨joins, joins.draws⟩
  refine bind attempts fun session other same => ?_
  rw [same]
  exact drawWhere holds looks _

end Follows

end Pairing

end Lookout
