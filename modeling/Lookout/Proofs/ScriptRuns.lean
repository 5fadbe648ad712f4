import Lookout.Proofs.Recorded
import Lookout.Schema.Script

/-!
# Runs of scripts

What the statements of a script make of a store, one after the other. Along the steps of a history
of schema changes the store has no rows but those of the ledger, and the ledger lists revisions:
those up to the position while the history only goes up. A way down leaves the lines of the ledger
alone, so that the next way up finds its version in use. Only where the table of the position is
dropped with the last of the others does a way up find nothing at all.
-/

namespace Lookout

open Operation Store
open Schema (Catalog Change Direction Revision Statement)
open Time (Stamp)

/-- A row that is put under a number above all others comes last. -/
theorem Store.Table.entries_put_of_below {α : Type} {table : Table α} {id : Int} {row : α}
    (below : ∀ entry ∈ table.entries, entry.id < id) :
    (table.put id row).entries = table.entries ++ [⟨id, row⟩] := by
  have front : table.entries.filter (fun entry => entry.id < id) = table.entries :=
    List.filter_eq_self.mpr fun entry stored => decide_eq_true (below entry stored)
  have back : table.entries.filter (fun entry => id < entry.id) = [] :=
    List.filter_eq_nil_iff.mpr fun entry stored => by
      simpa using Int.le_of_lt (below entry stored)
  change table.entries.filter (fun entry => entry.id < id) ++
    ⟨id, row⟩ :: table.entries.filter (fun entry => id < entry.id) = _
  rw [front, back]

namespace Ledger

/-- The version, name and checksum of a line. -/
def title (line : Entry LedgerLine) : Int × Option String × Option String :=
  (line.id, line.row.name, line.row.checksum)

/-- The version, name and checksum that a revision is recorded with. -/
def titleOf (revision : Revision) : Int × Option String × Option String :=
  (revision.number, some revision.label, some revision.checksum)

/-- A ledger lists these revisions and nothing else, each as it is. -/
def Lists (ledger : Table LedgerLine) (revisions : List Revision) : Prop :=
  ledger.entries.map title = revisions.map titleOf

variable {ledger : Table LedgerLine} {revisions : List Revision} {revision : Revision}

theorem Lists.exists_of_mem (lists : Lists ledger revisions) {line : Entry LedgerLine}
    (stored : line ∈ ledger.entries) :
    ∃ revision ∈ revisions, title line = titleOf revision := by
  have isTitle := List.mem_map_of_mem stored (f := title)
  rw [lists] at isTitle
  obtain ⟨revision, listed, same⟩ := List.mem_map.mp isTitle
  exact ⟨revision, listed, same.symm⟩

/-- The versions in use are those of the listed revisions. -/
theorem Lists.has_iff (lists : Lists ledger revisions) :
    ledger.has revision.number = true ↔ revision ∈ revisions := by
  rw [Table.has_iff]
  constructor
  · rintro ⟨line, stored, same⟩
    obtain ⟨other, listed, isOther⟩ := lists.exists_of_mem stored
    have sameNumber : revision.number = other.number :=
      Int.ofNat.inj (same.symm.trans (congrArg Prod.fst isOther))
    rwa [Revision.eq_of_number_eq sameNumber]
  · intro listed
    have isTitle := List.mem_map_of_mem listed (f := titleOf)
    rw [← lists] at isTitle
    obtain ⟨line, stored, same⟩ := List.mem_map.mp isTitle
    exact ⟨line, stored, congrArg Prod.fst same⟩

theorem Lists.has_eq_false (lists : Lists ledger revisions) (absent : revision ∉ revisions) :
    ledger.has revision.number = false := by
  rwa [← Bool.not_eq_true, lists.has_iff]

/-- A ledger that lists revisions has not drifted. -/
theorem Lists.undrifted (lists : Lists ledger revisions) {line : Entry LedgerLine}
    (stored : line ∈ ledger.entries) : isDrifted line = false := by
  obtain ⟨revision, -, same⟩ := lists.exists_of_mem stored
  simp only [title, titleOf, Prod.mk.injEq] at same
  simp [isDrifted, same, Revision.checksumOf?_number]

/-- Recording a revision above the listed ones lists it last. -/
theorem Lists.put (lists : Lists ledger revisions)
    (above : ∀ other ∈ revisions, other.number < revision.number) (appliedOn : Stamp) :
    Lists (ledger.put revision.number (lineOf appliedOn revision).row)
      (revisions ++ [revision]) := by
  have below (line : Entry LedgerLine) (stored : line ∈ ledger.entries) :
      line.id < revision.number := by
    obtain ⟨other, listed, same⟩ := lists.exists_of_mem stored
    rw [show line.id = other.number from congrArg Prod.fst same]
    exact Int.ofNat_lt.mpr (above other listed)
  rw [Lists, Table.entries_put_of_below below, List.map_append, List.map_append, lists]
  rfl

/-- Forgetting the last of the listed revisions leaves the others. -/
theorem Lists.erase (lists : Lists ledger (revisions ++ [revision]))
    (above : ∀ other ∈ revisions, other.number < revision.number) :
    Lists (ledger.erase revision.number) revisions := by
  have titles : (ledger.erase revision.number).entries.map title =
      (ledger.entries.map title).filter (fun told => told.1 ≠ (revision.number : Int)) := by
    rw [List.filter_map]
    rfl
  have others : (revisions.map titleOf).filter (fun told => told.1 ≠ (revision.number : Int)) =
      revisions.map titleOf := by
    refine List.filter_eq_self.mpr fun told isTitle => ?_
    obtain ⟨other, listed, rfl⟩ := List.mem_map.mp isTitle
    have lower := above other listed
    refine decide_eq_true fun same => ?_
    exact absurd (Int.ofNat.inj same) (Nat.ne_of_lt lower)
  unfold Lists at lists ⊢
  rw [titles, lists, List.map_append, List.filter_append, others]
  simp [titleOf]

end Ledger

namespace Schema.Revision

/-- The revisions up to one of them are those up to the one before, and itself. -/
theorem between_none_some (revision : Revision) :
    between none (some revision) = between none revision.previous? ++ [revision] := by
  cases revision <;> rfl

theorem number_lt_of_mem_previous {revision other : Revision}
    (lower : other ∈ between none revision.previous?) : other.number < revision.number := by
  have le := number_le_previous_iff.mp (mem_between_none.mp lower)
  exact Nat.lt_of_le_of_ne le.1 fun same => le.2 (eq_of_number_eq same)

theorem not_mem_between_previous {revision : Revision} :
    revision ∉ between none revision.previous? :=
  fun listed => absurd (number_lt_of_mem_previous listed) (Nat.lt_irrefl _)

end Schema.Revision

/-- A store without rows, apart from those of the ledger, at a position. -/
def Database.rowless (catalog : Catalog) (position : Option Revision)
    (ledger : Table LedgerLine) : Database :=
  { catalog, position, ledger }

/-- Reverting the oldest revision takes the ledger along. -/
theorem Database.remaining_rowless (catalog : Catalog) (revision : Revision)
    (ledger : Table LedgerLine) :
    revision.downgrade.foldl Migration.remaining (.rowless catalog (some revision) ledger) =
      .rowless catalog (some revision)
        (if revision.previous?.isNone then .empty else ledger) := by
  cases revision with
  | initial =>
      have dropped : ledger.keep (fun _ => false) = .empty :=
        Table.ext (List.filter_eq_nil_iff.mpr fun _ _ => Bool.false_ne_true)
      exact congrArg (rowless catalog (some .initial)) dropped
  | _ => rfl

namespace Schema.Statement

/-- What a statement makes of a store at a time, or why the store refuses it. The table that keeps
the position has one row at most, and its key is the name of the revision. -/
def execute (appliedOn : Stamp) (database : Database) :
    Statement → Except StoreError Database
  | .begin | .commit => .ok database
  | .change step => Migration.altered database step
  | .enterPosition revision =>
      if !database.catalog.hasTable .position then .error (.tableMissing .position)
      else if database.position.isSome then .error (.duplicate .position [.versionNumber])
      else .ok { database with position := some revision }
  | .movePosition old new =>
      if !database.catalog.hasTable .position then .error (.tableMissing .position)
      else if database.position = some old then .ok { database with position := some new }
      else .ok database
  | .leavePosition revision =>
      if !database.catalog.hasTable .position then .error (.tableMissing .position)
      else if database.position = some revision then .ok { database with position := none }
      else .ok database
  | .recordRevision revision =>
      if !database.catalog.hasTable .ledger then .error (.tableMissing .ledger)
      else if database.ledger.has revision.number then .error (.duplicate .ledger [.version])
      else .ok { database with
        ledger := database.ledger.put revision.number (Ledger.lineOf appliedOn revision).row }

/-- What the statements of a script make of a store, up to the first one that it refuses. -/
def executeAll (appliedOn : Stamp) : List Statement → Database → Except StoreError Database
  | [], database => .ok database
  | statement :: rest, database =>
      (execute appliedOn database statement).bind (executeAll appliedOn rest)

variable {appliedOn : Stamp} {database : Database}

@[simp] theorem executeAll_singleton (statement : Statement) :
    executeAll appliedOn [statement] database = execute appliedOn database statement := by
  unfold executeAll
  cases execute appliedOn database statement <;> rfl

theorem executeAll_append (first second : List Statement) :
    executeAll appliedOn (first ++ second) database =
      (executeAll appliedOn first database).bind (executeAll appliedOn second) := by
  induction first generalizing database with
  | nil => rfl
  | cons statement rest ih =>
      rw [List.cons_append, executeAll, executeAll]
      cases execute appliedOn database statement with
      | error error => rfl
      | ok middle => exact ih

/-- The marks around a transaction make no difference to a script that is run as a whole. -/
theorem executeAll_frame (dialect : Dialect) (statements : List Statement) :
    executeAll appliedOn (Script.frame dialect statements) database =
      executeAll appliedOn statements database := by
  cases dialect with
  | sqlite => rfl
  | postgresql =>
      rw [Script.frame, executeAll_append, executeAll_append]
      change (executeAll appliedOn statements database).bind Except.ok = _
      cases executeAll appliedOn statements database <;> rfl

/-- Schema changes that fit the schema and that the rows allow are made. -/
theorem executeAll_changes (appliedOn : Stamp) {catalog after : Catalog} {changes : List Change}
    (alike : database.catalog.Alike catalog) (applied : catalog.applyAll changes = .ok after)
    (allowed : Migration.areForbidden database changes = false) :
    ∃ reached, reached.Alike after ∧ executeAll appliedOn (changes.map .change) database =
      .ok ((changes.foldl Migration.remaining database).under reached) := by
  induction changes generalizing database catalog with
  | nil =>
      cases applied
      exact ⟨_, alike, rfl⟩
  | cons step rest ih =>
      obtain ⟨middle, first, others⟩ := Catalog.applyAll_cons applied
      simp only [Migration.areForbidden, Bool.or_eq_false_iff] at allowed
      obtain ⟨reached, reachedAlike, done⟩ := Migration.altered_allowed alike first allowed.1
      have goesOn : ((Migration.remaining database step).under reached).catalog.Alike middle :=
        reachedAlike
      obtain ⟨last, lastAlike, same⟩ :=
        ih goesOn others (by rw [Migration.areForbidden_under]; exact allowed.2)
      refine ⟨last, lastAlike, ?_⟩
      rw [Migration.foldl_remaining_under] at same
      have first : execute appliedOn database (.change step) =
          .ok ((Migration.remaining database step).under reached) := done
      rw [List.map_cons, executeAll, first]
      exact same

/-- The position is written down where it is kept. -/
theorem executeAll_moved (appliedOn : Stamp) {old : Option Revision} (new : Option Revision)
    (placed : database.catalog.hasTable .position = true) (isOld : database.position = old) :
    executeAll appliedOn (Script.moved old new) database =
      .ok { database with position := new } := by
  obtain ⟨catalog, position⟩ := database
  subst isOld
  cases position <;> cases new <;> simp_all [Script.moved, execute]
  rfl

/-- The schema changes of a step are made and the position is moved. -/
theorem executeAll_changed (appliedOn : Stamp) {old new : Option Revision} {after : Catalog}
    {changes : List Change} {ledger : Table LedgerLine} (isAt : database.IsAt old)
    (applied : (Catalog.atPosition old).applyAll changes = .ok after)
    (leads : after.Alike (.atPosition new))
    (allowed : Migration.areForbidden database changes = false)
    (left : changes.foldl Migration.remaining database = { database with ledger }) :
    ∃ reached : Catalog, reached.Alike (.atPosition new) ∧
      executeAll appliedOn (changes.map .change ++ Script.moved old new) database =
        .ok { database with catalog := reached, position := new, ledger } := by
  obtain ⟨reached, alike, changed⟩ := executeAll_changes appliedOn isAt.catalog applied allowed
  have placed : reached.hasTable .position = true := by
    rw [(alike.trans leads).hasTable]
    cases new <;> rfl
  let changedTo : Database := { database with catalog := reached, ledger }
  have moved : executeAll appliedOn (Script.moved old new) changedTo =
      .ok { changedTo with position := new } :=
    executeAll_moved appliedOn new placed isAt.position
  refine ⟨reached, alike.trans leads, ?_⟩
  rw [executeAll_append, changed, left]
  exact moved

/-- The script of a way up does everything but its last statement, which records the revision. -/
theorem executeAll_upgrade (appliedOn : Stamp) {revision : Revision} {catalog : Catalog}
    (ledger : Table LedgerLine)
    (starts : revision.previous? = none ∧ catalog = {} ∨
      revision.previous? ≠ none ∧ catalog.Alike (.atPosition revision.previous?)) :
    ∃ reached : Catalog, reached.Alike (.atPosition (some revision)) ∧
      executeAll appliedOn (Script.ofStep .upgrade revision)
          (.rowless catalog revision.previous? ledger) =
        execute appliedOn (.rowless reached (some revision) ledger) (.recordRevision revision) := by
  -- The table of the position is made on the way to the oldest revision only.
  have begun : ∃ placed : Catalog, placed.Alike (.atPosition revision.previous?) ∧
      executeAll appliedOn
          (if revision.previous?.isNone then [.change (.createTable .position)] else [])
          (Database.rowless catalog revision.previous? ledger) =
        .ok (Database.rowless placed revision.previous? ledger) := by
    rcases starts with ⟨bottom, rfl⟩ | ⟨above, alike⟩
    · rw [bottom]
      exact ⟨_, .refl _, rfl⟩
    · rw [if_neg (by simpa using above)]
      exact ⟨catalog, alike, rfl⟩
  obtain ⟨placed, placedAlike, begun⟩ := begun
  obtain ⟨after, applied, afterAlike⟩ := Migration.applyAll_upgrade revision
  have isAt : (Database.rowless placed revision.previous? ledger).IsAt revision.previous? :=
    ⟨rfl, placedAlike⟩
  have spared : revision.upgrade.foldl Migration.remaining
      (Database.rowless placed revision.previous? ledger) =
      { Database.rowless placed revision.previous? ledger with ledger } := by
    cases revision <;> rfl
  obtain ⟨reached, alike, changed⟩ :=
    executeAll_changed appliedOn isAt applied afterAlike (by cases revision <;> rfl) spared
  refine ⟨reached, alike, ?_⟩
  rw [Script.ofStep, List.append_assoc, List.append_assoc, executeAll_append, begun]
  simp only [Except.bind]
  rw [← List.append_assoc, executeAll_append, changed]
  exact executeAll_singleton _

/-- The script of a way down moves below the revision. It says nothing about the lines of the
ledger, which goes with the oldest revision. -/
theorem executeAll_downgrade (appliedOn : Stamp) {revision : Revision} {catalog : Catalog}
    (ledger : Table LedgerLine) (alike : catalog.Alike (.atPosition (some revision))) :
    ∃ reached : Catalog, reached.Alike (.atPosition revision.previous?) ∧
      executeAll appliedOn (Script.ofStep .downgrade revision)
          (.rowless catalog (some revision) ledger) =
        .ok (.rowless reached revision.previous?
          (if revision.previous?.isNone then .empty else ledger)) := by
  obtain ⟨after, applied, afterAlike⟩ := Migration.applyAll_downgrade revision
  exact executeAll_changed appliedOn ⟨rfl, alike⟩ applied afterAlike (by cases revision <;> rfl)
    (Database.remaining_rowless catalog revision ledger)

/-- Where the table of the position is the last one, dropping it leaves nothing. -/
theorem execute_dropPosition (appliedOn : Stamp) {catalog : Catalog}
    (alike : catalog.Alike (.atPosition none)) :
    execute appliedOn (.rowless catalog none .empty) (.change (.dropTable .position)) =
      .ok {} := by
  let last : Database := .rowless catalog none .empty
  have isLast : (Catalog.atPosition none).apply (.dropTable .position) = .ok {} := rfl
  have allowed : Migration.isForbidden last (.dropTable .position) = false := rfl
  obtain ⟨reached, empty, done⟩ := Migration.altered_allowed alike isLast allowed
  rw [empty.eq_empty] at done
  exact done

end Schema.Statement

namespace Schema.Script

/-- Whether a way down to a position leaves something behind that stands in the way of the next
way up. -/
def Ending.bars : Ending → Option Revision → Bool
  | .dropsTable, none => false
  | _, _ => true

@[simp] theorem Ending.bars_some (ending : Ending) (revision : Revision) :
    ending.bars (some revision) = true := by
  cases ending <;> rfl

theorem Ending.bars_eq_true_iff {ending : Ending} {position : Option Revision} :
    ending.bars position = true ↔ ¬(ending = .dropsTable ∧ position = none) := by
  cases ending <;> cases position <;> simp [bars]

/-- A store that the scripts of steps have led to a position, and whether they bar the way up: they
have turned down on the way, and the ledger lists revisions above the position, or the table of the
position alone is left. -/
inductive Leads (ending : Ending) : Bool → Option Revision → Database → Prop where
  | start : Leads ending false none {}
  | up {revision : Revision} {catalog : Catalog} {ledger : Table LedgerLine}
      (alike : catalog.Alike (.atPosition (some revision)))
      (lists : Ledger.Lists ledger (Revision.between none (some revision))) :
      Leads ending false (some revision) (.rowless catalog (some revision) ledger)
  | down {revision top : Revision} {catalog : Catalog} {ledger : Table LedgerLine}
      (alike : catalog.Alike (.atPosition (some revision)))
      (below : revision.number < top.number)
      (lists : Ledger.Lists ledger (Revision.between none (some top))) :
      Leads ending true (some revision) (.rowless catalog (some revision) ledger)
  | bottom {catalog : Catalog} (keeps : ending = .keepsTable)
      (alike : catalog.Alike (.atPosition none)) :
      Leads ending true none (.rowless catalog none .empty)

namespace Leads

variable {ending : Ending} {barred : Bool} {revision : Revision} {database : Database}

/-- While nothing bars it, the script of a way up succeeds, and the ledger lists the revision as the
last one. -/
theorem upgrade (leads : Leads ending false revision.previous? database) (appliedOn : Stamp) :
    ∃ after, Statement.executeAll appliedOn (ofStep .upgrade revision) database = .ok after ∧
      Leads ending false (some revision) after := by
  obtain ⟨catalog, ledger, rfl, starts, lists⟩ : ∃ catalog ledger,
      database = .rowless catalog revision.previous? ledger ∧
      (revision.previous? = none ∧ catalog = {} ∨
        revision.previous? ≠ none ∧ catalog.Alike (.atPosition revision.previous?)) ∧
      Ledger.Lists ledger (Revision.between none revision.previous?) := by
    generalize revision.previous? = position at leads
    cases leads with
    | start => exact ⟨_, .empty, rfl, .inl ⟨rfl, rfl⟩, rfl⟩
    | up alike lists => exact ⟨_, _, rfl, .inr ⟨nofun, alike⟩, lists⟩
  obtain ⟨reached, alike, executed⟩ := Statement.executeAll_upgrade appliedOn ledger starts
  have absent := lists.has_eq_false Revision.not_mem_between_previous
  have isAt : (Database.rowless reached (some revision) ledger).IsAt (some revision) := ⟨rfl, alike⟩
  have present : reached.hasTable .ledger = true := Migration.hasTable_ledger isAt
  let noted := ledger.put revision.number (Ledger.lineOf appliedOn revision).row
  refine ⟨.rowless reached (some revision) noted, executed.trans ?_, .up alike ?_⟩
  · simp [Statement.execute, Database.rowless, present, absent, noted]
  · rw [Revision.between_none_some]
    exact lists.put (fun _ listed => Revision.number_lt_of_mem_previous listed) appliedOn

/-- The script of a way down succeeds. -/
theorem downgrade (leads : Leads ending barred (some revision) database) (appliedOn : Stamp) :
    ∃ after, Statement.executeAll appliedOn
        (ofStep .downgrade revision ++ ending.statements revision.previous?) database =
          .ok after ∧
      Leads ending (ending.bars revision.previous?) revision.previous? after := by
  obtain ⟨catalog, ledger, top, rfl, alike, below, lists⟩ : ∃ catalog ledger top,
      database = .rowless catalog (some revision) ledger ∧
      catalog.Alike (.atPosition (some revision)) ∧ revision.number ≤ top.number ∧
      Ledger.Lists ledger (Revision.between none (some top)) := by
    cases leads with
    | up alike lists => exact ⟨_, _, revision, rfl, alike, Nat.le_refl _, lists⟩
    | @down _ top _ _ alike below lists => exact ⟨_, _, top, rfl, alike, Nat.le_of_lt below, lists⟩
  obtain ⟨reached, reachedAlike, executed⟩ :=
    Statement.executeAll_downgrade appliedOn ledger alike
  rw [Statement.executeAll_append, executed]
  cases lower : revision.previous? with
  | none =>
      rw [lower] at reachedAlike
      cases ending with
      | keepsTable => exact ⟨_, rfl, .bottom rfl reachedAlike⟩
      | dropsTable =>
          refine ⟨{}, ?_, .start⟩
          exact (Statement.executeAll_singleton _).trans
            (Statement.execute_dropPosition appliedOn reachedAlike)
  | some previous =>
      rw [lower] at reachedAlike
      have less : previous.number < revision.number := by
        cases revision <;> cases lower <;> decide
      rw [Ending.statements_some, Ending.bars_some]
      exact ⟨_, rfl, .down reachedAlike (Nat.lt_of_lt_of_le less below) lists⟩

/-- The script of a way up that is barred is refused: its version is in use, or the table that keeps
the position is there already. -/
theorem upgrade_refused (leads : Leads ending true revision.previous? database)
    (appliedOn : Stamp) :
    ∃ error, Statement.executeAll appliedOn (ofStep .upgrade revision) database = .error error ∧
      (error = .duplicate .ledger [.version] ∨
        ending = .keepsTable ∧ error = .change (.tableExists .position)) := by
  generalize lower : revision.previous? = position at leads
  cases leads with
  | @down previous top catalog ledger alike below lists =>
      have starts : revision.previous? = none ∧ catalog = {} ∨
          revision.previous? ≠ none ∧ catalog.Alike (.atPosition revision.previous?) :=
        .inr (by rw [lower]; exact ⟨nofun, alike⟩)
      obtain ⟨reached, reachedAlike, executed⟩ :=
        Statement.executeAll_upgrade appliedOn ledger starts
      have isAt : (Database.rowless reached (some revision) ledger).IsAt (some revision) :=
        ⟨rfl, reachedAlike⟩
      have present : reached.hasTable .ledger = true := Migration.hasTable_ledger isAt
      have next : revision.number = previous.number + 1 := by
        cases revision <;> cases lower <;> rfl
      -- The line of what was reverted is still there.
      have listed : ledger.has revision.number = true := by
        refine lists.has_iff.mpr (Revision.mem_between_none.mpr ?_)
        rw [next]
        exact below
      rw [lower] at executed
      refine ⟨_, executed.trans ?_, .inl rfl⟩
      simp [Statement.execute, Database.rowless, present, listed]
  | @bottom catalog keeps alike =>
      have present : catalog.hasTable .position = true := by
        rw [alike.hasTable]
        rfl
      have refused : Statement.execute appliedOn (.rowless catalog none .empty)
          (.change (.createTable .position)) = .error (.change (.tableExists .position)) := by
        simp [Statement.execute, Migration.altered, Catalog.apply, Database.rowless, present]
      refine ⟨_, ?_, .inr ⟨keeps, rfl⟩⟩
      rw [ofStep, lower, List.append_assoc, List.append_assoc, Statement.executeAll_append]
      simp [refused, Except.bind]

end Leads

end Schema.Script

end Lookout
