import Lookout.Proofs.Relations
import Lookout.Session

/-!
# Runs of operations

`Operation.Ends` says how one run of an operation ends: with an answer or with a failure,
and in which session. Each primitive of sessions has one equivalence for it, so that a run
of an operation unfolds step by step without a look at the monad. What a statement to the
store checks and what it does to the database are named here as functions of the database.
-/

namespace Lookout

open Schema (Column TableName)
open Store

namespace Database

variable {α : Type} [Relation α]

/-- The first of some tables that does not exist. -/
def missing? (database : Database) (tables : List TableName) : Option TableName :=
  tables.find? fun table => !database.catalog.hasTable table

/-- Why no insertion into a table can be prepared that ignores conflicts in a key. -/
def obstacle? (database : Database) (table : TableName) (ignoring : Option (List Column)) :
    Option StoreError :=
  match database.missing? [table] with
  | some table => some (.tableMissing table)
  | none =>
      if ignoring.any fun key => !(database.catalog.uniqueKeys table).contains key then
        some .noSuchKey
      else
        (database.missing? (table.definition.foreignKeys.map (·.parent))).map .parentTableMissing

/-- Why the store does not take a row: it is like another one, or a row that it names does
not exist. -/
def refusal? (database : Database) (row : α) : Option StoreError :=
  match Operation.violatedKey? database (Relation.read database).entries row with
  | some key => some (.duplicate (Relation.table α) key)
  | none => if Operation.hasParents database row then none else some .orphan

/-- A row is there under a key: it was, or it has been added. The answer is its number, and
whether it is new. -/
inductive Inserts (before : Database) (key : List Column) (row : α) :
    Int × Bool → Database → Prop where
  | present {entry : Entry α}
      (found : (Relation.read before).find? (fun entry => Relation.alike key row entry.row) =
        some entry) :
      Inserts before key row (entry.id, false) before
  | added
      (absent : (Relation.read before).find? (fun entry => Relation.alike key row entry.row) = none)
      (admitted : before.refusal? row = none) :
      Inserts before key row ((Relation.read before : Table α).nextId, true) (before.added row)

/-- A row is not there under a key, and the store does not take it. -/
def Rejects (before : Database) (key : List Column) (row : α) (error : StoreError) : Prop :=
  (Relation.read before).find? (fun entry => Relation.alike key row entry.row) = none ∧
    before.refusal? row = some error

/-- Rows have been added one after the other. -/
inductive AddsAll : Database → List α → Database → Prop where
  | nil (database : Database) : AddsAll database [] database
  | cons {before after : Database} {row : α} {rows : List α}
      (admitted : before.refusal? row = none) (rest : AddsAll (before.added row) rows after) :
      AddsAll before (row :: rows) after

/-- Rows that are added one after the other come last. -/
theorem AddsAll.entries [LawfulRelation α] {before after : Database} {rows : List α}
    (adds : before.AddsAll rows after) :
    ∃ new : List (Entry α), new.map (·.row) = rows ∧
      (Relation.read after : Table α).entries = (Relation.read before).entries ++ new := by
  induction adds with
  | nil database => exact ⟨[], rfl, (List.append_nil _).symm⟩
  | @cons before after row rows admitted rest ih =>
      obtain ⟨new, areRows, same⟩ := ih
      refine ⟨⟨(Relation.read before : Table α).nextId, row⟩ :: new, by rw [List.map_cons, areRows],
        ?_⟩
      rw [same, Database.added, LawfulRelation.read_write, Table.entries_add, List.append_assoc]
      rfl

end Database

namespace Draws

/-- A text that can be drawn: it is as long as is asked for, and has no other characters than those
that texts are drawn from. -/
def IsDrawn (length : Nat) (text : String) : Prop :=
  text.length = length ∧ ∀ character ∈ text.toList, character ∈ alphabet

theorem mem_alphabet_of_characters (draws : Draws) (count : Nat) :
    ∀ character ∈ (draws.characters count).1, character ∈ alphabet := by
  induction count generalizing draws with
  | zero => exact fun _ isOne => absurd isOne List.not_mem_nil
  | succ count ih =>
      intro character isOne
      rcases List.mem_cons.mp isOne with rfl | later
      · have place : (draws.below alphabetTable.size).1 < alphabetTable.size :=
          Nat.mod_lt _ (by decide)
        have same : alphabetTable.getD (draws.below alphabetTable.size).1 'a' =
            alphabetTable[(draws.below alphabetTable.size).1] := dif_pos place
        change alphabetTable.getD (draws.below alphabetTable.size).1 'a' ∈ alphabet
        rw [same]
        exact List.mem_toArray.mp (Array.getElem_mem place)
      · exact ih _ character later

theorem isDrawn_text (draws : Draws) (length : Nat) : IsDrawn length (draws.text length).1 := by
  refine ⟨?_, ?_⟩
  · simp [text, length_characters]
  · simpa [text] using draws.mem_alphabet_of_characters length

/-- A supply from which so many texts of a length have been drawn. -/
def drawn (draws : Draws) (length : Nat) : Nat → Draws
  | 0 => draws
  | count + 1 => ((draws.drawn length count).text length).2

@[simp] theorem drawn_succ (draws : Draws) (length count : Nat) :
    draws.drawn length (count + 1) = ((draws.drawn length count).text length).2 := rfl

/-- The text that a supply gives after so many others of the same length. -/
def textAt (draws : Draws) (length place : Nat) : String :=
  ((draws.drawn length place).text length).1

theorem isDrawn_textAt (draws : Draws) (length place : Nat) :
    IsDrawn length (draws.textAt length place) :=
  isDrawn_text _ _

theorem attempts_characters (draws : Draws) (count : Nat) :
    (draws.characters count).2.attempts = draws.attempts := by
  induction count generalizing draws with
  | zero => rfl
  | succ count ih => exact ih (draws.below alphabetTable.size).2

/-- However much is drawn, as many attempts are made. -/
theorem attempts_drawn (draws : Draws) (length count : Nat) :
    (draws.drawn length count).attempts = draws.attempts := by
  induction count with
  | zero => rfl
  | succ count ih => exact (attempts_characters _ length).trans ih

end Draws

/-- A session in which so many texts of a length have been drawn since another one, and nothing else
has been done. -/
structure Session.HasDrawn (start : Session) (length count : Nat) (session : Session) : Prop where
  saved : session.saved = start.saved
  current : session.current = start.current
  draws : session.draws = start.draws.drawn length count

namespace Session.HasDrawn

variable {start session : Session} {length count : Nat}

theorem refl (start : Session) (length : Nat) : start.HasDrawn length 0 start :=
  ⟨rfl, rfl, rfl⟩

/-- One more text. -/
theorem succ (hasDrawn : start.HasDrawn length count session) :
    start.HasDrawn length (count + 1)
      { session with draws := (session.draws.text length).2 } :=
  ⟨hasDrawn.saved, hasDrawn.current, by rw [hasDrawn.draws, Draws.drawn_succ]⟩

/-- The text that is drawn next. -/
theorem text (hasDrawn : start.HasDrawn length count session) :
    (session.draws.text length).1 = start.draws.textAt length count := by
  rw [hasDrawn.draws, Draws.textAt]

end Session.HasDrawn

namespace Operation

open Time (Moment Stamp)

variable {α β : Type} {context : Context} {session : Session}
  {answers : α → Session → Prop} {fails : Failure → Session → Prop}

/-- A run of an operation ends in an answer that meets one condition or in a failure that
meets another one. -/
def Ends (operation : Operation α) (context : Context) (session : Session)
    (answers : α → Session → Prop) (fails : Failure → Session → Prop) : Prop :=
  match operation context session with
  | .ok answer final => answers answer final
  | .error failure final => fails failure final

/-- What a run is known to end in may be said in weaker words. -/
theorem Ends.imp {operation : Operation α} {weaker : α → Session → Prop}
    {weakerFails : Failure → Session → Prop}
    (ends : operation.Ends context session answers fails)
    (answered : ∀ answer final, answers answer final → weaker answer final)
    (failed : ∀ failure final, fails failure final → weakerFails failure final) :
    operation.Ends context session weaker weakerFails := by
  unfold Ends at ends ⊢
  cases result : operation context session with
  | ok answer final =>
      rw [result] at ends
      exact answered answer final ends
  | error failure final =>
      rw [result] at ends
      exact failed failure final ends

/-- What is known of a run in two ways holds of it together. -/
theorem Ends.and {operation : Operation α} {others : α → Session → Prop}
    {othersFails : Failure → Session → Prop}
    (ends : operation.Ends context session answers fails)
    (also : operation.Ends context session others othersFails) :
    operation.Ends context session
      (fun answer final => answers answer final ∧ others answer final)
      (fun failure final => fails failure final ∧ othersFails failure final) := by
  unfold Ends at ends also ⊢
  cases result : operation context session with
  | ok answer final =>
      rw [result] at ends also
      exact ⟨ends, also⟩
  | error failure final =>
      rw [result] at ends also
      exact ⟨ends, also⟩

/-- The first of two ways in which a run is known to end. -/
theorem Ends.left {operation : Operation α} {others : α → Session → Prop}
    {othersFails : Failure → Session → Prop}
    (ends : operation.Ends context session
      (fun answer final => answers answer final ∧ others answer final)
      (fun failure final => fails failure final ∧ othersFails failure final)) :
    operation.Ends context session answers fails :=
  ends.imp (fun _ _ known => known.1) (fun _ _ known => known.1)

@[simp] theorem ends_pure (answer : α) :
    (pure answer : Operation α).Ends context session answers fails ↔ answers answer session :=
  Iff.rfl

@[simp] theorem ends_throw (failure : Failure) :
    (throw failure : Operation α).Ends context session answers fails ↔ fails failure session :=
  Iff.rfl

/-- Of two operations one after the other the second runs where the first one answered. -/
@[simp] theorem ends_bind {next : β → Operation α} (operation : Operation β) :
    (operation >>= next).Ends context session answers fails ↔
      operation.Ends context session
        (fun answer middle => (next answer).Ends context middle answers fails) fails := by
  unfold Ends
  simp only [bind, ReaderT.bind, EStateM.bind]
  cases operation context session <;> rfl

@[simp] theorem ends_map (change : β → α) (operation : Operation β) :
    (change <$> operation).Ends context session answers fails ↔
      operation.Ends context session (fun answer final => answers (change answer) final) fails := by
  unfold Ends
  simp only [Functor.map, EStateM.map]
  cases operation context session <;> rfl

@[simp] theorem ends_ite (condition : Prop) [Decidable condition] (first second : Operation α) :
    (if condition then first else second).Ends context session answers fails ↔
      (condition → first.Ends context session answers fails) ∧
        (¬condition → second.Ends context session answers fails) := by
  by_cases holds : condition <;> simp [holds]

@[simp] theorem ends_read {answers : Context → Session → Prop} :
    (read : Operation Context).Ends context session answers fails ↔ answers context session :=
  Iff.rfl

@[simp] theorem ends_get {answers : Session → Session → Prop} :
    (get : Operation Session).Ends context session answers fails ↔ answers session session :=
  Iff.rfl

@[simp] theorem ends_database {answers : Database → Session → Prop} :
    database.Ends context session answers fails ↔ answers session.current session :=
  Iff.rfl

@[simp] theorem ends_rows [Relation α] {answers : Table α → Session → Prop} :
    (rows α).Ends context session answers fails ↔
      answers (Relation.read session.current) session :=
  Iff.rfl

@[simp] theorem ends_now {answers : Moment → Session → Prop} :
    now.Ends context session answers fails ↔ answers (Moment.utc context.clock) session :=
  Iff.rfl

@[simp] theorem ends_stamp {answers : Stamp → Session → Prop} :
    stamp.Ends context session answers fails ↔ answers (Stamp.ofClock context.clock) session :=
  Iff.rfl

@[simp] theorem ends_log {answers : Unit → Session → Prop} (level : Level) (source : Source)
    (text : String) :
    (log level source text).Ends context session answers fails ↔
      answers () { session with log := session.log ++ [⟨level, source, text⟩] } :=
  Iff.rfl

@[simp] theorem ends_commit {answers : Unit → Session → Prop} :
    commit.Ends context session answers fails ↔
      answers () { session with saved := session.current, isOpen := false } :=
  Iff.rfl

@[simp] theorem ends_rollback {answers : Unit → Session → Prop} :
    rollback.Ends context session answers fails ↔
      answers () { session with current := session.saved, isOpen := false } :=
  Iff.rfl

@[simp] theorem ends_change {answers : Unit → Session → Prop} (step : Database → Database) :
    (change step).Ends context session answers fails ↔
      answers () { session with current := step session.current, isOpen := true } :=
  Iff.rfl

@[simp] theorem ends_put [Relation β] {answers : Unit → Session → Prop} (table : Table β) :
    (put table).Ends context session answers fails ↔
      answers () { session with current := Relation.write session.current table, isOpen := true } :=
  Iff.rfl

@[simp] theorem ends_refuse (error : StoreError) :
    (refuse error : Operation α).Ends context session answers fails ↔
      fails (.store error) session :=
  Iff.rfl

@[simp] theorem ends_drawText {answers : String → Session → Prop} (length : Nat) :
    (drawText length).Ends context session answers fails ↔
      answers (session.draws.text length).1
        { session with draws := (session.draws.text length).2 } :=
  Iff.rfl

@[simp] theorem ends_require {answers : Unit → Session → Prop} (tables : List TableName) :
    (require tables).Ends context session answers fails ↔
      (∀ table, session.current.missing? tables = some table →
        fails (.store (.tableMissing table)) session) ∧
      (session.current.missing? tables = none → answers () session) := by
  unfold require Database.missing?
  simp only [ends_bind, ends_database]
  cases tables.find? fun table => !session.current.catalog.hasTable table <;> simp

@[simp] theorem ends_fits {answers : Unit → Session → Prop} (numbers : List (Option Int)) :
    (fits numbers).Ends context session answers fails ↔
      ((numbers.all fun number => number.all isStorable) = false →
        fails (.store .numberTooLarge) session) ∧
      ((∀ number ∈ numbers, number.all isStorable = true) → answers () session) := by
  unfold fits
  by_cases storable : (numbers.all fun number => number.all isStorable) = true
  · simp only [storable, if_true, ends_pure, Bool.true_eq_false, false_implies, true_and]
    rw [List.all_eq_true] at storable
    exact ⟨fun answered _ => answered, fun answered => answered storable⟩
  · have large : ¬∀ number ∈ numbers, number.all isStorable = true := by
      rwa [List.all_eq_true] at storable
    simp only [Bool.not_eq_true] at storable
    simp [storable, large]

@[simp] theorem ends_wholeNumber {answers : Int → Session → Prop} (value : Value) :
    (wholeNumber value).Ends context session answers fails ↔
      (∀ error, value.toInteger = .error error → fails (.notInteger error) session) ∧
      (∀ number, value.toInteger = .ok number → answers number session) := by
  unfold wholeNumber
  cases value.toInteger <;> simp

@[simp] theorem ends_needed (table : TableName) (column : Column) (value : Option α) :
    (needed table column value).Ends context session answers fails ↔
      (value = none → fails (.store (.emptyColumn table column)) session) ∧
      (∀ given, value = some given → answers given session) := by
  cases value <;> simp [needed]

@[simp] theorem ends_prepareInsertion {answers : Unit → Session → Prop} (table : TableName)
    (ignoring : Option (List Column)) :
    (prepareInsertion table ignoring).Ends context session answers fails ↔
      (∀ error, session.current.obstacle? table ignoring = some error →
        fails (.store error) session) ∧
      (session.current.obstacle? table ignoring = none → answers () session) := by
  unfold prepareInsertion Database.obstacle?
  cases lacking : session.current.missing? [table] with
  | some lost => simp [lacking]
  | none =>
      simp only [ends_bind, ends_require, ends_database, lacking, reduceCtorEq, false_implies,
        implies_true, true_and, forall_const]
      by_cases unknown :
          (ignoring.any fun key => !(session.current.catalog.uniqueKeys table).contains key) = true
      · simp only [unknown, if_true, ends_bind, ends_refuse]
        simp
      · unfold Database.missing?
        simp only [unknown, if_false, Bool.false_eq_true]
        cases (table.definition.foreignKeys.map (·.parent)).find? fun parent =>
          !session.current.catalog.hasTable parent <;> simp

@[simp] theorem ends_add [Relation β] {answers : Int → Session → Prop} (row : β) :
    (add row).Ends context session answers fails ↔
      (∀ error, session.current.refusal? row = some error → fails (.store error) session) ∧
      (session.current.refusal? row = none →
        answers (Relation.read session.current : Table β).nextId
          { session with current := session.current.added row, isOpen := true }) := by
  unfold add Database.refusal?
  simp only [ends_bind, ends_database]
  cases violatedKey? session.current (Relation.read session.current : Table β).entries row with
  | some key => simp
  | none =>
      by_cases parents : hasParents session.current row = true
      · simp [parents, Database.added]
      · simp [parents]

@[simp] theorem ends_addUnlessAlike [Relation β] {answers : Int × Bool → Session → Prop}
    (key : List Column) (row : β) :
    (addUnlessAlike key row).Ends context session answers fails ↔
      (∀ error, session.current.Rejects key row error → fails (.store error) session) ∧
      (∀ id isNew after, session.current.Inserts key row (id, isNew) after →
        answers (id, isNew)
          { session with current := after, isOpen := session.isOpen || isNew }) := by
  unfold addUnlessAlike Database.Rejects
  simp only [ends_bind, ends_rows]
  cases found : (Relation.read session.current).find? fun entry =>
    Relation.alike key row entry.row with
  | some entry =>
      simp only [ends_pure, reduceCtorEq, false_and, false_implies, implies_true, true_and]
      constructor
      · rintro answered id isNew after (⟨again⟩ | ⟨absent, _⟩)
        · rw [found] at again
          cases again
          simpa using answered
        · rw [found] at absent
          cases absent
      · intro answered
        simpa using answered _ _ _ (.present found)
  | none =>
      simp only [ends_bind, ends_add, ends_pure, true_and]
      constructor
      · rintro ⟨failed, answered⟩
        refine ⟨failed, ?_⟩
        rintro id isNew after (⟨again⟩ | ⟨_, admitted⟩)
        · rw [found] at again
          cases again
        · simpa using answered admitted
      · rintro ⟨failed, answered⟩
        exact ⟨failed, fun admitted => by simpa using answered _ _ _ (.added found admitted)⟩

@[simp] theorem ends_updateWhere [Relation β] {answers : Nat → Session → Prop}
    (wanted : Entry β → Bool) (step : β → β) :
    (updateWhere wanted step).Ends context session answers fails ↔
      answers ((Relation.read session.current : Table β).count wanted)
        { session with current := session.current.updated wanted step, isOpen := true } :=
  Iff.rfl

@[simp] theorem ends_eraseWhere [Relation β] {answers : Nat → Session → Prop}
    (wanted : Entry β → Bool) :
    (eraseWhere wanted).Ends context session answers fails ↔
      answers ((Relation.read session.current : Table β).select wanted).length
        { session with current := session.current.erased wanted, isOpen := true } :=
  Iff.rfl

/-- Where an operation fails, the run goes on with what is to be done about the failure. -/
@[simp] theorem ends_tryCatch (operation : Operation α) (handler : Failure → Operation α) :
    (tryCatch operation handler).Ends context session answers fails ↔
      operation.Ends context session answers fun failure final =>
        (handler failure).Ends context final answers fails := by
  unfold Ends
  simp only [tryCatch, tryCatchThe, MonadExceptOf.tryCatch]
  delta EStateM.tryCatch
  cases operation context session <;> rfl

/-- Where the store refuses to break the rules about rows, what was done is undone and the
failure is another one. -/
@[simp] theorem ends_orFail (failure : Failure) (operation : Operation α) :
    (orFail failure operation).Ends context session answers fails ↔
      operation.Ends context session answers fun cause final =>
        (∀ error, cause = .store error → error.isIntegrity = true →
          fails failure { final with current := final.saved, isOpen := false }) ∧
        ((∀ error, cause = .store error → error.isIntegrity = false) → fails cause final) := by
  unfold orFail
  rw [ends_tryCatch]
  refine iff_of_eq (congrArg (operation.Ends context session answers) ?_)
  funext cause final
  cases cause with
  | store error => cases integral : error.isIntegrity <;> simp [integral]
  | _ => simp

/-- Drawing until a text is free changes no database where looking at a text changes none, and what
is drawn is chosen where looking at it tells whether it is. -/
theorem ends_drawWhere {length : Nat} {isFree : String → Operation Bool} (chosen : String → Prop)
    (looks : ∀ drawn middle, middle.saved = session.saved → middle.current = session.current →
      (isFree drawn).Ends context middle
        (fun free final => final.saved = session.saved ∧ final.current = session.current ∧
          (free = true → chosen drawn))
        (fun _ final => final.saved = session.saved))
    (attempts : Nat) {start : Session} (saved : start.saved = session.saved)
    (current : start.current = session.current) :
    (drawWhere length isFree attempts).Ends context start
      (fun drawn final =>
        final.saved = session.saved ∧ final.current = session.current ∧ chosen drawn)
      (fun _ final => final.saved = session.saved) := by
  induction attempts generalizing start with
  | zero => exact saved
  | succ attempts ih =>
      simp only [drawWhere, ends_bind, ends_drawText, ends_ite, ends_pure]
      refine (looks (start.draws.text length).1
        { start with draws := (start.draws.text length).2 } saved current).imp ?_
        (fun _ _ failed => failed)
      rintro free final ⟨finalSaved, finalCurrent, isChosen⟩
      exact ⟨fun free => ⟨finalSaved, finalCurrent, isChosen free⟩,
        fun _ => ih finalSaved finalCurrent⟩

/-- Where looking at a text tells exactly whether it is free, and does nothing else, the text that
is drawn is the first free one of the supply. Where there is none in so many attempts the drawing
is given up, unless a look has failed before. -/
theorem ends_drawWhere_first {length : Nat} {isFree : String → Operation Bool} {start : Session}
    (free : String → Prop) (failed : Failure → Prop)
    (looks : ∀ count text middle, start.draws.textAt length count = text →
      start.HasDrawn length (count + 1) middle →
      (isFree text).Ends context middle
        (fun answer final =>
          start.HasDrawn length (count + 1) final ∧ (answer = true ↔ free text))
        (fun failure final => failed failure ∧ final.saved = start.saved))
    (attempts : Nat) {count : Nat} {session : Session}
    (hasDrawn : start.HasDrawn length count session)
    (passed : ∀ place < count, ¬free (start.draws.textAt length place)) :
    (drawWhere length isFree attempts).Ends context session
      (fun text final => (∃ after, start.HasDrawn length after final) ∧
        ∃ place < count + attempts, start.draws.textAt length place = text ∧ free text ∧
          ∀ earlier < place, ¬free (start.draws.textAt length earlier))
      (fun failure final => final.saved = start.saved ∧
        (failed failure ∨ failure = .drawsExhausted ∧
          ∀ place < count + attempts, ¬free (start.draws.textAt length place))) := by
  -- The texts that have been passed over so far are not free.
  induction attempts generalizing count session with
  | zero => exact ⟨hasDrawn.saved, .inr ⟨rfl, passed⟩⟩
  | succ attempts ih =>
      simp only [drawWhere, ends_bind, ends_drawText, ends_ite, ends_pure, hasDrawn.text]
      refine (looks count _ _ rfl hasDrawn.succ).imp ?_ fun _ _ hasFailed =>
        ⟨hasFailed.2, .inl hasFailed.1⟩
      rintro answer final ⟨looked, tells⟩
      constructor
      · intro isFree
        exact ⟨⟨count + 1, looked⟩, count, by omega, rfl, tells.mp isFree, passed⟩
      · intro taken
        have next : ∀ place < count + 1, ¬free (start.draws.textAt length place) := by
          intro place before
          rcases Nat.lt_succ_iff_lt_or_eq.mp before with earlier | rfl
          · exact passed place earlier
          · exact mt tells.mpr taken
        have later := ih looked next
        rwa [Nat.add_right_comm] at later

/-- An operation that answers has an effect on the current database; nothing is saved. -/
def Prepares (operation : Operation α) (context : Context)
    (effect : Database → α → Database → Prop) : Prop :=
  ∀ session, operation.Ends context session
    (fun answer final => final.saved = session.saved ∧ effect session.current answer final.current)
    (fun _ final => final.saved = session.saved)

/-- A run ends in an effect of its own on the database that it started with, where what was
saved before is still what is saved. -/
theorem Prepares.ends {operation : Operation α} {effect : Database → α → Database → Prop}
    (prepares : operation.Prepares context effect) {database : Database}
    (saved : session.saved = database)
    (answered : ∀ answer final, final.saved = database →
      effect session.current answer final.current → answers answer final) :
    operation.Ends context session answers (fun _ final => final.saved = database) := by
  refine (prepares session).imp ?_ (fun _ _ kept => kept.trans saved)
  rintro answer final ⟨kept, effective⟩
  exact answered answer final (kept.trans saved) effective

/-- In a session of its own an operation that answers has an effect on the database, and one
that fails has none. -/
def Achieves (operation : Operation α) (context : Context) (database : Database)
    (effect : α → Database → Prop) : Prop :=
  ∀ draws, operation.Ends context { saved := database, current := database, draws }
    (fun answer final => effect answer final.saved) (fun _ final => final.saved = database)

/-- That another failure takes the place of some says nothing about what is prepared. -/
theorem Prepares.orFail {operation : Operation α} {effect : Database → α → Database → Prop}
    (prepares : operation.Prepares context effect) (failure : Failure) :
    (Operation.orFail failure operation).Prepares context effect := by
  intro session
  rw [ends_orFail]
  refine (prepares session).imp (fun _ _ effective => effective) ?_
  exact fun cause final saved => ⟨fun _ _ _ => saved, fun _ => saved⟩

/-- What an operation has prepared is there after a commit. -/
theorem Prepares.committed {operation : Operation α} {database : Database}
    {effect : Database → α → Database → Prop} (prepares : operation.Prepares context effect) :
    (do let answer ← operation; commit; return answer).Achieves context database
      (effect database) := by
  intro draws
  simp only [ends_bind, ends_commit, ends_pure]
  exact prepares.ends rfl fun answer final _ effective => effective

/-- What is left of an operation tells how its run ended. -/
theorem Ends.outcome {operation : Operation α} {database : Database} {draws : Draws}
    (ends : operation.Ends context { saved := database, current := database, draws }
      answers fails) :
    (∃ answer final, answers answer final ∧
      (operation.perform context database draws).answer = .ok answer ∧
      (operation.perform context database draws).database = final.saved) ∨
    (∃ failure final, fails failure final ∧
      (operation.perform context database draws).answer = .error failure ∧
      (operation.perform context database draws).database = final.saved) := by
  unfold Ends at ends
  unfold Operation.perform EStateM.run
  cases result : operation context { saved := database, current := database, draws } with
  | ok answer final =>
      rw [result] at ends
      exact .inl ⟨answer, final, ends, rfl, rfl⟩
  | error failure final =>
      rw [result] at ends
      exact .inr ⟨failure, final, ends, rfl, rfl⟩

/-- An operation that answers has ended as its answers do. -/
theorem Ends.of_answer {operation : Operation α} {database : Database} {draws : Draws} {answer : α}
    (ends : operation.Ends context { saved := database, current := database, draws } answers fails)
    (answered : (operation.perform context database draws).answer = .ok answer) :
    ∃ final, answers answer final ∧
      (operation.perform context database draws).database = final.saved := by
  rcases ends.outcome with ⟨given, final, holds, isGiven, same⟩ | ⟨_, _, _, failed, _⟩
  · rw [isGiven] at answered
    cases answered
    exact ⟨final, holds, same⟩
  · rw [failed] at answered
    cases answered

/-- What holds of the saved database however an operation ends holds of what is left of it. -/
theorem Ends.perform {operation : Operation α} {database : Database} {draws : Draws}
    (kept : Database → Prop)
    (ends : operation.Ends context { saved := database, current := database, draws }
      (fun _ final => kept final.saved) (fun _ final => kept final.saved)) :
    kept (operation.perform context database draws).database := by
  rcases ends.outcome with ⟨_, _, holds, _, same⟩ | ⟨_, _, holds, _, same⟩
  all_goals rwa [same]

/-- What a run can only end in is its answer. -/
theorem Ends.answer_perform {operation : Operation α} {database : Database} {draws : Draws}
    (expected : Except Failure α)
    (ends : operation.Ends context { saved := database, current := database, draws }
      (fun answer _ => expected = .ok answer) (fun failure _ => expected = .error failure)) :
    (operation.perform context database draws).answer = expected := by
  rcases ends.outcome with ⟨_, _, isAnswer, answered, _⟩ | ⟨_, _, isFailure, failed, _⟩
  · rw [answered, isAnswer]
  · rw [failed, isFailure]

/-- What is left of an operation that answers shows its effect. -/
theorem Achieves.of_answer {operation : Operation α} {database : Database} {draws : Draws}
    {effect : α → Database → Prop} {answer : α}
    (achieves : operation.Achieves context database effect)
    (answered : (operation.perform context database draws).answer = .ok answer) :
    effect answer (operation.perform context database draws).database := by
  obtain ⟨final, effective, same⟩ := (achieves draws).of_answer answered
  rwa [same]

/-- An operation that fails leaves the database as it was. -/
theorem Achieves.of_failure {operation : Operation α} {database : Database} {draws : Draws}
    {effect : α → Database → Prop} {failure : Failure}
    (achieves : operation.Achieves context database effect)
    (failed : (operation.perform context database draws).answer = .error failure) :
    (operation.perform context database draws).database = database := by
  rcases (achieves draws).outcome with ⟨_, _, _, answered, _⟩ | ⟨_, _, saved, _, same⟩
  · rw [answered] at failed
    cases failed
  · exact same.trans saved

end Operation

/-- An outcome whose answer is known has answered it. -/
theorem Outcome.answer_eq_ok {α : Type} {outcome : Outcome α} {answer : α}
    (known : outcome.answer.toOption = some answer) : outcome.answer = .ok answer := by
  cases told : outcome.answer with
  | ok given =>
      rw [told] at known
      exact congrArg Except.ok (Option.some.inj known)
  | error failure =>
      rw [told] at known
      cases known

end Lookout
