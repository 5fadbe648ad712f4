import Lookout.Proofs.Newest
import Lookout.Proofs.SchemaChanges

/-!
# Pages of the journal

The journal is read page by page, each page from below the smallest number on the page before it,
while the services go on. New lines come after all others, so what is still to come of the lines
that were there at first is what is below the last page. Each of these lines is on one page, and no
other line is on any.
-/

namespace Lookout

open Operation Store
open Time (Moment)

variable {context : Context} {database : Database} {draws : Draws}

/-- What turns leave of the journal: all its lines, and new ones after them. -/
theorem Turn.journal_outcome (turn : Turn) (database : Database) :
    ∃ new, (turn.outcome database).database.journal.entries = database.journal.entries ++ new := by
  rcases turn.changes database with same | ⟨answer, effective⟩
  · exact ⟨[], by rw [same, List.append_nil]⟩
  · generalize (turn.outcome database).database = after at effective
    by_cases written : .journal ∈ turn.request.writes
    · obtain ⟨request, context, draws⟩ := turn
      cases request with
      | appendLine draft =>
          obtain ⟨line, -, -, -, -, rfl⟩ := effective
          exact ⟨_, Table.entries_add _ _⟩
      | appendLines drafts =>
          obtain ⟨given, lines, -, -, -, -, adds⟩ := effective
          obtain ⟨new, -, same⟩ := adds.entries
          exact ⟨new, same⟩
      | _ => simp [Request.writes] at written
    · have same : database.journal = after.journal := effective.writes.agree written
      exact ⟨[], by rw [same, List.append_nil]⟩

/-- So it is with runs, which leave the schema alone. -/
theorem Database.journal_after (database : Database) (turns : List Turn) :
    (database.after turns).catalog = database.catalog ∧
      ∃ new, (database.after turns).journal.entries = database.journal.entries ++ new := by
  induction turns generalizing database with
  | nil => exact ⟨rfl, [], (List.append_nil _).symm⟩
  | cons turn rest ih =>
      obtain ⟨first, same⟩ := turn.journal_outcome database
      obtain ⟨catalog, later, others⟩ := ih (turn.outcome database).database
      refine ⟨catalog.trans (turn.schema_outcome database).1, first ++ later, ?_⟩
      rw [← List.append_assoc, ← same]
      exact others

namespace Journal

/-- The lines below a number, or all of them, the newest first. -/
def below (database : Database) (bound : Option Int) : List (Entry JournalLine) :=
  (database.journal.select fun entry => bound.all fun id => entry.id < id).reverse

/-- Without a bound these are all lines. -/
theorem below_none (database : Database) :
    below database none = database.journal.entries.reverse := by
  simp [below, Table.select]

/-- A line is below a number if it is in the journal and its number is. -/
theorem mem_below {bound : Option Int} {line : Entry JournalLine} :
    line ∈ below database bound ↔
      line ∈ database.journal.entries ∧ ∀ id ∈ bound, line.id < id := by
  simp [below, Table.select, Option.all_eq_true]

/-- Numbers descend from line to line. -/
theorem pairwise_below (database : Database) (bound : Option Int) :
    (below database bound).Pairwise fun earlier later => later.id < earlier.id :=
  List.pairwise_reverse.mpr (database.journal.ascending.filter _)

/-- Where lines have only been added, the ones below a line that was shown are among those that it
was shown with. -/
theorem below_of_shown {later : Database} {bound : Option Int} {line : Entry JournalLine}
    {new : List (Entry JournalLine)}
    (kept : later.journal.entries = database.journal.entries ++ new)
    (shown : line ∈ below database bound) :
    below later (some line.id) = (below database bound).filter fun entry => entry.id < line.id := by
  obtain ⟨isOld, bounded⟩ := mem_below.mp shown
  have above : ∀ entry ∈ new, ¬ entry.id < line.id := by
    intro entry isNew
    have ascending := later.journal.ascending
    rw [kept, List.pairwise_append] at ascending
    exact Int.not_lt.mpr (Int.le_of_lt (ascending.2.2 line isOld entry isNew))
  have none : (new.filter fun entry => entry.id < line.id) = [] := by
    simpa [List.filter_eq_nil_iff] using above
  simp only [below, Table.select, Option.all_some, kept, List.filter_append, none, List.append_nil,
    ← List.filter_reverse, List.filter_filter]
  refine List.filter_congr fun entry _ => ?_
  cases bound with
  | none => simp
  | some id =>
      have := bounded id rfl
      simp only [Option.all_some, ← Bool.decide_and, decide_eq_decide]
      omega

/-- Of lines with descending numbers, the ones below the smallest number of a front are the rest. -/
theorem filter_below_front {front rest : List (Entry JournalLine)} {last : Entry JournalLine}
    (descending : (front ++ rest).Pairwise fun earlier later => later.id < earlier.id)
    (isLast : last ∈ front) (smallest : ∀ line ∈ front, last.id ≤ line.id) :
    (front ++ rest).filter (fun entry => entry.id < last.id) = rest := by
  have apart := (List.pairwise_append.mp descending).2.2
  rw [List.filter_append, List.filter_eq_nil_iff.mpr, List.filter_eq_self.mpr, List.nil_append]
  · exact fun line inRest => decide_eq_true (apart last isLast line inRest)
  · exact fun line inFront => by simpa using smallest line inFront

/-- The smallest number on a page is that of a line on it. -/
theorem smallest_of_filled {lines : List (Entry JournalLine)} (filled : lines ≠ []) :
    ∃ last ∈ lines, (lines.map (·.id)).min? = some last.id ∧
      ∀ line ∈ lines, last.id ≤ line.id := by
  cases smallest : (lines.map (·.id)).min? with
  | none => exact absurd (List.map_eq_nil_iff.mp (List.min?_eq_none_iff.mp smallest)) filled
  | some id =>
      obtain ⟨shown, least⟩ := List.min?_eq_some_iff.mp smallest
      obtain ⟨last, isLast, rfl⟩ := List.mem_map.mp shown
      exact ⟨last, isLast, rfl, fun line isLine => least _ (List.mem_map_of_mem isLine)⟩

/-- Numbers that the store can keep are answered with the newest lines below the bound. -/
theorem answer_newest {limit bound : Option Int}
    (present : database.catalog.hasTable .journal = true) (storable : limit.all isStorable = true)
    (bounded : bound.all isStorable = true) :
    ((newest limit bound).perform context database draws).answer =
      .ok (limited limit (below database bound)) := by
  refine Ends.answer_perform _ ?_
  simp [newest, Database.missing?, present, storable, bounded]
  rfl

/-- A limit that the store cannot keep is refused. -/
theorem refused_newest {limit : Int} {bound : Option Int}
    (present : database.catalog.hasTable .journal = true) (large : isStorable limit = false) :
    ((newest (some limit) bound).perform context database draws).answer =
      .error (.store .numberTooLarge) := by
  refine Ends.answer_perform _ ?_
  simp [newest, Database.missing?, present, large]

/-- Reading lines leaves the database alone. -/
theorem database_newest (limit bound : Option Int) :
    ((newest limit bound).perform context database draws).database = database := by
  refine Ends.perform (fun after => after = database) ?_
  simp [newest]

/-- Whoever reads the journal page by page: the sizes of the pages, and what surrounds each read
and is asked of the services before the next one. -/
structure Reader where
  size : Nat → Int
  context : Nat → Context
  meanwhile : Nat → List Turn

namespace Reader

variable {reader : Reader} {page : Nat} {bound : Option Int}

/-- What a reader is shown on a page below a number. -/
def read (reader : Reader) (page : Nat) (bound : Option Int) (database : Database) :
    Outcome (List (Entry JournalLine)) :=
  (newest (some (reader.size page)) bound).perform (reader.context page) database {}

/-- The database that a reader finds after a page. -/
def found (reader : Reader) (page : Nat) (bound : Option Int) (database : Database) : Database :=
  (reader.read page bound database).database.after (reader.meanwhile page)

/-- What the services have been asked before a page. -/
def earlier (reader : Reader) (page : Nat) : List Turn :=
  (List.range page).flatMap reader.meanwhile

/-- From a page on a reader is shown these pages, each one below the smallest number on the page
before it, up to the first one that is empty. -/
inductive Reads (reader : Reader) :
    Nat → Option Int → Database → List (List (Entry JournalLine)) → Prop where
  | done {page : Nat} {bound : Option Int} {database : Database}
      (shown : (reader.read page bound database).answer = .ok []) :
      Reads reader page bound database [[]]
  | next {page : Nat} {bound : Option Int} {database : Database}
      {lines : List (Entry JournalLine)} {pages : List (List (Entry JournalLine))}
      (shown : (reader.read page bound database).answer = .ok lines) (filled : lines ≠ [])
      (rest : Reads reader (page + 1) (lines.map (·.id)).min?
        (reader.found page bound database) pages) :
      Reads reader page bound database (lines :: pages)

/-- A reader is shown one sequence of pages. -/
theorem Reads.unique {pages others : List (List (Entry JournalLine))}
    (reads : reader.Reads page bound database pages)
    (likewise : reader.Reads page bound database others) : others = pages := by
  induction reads generalizing others with
  | done shown =>
      cases likewise with
      | done => rfl
      | next again filled => exact absurd (Except.ok.inj (again.symm.trans shown)) filled
  | next shown filled _ ih =>
      cases likewise with
      | done again => exact absurd (Except.ok.inj (shown.symm.trans again)) filled
      | next again _ rest =>
          cases Except.ok.inj (again.symm.trans shown)
          rw [ih rest]

/-- The journal of a database can be read by a reader: it is there, and the numbers of its lines can
be stored, with those of the lines that are added before the last page. Above the largest number
that can be stored new lines are given any numbers that are free. -/
structure HasJournal (reader : Reader) (database : Database) : Prop where
  present : database.catalog.hasTable .journal = true
  numbered : ∀ page ≤ database.journal.entries.length,
    ∀ line ∈ (database.after (reader.earlier page)).journal.entries, isStorable line.id = true

/-- The sizes that a reader asks for are at least one and can be stored. -/
def IsSized (reader : Reader) : Prop :=
  ∀ page, 1 ≤ reader.size page ∧ isStorable (reader.size page) = true

/-- What is to be shown after a page is what that page has left. -/
theorem below_found {lines rest : List (Entry JournalLine)}
    (listed : below database bound = lines ++ rest) (filled : lines ≠ []) :
    below (reader.found page bound database) (lines.map (·.id)).min? = rest := by
  obtain ⟨last, isLast, smallest, least⟩ := smallest_of_filled filled
  obtain ⟨new, kept⟩ := (database.journal_after (reader.meanwhile page)).2
  have shown : last ∈ below database bound := listed ▸ List.mem_append_left _ isLast
  have descending := listed ▸ pairwise_below database bound
  rw [smallest, found, read, database_newest, below_of_shown kept shown, listed]
  exact filter_below_front descending isLast least

/-- A page of a reader who asks for sizes that can be stored is the front of what is below its
bound, and it is empty only where nothing is. -/
theorem answer_read (sized : reader.IsSized) (present : database.catalog.hasTable .journal = true)
    (bounded : bound.all isStorable = true) (page : Nat) :
    ∃ lines rest, (reader.read page bound database).answer = .ok lines ∧
      below database bound = lines ++ rest ∧ (lines = [] → rest = []) := by
  obtain ⟨positive, storable⟩ := sized page
  refine ⟨(below database bound).take (reader.size page).toNat,
    (below database bound).drop (reader.size page).toNat, ?_, (List.take_append_drop _ _).symm, ?_⟩
  · rw [read, answer_newest present (Option.all_some.trans storable) bounded, limited,
      if_neg (by omega)]
  · intro none
    rcases List.take_eq_nil_iff.mp none with zero | nothing
    · omega
    · rw [nothing, List.drop_nil]

/-- From any page on a reader is shown what is below the bound, in no more pages than there are
lines, and an empty one. -/
theorem exists_reads (sized : reader.IsSized) (page : Nat) (bound : Option Int)
    (present : database.catalog.hasTable .journal = true)
    (numbered : ∀ line ∈ below database bound, isStorable line.id = true)
    (bounded : bound.all isStorable = true) :
    ∃ pages, reader.Reads page bound database pages ∧ pages.flatten = below database bound ∧
      pages.length ≤ (below database bound).length + 1 := by
  -- Each page that is not empty leaves fewer lines to come.
  induction remaining : (below database bound).length using Nat.strongRecOn
    generalizing page bound database with
  | ind count ih =>
      obtain ⟨lines, rest, shown, listed, ended⟩ := answer_read sized present bounded page
      by_cases filled : lines = []
      · subst filled
        rw [ended rfl] at listed
        exact ⟨[[]], .done shown, by simp [listed], by simp⟩
      · have left : below (reader.found page bound database) (lines.map (·.id)).min? = rest :=
          below_found listed filled
        obtain ⟨last, isLast, smallest, -⟩ := smallest_of_filled filled
        have positive := List.length_pos_iff.mpr filled
        have length : lines.length + rest.length = count := by
          rw [← remaining, listed, List.length_append]
        have stillPresent :
            (reader.found page bound database).catalog.hasTable .journal = true := by
          rw [found, (Database.journal_after _ _).1, read, database_newest, present]
        obtain ⟨pages, reads, joined, few⟩ := ih rest.length (by omega) (page + 1) _
          stillPresent
          (fun line isLeft => numbered line (listed ▸ List.mem_append_right _ (left ▸ isLeft)))
          (by
            rw [smallest]
            exact numbered last (listed ▸ List.mem_append_left _ isLast))
          (by rw [left])
        refine ⟨lines :: pages, .next shown filled reads, ?_, ?_⟩
        · rw [List.flatten_cons, joined, left, listed]
        · rw [List.length_cons]
          omega

/-- Whoever reads the journal in pages of sizes that can be stored, whatever the services are asked
meanwhile, reaches an empty page after no more pages than there were lines. Joined together, the
pages are the lines that were there at first, each of them once, the newest first. A page of a size
that cannot be stored is refused. -/
theorem pages_cover (reader : Reader) (readable : reader.HasJournal database) :
    (reader.IsSized → ∃ pages, reader.Reads 0 none database pages ∧
      (∀ others, reader.Reads 0 none database others → others = pages) ∧
      pages.length ≤ database.journal.entries.length + 1 ∧
      pages.flatten = database.journal.entries.reverse ∧
      pages.flatten.Pairwise fun earlier later => later.id < earlier.id) ∧
    ∀ page bound, isStorable (reader.size page) = false →
      (reader.read page bound database).answer = .error (.store .numberTooLarge) := by
  refine ⟨fun sized => ?_, fun page bound large => refused_newest readable.present large⟩
  obtain ⟨pages, reads, joined, few⟩ :=
    exists_reads sized 0 none readable.present
      (fun line shown => readable.numbered 0 (Nat.zero_le _) line (mem_below.mp shown).1) rfl
  refine ⟨pages, reads, fun others likewise => reads.unique likewise, ?_, ?_, ?_⟩
  · rwa [below_none, List.length_reverse] at few
  · rw [joined, below_none]
  · rw [joined]
    exact pairwise_below database none

/-- Three lines are read two at a time, while a fourth one is added. -/
theorem pages_cover_three :
    let line (message : String) : Turn :=
      { request := .appendLine ⟨some (Moment.utc ⟨0⟩), none, none, some message⟩
        context := { clock := ⟨0⟩ } }
    let reader : Reader :=
      { size := fun page => if page = 0 then 2 else 1
        context := fun _ => { clock := ⟨0⟩ }
        meanwhile := fun page => if page = 0 then [line "d"] else [] }
    let database := (Database.atRevision .invites ⟨⟨0⟩, true⟩).after [line "a", line "b", line "c"]
    reader.IsSized ∧ reader.HasJournal database ∧ ∃ pages, reader.Reads 0 none database pages ∧
      pages.flatten.map (·.id) = [3, 2, 1] := by
  intro line reader database
  have sized : reader.IsSized := by
    intro page
    dsimp only [reader]
    split <;> decide
  have readable : reader.HasJournal database := ⟨by decide +kernel, by decide +kernel⟩
  obtain ⟨pages, reads, -, -, joined, -⟩ := (pages_cover reader readable).1 sized
  refine ⟨sized, readable, pages, reads, ?_⟩
  rw [joined]
  decide +kernel

/-- Whoever asks for more lines than a number that can be stored is shown none. -/
theorem not_pages_cover_unstorable :
    let reader : Reader :=
      { size := fun _ => Cell.maxInteger + 1
        context := fun _ => { clock := ⟨0⟩ }
        meanwhile := fun _ => [] }
    let line : Turn :=
      { request := .appendLine ⟨some (Moment.utc ⟨0⟩), none, none, some "a"⟩
        context := { clock := ⟨0⟩ } }
    let database := (Database.atRevision .invites ⟨⟨0⟩, true⟩).after [line]
    (∀ page, 1 ≤ reader.size page) ∧ reader.HasJournal database ∧
      ¬ ∃ pages, reader.Reads 0 none database pages := by
  intro reader line database
  have readable : reader.HasJournal database := ⟨by decide +kernel, by decide +kernel⟩
  have refused : (reader.read 0 none database).answer = .error (.store .numberTooLarge) :=
    refused_newest readable.present (by decide)
  have positive : ∀ page, 1 ≤ reader.size page := fun _ => (by decide : 1 ≤ Cell.maxInteger + 1)
  refine ⟨positive, readable, ?_⟩
  rintro ⟨_, shown | shown⟩
  all_goals exact nomatch refused.symm.trans shown

end Reader

end Journal

end Lookout
