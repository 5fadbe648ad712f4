import Lookout.Proofs.Acceptance

/-!
# Fresh invites

Invite ids are drawn until there are enough that are new, whatever the supply of randomness gives:
the ids are the first different texts that it gives and that no invite has. `Invite.newTexts` says
so as a function of how many texts have been drawn, and one turn of the drawing is one step of it.
Ids that are new to the table and different from each other are then added without a refusal.
-/

namespace Lookout

open Operation Store
open Schema (Column Revision TableName)
open Time (Moment Stamp WallTime)

variable {context : Context} {database : Database} {draws : Draws}

/-- A date of the calendar has a date so many days later unless that leaves the years. -/
theorem Time.Moment.addDays_eq_ok {moment : Moment} {days : Int}
    (starts : 0 ≤ (moment.wall.micros : Int) + days * microsPerDay)
    (ends : (moment.wall.micros : Int) + days * microsPerDay < wallLimit)
    (calendar : moment.wall.micros < wallLimit) :
    moment.addDays days =
      .ok { moment with wall := ⟨((moment.wall.micros : Int) + days * microsPerDay).toNat⟩ } := by
  have day : microsPerDay = 86400000000 := rfl
  have limit : wallLimit = 315537897600000000 := by decide +kernel
  have span : maxSpanDays = 999999999 := rfl
  have shifted : moment.wall.shift? (days * microsPerDay) =
      some ⟨((moment.wall.micros : Int) + days * microsPerDay).toNat⟩ := if_pos ⟨starts, ends⟩
  rw [day] at starts ends
  rw [limit] at ends calendar
  have word : ¬(days < -2147483648 ∨ 2147483647 < days) := by omega
  have few : ¬(maxSpanDays : Int) < days.natAbs := by omega
  rw [addDays, if_neg word, if_neg few, shifted]

/-- There is no such date where that leaves the years. -/
theorem Time.Moment.addDays_eq_error {moment : Moment} {days : Int}
    (beyond : (moment.wall.micros : Int) + days * microsPerDay < 0 ∨
      (wallLimit : Int) ≤ moment.wall.micros + days * microsPerDay) :
    ∃ error, moment.addDays days = .error error := by
  have outside : moment.wall.shift? (days * microsPerDay) = none := if_neg (by omega)
  unfold addDays
  split
  · exact ⟨_, rfl⟩
  · split
    · exact ⟨_, rfl⟩
    · rw [outside]
      exact ⟨_, rfl⟩

namespace Invite

/-- Whether no invite has an id. -/
def isNew (table : Table Invite) (text : String) : Bool :=
  (table.find? fun entry => some entry.row.inviteId = some text).isNone

theorem isNew_iff {table : Table Invite} {text : String} :
    isNew table text = true ↔ ∀ entry ∈ table.entries, entry.row.inviteId ≠ text := by
  simp [isNew, Table.find?]

/-- The different texts that no invite has, of the first so many that a supply gives. -/
def newTexts (table : Table Invite) (draws : Draws) (count : Nat) : List String :=
  (((List.range count).map (draws.textAt Settings.inviteIdLength)).filter (isNew table)).eraseDups

variable {table : Table Invite}

@[simp] theorem newTexts_zero : newTexts table draws 0 = [] := rfl

theorem mem_newTexts {count : Nat} {text : String} :
    text ∈ newTexts table draws count ↔
      (∃ place < count, draws.textAt Settings.inviteIdLength place = text) ∧
        isNew table text = true := by
  simp [newTexts, List.mem_eraseDups]

/-- The different members of a list that has one more at its end. -/
theorem eraseDups_concat (texts : List String) (text : String) :
    (texts ++ [text]).eraseDups =
      if text ∈ texts then texts.eraseDups else texts.eraseDups ++ [text] := by
  rw [List.eraseDups_append]
  by_cases known : text ∈ texts <;> simp [List.removeAll, known, List.eraseDups_cons]

/-- The next text is one more new one unless an invite has it or it has been drawn before. -/
theorem newTexts_succ (count : Nat) :
    newTexts table draws (count + 1) =
      if isNew table (draws.textAt Settings.inviteIdLength count) ∧
          draws.textAt Settings.inviteIdLength count ∉ newTexts table draws count then
        newTexts table draws count ++ [draws.textAt Settings.inviteIdLength count]
      else newTexts table draws count := by
  generalize given : draws.textAt Settings.inviteIdLength count = text
  let earlier :=
    ((List.range count).map (draws.textAt Settings.inviteIdLength)).filter (isNew table)
  have known : text ∈ newTexts table draws count ↔ text ∈ earlier := List.mem_eraseDups
  have next : newTexts table draws (count + 1) =
      (earlier ++ List.filter (isNew table) [text]).eraseDups := by
    simp only [newTexts, List.range_succ, List.map_append, List.map_singleton, List.filter_append,
      given, earlier]
  by_cases new : isNew table text = true
  · rw [next, List.filter_cons_of_pos new, List.filter_nil, eraseDups_concat]
    simp only [new, known, true_and, ite_not]
    rfl
  · rw [next, List.filter_cons_of_neg new, List.filter_nil, List.append_nil,
      if_neg fun free => new free.1]
    rfl

theorem nodup_newTexts (count : Nat) : (newTexts table draws count).Nodup := by
  induction count with
  | zero => exact List.nodup_nil
  | succ count ih =>
      rw [newTexts_succ]
      split
      · next free =>
        exact ih.append (List.nodup_singleton _) (List.disjoint_singleton.mpr free.2)
      · exact ih

/-- A session in which so many invite ids have been drawn and nothing else has been done. -/
abbrev HasDrawn (database : Database) (draws : Draws) (count : Nat) (session : Session) : Prop :=
  Session.HasDrawn { saved := database, current := database, draws } Settings.inviteIdLength count
    session

/-- Looking whether a text is free tells whether it is new and not among the drawn ones. -/
theorem ends_isFree {session : Session} {answers : Bool → Session → Prop}
    {fails : Failure → Session → Prop} (newest : database.IsNewest)
    (current : session.current = database) (drawn : List String) (text : String) :
    (do if drawn.contains text then return false
        else return (← lookup (some text)).isNone : Operation Bool).Ends context session answers
        fails ↔
      answers (decide (isNew database.invites text ∧ text ∉ drawn)) session := by
  have present : session.current.missing? [.invites] = none := by
    rw [current]
    exact newest.missing?_eq_none _
  have found : (Relation.read session.current : Table Invite) = database.invites := by
    rw [current]
    rfl
  by_cases seen : text ∈ drawn
  · simp [seen]
  · simp [seen, lookup, present, found, isNew, -Option.isNone_iff_eq_none]

/-- The drawing of one id ends with the next new text, or in so many attempts there is none. -/
theorem ends_drawWhere_newTexts (newest : database.IsNewest) (attempts : Nat) {count : Nat}
    {session : Session} (hasDrawn : HasDrawn database draws count session) :
    (drawWhere Settings.inviteIdLength (fun text => do
        if (newTexts database.invites draws count).contains text then return false
        else return (← lookup (some text)).isNone) attempts).Ends context session
      (fun inviteId final => ∃ after, HasDrawn database draws after final ∧
        newTexts database.invites draws after =
          newTexts database.invites draws count ++ [inviteId])
      (fun failure final => failure = .drawsExhausted ∧ final.saved = database ∧
        newTexts database.invites draws (count + attempts) =
          newTexts database.invites draws count) := by
  generalize collected : newTexts database.invites draws count = ids
  -- The texts that are passed over leave the list of the new ones as it is.
  induction attempts generalizing count session with
  | zero => exact ⟨rfl, hasDrawn.saved, collected⟩
  | succ attempts ih =>
      simp only [drawWhere, ends_bind, ends_drawText]
      rw [ends_isFree newest hasDrawn.succ.current, hasDrawn.text]
      simp only [ends_ite, ends_pure, decide_eq_true_eq]
      have grown : newTexts database.invites draws (count + 1) = _ := newTexts_succ count
      rw [collected] at grown
      constructor
      · intro free
        rw [if_pos free] at grown
        exact ⟨count + 1, hasDrawn.succ, grown⟩
      · intro taken
        rw [if_neg taken] at grown
        refine (ih hasDrawn.succ grown).imp (fun _ _ known => known) ?_
        rintro failure final ⟨isFailure, saved, same⟩
        exact ⟨isFailure, saved, by rwa [Nat.add_right_comm] at same⟩

/-- The drawing of ids ends with as many new texts as are asked for, or after too few of them there
is no further one in so many attempts. -/
theorem ends_drawIds (newest : database.IsNewest) (amount : Nat) {count : Nat} {session : Session}
    (hasDrawn : HasDrawn database draws count session) :
    (drawIds (newTexts database.invites draws count) amount).Ends context session
      (fun ids final => ∃ after, HasDrawn database draws after final ∧
        ids = newTexts database.invites draws after ∧
        ids.length = (newTexts database.invites draws count).length + amount)
      (fun failure final => failure = .drawsExhausted ∧ final.saved = database ∧ ∃ stuck,
        (newTexts database.invites draws stuck).length <
            (newTexts database.invites draws count).length + amount ∧
          newTexts database.invites draws (stuck + draws.attempts) =
            newTexts database.invites draws stuck) := by
  induction amount generalizing count session with
  | zero => exact ⟨count, hasDrawn, rfl, rfl⟩
  | succ amount ih =>
      have attempts : session.draws.attempts = draws.attempts := by
        rw [hasDrawn.draws, Draws.attempts_drawn]
      simp only [drawIds, drawFree, ends_bind, ends_get]
      rw [attempts]
      refine (ends_drawWhere_newTexts newest draws.attempts hasDrawn).imp ?_ ?_
      · rintro inviteId middle ⟨after, hasDrawn, grown⟩
        rw [← grown]
        have more : (newTexts database.invites draws after).length + amount =
            (newTexts database.invites draws count).length + (amount + 1) := by
          rw [grown, List.length_append, List.length_singleton]
          omega
        rw [← more]
        exact ih hasDrawn
      · rintro failure final ⟨isFailure, saved, stands⟩
        exact ⟨isFailure, saved, count, by omega, stands⟩

/-- An invite under a new id is taken by the store. -/
theorem admitted_of_isNew
    (only : ∀ columns ∈ database.catalog.uniqueKeys .invites, columns = [.inviteId])
    {invite : Invite} (new : isNew database.invites invite.inviteId = true) :
    database.refusal? invite = none := by
  refine Database.admitted_of_absent only ?_ fun _ isKey => absurd isKey List.not_mem_nil
  refine List.find?_eq_none.mpr fun entry stored alike => isNew_iff.mp new entry stored ?_
  have same : Cell.text invite.inviteId = .text entry.row.inviteId :=
    Relation.cell_eq_of_alike alike List.mem_cons_self
  exact (Cell.text.inj same).symm

/-- Invites under different new ids are all added, and nothing refuses them. -/
theorem ends_addAll {before : Database} {session : Session} {ids : List String}
    (only : ∀ columns ∈ before.catalog.uniqueKeys .invites, columns = [.inviteId])
    (nodup : ids.Nodup) (new : ∀ id ∈ ids, isNew before.invites id = true)
    (current : session.current = before) (expiresOn : Moment) :
    (addAll expiresOn ids).Ends context session
      (fun _ final => before.AddsAll (ids.map (fresh context expiresOn.wall)) final.current)
      (fun _ _ => False) := by
  induction ids generalizing before session with
  | nil => exact current ▸ .nil _
  | cons id rest ih =>
      have admitted : before.refusal? (fresh context expiresOn.wall id) = none :=
        admitted_of_isNew only (new id List.mem_cons_self)
      simp only [addAll, ends_bind, ends_stamp, ends_add, current]
      refine ⟨fun error refused => ?_, fun _ => ?_⟩
      · cases admitted.symm.trans refused
      · have apart := List.nodup_cons.mp nodup
        let after := before.added (fresh context expiresOn.wall id)
        have still : ∀ columns ∈ after.catalog.uniqueKeys .invites, columns = [.inviteId] := only
        have others : ∀ other ∈ rest, isNew after.invites other = true := by
          intro other isOther
          refine isNew_iff.mpr fun entry stored => ?_
          rcases List.mem_append.mp stored with earlier | isAdded
          · exact isNew_iff.mp (new other (List.mem_cons_of_mem _ isOther)) entry earlier
          · cases List.mem_singleton.mp isAdded
            rintro rfl
            exact apart.1 isOther
        exact (ih still apart.2 others rfl).imp (fun _ _ rest => .cons admitted rest)
          fun _ _ never => never

/-- Adding invites touches no other table. -/
theorem eq_of_addsAll {before after : Database} {rows : List Invite}
    (adds : before.AddsAll rows after) : after = { before with invites := after.invites } := by
  induction adds with
  | nil database => rfl
  | cons admitted rest ih => exact ih.trans rfl

/-- Invites have been made under the new ids of a supply: they are the different texts, in order,
of the first ones that it gives, and they stand at the end of the table. -/
structure Made (context : Context) (draws : Draws) (expiresOn : WallTime) (before : Database)
    (ids : List String) (after : Database) : Prop where
  fromSupply : ∃ count, ids = newTexts before.invites draws count
  distinct : ids.Nodup
  shaped : ∀ id ∈ ids, id.length = 256 ∧ id.toList.all Char.isAlphanum = true
  unused : ∀ id ∈ ids, ∀ entry ∈ before.invites.entries, entry.row.inviteId ≠ id
  elsewhere : after = { before with invites := after.invites }
  stored : ∃ new : List (Entry Invite), after.invites.entries = before.invites.entries ++ new ∧
    new.map (·.row) = ids.map fun inviteId =>
      { inviteId, expiresOn, acceptedOn := none, createdOn := Stamp.ofClock context.clock }

namespace Made

variable {expiresOn : WallTime} {before after : Database} {ids : List String}

/-- Every id that is answered can be accepted until its invite expires. -/
theorem isOpenAt (made : Made context draws expiresOn before ids after) {id : String}
    (answered : id ∈ ids) {date : Moment} (ahead : date.wall < expiresOn) :
    ∃ entry, IsOpenAt after (some id) date entry := by
  obtain ⟨new, entries, rows⟩ := made.stored
  have isRow : fresh context expiresOn id ∈ new.map (·.row) := by
    rw [rows]
    exact List.mem_map_of_mem answered
  obtain ⟨entry, isNew, isFresh⟩ := List.mem_map.mp isRow
  refine ⟨entry, ?_, ?_, ?_, ?_⟩
  · rw [entries]
    exact List.mem_append_right _ isNew
  · rw [isFresh]
    rfl
  · rw [isFresh]
    rfl
  · rw [isFresh]
    exact ahead

/-- Every invite that has come was answered. -/
theorem mem_or_answered (made : Made context draws expiresOn before ids after)
    {entry : Entry Invite} (stored : entry ∈ after.invites.entries) :
    entry ∈ before.invites.entries ∨ entry.row.inviteId ∈ ids := by
  obtain ⟨new, entries, rows⟩ := made.stored
  rw [entries] at stored
  refine (List.mem_append.mp stored).imp_right fun isNew => ?_
  have isRow := List.mem_map_of_mem isNew (f := (·.row))
  rw [rows] at isRow
  obtain ⟨id, answered, same⟩ := List.mem_map.mp isRow
  exact same ▸ answered

end Made

/-- What is made under the new texts of a supply is made as it has to be. -/
theorem made_of_addsAll {context : Context} {expiresOn : WallTime} {before after : Database}
    {count : Nat} (adds : before.AddsAll
      ((newTexts before.invites draws count).map (fresh context expiresOn)) after) :
    Made context draws expiresOn before (newTexts before.invites draws count) after where
  fromSupply := ⟨count, rfl⟩
  distinct := nodup_newTexts count
  shaped := by
    intro id isNew
    obtain ⟨place, -, rfl⟩ := (mem_newTexts.mp isNew).1
    have isDrawn := draws.isDrawn_textAt Settings.inviteIdLength place
    exact ⟨isDrawn.1, isDrawn.isAlphanum⟩
  unused := fun _ isNew => isNew_iff.mp (mem_newTexts.mp isNew).2
  elsewhere := eq_of_addsAll adds
  stored := by
    obtain ⟨new, rows, entries⟩ := adds.entries
    exact ⟨new, entries, rows⟩

/-- How a run that is asked for an admissible number of invites ends: they are made, or so many
attempts in a row give no new text. -/
theorem ends_generate (newest : database.IsNewest) (draws : Draws) {amount : Int}
    {date : Option Moment} {expiresOn : Moment} (positive : 0 ≤ amount) (few : amount ≤ 255)
    (lasts : (context.moment date).addDays context.settings.inviteDays = .ok expiresOn) :
    (generate (some amount) date).Ends context { saved := database, current := database, draws }
      (fun ids final => (ids.length : Int) = amount ∧
        Made context draws expiresOn.wall database ids final.saved)
      (fun failure final => failure = .drawsExhausted ∧ final.saved = database ∧ ∃ stuck,
        ((newTexts database.invites draws stuck).length : Int) < amount ∧
          newTexts database.invites draws (stuck + draws.attempts) =
            newTexts database.invites draws stuck) := by
  have admissible : ¬(amount < 0 ∨ (Settings.invitesMax : Int) < amount) := by
    have most : Settings.invitesMax = 255 := rfl
    omega
  have begun : HasDrawn database draws 0 { saved := database, current := database, draws } :=
    .refl _ _
  have later : later (date.getD (Moment.utc context.clock)) context.settings.inviteDays =
      pure expiresOn := by
    unfold later
    rw [show date.getD (Moment.utc context.clock) = context.moment date from rfl, lasts]
  simp only [generate, ends_bind, ends_ite, ends_throw, ends_now, ends_read, ends_commit, ends_log,
    ends_pure, admissible, false_implies, not_false_eq_true, forall_const, true_and, later]
  refine (ends_drawIds newest amount.toNat begun).imp ?_ ?_
  · rintro _ middle ⟨count, hasDrawn, rfl, length⟩
    refine (ends_addAll (newest.only_key (by decide)) (nodup_newTexts count)
      (fun _ isNew => (mem_newTexts.mp isNew).2) hasDrawn.current expiresOn).imp ?_
      fun _ _ never => never.elim
    rintro _ final adds
    rw [newTexts_zero, List.length_nil] at length
    exact ⟨by omega, made_of_addsAll adds⟩
  · rintro failure final ⟨isFailure, saved, stuck, short, stands⟩
    rw [newTexts_zero, List.length_nil] at short
    exact ⟨isFailure, saved, stuck, by omega, stands⟩

/-- Where no date is so many days ahead, or too few or too many invites are asked for, the run fails
before anything is done. -/
theorem generate_refused (context : Context) (database : Database) (draws : Draws) {amount : Int}
    {date : Option Moment} {failure : Failure}
    (refused : (amount < 0 ∨ 255 < amount) ∧ failure = .inviteAmount amount ∨
      0 ≤ amount ∧ amount ≤ 255 ∧ ∃ error, failure = .span error ∧
        (context.moment date).addDays context.settings.inviteDays = .error error) :
    ((generate (some amount) date).perform context database draws).answer = .error failure ∧
      ((generate (some amount) date).perform context database draws).database = database := by
  have most : (Settings.invitesMax : Int) = 255 := rfl
  have failed : (generate (some amount) date).Ends context
      { saved := database, current := database, draws } (fun _ _ => False)
      (fun cause final => cause = failure ∧ final.saved = database) := by
    rcases refused with ⟨outside, rfl⟩ | ⟨positive, few, error, rfl, unreckoned⟩
    · simp [generate, most, outside]
    · have admissible : ¬(amount < 0 ∨ 255 < amount) := by omega
      have unreached : later (date.getD (Moment.utc context.clock)) context.settings.inviteDays =
          throw (.span error) := by
        unfold later
        rw [show date.getD (Moment.utc context.clock) = context.moment date from rfl, unreckoned]
      simp [generate, most, admissible, unreached]
  rcases failed.outcome with ⟨_, _, never, -⟩ | ⟨_, _, ⟨rfl, saved⟩, answered, same⟩
  · exact never.elim
  · exact ⟨answered, same.trans saved⟩

/-- Invites are made exactly as they are said to be. A number out of bounds and an expiry outside
the calendar are errors that leave everything as it is. Otherwise as many invites are made as are
asked for, each id can be accepted until its invite expires, and no invite has come that is not
answered. Only where a supply gives no new text in as many draws in a row as are attempted there is
no answer, and nothing changes. -/
theorem generate_exactly (reached : database.Reached)
    (position : database.position = some .invites) (amount : Int) (date : Option Moment)
    (context : Context) (draws : Draws)
    (calendar : (context.moment date).wall.micros < Time.wallLimit) :
    let outcome := (generate (some amount) date).perform context database draws
    let expiry : Int :=
      (context.moment date).wall.micros + context.settings.inviteDays * Time.microsPerDay
    (amount < 0 ∨ 255 < amount → outcome.answer = .error (.inviteAmount amount) ∧
      (Failure.inviteAmount amount).kind = .value ∧ outcome.database = database) ∧
    (0 ≤ amount → amount ≤ 255 → expiry < 0 ∨ Time.wallLimit ≤ expiry →
      (∃ failure, outcome.answer = .error failure ∧ failure.kind = .overflow) ∧
        outcome.database = database) ∧
    (0 ≤ amount → amount ≤ 255 → 0 ≤ expiry → expiry < Time.wallLimit →
      (∃ ids, outcome.answer = .ok ids ∧ (ids.length : Int) = amount ∧
        Made context draws ⟨expiry.toNat⟩ database ids outcome.database ∧
        (∀ id ∈ ids, ∀ date : Moment, date.wall < ⟨expiry.toNat⟩ →
          ∃ entry, IsOpenAt outcome.database (some id) date entry) ∧
        ∀ entry ∈ outcome.database.invites.entries,
          entry ∈ database.invites.entries ∨ entry.row.inviteId ∈ ids) ∨
      (outcome.answer = .error .drawsExhausted ∧ outcome.database = database ∧
        ∃ stuck, ((newTexts database.invites draws stuck).length : Int) < amount ∧
          newTexts database.invites draws (stuck + draws.attempts) =
            newTexts database.invites draws stuck)) := by
  intro outcome expiry
  have newest := reached.isNewest position
  refine ⟨fun outside => ?_, fun positive few beyond => ?_, fun positive few starts ends => ?_⟩
  · obtain ⟨failed, same⟩ := generate_refused context database draws (.inl ⟨outside, rfl⟩)
    exact ⟨failed, rfl, same⟩
  · obtain ⟨error, unreckoned⟩ := Moment.addDays_eq_error beyond
    obtain ⟨failed, same⟩ := generate_refused context database draws
      (.inr ⟨positive, few, error, rfl, unreckoned⟩)
    exact ⟨⟨_, failed, rfl⟩, same⟩
  · have lasts := Moment.addDays_eq_ok starts ends calendar
    rcases (ends_generate newest draws positive few lasts).outcome with
      ⟨ids, final, ⟨length, made⟩, answered, same⟩ |
      ⟨failure, final, ⟨isFailure, saved, stuck⟩, failed, same⟩
    · rw [← same] at made
      exact .inl ⟨ids, answered, length, made, fun _ isOne _ ahead => made.isOpenAt isOne ahead,
        fun _ stored => made.mem_or_answered stored⟩
    · rw [isFailure] at failed
      exact .inr ⟨failed, same.trans saved, stuck⟩

/-- Where the first text of a supply is the id of an invite, the second one is made an invite. -/
theorem generate_exactly_again :
    ∃ ids, ((generate (some 1) none).perform making.context made { attempts := 2 }).answer =
        .ok ids ∧ ids.length = 1 ∧
      Made making.context { attempts := 2 } ⟨86400000000⟩ made ids
        ((generate (some 1) none).perform making.context made { attempts := 2 }).database := by
  have reached : made.Reached := (Database.Reached.founded .invites ⟨⟨0⟩, true⟩).served making
  have position : made.position = some .invites := by
    rw [made, (making.schema_outcome _).2]
    rfl
  have calendar : (making.context.moment none).wall.micros < Time.wallLimit := by decide +kernel
  obtain ⟨-, -, makes⟩ :=
    generate_exactly reached position 1 none making.context { attempts := 2 } calendar
  rcases makes (by decide) (by decide) (by decide) (by decide +kernel) with
    ⟨ids, answered, length, isMade, -⟩ | ⟨-, -, stuck, few, same⟩
  · exact ⟨ids, answered, by exact_mod_cast length, isMade⟩
  · let second := ({ attempts := 2 } : Draws).textAt Settings.inviteIdLength 1
    have fresh : isNew made.invites second = true := by decide +kernel
    have isDrawn : second ∈ newTexts made.invites { attempts := 2 } (stuck + 2) :=
      mem_newTexts.mpr ⟨⟨1, by omega, rfl⟩, fresh⟩
    have nothing : newTexts made.invites { attempts := 2 } stuck = [] :=
      List.eq_nil_of_length_eq_zero (by omega)
    rw [same, nothing] at isDrawn
    cases isDrawn

end Invite

end Lookout
