import Lookout.Proofs.ScriptRuns
import Mathlib.Data.List.Chain

/-!
# The ledger of scripts

A history of schema changes is carried out in two ways: step by step in a store, or as scripts that
are written first and run later. Done in the store, the ledger lists the revisions up to the
position. The scripts agree with that as long as a history only goes up, or goes down to the empty
schema. They do not remove the lines of what they revert, and so a way up after a way down is
refused, unless the way down has led to the empty schema and the table of the position was dropped
there as well.
-/

namespace Lookout

open Operation Store
open Schema (Catalog Dialect Direction Revision Statement)
open Schema.Script (Ending Leads)
open Time (Stamp)

/-- The name of a position as a target. -/
def Schema.Revision.positionName : Option Revision → String
  | none => "base"
  | some revision => revision.key

namespace Migration

/-- One step of a history: a revision is applied or reverted. -/
structure Step where
  direction : Direction
  revision : Revision
  deriving DecidableEq, Repr

namespace Step

/-- Where a step starts. -/
def start (step : Step) : Option Revision :=
  match step.direction with
  | .upgrade => step.revision.previous?
  | .downgrade => some step.revision

/-- Where a step leads. -/
def goal (step : Step) : Option Revision :=
  match step.direction with
  | .upgrade => some step.revision
  | .downgrade => step.revision.previous?

/-- What a step is called for in a store. -/
def target (step : Step) : String :=
  Revision.positionName step.goal

/-- What a step is called for as a script. -/
def range (step : Step) : String :=
  Revision.positionName step.start ++ ":" ++ step.target

/-- A step is the way to its target. -/
theorem route_target (step : Step) :
    Schema.route step.direction step.start step.target = .ok [step.revision] := by
  obtain ⟨direction, revision⟩ := step
  cases direction <;> cases revision <;> rfl

/-- The script of its range is that of the step. -/
theorem ofTargetWith_range (step : Step) (ending : Ending) (dialect : Dialect) :
    Schema.Script.ofTargetWith ending dialect step.direction (some step.range) =
      .ok (Schema.Script.frame dialect (Schema.Script.ofStep step.direction step.revision ++
        ending.statements step.goal)) := by
  obtain ⟨direction, revision⟩ := step
  cases ending <;> cases dialect <;> cases direction <;> cases revision <;> rfl

theorem isSingle_target (step : Step) : step.target.toList.contains ':' = false := by
  obtain ⟨direction, revision⟩ := step
  cases direction <;> cases revision <;> decide

end Step

/-- Steps, each with its surroundings, from one position to another: each one starts where the one
before has led, so that a way up applies the next revision and a way down reverts the newest one. -/
inductive Legal : Option Revision → List (Context × Step) → Option Revision → Prop where
  | nil (position : Option Revision) : Legal position [] position
  | cons {context : Context} {step : Step} {rest : List (Context × Step)}
      {last : Option Revision} (later : Legal step.goal rest last) :
      Legal step.start ((context, step) :: rest) last

/-- A history carried out in a store, up to the first step that fails. -/
def runOnline (draws : Draws) : List (Context × Step) → Database → Except Failure Database
  | [], database => .ok database
  | (context, step) :: rest, database =>
      let outcome := (guarded step.direction (some step.target)).perform context database draws
      match outcome.answer with
      | .error failure => .error failure
      | .ok () => runOnline draws rest outcome.database

/-- A history whose steps are written as scripts, which are run one after the other up to the first
statement that is refused. -/
def runOffline (ending : Ending) (dialect : Dialect) :
    List (Context × Step) → Database → Except Failure Database
  | [], database => .ok database
  | (context, step) :: rest, database =>
      match Schema.Script.ofTargetWith ending dialect step.direction (some step.range) with
      | .error error => .error (.target error)
      | .ok script =>
          match Statement.executeAll (Stamp.ofClock context.clock) script database with
          | .error error => .error (.store error)
          | .ok after => runOffline ending dialect rest after

/-- A history goes up again after it has gone down only from the empty schema, and only where the
scripts have dropped the table of the position there. -/
def StartsAfresh (ending : Ending) (steps : List (Context × Step)) : Prop :=
  steps.IsChain fun earlier later =>
    earlier.2.direction = .downgrade → later.2.direction = .upgrade →
      ending = .dropsTable ∧ earlier.2.goal = none

variable {context : Context} {session : Session} {database : Database} {revision : Revision}
  {catalog : Catalog} {ledger : Table LedgerLine} {position last : Option Revision}
  {steps : List (Context × Step)} {step : Step}

/-- A store that steps have led to a position: its ledger lists the revisions up to there. -/
structure Kept (position : Option Revision) (database : Database) : Prop where
  reached : database.Reached
  rows : ∃ catalog ledger, database = .rowless catalog position ledger ∧
    Ledger.Lists ledger (Revision.between none position)

theorem kept_empty : Kept none {} :=
  ⟨.empty, {}, .empty, rfl, rfl⟩

/-- Recording a revision that is not listed puts its line into the ledger. -/
theorem noted_eq_put {appliedOn : Stamp} (absent : ledger.has revision.number = false) :
    Ledger.noted appliedOn ledger revision =
      ledger.put revision.number (Ledger.lineOf appliedOn revision).row :=
  if_neg (by simp [absent])

/-- A revision is applied in a store that has been led below it. -/
theorem ends_take_rowless_upgrade
    (current : session.current = .rowless catalog revision.previous? ledger)
    (lists : Ledger.Lists ledger (Revision.between none revision.previous?))
    (orderly : session.current.IsOrderly) (isAt : session.current.IsAt revision.previous?)
    (saved : session.isOpen = false → session.saved = session.current) :
    (take .upgrade revision).Ends context session
      (fun _ final => ∃ catalog ledger, final.current = .rowless catalog (some revision) ledger ∧
        Ledger.Lists ledger (Revision.between none (some revision)))
      (fun _ _ => False) := by
  have ledgerIs : session.current.ledger = ledger := by
    rw [current]
    rfl
  refine (ends_take_upgrade orderly isAt saved).imp ?_ ?_
  · rintro _ final ⟨-, advanced⟩
    refine ⟨final.current.catalog, Ledger.noted (Stamp.ofClock context.clock) ledger revision,
      ?_, ?_⟩
    · rw [advanced.same, current]
      rfl
    · rw [noted_eq_put (lists.has_eq_false Revision.not_mem_between_previous),
        Revision.between_none_some]
      exact lists.put (fun _ listed => Revision.number_lt_of_mem_previous listed) _
  · rintro _ _ ⟨line, stored, drifted⟩
    rw [ledgerIs] at stored
    rw [lists.undrifted stored] at drifted
    cases drifted

/-- A revision is reverted in a store that has been led up to it. -/
theorem ends_take_rowless_downgrade
    (current : session.current = .rowless catalog (some revision) ledger)
    (lists : Ledger.Lists ledger (Revision.between none (some revision)))
    (isAt : session.current.IsAt (some revision))
    (saved : session.isOpen = false → session.saved = session.current) :
    (take .downgrade revision).Ends context session
      (fun _ final => ∃ catalog ledger, final.current = .rowless catalog revision.previous? ledger ∧
        Ledger.Lists ledger (Revision.between none revision.previous?))
      (fun _ _ => False) := by
  have uncrowded : session.current.isCrowded = false := by
    rw [current]
    rfl
  refine (ends_take isAt saved).imp ?_ ?_
  · rintro _ final ⟨-, -, -, reached, alike, same⟩
    let left : Table LedgerLine := if revision.previous?.isNone then .empty else ledger
    have reverts : final.current = .rowless reached revision.previous?
        (if reached.hasTable .ledger then left.erase revision.number else left) := by
      rw [same, current, reverted, Database.remaining_rowless]
      rfl
    refine ⟨_, _, reverts, ?_⟩
    rw [alike.hasTable]
    cases lower : revision.previous? with
    | none =>
        simp only [left, lower]
        rfl
    | some previous =>
        have present : (Catalog.atPosition (some previous)).hasTable .ledger = true := by
          cases previous <;> rfl
        have others := lists
        rw [Revision.between_none_some, lower] at others
        simp only [left, lower, present]
        exact others.erase fun _ listed =>
          Revision.number_lt_of_mem_previous (by rwa [lower])
  · rintro _ _ ⟨-, crowded, -⟩
    rw [uncrowded] at crowded
    cases crowded

/-- A step from the position of a store leads to its goal, and the ledger goes along. -/
theorem Kept.taken (kept : Kept step.start database) (context : Context) (draws : Draws) :
    ((guarded step.direction (some step.target)).perform context database draws).answer = .ok () ∧
      Kept step.goal
        ((guarded step.direction (some step.target)).perform context database draws).database := by
  obtain ⟨start, ledger, same, lists⟩ := kept.rows
  have position : database.position = step.start := by
    rw [same]
    rfl
  have undrifted : ∀ line ∈ database.ledger.entries, Ledger.isDrifted line = false := by
    rw [same]
    exact fun _ stored => lists.undrifted stored
  have ends : (guarded step.direction (some step.target)).Ends context
      { saved := database, current := database, draws }
      (fun _ final => ∃ catalog ledger, final.saved = .rowless catalog step.goal ledger ∧
        Ledger.Lists ledger (Revision.between none step.goal))
      (fun _ _ => False) := by
    simp only [guarded, single, step.isSingle_target, Bool.false_eq_true, if_false, ends_bind,
      ends_pure, ends_commit]
    -- Nothing has drifted, so that the check lets the step pass.
    refine Ledger.ends_verify.imp ?_ ?_
    · rintro _ _ ⟨-, log, rfl⟩
      refine ends_lead kept.reached.isSettled (fun catalog steps isAt orderly routed => ?_)
        fun error final routed => ?_
      · rw [position, step.route_target] at routed
        cases routed
        simp only [takeAll, ends_bind, ends_pure]
        have current : database.under catalog = .rowless catalog step.start ledger := by
          rw [same]
          rfl
        rw [position] at isAt
        obtain ⟨direction, revision⟩ := step
        cases direction with
        | upgrade => exact ends_take_rowless_upgrade current lists orderly isAt fun _ => rfl
        | downgrade => exact ends_take_rowless_downgrade current lists isAt fun _ => rfl
      · rw [position, step.route_target] at routed
        cases routed
    · rintro _ _ ⟨⟨line, found, -⟩, -⟩
      obtain ⟨stored, drifted⟩ := Table.of_find? found
      rw [undrifted line stored] at drifted
      cases drifted
  rcases ends.outcome with ⟨_, final, rows, answered, saved⟩ | ⟨_, _, never, -⟩
  · refine ⟨answered, kept.reached.moved (.guarded answered), ?_⟩
    rwa [saved]
  · exact never.elim

/-- Carried out in a store, a history leads to its end. -/
theorem Kept.runOnline (legal : Legal position steps last) (kept : Kept position database)
    (draws : Draws) : ∃ after, runOnline draws steps database = .ok after ∧ Kept last after := by
  induction legal generalizing database with
  | nil => exact ⟨database, rfl, kept⟩
  | @cons context step rest last later ih =>
      obtain ⟨answered, keeps⟩ := kept.taken context draws
      obtain ⟨after, runs, ends⟩ := ih keeps
      refine ⟨after, ?_, ends⟩
      simp only [Migration.runOnline, answered]
      exact runs

/-- Whether the script of a step leaves something behind that bars the next way up. -/
def Step.bars (ending : Ending) (step : Step) : Bool :=
  step.direction = .downgrade && ending.bars step.goal

/-- Steps that go on where the way up may be barred. -/
def GoesOn (ending : Ending) (barred : Bool) (steps : List (Context × Step)) : Prop :=
  (barred = true → ∀ taken ∈ steps.head?, taken.2.direction = .downgrade) ∧
    StartsAfresh ending steps

variable {ending : Ending} {barred : Bool}

@[simp] theorem Step.bars_upgrade : Step.bars ending ⟨.upgrade, revision⟩ = false := rfl

@[simp] theorem Step.bars_downgrade :
    Step.bars ending ⟨.downgrade, revision⟩ = ending.bars revision.previous? := rfl

theorem goesOn_cons {rest : List (Context × Step)} :
    GoesOn ending barred ((context, step) :: rest) ↔
      (barred = true → step.direction = .downgrade) ∧ GoesOn ending (step.bars ending) rest := by
  have barredBy (later : Step) : (step.direction = .downgrade → later.direction = .upgrade →
      ending = .dropsTable ∧ step.goal = none) ↔
        (step.bars ending = true → later.direction = .downgrade) := by
    simp only [Step.bars, Bool.and_eq_true, decide_eq_true_eq, Ending.bars_eq_true_iff]
    cases later.direction <;> tauto
  unfold GoesOn StartsAfresh
  rw [List.isChain_cons, List.head?_cons]
  simp only [barredBy, Option.mem_def, Option.some.injEq, forall_eq']
  refine and_congr_right fun _ => and_congr_left fun _ => ?_
  exact ⟨fun next bars taken isNext => next taken isNext bars,
    fun next taken isNext bars => next bars taken isNext⟩

/-- Whether the way up is barred after steps. -/
def barredAfter (ending : Ending) (barred : Bool) (steps : List (Context × Step)) : Bool :=
  (steps.getLast?.map fun taken => taken.2.bars ending).getD barred

theorem barredAfter_cons {rest : List (Context × Step)} :
    barredAfter ending barred ((context, step) :: rest) =
      barredAfter ending (step.bars ending) rest := by
  unfold barredAfter
  rw [List.getLast?_cons]
  cases rest.getLast? <;> rfl

/-- The script of a step is that of its changes, and what ends it. -/
theorem runOffline_cons (ending : Ending) (dialect : Dialect) (context : Context) (step : Step)
    (rest : List (Context × Step)) (database : Database) :
    runOffline ending dialect ((context, step) :: rest) database =
      match Statement.executeAll (Stamp.ofClock context.clock)
        (Schema.Script.ofStep step.direction step.revision ++ ending.statements step.goal)
        database with
      | .error error => .error (.store error)
      | .ok after => runOffline ending dialect rest after := by
  simp only [runOffline, step.ofTargetWith_range, Statement.executeAll_frame]

/-- The scripts of a history run through where it starts afresh. -/
theorem runOffline_of_goesOn (legal : Legal position steps last)
    (leads : Leads ending barred position database) (goesOn : GoesOn ending barred steps)
    (dialect : Dialect) :
    ∃ after, runOffline ending dialect steps database = .ok after ∧
      Leads ending (barredAfter ending barred steps) last after := by
  -- By induction on the way, where `Leads` carries what the ledger lists.
  induction legal generalizing database barred with
  | nil => exact ⟨database, rfl, leads⟩
  | @cons context step rest last later ih =>
      obtain ⟨first, others⟩ := goesOn_cons.mp goesOn
      have taken : ∃ after, Statement.executeAll (Stamp.ofClock context.clock)
          (Schema.Script.ofStep step.direction step.revision ++ ending.statements step.goal)
          database = .ok after ∧ Leads ending (step.bars ending) step.goal after := by
        obtain ⟨direction, revision⟩ := step
        cases direction with
        | upgrade =>
            have free : barred = false := by simpa using first
            rw [free] at leads
            rw [Step.goal, Ending.statements_some, List.append_nil]
            exact leads.upgrade _
        | downgrade => exact leads.downgrade _
      obtain ⟨middle, executed, leads⟩ := taken
      obtain ⟨after, runs, ends⟩ := ih leads others
      refine ⟨after, ?_, by rwa [barredAfter_cons]⟩
      rw [runOffline_cons, executed]
      exact runs

/-- Where a history goes up although that is barred, a script is refused. -/
theorem runOffline_refused (legal : Legal position steps last)
    (leads : Leads ending barred position database) (turns : ¬GoesOn ending barred steps)
    (dialect : Dialect) :
    ∃ error, runOffline ending dialect steps database = .error (.store error) ∧
      (error = .duplicate .ledger [.version] ∨
        ending = .keepsTable ∧ error = .change (.tableExists .position)) := by
  induction legal generalizing database barred with
  | nil => exact absurd ⟨by simp, .nil⟩ turns
  | @cons context step rest last later ih =>
      rw [goesOn_cons] at turns
      obtain ⟨direction, revision⟩ := step
      cases direction with
      | upgrade =>
          rw [runOffline_cons, Step.goal, Ending.statements_some, List.append_nil]
          cases barred with
          | true =>
              obtain ⟨error, refused, cause⟩ :=
                leads.upgrade_refused (Stamp.ofClock context.clock)
              exact ⟨error, by rw [refused], cause⟩
          | false =>
              obtain ⟨middle, executed, leads⟩ := leads.upgrade (Stamp.ofClock context.clock)
              rw [executed]
              exact ih leads (by simpa using turns)
      | downgrade =>
          obtain ⟨middle, executed, leads⟩ := leads.downgrade (Stamp.ofClock context.clock)
          rw [runOffline_cons, Step.goal, executed]
          exact ih leads (by simpa using turns)

/-- Where the way up is not barred the ledger lists the revisions up to the position, and where it
is barred it does so only at the empty schema. -/
theorem lists_iff_of_leads (leads : Leads ending barred last database) :
    Ledger.Lists database.ledger (Revision.between none last) ↔ barred = false ∨ last = none := by
  cases leads with
  | start => exact iff_of_true rfl (.inl rfl)
  | up alike lists => exact iff_of_true lists (.inl rfl)
  | bottom keeps alike => exact iff_of_true rfl (.inr rfl)
  | @down revision top catalog ledger alike below lists =>
      -- The newest revision that was ever applied is listed, though it lies above the position.
      refine iff_of_false (fun others => ?_) (by simp)
      have listed : ledger.has top.number = true :=
        lists.has_iff.mpr (Revision.mem_between_none.mpr (Nat.le_refl _))
      have lower : top.number ≤ revision.number :=
        Revision.mem_between_none.mp (others.has_iff.mp listed)
      exact absurd below (Nat.not_lt.mpr lower)

/-- A history leads where its last step does. -/
theorem Legal.goal_getLast? (legal : Legal position steps last) :
    ∀ taken ∈ steps.getLast?, taken.2.goal = last := by
  induction legal with
  | nil => simp
  | @cons context step rest last later ih =>
      rw [List.getLast?_cons]
      cases final : rest.getLast? with
      | none =>
          rw [List.getLast?_eq_none_iff.mp final] at later
          have stops : step.goal = last := by
            generalize step.goal = reached at later
            cases later
            rfl
          simpa using stops
      | some taken => simpa using ih taken final

/-- Above the empty schema the way up is barred where the last step has gone down. -/
theorem barredAfter_eq_false_iff (legal : Legal none steps last) :
    barredAfter ending false steps = false ∨ last = none ↔
      (∀ taken ∈ steps.getLast?, taken.2.direction = .upgrade) ∨ last = none := by
  refine or_congr_left' fun above => ?_
  unfold barredAfter
  cases final : steps.getLast? with
  | none => simp
  | some taken =>
      have leads := legal.goal_getLast? taken final
      have bars : ending.bars taken.2.goal = true :=
        Ending.bars_eq_true_iff.mpr fun clear => above (leads.symm.trans clear.2)
      cases up : taken.2.direction <;> simp [Step.bars, up, bars]

/-- Scripts keep the ledger as it is kept in a store exactly where a history never goes up after it
has gone down, unless that was to the empty schema and the table of the position was dropped there,
and where it ends with a way up or at the empty schema. Where it goes up otherwise a script is
refused, because the version is still recorded or the table of the position is still there. -/
theorem scripts_keep_ledger_iff (legal : Legal none steps last) (ending : Ending)
    (dialect : Dialect) (draws : Draws) :
    ∃ online, runOnline draws steps {} = .ok online ∧
      Ledger.Lists online.ledger (Revision.between none last) ∧
      ((∃ offline, runOffline ending dialect steps {} = .ok offline ∧
          offline.ledger.entries.map Ledger.title = online.ledger.entries.map Ledger.title) ↔
        StartsAfresh ending steps ∧
          ((∀ taken ∈ steps.getLast?, taken.2.direction = .upgrade) ∨ last = none)) ∧
      (¬StartsAfresh ending steps →
        ∃ error, runOffline ending dialect steps {} = .error (.store error) ∧
          (error = .duplicate .ledger [.version] ∨
            ending = .keepsTable ∧ error = .change (.tableExists .position))) := by
  obtain ⟨online, ran, kept⟩ := kept_empty.runOnline legal draws
  have lists : Ledger.Lists online.ledger (Revision.between none last) := by
    obtain ⟨catalog, ledger, rfl, lists⟩ := kept.rows
    exact lists
  have goesOn : GoesOn ending false steps ↔ StartsAfresh ending steps := by simp [GoesOn]
  refine ⟨online, ran, lists, ?_, fun turns =>
    runOffline_refused legal .start (mt goesOn.mp turns) dialect⟩
  by_cases afresh : StartsAfresh ending steps
  · obtain ⟨offline, runs, leads⟩ :=
      runOffline_of_goesOn legal .start (goesOn.mpr afresh) dialect
    have keeps := (lists_iff_of_leads leads).trans (barredAfter_eq_false_iff legal)
    constructor
    · rintro ⟨other, ranOffline, alike⟩
      cases runs.symm.trans ranOffline
      exact ⟨afresh, keeps.mp (alike.trans lists)⟩
    · rintro ⟨-, way⟩
      exact ⟨offline, runs, (keeps.mpr way).trans lists.symm⟩
  · obtain ⟨error, refused, -⟩ :=
      runOffline_refused legal .start (mt goesOn.mp afresh) dialect
    simp [refused, afresh]

/-- Steps that are all taken at the same time. -/
def atOnce (steps : List Step) : List (Context × Step) :=
  steps.map ({ clock := ⟨0⟩ }, ·)

/-- The first two revisions applied and the second one reverted again. -/
def turning : List (Context × Step) :=
  atOnce [⟨.upgrade, .initial⟩, ⟨.upgrade, .posts⟩, ⟨.downgrade, .posts⟩]

/-- The second revision applied once more. -/
def again : Context × Step :=
  ({ clock := ⟨0⟩ }, ⟨.upgrade, .posts⟩)

/-- The first revision applied, reverted and applied once more. -/
def returning : List (Context × Step) :=
  atOnce [⟨.upgrade, .initial⟩, ⟨.downgrade, .initial⟩, ⟨.upgrade, .initial⟩]

theorem legal_turning : Legal none turning (some .initial) :=
  @Legal.cons _ ⟨.upgrade, .initial⟩ _ _ <| @Legal.cons _ ⟨.upgrade, .posts⟩ _ _ <|
    @Legal.cons _ ⟨.downgrade, .posts⟩ _ _ <| .nil _

theorem legal_returning : Legal none returning (some .initial) :=
  @Legal.cons _ ⟨.upgrade, .initial⟩ _ _ <| @Legal.cons _ ⟨.downgrade, .initial⟩ _ _ <|
    @Legal.cons _ ⟨.upgrade, .initial⟩ _ _ <| .nil _

/-- A history that has turned down stops above the empty schema, and its scripts leave the line of
what they have reverted in the ledger. One that goes up again from the empty schema agrees where the
table of the position is dropped there, and is refused where it stays. -/
theorem scripts_keep_ledger_iff_turning :
    (∃ online, runOnline {} turning {} = .ok online ∧ Ledger.Lists online.ledger [.initial] ∧
      ¬∃ offline, runOffline .keepsTable .sqlite turning {} = .ok offline ∧
        offline.ledger.entries.map Ledger.title = online.ledger.entries.map Ledger.title) ∧
    ∃ online, runOnline {} returning {} = .ok online ∧
      (∃ offline, runOffline .dropsTable .sqlite returning {} = .ok offline ∧
        offline.ledger.entries.map Ledger.title = online.ledger.entries.map Ledger.title) ∧
      ∃ error, runOffline .keepsTable .sqlite returning {} = .error error := by
  constructor
  · obtain ⟨online, ran, lists, keeps, -⟩ :=
      scripts_keep_ledger_iff legal_turning .keepsTable .sqlite {}
    refine ⟨online, ran, lists, fun same => ?_⟩
    rcases (keeps.mp same).2 with straight | bottom
    · cases straight _ rfl
    · cases bottom
  · obtain ⟨online, ran, -, keeps, -⟩ :=
      scripts_keep_ledger_iff legal_returning .dropsTable .sqlite {}
    obtain ⟨_, _, -, -, refused⟩ :=
      scripts_keep_ledger_iff legal_returning .keepsTable .sqlite {}
    have afresh : StartsAfresh .dropsTable returning :=
      .cons_cons nofun (.cons_cons (fun _ _ => ⟨rfl, rfl⟩) (.singleton _))
    have turns : ¬StartsAfresh .keepsTable returning := by
      simp [StartsAfresh, returning, atOnce]
    obtain ⟨error, isRefused, -⟩ := refused turns
    refine ⟨online, ran, keeps.mpr ⟨afresh, .inl ?_⟩, _, isRefused⟩
    rintro _ ⟨⟩
    rfl

/-- What is reverted by scripts and then applied again violates the key of the ledger, whatever
becomes of the table of the position. -/
theorem runOffline_again :
    Legal none (turning ++ [again]) (some .posts) ∧
      (∃ online, runOnline {} (turning ++ [again]) {} = .ok online) ∧
      ∀ ending, runOffline ending .sqlite (turning ++ [again]) {} =
        .error (.store (.duplicate .ledger [.version])) := by
  have legal : Legal none (turning ++ [again]) (some .posts) :=
    @Legal.cons _ ⟨.upgrade, .initial⟩ _ _ <| @Legal.cons _ ⟨.upgrade, .posts⟩ _ _ <|
      @Legal.cons _ ⟨.downgrade, .posts⟩ _ _ <| @Legal.cons _ ⟨.upgrade, .posts⟩ _ _ <| .nil _
  obtain ⟨online, ran, -⟩ := kept_empty.runOnline legal {}
  refine ⟨legal, ⟨online, ran⟩, fun ending => ?_⟩
  simp only [turning, atOnce, again, List.map, List.cons_append, List.nil_append, runOffline_cons]
  cases ending <;> rfl

end Migration

end Lookout
