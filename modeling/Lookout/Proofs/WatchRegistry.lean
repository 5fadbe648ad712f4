import Lookout.Proofs.Histories
import Lookout.Proofs.NaturalKeys
import Lookout.Proofs.Queries
import Mathlib.Data.Finset.Card
import Mathlib.Data.Finset.Option

/-!
# The registry of watches

The table of watches stands for a set of triples: who watches which descriptor for which
application. Requests put triples into the set and take them out, whatever numbers the rows of the
table get, and the queries about watches show nothing but this set.
-/

namespace Lookout

open Operation Store
open Schema (Revision)
open Time (Moment WallTime)

/-- The number of the descriptor of a post by where it stands. -/
def Database.descriptorAt (database : Database) (site board : Option String)
    (threadNo postNo postSubNo : Option Int) : Option Int := do
  let thread ← (NaturalKey.thread site board threadNo).number? database
  (NaturalKey.descriptor (some thread) postNo postSubNo).number? database

namespace Watch

/-- The triple that is given by its parts. -/
def triple? (account descriptor : Option Int) (application : Value) : Option Watch := do
  return ⟨← account, ← descriptor, ← application.toInteger.toOption⟩

/-- Whether a triple is among those of an account and a descriptor, for an application or for
any. -/
def isAmong (account descriptor : Option Int) (application : Value) (watch : Watch) : Bool :=
  some watch.account = account && some watch.descriptor = descriptor &&
    match application with
    | .null => true
    | value => value.toInteger.toOption = some watch.application

end Watch

namespace Request

/-- Requests that let an account watch something. -/
def isWatching : Request → Prop
  | subscribe .. | watchPost .. => True
  | _ => False

/-- The triple that a request to watch is about. -/
def triple? (before after : Database) : Request → Option Watch
  | subscribe account descriptor application => Watch.triple? account descriptor application
  | watchPost accountId site board threadNo postNo postSubNo application =>
      Watch.triple? ((NaturalKey.account accountId).number? before)
        (after.descriptorAt site board threadNo postNo postSubNo) application
  | _ => none

/-- What a request that is answered does to the registry. -/
def register (before after : Database) (request : Request) (registry : Finset Watch) :
    Finset Watch :=
  match request with
  | subscribe .. | watchPost .. => registry ∪ (request.triple? before after).toFinset
  | unsubscribe account descriptor application =>
      registry.filter fun watch => !watch.isAmong account descriptor application
  | deleteAccount accountId =>
      registry.filter fun watch =>
        (NaturalKey.account accountId).number? before ≠ some watch.account
  | _ => registry

end Request

/-- What an event does to the registry: nothing, if its request fails. -/
def Event.register (event : Event) (registry : Finset Watch) : Finset Watch :=
  if event.outcome.answer.isOk then event.turn.request.register event.before event.after registry
  else registry

/-- The registry after a run, which starts without triples. -/
def Database.registry (database : Database) (turns : List Turn) : Finset Watch :=
  (database.history turns).foldl (fun registry event => event.register registry) ∅

/-- The triples in the table of watches. -/
def Database.watched (database : Database) : Finset Watch :=
  (database.watches.entries.map (·.row)).toFinset

variable {context : Context} {before after database : Database}

theorem Database.mem_watched {watch : Watch} :
    watch ∈ database.watched ↔ ∃ entry ∈ database.watches.entries, entry.row = watch := by
  simp [watched]

theorem Database.watched_congr (same : before.watches = after.watches) :
    before.watched = after.watched := by
  rw [watched, watched, same]

namespace Watch

/-- A watch that is put is in the set from then on. -/
theorem Inserted.watched {account descriptor : Option Int} {application id : Int} {value : Value}
    (inserted : Inserted before account descriptor (some application) id after)
    (isApplication : value.toInteger = .ok application) :
    ∃ watch, triple? account descriptor value = some watch ∧
      after.watched = before.watched ∪ {watch} := by
  cases inserted with
  | @intro account descriptor _ _ isNew _ prepared storable inserts =>
      refine ⟨⟨account, descriptor, application⟩, ?_, ?_⟩
      · simp [triple?, isApplication, Except.toOption]
      ext other
      rw [Finset.mem_union, Finset.mem_singleton, Database.mem_watched, Database.mem_watched]
      cases inserts with
      | present found =>
          obtain ⟨stored, isAlike⟩ := Table.of_find? found
          refine ⟨.inl, ?_⟩
          rintro (there | rfl)
          · exact there
          · exact ⟨_, stored, NaturalKey.alike_watch.mp isAlike⟩
      | added absent admitted =>
          let watch : Watch := ⟨account, descriptor, application⟩
          have entries : (before.added watch).watches.entries =
              before.watches.entries ++ [⟨before.watches.nextId, watch⟩] := rfl
          simp only [watch, entries, List.mem_append, List.mem_singleton, or_and_right, exists_or,
            exists_eq_left]
          rw [eq_comm (a := other)]

/-- Where the rows of a kind are kept, their triples are. -/
theorem watched_keep {kept : Watch → Bool}
    (rest : after.watches = before.watches.keep fun entry => kept entry.row) :
    after.watched = before.watched.filter fun watch => kept watch := by
  ext watch
  simp only [Database.mem_watched, rest, Table.entries_keep, List.mem_filter, Finset.mem_filter]
  constructor
  · rintro ⟨entry, ⟨stored, stays⟩, rfl⟩
    exact ⟨⟨entry, stored, rfl⟩, stays⟩
  · rintro ⟨⟨entry, stored, rfl⟩, stays⟩
    exact ⟨entry, ⟨stored, stays⟩, rfl⟩

/-- The rows that end with an application, or with all of them, are those of the triples that are
given. -/
theorem isOf_eq_isAmong {account descriptor chosen : Option Int} {application : Value}
    (isChosen : application = .null ∧ chosen = none ∨
      application ≠ .null ∧ ∃ number, application.toInteger = .ok number ∧ chosen = some number) :
    isOf account descriptor chosen =
      fun entry => entry.row.isAmong account descriptor application := by
  funext entry
  rcases isChosen with ⟨rfl, rfl⟩ | ⟨given, number, isNumber, rfl⟩
  · simp [isOf, isAmong]
  · cases application with
    | null => exact absurd rfl given
    | _ => simp [isOf, isAmong, isNumber, Except.toOption, eq_comm]

end Watch

/-- The number of an account is that of the rows with its id. -/
theorem Account.number?_eq_some_iff (newest : database.IsNewest) {accountId : Option String}
    {id : Int} :
    (NaturalKey.account accountId).number? database = some id ↔
      ((database.accounts.select (isNamed accountId)).any fun entry => entry.id = id) = true := by
  rw [NaturalKey.number?_eq_some_iff newest]
  simp only [List.any_eq_true, Table.select, List.mem_filter, decide_eq_true_eq, isNamed]
  constructor
  · rintro ⟨row, stored, same⟩
    exact ⟨⟨id, row⟩, ⟨stored, NaturalKey.account.inj same⟩, rfl⟩
  · rintro ⟨⟨_, row⟩, ⟨stored, same⟩, rfl⟩
    exact ⟨row, stored, congrArg NaturalKey.account same⟩

/-- A post that is watched by where it stands gives the triple of its account and its descriptor. -/
theorem Watch.Placed.watched {accountId site board : Option String}
    {threadNo postNo postSubNo : Option Int} {application id : Int} {value : Value}
    (newest : before.IsNewest) (later : after.IsNewest)
    (placed : Placed context before accountId site board threadNo postNo postSubNo application id
      after)
    (isApplication : value.toInteger = .ok application) :
    ∃ watch, triple? ((NaturalKey.account accountId).number? before)
        (after.descriptorAt site board threadNo postNo postSubNo) value = some watch ∧
      after.watched = before.watched ∪ {watch} := by
  cases placed with
  | @intro owner thread descriptor post _ withThread withDescriptor withPost _ named valid threaded
      described posted watched =>
      have isOwner : (NaturalKey.account accountId).number? before = some owner.id := by
        obtain ⟨stored, isNamed⟩ := Table.of_find? named
        exact (NaturalKey.number?_eq_some_iff newest).mpr
          ⟨owner.row, stored, congrArg NaturalKey.account (of_decide_eq_true isNamed)⟩
      -- The thread and the descriptor are found after the steps that follow them.
      have isThread : (NaturalKey.thread site board threadNo).number? after = some thread := by
        have rest : withThread.Agree after .threads := ((described.agree (by decide)).trans
          (posted.agree (by decide))).trans (watched.agree (by decide))
        cases threaded with
        | intro prepared inserts =>
            have isAt := (NaturalKey.Resolves.thread inserts).isAt
            exact (NaturalKey.number?_eq_some_iff later).mpr (Database.Has.of_same isAt rest)
      have isDescriptor : (NaturalKey.descriptor (some thread) postNo postSubNo).number? after =
          some descriptor := by
        have rest : withDescriptor.Agree after .descriptors :=
          (posted.agree (by decide)).trans (watched.agree (by decide))
        cases described with
        | intro prepared inserts =>
            have isAt := (NaturalKey.Resolves.descriptor inserts).isAt
            exact (NaturalKey.number?_eq_some_iff later).mpr (Database.Has.of_same isAt rest)
      have first : before.Agree withPost .watches := ((threaded.agree (by decide)).trans
        (described.agree (by decide))).trans (posted.agree (by decide))
      have isAt : after.descriptorAt site board threadNo postNo postSubNo = some descriptor := by
        simp [Database.descriptorAt, isThread, isDescriptor]
      rw [Database.watched_congr first, isOwner, isAt]
      exact watched.watched isApplication

/-- Requests that do not write watches leave the registry alone. -/
theorem Request.register_of_not_written {request : Request} (other : .watches ∉ request.writes)
    (registry : Finset Watch) : request.register before after registry = registry := by
  cases request <;> first | rfl | simp [Request.writes] at other

/-- A request to watch that has had its effect has put its triple into the set. -/
theorem Request.Effect.watched {request : Request} {answer : request.Answer}
    (newest : before.IsNewest) (later : after.IsNewest)
    (effective : request.Effect context before answer after) (watching : request.isWatching) :
    ∃ watch, request.triple? before after = some watch ∧
      after.watched = before.watched ∪ {watch} := by
  cases request with
  | subscribe account descriptor application =>
      obtain ⟨number, isNumber, inserted⟩ := effective
      exact inserted.watched isNumber
  | watchPost accountId site board threadNo postNo postSubNo application =>
      obtain ⟨number, isNumber, placed⟩ := effective
      exact placed.watched newest later isNumber
  | _ => exact watching.elim

/-- A request that has had its effect has done to the triples of the table what it does to the
registry. -/
theorem Request.Effect.register_watched {request : Request} {answer : request.Answer}
    (newest : before.IsNewest) (later : after.IsNewest)
    (effective : request.Effect context before answer after) :
    request.register before after before.watched = after.watched := by
  by_cases written : .watches ∈ request.writes
  · cases request with
    | deleteAccount accountId =>
        obtain ⟨-, rfl⟩ := effective
        let stays (watch : Watch) : Bool :=
          !(before.accounts.select (Account.isNamed accountId)).any fun gone =>
            gone.id = watch.account
        have rest : (before.erased (Account.isNamed accountId)).watches =
            before.watches.keep fun entry => stays entry.row := rfl
        rw [Watch.watched_keep rest, register]
        refine Finset.filter_congr fun watch _ => ?_
        rw [ne_eq, Account.number?_eq_some_iff newest, Bool.not_eq_true, Bool.not_eq_true']
    | subscribe | watchPost =>
        obtain ⟨watch, isTriple, watched⟩ := effective.watched newest later trivial
        rw [watched, register, isTriple, Option.toFinset_some]
    | unsubscribe account descriptor application =>
        obtain ⟨chosen, isChosen, -, rfl⟩ := effective
        rw [Watch.isOf_eq_isAmong isChosen]
        exact (Watch.watched_keep (before.watches.keep_others _)).symm
    | _ => simp [Request.writes] at written
  · have same : before.watches = after.watches := effective.writes.agree written
    rw [register_of_not_written written, Database.watched_congr same]

/-- However its request ends, an event has done so. -/
theorem Event.register_watched (event : Event) (newest : event.before.IsNewest) :
    event.register event.before.watched = event.after.watched := by
  obtain ⟨⟨request, context, draws⟩, before⟩ := event
  let turn : Turn := ⟨request, context, draws⟩
  by_cases written : .watches ∈ request.writes
  · have dated : request.isDated := by
      cases request <;> trivial
    rcases turn.ends dated before with ⟨answer, answered, effective⟩ | ⟨failure, failed, same⟩
    · have isOk : (turn.outcome before).answer.isOk = true := by
        rw [answered]
        rfl
      exact (if_pos isOk).trans (effective.register_watched newest (newest.outcome turn))
    · have isOk : ¬(turn.outcome before).answer.isOk = true := by
        rw [failed]
        exact Bool.false_ne_true
      exact (if_neg isOk).trans (congrArg Database.watched same.symm)
  · have same : before.watches = (turn.outcome before).database.watches :=
      (turn.writes before).agree written
    have unchanged : (⟨turn, before⟩ : Event).register before.watched = before.watched :=
      (ite_congr rfl (fun _ => Request.register_of_not_written written _) fun _ => rfl).trans
        (ite_self _)
    exact unchanged.trans (Database.watched_congr same)

/-- A request to watch that is answered has a triple. -/
theorem Event.triple?_eq_some (event : Event) (newest : event.before.IsNewest)
    (watching : event.turn.request.isWatching) (isOk : event.outcome.answer.isOk = true) :
    ∃ watch, event.turn.request.triple? event.before event.after = some watch := by
  obtain ⟨⟨request, context, draws⟩, before⟩ := event
  let turn : Turn := ⟨request, context, draws⟩
  have dated : request.isDated := by
    cases request <;> trivial
  rcases turn.ends dated before with ⟨answer, answered, effective⟩ | ⟨failure, failed, -⟩
  · obtain ⟨watch, isTriple, -⟩ := effective.watched newest (newest.outcome turn) watching
    exact ⟨watch, isTriple⟩
  · have isOk : (turn.outcome before).answer.isOk = true := isOk
    rw [failed] at isOk
    cases isOk

namespace Database

/-- After a run the table of watches stands for the registry of the run. -/
theorem foldl_register (newest : database.IsNewest) (turns : List Turn) :
    (database.history turns).foldl (fun registry event => event.register registry)
      database.watched = (database.after turns).watched := by
  induction turns generalizing database with
  | nil => rfl
  | cons turn rest ih =>
      have first : (⟨turn, database⟩ : Event).register database.watched =
          (turn.outcome database).database.watched := Event.register_watched _ newest
      rw [history, List.foldl_cons, first]
      exact ih (newest.outcome turn)

/-- No triple is there twice. -/
theorem nodup_watches (newest : database.IsNewest) :
    (database.watches.entries.map (·.row)).Nodup := by
  have unique : Watch.naturalKey ∈ database.catalog.uniqueKeys .watches :=
    newest.alike.mem_uniqueKeys.mpr (by decide)
  refine newest.integral.nodup_map unique (fun row : Watch => row) (fun row =>
    [.integer row.account, .integer row.descriptor, .integer row.application]) fun row => ?_
  simp [keyIn, Watch.naturalKey, Relation.cell]

end Database

namespace Watch

/-- What is asked about watches is answered from a set of triples. Numbers that are too large are
refused; apart from that, the watches of an account are its triples, ending watches answers how
many triples go, and the search finds the pairs of a wanted descriptor and an account in good
standing that are in a triple. -/
structure AnswersFrom (registry : Finset Watch) (context : Context) (database : Database)
    (draws : Draws) : Prop where
  listed : ∀ account : Option Int, ∃ details : List Details,
    ((ofAccount account).perform context database draws).answer =
        (if account.all isStorable then .ok details else .error (.store .numberTooLarge)) ∧
      (details.map (·.watch.row)).Nodup ∧
      ∀ watch, watch ∈ details.map (·.watch.row) ↔ watch ∈ registry ∧ some watch.account = account
  ended : ∀ (account descriptor : Option Int) (application : Value) (count : Nat),
    let event : Event := ⟨⟨.unsubscribe account descriptor application, context, draws⟩, database⟩
    event.outcome.answer = .ok count → count = (registry \ event.register registry).card
  endable : ∀ (account descriptor : Option Int) (application : Value),
    account.all isStorable → descriptor.all isStorable →
      (application = .null ∨
        ∃ number, application.toInteger = .ok number ∧ isStorable number = true) →
      ∃ count,
        ((unsubscribe account descriptor application).perform context database draws).answer =
          .ok count
  found : ∀ descriptors : Option (List (Option Int)), ∃ pairs : List (Int × Int),
    ((watchers descriptors).perform context database draws).answer =
        (if (descriptors.getD []).all fun descriptor => descriptor.all isStorable then .ok pairs
        else .error (.store .numberTooLarge)) ∧
      pairs.Pairwise pairLt ∧
      ∀ descriptor account, (descriptor, account) ∈ pairs ↔
        some descriptor ∈ descriptors.getD [] ∧
        (∃ application, ⟨account, descriptor, application⟩ ∈ registry) ∧
        ∃ row, ⟨account, row⟩ ∈ database.accounts.entries ∧ row.deletedOn = none ∧
          ∃ validUntil, row.validUntil = some validUntil ∧ context.clock < validUntil
  regardless : ∀ descriptors others : Option (List (Option Int)),
    (∀ descriptor, descriptor ∈ descriptors.getD [] ↔ descriptor ∈ others.getD []) →
      ((watchers descriptors).perform context database draws).answer =
        ((watchers others).perform context database draws).answer

variable {draws : Draws}

/-- Ending watches answers how many triples go. -/
theorem card_ended {account descriptor : Option Int} {application : Value} {count : Nat}
    (newest : database.IsNewest)
    (answered : ((unsubscribe account descriptor application).perform context database
      draws).answer = .ok count) :
    let event : Event := ⟨⟨.unsubscribe account descriptor application, context, draws⟩, database⟩
    count = (database.watched \ event.register database.watched).card := by
  intro event
  obtain ⟨chosen, isChosen, isCount, -⟩ :=
    (unsubscribe_achieves account descriptor application).of_answer answered
  have isOk : event.outcome.answer.isOk = true := by
    rw [show event.outcome.answer = .ok count from answered]
    rfl
  have registered : event.register database.watched =
      database.watched.filter fun watch => !watch.isAmong account descriptor application :=
    if_pos isOk
  have gone : database.watched \ event.register database.watched =
      ((database.watches.select (isOf account descriptor chosen)).map (·.row)).toFinset := by
    ext watch
    simp only [registered, Finset.mem_sdiff, Finset.mem_filter, Database.mem_watched,
      List.mem_toFinset, List.mem_map, Table.select, List.mem_filter, isOf_eq_isAmong isChosen,
      not_and, Bool.not_eq_true', Bool.not_eq_false]
    constructor
    · rintro ⟨⟨entry, stored, rfl⟩, isGone⟩
      exact ⟨entry, ⟨stored, isGone ⟨entry, stored, rfl⟩⟩, rfl⟩
    · rintro ⟨entry, ⟨stored, isGone⟩, rfl⟩
      exact ⟨⟨entry, stored, rfl⟩, fun _ => isGone⟩
  have nodup : ((database.watches.select (isOf account descriptor chosen)).map (·.row)).Nodup :=
    (Database.nodup_watches newest).sublist (List.filter_sublist.map _)
  rw [gone, List.toFinset_card_of_nodup nodup, List.length_map, isCount]

/-- Ending watches is answered where its numbers can be looked for. -/
theorem unsubscribe_answers {account descriptor : Option Int} {application : Value}
    (newest : database.IsNewest) (isAccount : account.all isStorable = true)
    (isDescriptor : descriptor.all isStorable = true)
    (isApplication : application = .null ∨
      ∃ number, application.toInteger = .ok number ∧ isStorable number = true) :
    ∃ count, ((unsubscribe account descriptor application).perform context database draws).answer =
      .ok count := by
  have ends : (unsubscribe account descriptor application).Ends context
      { saved := database, current := database, draws } (fun _ _ => True) (fun _ _ => False) := by
    cases application with
    | null => simp [unsubscribe, newest, isAccount, isDescriptor]
    | _ =>
        obtain ⟨number, isNumber, isStored⟩ := isApplication.resolve_left nofun
        simp [unsubscribe, newest, isAccount, isDescriptor, isNumber, isStored]
  rcases ends.outcome with ⟨count, _, _, answered, _⟩ | ⟨_, _, failed, _⟩
  · exact ⟨count, answered⟩
  · exact failed.elim

theorem answersFrom_watched (newest : database.IsNewest) :
    AnswersFrom database.watched context database draws where
  listed account := by
    refine ⟨_, answer_ofAccount newest account, ?_, fun watch => ?_⟩
    · rw [List.map_map]
      exact (Database.nodup_watches newest).sublist (List.filter_sublist.map _)
    · simp only [List.map_map, List.mem_map, Table.select, List.mem_filter, decide_eq_true_eq,
        Database.mem_watched, Function.comp_apply]
      constructor
      · rintro ⟨entry, ⟨stored, owned⟩, rfl⟩
        exact ⟨⟨entry, stored, rfl⟩, owned⟩
      · rintro ⟨⟨entry, stored, rfl⟩, owned⟩
        exact ⟨entry, ⟨stored, owned⟩, rfl⟩
  ended _ _ _ _ answered := card_ended newest answered
  endable _ _ _ := unsubscribe_answers newest
  found descriptors := by
    refine ⟨_, answer_watchers newest descriptors, pairwise_found, fun descriptor account => ?_⟩
    rw [mem_found, Database.counts_iff_exists]
    refine and_congr_right fun _ => and_congr_left fun _ => ?_
    simp only [Database.mem_watched]
    constructor
    · rintro ⟨watch, stored, rfl, rfl⟩
      exact ⟨watch.row.application, watch, stored, rfl⟩
    · rintro ⟨application, watch, stored, same⟩
      exact ⟨watch, stored, congrArg Watch.descriptor same, congrArg Watch.account same⟩
  regardless descriptors others same := by
    have sameStorable : ((descriptors.getD []).all fun descriptor => descriptor.all isStorable) =
        (others.getD []).all fun descriptor => descriptor.all isStorable := by
      rw [Bool.eq_iff_iff, List.all_eq_true, List.all_eq_true]
      simp only [same]
    rw [answer_watchers newest, answer_watchers newest, found_congr same, sameStorable]

/-- In every run from an empty database of the newest revision, each request to watch that is
answered has a triple to put into the registry, and what is asked about watches is answered from
the registry of the run. -/
theorem registry_of_run (appliedOn : Time.Stamp) (turns : List Turn) :
    let empty := Database.atRevision .invites appliedOn
    (∀ event ∈ empty.history turns, event.turn.request.isWatching →
      event.outcome.answer.isOk = true →
        ∃ watch, event.turn.request.triple? event.before event.after = some watch) ∧
    ∀ (context : Context) (draws : Draws),
      AnswersFrom (empty.registry turns) context (empty.after turns) draws := by
  intro empty
  have newest : empty.IsNewest := Database.isNewest_atRevision appliedOn
  have same : empty.registry turns = (empty.after turns).watched :=
    Database.foldl_register newest turns
  refine ⟨fun event happened watching isOk => ?_, fun context draws => ?_⟩
  · obtain ⟨earlier, later, -, before⟩ := Database.before_of_mem_history happened
    exact event.triple?_eq_some (before ▸ newest.after earlier) watching isOk
  · rw [same]
    exact answersFrom_watched (newest.after turns)

/-- An account watches a post for two applications and stops for one of them. -/
example :
    (Database.atRevision .invites ⟨⟨0⟩, true⟩).registry
      ([.upsertAccount (some "a") (some (Moment.utc ⟨60000000⟩)),
        .watchPost (some "a") (some "s") (some "b") (some 1) (some 2) (some 0) (.integer 0),
        .subscribe (some 1) (some 1) (.integer 1), .subscribe (some 2) (some 1) (.integer 1),
        .unsubscribe (some 1) (some 1) (.integer 0)].map fun request =>
          { request, context := { clock := ⟨7⟩ } }) = {⟨1, 1, 1⟩} := by
  decide +kernel

end Watch

end Lookout
