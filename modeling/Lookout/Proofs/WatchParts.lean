import Lookout.Proofs.NaturalKeys
import Lookout.Proofs.Plain
import Lookout.Proofs.Standing

/-!
# Watching a post by parts

To watch a post is to resolve its thread and its descriptor, to make its post and to subscribe, all
in one transaction. Done one after the other, each with a commit of its own, the parts answer and
leave the same. An account that is missing or cannot be notified is turned down before the first of
them.
-/

namespace Lookout

open Operation Store
open Schema (Column Revision TableName)
open Time (Moment WallTime)

variable {context : Context} {database : Database} {draws : Draws}

namespace Database

variable {α : Type} [Relation α] {key : List Column} {row : α}

/-- The number under which a row is found or added, and the database that has it. -/
def ensured (database : Database) (key : List Column) (row : α) : Int × Database :=
  match (Relation.read database).find? fun entry => Relation.alike key row entry.row with
  | some entry => (entry.id, database)
  | none => ((Relation.read database : Table α).nextId, database.added row)

/-- What has been found is not ensured again. -/
theorem ensured_of_find? {entry : Entry α}
    (found : (Relation.read database).find? (fun entry => Relation.alike key row entry.row) =
      some entry) : database.ensured key row = (entry.id, database) := by
  simp only [ensured, found]

variable [LawfulRelation α]

/-- A row is found under its number once it has been ensured. -/
theorem find?_ensured (database : Database) (alone : Relation.alike key row row = true) :
    ∃ entry, (Relation.read (database.ensured key row).2).find?
        (fun entry => Relation.alike key row entry.row) = some entry ∧
      entry.id = (database.ensured key row).1 := by
  unfold ensured
  cases found : (Relation.read database).find? fun entry => Relation.alike key row entry.row with
  | some entry => exact ⟨entry, found, rfl⟩
  | none =>
      refine ⟨⟨(Relation.read database : Table α).nextId, row⟩, ?_, rfl⟩
      change Table.find? (Relation.read (database.added row)) _ = _
      rw [added, LawfulRelation.read_write]
      unfold Table.find? at found ⊢
      rw [Table.entries_add, List.find?_append, found]
      simp [alone]

/-- What has been ensured is not ensured again as long as its table stays the same. -/
theorem ensured_of_agree {again : α} {later : Database} (alone : Relation.alike key row row = true)
    (alike : ∀ other : α, Relation.alike key again other = Relation.alike key row other)
    (kept : (Relation.read (database.ensured key row).2 : Table α) = Relation.read later) :
    later.ensured key again = ((database.ensured key row).1, later) := by
  obtain ⟨entry, found, same⟩ := database.find?_ensured alone
  rw [← same]
  refine ensured_of_find? ?_
  rw [← kept]
  simpa only [alike] using found

/-- A row is there under its number once it has been ensured. -/
theorem has_ensured (alone : Relation.alike key row row = true) :
    (Relation.read (database.ensured key row).2 : Table α).has (database.ensured key row).1 =
      true := by
  obtain ⟨entry, found, same⟩ := database.find?_ensured alone
  exact Table.has_iff.mpr ⟨entry, (Table.of_find? found).1, same⟩

/-- Ensuring a row leaves the other tables alone. -/
theorem Agree.ensured {table : TableName} (other : table ≠ Relation.table α) :
    database.Agree (database.ensured key row).2 table := by
  unfold Database.ensured
  split
  · exact .refl database table
  · exact .added row other

/-- A database of the newest revision is still one once a row has been ensured that it takes. -/
theorem IsNewest.ensured (newest : database.IsNewest)
    (only : ∀ columns ∈ Revision.invites.catalog.uniqueKeys (Relation.table α), columns = key)
    (rooted : database.IsRooted (Relation.table α) (Relation.cell row)) :
    (database.ensured key row).2.IsNewest := by
  unfold Database.ensured
  split
  · exact newest
  · rename_i absent
    have keeps := Keeps.added (admitted_of_absent (newest.only_key only) absent rooted)
    exact ⟨keeps.integral newest.integral, keeps.catalog ▸ newest.alike⟩

omit [LawfulRelation α] in
/-- A row that a database of the newest revision takes is ensured. -/
theorem IsNewest.ends_addUnlessAlike (newest : database.IsNewest)
    (only : ∀ columns ∈ Revision.invites.catalog.uniqueKeys (Relation.table α), columns = key)
    (rooted : database.IsRooted (Relation.table α) (Relation.cell row)) {session : Session}
    (current : session.current = database) :
    (addUnlessAlike key row).Ends context session
      (fun answer final => (answer.1, final.current) = database.ensured key row)
      (fun _ _ => False) := by
  rw [Operation.ends_addUnlessAlike, current]
  refine ⟨fun error ⟨absent, refused⟩ => ?_, fun id isNew after inserts => ?_⟩
  · rw [admitted_of_absent (newest.only_key only) absent rooted] at refused
    cases refused
  · cases inserts with
    | present found => exact (ensured_of_find? found).symm
    | added absent => simp only [Database.ensured, absent]

/-- A row that names a missing one is turned down. Its key says which rows it names, so no row of a
whole database is like it. -/
theorem IsNewest.refuses_orphan (newest : database.IsNewest) (context : Context)
    (key : List Column) (row : α)
    (covered : ∀ foreign ∈ (Relation.table α).definition.foreignKeys, foreign.column ∈ key)
    (orphan : ¬database.IsRooted (Relation.table α) (Relation.cell row)) :
    ∃ error : StoreError, error.isIntegrity = true ∧
      ∀ session : Session, session.current = database →
        (addUnlessAlike key row).Ends context session (fun _ _ => False)
          (fun cause _ => cause = .store error) := by
  have absent : (Relation.read database : Table α).find?
      (fun entry => Relation.alike key row entry.row) = none := by
    apply List.find?_eq_none.mpr
    intro entry stored isAlike
    have isRow : Relation.cell entry.row ∈ database.cells (Relation.table α) := by
      rw [LawfulRelation.cells_read (α := α)]
      exact List.mem_map_of_mem stored
    apply orphan
    intro foreign isForeign id names
    rw [Relation.cell_eq_of_alike isAlike (covered foreign isForeign)] at names
    exact newest.integral.rooted _ _ isRow foreign isForeign id names
  cases refused : database.refusal? row with
  | none => exact absurd (unlike_and_rooted_of_admitted refused).2 orphan
  | some error =>
      refine ⟨error, isIntegrity_of_refusal? refused, ?_⟩
      rintro session rfl
      rw [Operation.ends_addUnlessAlike]
      constructor
      · rintro other ⟨-, likewise⟩
        exact congrArg Failure.store (Option.some.inj (likewise.symm.trans refused))
      · intro id isNew after inserts
        cases inserts with
        | present found => cases absent.symm.trans found
        | added _ admitted => cases refused.symm.trans admitted

end Database

namespace Watch

/-- Watch a post part by part, each in a session of its own. Where a part fails, those after it are
left out. -/
def byParts (context : Context) (draws : Draws) (account : Int) (site board : Option String)
    (threadNo postNo postSubNo : Option Int) (application : Value) (database : Database) :
    Except Failure (Int × Database) := do
  let (thread, withThread) ←
    ((Thread.resolve site board threadNo).perform context database draws).result
  let (descriptor, withDescriptor) ←
    ((Descriptor.resolve (some thread) postNo postSubNo).perform context withThread draws).result
  let (_, withPost) ←
    ((Post.ensure (some descriptor)).perform context withDescriptor draws).result
  ((subscribe (some account) (some descriptor) application).perform context withPost draws).result

/-- What the parts of watching a post do before their commits. -/
def place (account : Int) (site board : Option String) (threadNo postNo postSubNo : Option Int)
    (application : Value) : Operation Int := do
  let thread ← Thread.insert site board threadNo
  let descriptor ← Descriptor.insert (some thread) postNo postSubNo
  let _ ← Post.insert (some descriptor)
  let application ← wholeNumber application
  insert (some account) (some descriptor) (some application)

variable {accountId site board : Option String} {threadNo postNo postSubNo : Option Int}
  {application : Value} {owner : Entry Account}

theorem isPlain_subscription (account descriptor : Int) (application : Value) :
    (wholeNumber application >>= fun number =>
      insert (some account) (some descriptor) (some number)).IsPlain :=
  .bind (.wholeNumber application) fun _ => isPlain_insert _ _ _

theorem isPlain_place (account : Int) :
    (place account site board threadNo postNo postSubNo application).IsPlain :=
  .bind (Thread.isPlain_insert _ _ _) fun _ => .bind (Descriptor.isPlain_insert _ _ _) fun _ =>
    .bind (Post.isPlain_insert _) fun _ => isPlain_subscription _ _ _

/-- Subscribing leaves what it does before its commit. -/
theorem result_subscribe (account descriptor : Int) (application : Value) :
    ((subscribe (some account) (some descriptor) application).perform context database
        draws).result =
      (wholeNumber application >>= fun number =>
        insert (some account) (some descriptor) (some number)).effect context database := by
  refine result_perform_of_ends ?_
  have told := isPlain_subscription account descriptor application context
    { saved := database, current := database, draws }
  rw [ends_bind] at told
  simp only [subscribe, ends_bind, ends_commit, ends_pure]
  exact told.imp (fun _ _ told => told.left) (fun _ _ told => told.1)

/-- Before the commits each part goes on where the part before it leads. -/
theorem effect_place (account : Int) :
    (place account site board threadNo postNo postSubNo application).effect context database = (do
      let (thread, withThread) ← (Thread.insert site board threadNo).effect context database
      let (descriptor, withDescriptor) ←
        (Descriptor.insert (some thread) postNo postSubNo).effect context withThread
      let (_, withPost) ← (Post.insert (some descriptor)).effect context withDescriptor
      (wholeNumber application >>= fun number =>
        insert (some account) (some descriptor) (some number)).effect context withPost) := by
  refine ((Thread.isPlain_insert _ _ _).effect_bind
    (fun _ => .bind (Descriptor.isPlain_insert _ _ _) fun _ => .bind (Post.isPlain_insert _)
      fun _ => isPlain_subscription _ _ _) _ _).trans
    (bind_congr fun ⟨thread, withThread⟩ => ?_)
  refine ((Descriptor.isPlain_insert _ _ _).effect_bind (fun _ => .bind (Post.isPlain_insert _)
    fun _ => isPlain_subscription _ _ _) _ _).trans
    (bind_congr fun ⟨descriptor, withDescriptor⟩ => ?_)
  exact (Post.isPlain_insert _).effect_bind (fun _ => isPlain_subscription _ _ _) _ _

/-- The parts leave what they do before their commits. -/
theorem effect_place_eq_byParts (account : Int) :
    (place account site board threadNo postNo postSubNo application).effect context database =
      byParts context draws account site board threadNo postNo postSubNo application database := by
  have threads := (Thread.isPlain_insert site board threadNo).result_committed context
  have descriptors (thread : Int) :=
    (Descriptor.isPlain_insert (some thread) postNo postSubNo).result_committed context
  have posts (descriptor : Int) := (Post.isPlain_insert (some descriptor)).result_committed context
  simp only [byParts, Thread.resolve, Descriptor.resolve, Post.ensure, threads, descriptors, posts,
    result_subscribe, effect_place]

/-- To watch a post for an account in good standing is to do the parts one after the other. -/
theorem result_watchPost (present : database.missing? [.accounts] = none)
    (named : database.accounts.find? (Account.isNamed accountId) = some owner)
    (valid : owner.row.lapse (Moment.utc context.clock) = .ok none) :
    ((watchPost accountId site board threadNo postNo postSubNo application).perform context database
        draws).result =
      byParts context draws owner.id site board threadNo postNo postSubNo application database := by
  have placed : (place owner.id site board threadNo postNo postSubNo application >>= fun id => do
      commit
      return id).Ends context { saved := database, current := database, draws }
      (fun id final => byParts context draws owner.id site board threadNo postNo postSubNo
        application database = .ok (id, final.saved))
      (fun failure _ => byParts context draws owner.id site board threadNo postNo postSubNo
        application database = .error failure) := by
    rw [ends_bind, ← effect_place_eq_byParts]
    exact (isPlain_place owner.id context _).left
  refine result_perform_of_ends ?_
  rw [watchPost, ends_bind, Account.ends_lookup_of_present present]
  simp only [named, Account.lapseAt, valid, ends_log, ends_commit, ends_pure, ends_bind, ends_now]
  simpa only [place, ends_bind, ends_commit, ends_pure] using placed

end Watch

/-! ### What the insertions do to a database of the newest revision -/

/-- What is left of an insertion, once it is prepared, is to ensure the row, provided that the
numbers that are given fit into the store. -/
theorem Database.IsNewest.ends_insertion {α : Type} [Relation α] (newest : database.IsNewest)
    {key : List Column} {row : α} {expected : Except Failure (Int × Database)}
    (only : ∀ columns ∈ Revision.invites.catalog.uniqueKeys (Relation.table α), columns = key)
    (rooted : database.IsRooted (Relation.table α) (Relation.cell row))
    {numbers : List (Option Int)} {session : Session} (current : session.current = database)
    (isExpected : expected =
      if numbers.all fun number => number.all isStorable then .ok (database.ensured key row)
      else .error (.store .numberTooLarge)) :
    ((numbers.all fun number => number.all isStorable) = false →
      expected = .error (.store .numberTooLarge)) ∧
    ((∀ number ∈ numbers, number.all isStorable = true) →
      (addUnlessAlike key row).Ends context session
        (fun answer final => expected = .ok (answer.1, final.current))
        (fun failure _ => expected = .error failure)) := by
  rw [isExpected]
  refine ⟨fun large => if_neg (by simp [large]), fun storable => ?_⟩
  rw [if_pos (List.all_eq_true.mpr storable)]
  exact (newest.ends_addUnlessAlike only rooted current).imp
    (fun _ _ same => congrArg Except.ok same.symm) (fun _ _ => False.elim)

/-- The row of a thread that is not there yet. -/
def Thread.fresh (context : Context) (site board : String) (number : Int) : Thread :=
  { site, board, number, createdOn := Time.Stamp.ofClock context.clock }

/-- The row of a post that is not there yet. -/
def Post.fresh (context : Context) (descriptor : Int) : Post :=
  { descriptor, createdOn := Time.Stamp.ofClock context.clock }

theorem Thread.isRooted (row : Thread) : database.IsRooted .threads (Relation.cell row) :=
  fun _ isKey => absurd isKey List.not_mem_nil

theorem Descriptor.isRooted_iff {row : Descriptor} :
    database.IsRooted .descriptors (Relation.cell row) ↔
      database.threads.has row.thread = true := by
  simp [Database.IsRooted, TableName.definition, Relation.cell, Database.hasRow]

theorem Post.isRooted_iff {row : Post} :
    database.IsRooted .posts (Relation.cell row) ↔
      database.descriptors.has row.descriptor = true := by
  simp [Database.IsRooted, TableName.definition, Relation.cell, Database.hasRow]

theorem Watch.isRooted_iff {row : Watch} :
    database.IsRooted .watches (Relation.cell row) ↔
      database.accounts.has row.account = true ∧
        database.descriptors.has row.descriptor = true := by
  simp [Database.IsRooted, TableName.definition, Relation.cell, Database.hasRow]

theorem Thread.effect_insert (newest : database.IsNewest) (site board : String) (number : Int) :
    (Thread.insert (some site) (some board) (some number)).effect context database =
      if isStorable number then .ok (database.ensured naturalKey (fresh context site board number))
      else .error (.store .numberTooLarge) := by
  have prepared : database.obstacle? .threads (some naturalKey) = none :=
    newest.obstacle?_eq_none (by decide)
  refine effect_eq_of_ends ?_
  simp only [Thread.insert, ends_bind, ends_prepareInsertion, prepared, ends_fits, ends_needed,
    ends_stamp, ends_pure, reduceCtorEq, false_implies, implies_true, true_and, forall_const,
    Option.some.injEq, forall_eq']
  exact newest.ends_insertion (by decide) (isRooted _) rfl (by simp [fresh])

theorem Descriptor.effect_insert (newest : database.IsNewest) {thread : Int}
    (stored : database.threads.has thread = true) (postNo postSubNo : Int) :
    (Descriptor.insert (some thread) (some postNo) (some postSubNo)).effect context database =
      if [thread, postNo, postSubNo].all isStorable then
        .ok (database.ensured naturalKey { thread, postNo, postSubNo : Descriptor })
      else .error (.store .numberTooLarge) := by
  have prepared : database.obstacle? .descriptors (some naturalKey) = none :=
    newest.obstacle?_eq_none (by decide)
  refine effect_orFail_of_ends (by split <;> rfl) ?_
  simp only [ends_bind, ends_prepareInsertion, prepared, ends_fits, ends_needed, ends_pure,
    reduceCtorEq, false_implies, implies_true, true_and, forall_const, Option.some.injEq,
    forall_eq']
  exact newest.ends_insertion (by decide) (isRooted_iff.mpr stored) rfl (by simp)

theorem Post.effect_insert (newest : database.IsNewest) {descriptor : Int}
    (stored : database.descriptors.has descriptor = true) :
    (Post.insert (some descriptor)).effect context database =
      if isStorable descriptor then .ok (database.ensured naturalKey (fresh context descriptor))
      else .error (.store .numberTooLarge) := by
  have prepared : database.obstacle? .posts (some naturalKey) = none :=
    newest.obstacle?_eq_none (by decide)
  refine effect_orFail_of_ends (by split <;> rfl) ?_
  simp only [ends_bind, ends_prepareInsertion, prepared, ends_fits, ends_needed, ends_stamp,
    ends_pure, reduceCtorEq, false_implies, implies_true, true_and, forall_const,
    Option.some.injEq, forall_eq']
  exact newest.ends_insertion (by decide) (isRooted_iff.mpr stored) rfl (by simp [fresh])

theorem Watch.effect_insert (newest : database.IsNewest) {account descriptor : Int}
    (isAccount : database.accounts.has account = true)
    (isDescriptor : database.descriptors.has descriptor = true) (application : Int) :
    (Watch.insert (some account) (some descriptor) (some application)).effect context database =
      if [account, descriptor, application].all isStorable then
        .ok (database.ensured naturalKey { account, descriptor, application : Watch })
      else .error (.store .numberTooLarge) := by
  have prepared : database.obstacle? .watches (some naturalKey) = none :=
    newest.obstacle?_eq_none (by decide)
  refine effect_orFail_of_ends (by split <;> rfl) ?_
  simp only [ends_bind, ends_prepareInsertion, prepared, ends_fits, ends_needed, ends_pure,
    reduceCtorEq, false_implies, implies_true, true_and, forall_const, Option.some.injEq,
    forall_eq']
  exact newest.ends_insertion (by decide) (isRooted_iff.mpr ⟨isAccount, isDescriptor⟩) rfl (by simp)

/-- Where a post stands. -/
structure Spot where
  site : String
  board : String
  threadNo : Int
  postNo : Int
  postSubNo : Int

namespace Spot

variable {spot : Spot} {account application : Int}

/-- The numbers of a spot fit into the store. -/
def IsStorable (spot : Spot) : Prop :=
  isStorable spot.threadNo = true ∧ isStorable spot.postNo = true ∧
    isStorable spot.postSubNo = true

/-- The number of the thread of a spot, and the database that has the thread. -/
def thread (spot : Spot) (context : Context) (database : Database) : Int × Database :=
  database.ensured Thread.naturalKey (Thread.fresh context spot.site spot.board spot.threadNo)

/-- The number of the descriptor of a spot, and the database that has it with its thread. -/
def descriptor (spot : Spot) (context : Context) (database : Database) : Int × Database :=
  (spot.thread context database).2.ensured Descriptor.naturalKey
    { thread := (spot.thread context database).1, postNo := spot.postNo,
      postSubNo := spot.postSubNo : Descriptor }

/-- The number of the post at a spot, and the database that has it. -/
def post (spot : Spot) (context : Context) (database : Database) : Int × Database :=
  (spot.descriptor context database).2.ensured Post.naturalKey
    (Post.fresh context (spot.descriptor context database).1)

/-- The number of the watch of an account on a spot, and the database that has it. -/
def watch (spot : Spot) (context : Context) (account application : Int) (database : Database) :
    Int × Database :=
  (spot.post context database).2.ensured Watch.naturalKey
    { account, descriptor := (spot.descriptor context database).1, application : Watch }

/-- The numbers that watching a spot looks for under fit into the store. -/
def Fits (spot : Spot) (context : Context) (account : Int) (database : Database) : Prop :=
  isStorable account = true ∧ isStorable (spot.thread context database).1 = true ∧
    isStorable (spot.descriptor context database).1 = true

instance (context : Context) (account : Int) (database : Database) :
    Decidable (spot.Fits context account database) :=
  inferInstanceAs (Decidable (_ ∧ _ ∧ _))

/-- Resolving a spot leaves the accounts alone. -/
theorem accounts_post : database.Agree (spot.post context database).2 .accounts :=
  .trans (.ensured (by decide)) (.trans (.ensured (by decide)) (.ensured (by decide)))

theorem has_thread :
    (spot.thread context database).2.threads.has (spot.thread context database).1 = true :=
  Database.has_ensured (NaturalKey.alike_thread.mpr rfl)

theorem has_descriptor :
    (spot.descriptor context database).2.descriptors.has (spot.descriptor context database).1 =
      true :=
  Database.has_ensured (NaturalKey.alike_descriptor.mpr rfl)

theorem isNewest_thread (newest : database.IsNewest) :
    (spot.thread context database).2.IsNewest :=
  newest.ensured (by decide) (Thread.isRooted _)

theorem isNewest_descriptor (newest : database.IsNewest) :
    (spot.descriptor context database).2.IsNewest :=
  (isNewest_thread newest).ensured (by decide) (Descriptor.isRooted_iff.mpr has_thread)

theorem isNewest_post (newest : database.IsNewest) : (spot.post context database).2.IsNewest :=
  (isNewest_descriptor newest).ensured (by decide) (Post.isRooted_iff.mpr has_descriptor)

theorem has_account (stored : database.accounts.has account = true) :
    (spot.post context database).2.accounts.has account = true := by
  rwa [← show database.accounts = _ from accounts_post]

theorem has_descriptor_post :
    (spot.post context database).2.descriptors.has (spot.descriptor context database).1 = true := by
  have same : (spot.descriptor context database).2.Agree (spot.post context database).2
      .descriptors := .ensured (by decide)
  rw [← show _ = (spot.post context database).2.descriptors from same]
  exact has_descriptor

theorem isNewest_watch (newest : database.IsNewest)
    (stored : database.accounts.has account = true) :
    (spot.watch context account application database).2.IsNewest :=
  (isNewest_post newest).ensured (by decide)
    (Watch.isRooted_iff.mpr ⟨has_account stored, has_descriptor_post⟩)

/-- What the parts do before their commits to a database of the newest revision. -/
theorem effect_place (newest : database.IsNewest) (stored : database.accounts.has account = true)
    (storable : spot.IsStorable) {number : Value} (isNumber : number.toInteger = .ok application)
    (isStored : isStorable application = true) :
    (Watch.place account (some spot.site) (some spot.board) (some spot.threadNo) (some spot.postNo)
        (some spot.postSubNo) number).effect context database =
      if spot.Fits context account database then
        .ok (spot.watch context account application database)
      else .error (.store .numberTooLarge) := by
  obtain ⟨isThreadNo, isPostNo, isPostSubNo⟩ := storable
  have subscribed : (wholeNumber number >>= fun number => Watch.insert (some account)
        (some (spot.descriptor context database).1) (some number)) =
      Watch.insert (some account) (some (spot.descriptor context database).1)
        (some application) := by
    simp [wholeNumber, isNumber]
  rw [Watch.effect_place, Thread.effect_insert newest, if_pos isThreadNo]
  change ((Descriptor.insert (some (spot.thread context database).1) _ _).effect context
    (spot.thread context database).2 >>= _) = _
  rw [Descriptor.effect_insert (isNewest_thread newest) has_thread]
  by_cases isThread : isStorable (spot.thread context database).1 = true
  · rw [if_pos (by simp [isThread, isPostNo, isPostSubNo])]
    change ((Post.insert (some (spot.descriptor context database).1)).effect context
      (spot.descriptor context database).2 >>= _) = _
    rw [Post.effect_insert (isNewest_descriptor newest) has_descriptor]
    by_cases isFound : isStorable (spot.descriptor context database).1 = true
    · rw [if_pos isFound]
      change (wholeNumber number >>= fun number => Watch.insert (some account)
        (some (spot.descriptor context database).1) (some number)).effect context
          (spot.post context database).2 = _
      rw [subscribed, Watch.effect_insert (isNewest_post newest) (has_account stored)
        has_descriptor_post]
      simp [Fits, isThread, isFound, isStored, watch]
    · rw [if_neg isFound, if_neg fun fits => isFound fits.2.2]
      rfl
  · rw [if_neg (by simp [isThread]), if_neg fun fits => isThread fits.2.1]
    rfl

/-- What a spot has been resolved to is found again. -/
theorem thread_again (later : Context) :
    spot.thread later (spot.watch context account application database).2 =
      ((spot.thread context database).1, (spot.watch context account application database).2) := by
  have kept : (spot.thread context database).2.Agree
      (spot.watch context account application database).2 .threads :=
    .trans (.ensured (by decide)) (.trans (.ensured (by decide)) (.ensured (by decide)))
  refine Database.ensured_of_agree (NaturalKey.alike_thread.mpr rfl) (fun other => ?_) kept
  simp [Relation.alike, Relation.keyOf, Thread.naturalKey, Relation.cell, Thread.fresh]

theorem descriptor_again (later : Context) :
    spot.descriptor later (spot.watch context account application database).2 =
      ((spot.descriptor context database).1,
        (spot.watch context account application database).2) := by
  have kept : (spot.descriptor context database).2.Agree
      (spot.watch context account application database).2 .descriptors :=
    .trans (.ensured (by decide)) (.ensured (by decide))
  rw [descriptor, thread_again]
  exact Database.ensured_of_agree (NaturalKey.alike_descriptor.mpr rfl) (fun _ => rfl) kept

theorem post_again (later : Context) :
    spot.post later (spot.watch context account application database).2 =
      ((spot.post context database).1, (spot.watch context account application database).2) := by
  have kept : (spot.post context database).2.Agree
      (spot.watch context account application database).2 .posts := .ensured (by decide)
  rw [post, descriptor_again]
  refine Database.ensured_of_agree (NaturalKey.alike_post.mpr rfl) (fun other => ?_) kept
  simp [Relation.alike, Relation.keyOf, Post.naturalKey, Relation.cell, Post.fresh]

theorem watch_again (later : Context) :
    spot.watch later account application (spot.watch context account application database).2 =
      spot.watch context account application database := by
  rw [watch, post_again, descriptor_again]
  refine Database.ensured_of_agree ?_ (fun _ => rfl) rfl
  simp [Relation.alike, Relation.keyOf, Watch.naturalKey, Relation.cell]

end Spot

/-- A table whose numbers fit into the store, the next one too. -/
structure Store.Table.HasRoom {α : Type} (table : Table α) : Prop where
  next : isStorable table.nextId = true
  used : ∀ entry ∈ table.entries, isStorable entry.id = true

/-- The numbers that watching a post looks for fit into the store, those that are to come too. -/
structure Database.HasRoom (database : Database) : Prop where
  accounts : ∀ owner ∈ database.accounts.entries, isStorable owner.id = true
  threads : database.threads.HasRoom
  descriptors : database.descriptors.HasRoom

/-- The number of a row that is ensured fits into the store where the numbers of its table do. -/
theorem Store.Table.HasRoom.ensured {α : Type} [Relation α] {key : List Column} {row : α}
    (room : (Relation.read database : Table α).HasRoom) :
    isStorable (database.ensured key row).1 = true := by
  unfold Database.ensured
  cases found : (Relation.read database).find? fun entry => Relation.alike key row entry.row with
  | some entry => exact room.used entry (Table.of_find? found).1
  | none => exact room.next

theorem Database.HasRoom.fits (room : database.HasRoom) {owner : Entry Account}
    (stored : owner ∈ database.accounts.entries) (spot : Spot) :
    spot.Fits context owner.id database := by
  have same : database.Agree (spot.thread context database).2 .descriptors :=
    .ensured (by decide)
  have descriptors : (spot.thread context database).2.descriptors.HasRoom := by
    rw [← show database.descriptors = _ from same]
    exact room.descriptors
  exact ⟨room.accounts owner stored, room.threads.ensured, descriptors.ensured⟩

/-- An account that cannot be notified at a moment: it is deleted, has no date of expiry or has one
that has passed. -/
def Account.HasLapsed (account : Account) (clock : WallTime) : Prop :=
  account.deletedOn ≠ none ∨ account.validUntil = none ∨
    ∃ validUntil, account.validUntil = some validUntil ∧ validUntil.micros < clock.micros

theorem Account.HasLapsed.lapse {account : Account} {clock : WallTime}
    (lapsed : account.HasLapsed clock) :
    ∃ lapse, account.lapse (Moment.utc clock) = .ok (some lapse) := by
  unfold Account.lapse lapseOf Moment.utc
  cases gone : account.deletedOn with
  | some deletedOn => exact ⟨_, rfl⟩
  | none =>
      cases expires : account.validUntil with
      | none => exact ⟨_, rfl⟩
      | some validUntil =>
          rcases lapsed with isGone | never | ⟨other, isOther, passed⟩
          · exact absurd gone isGone
          · cases expires.symm.trans never
          · cases expires.symm.trans isOther
            exact ⟨_, if_pos (by simpa [expiry, Moment.instant] using passed)⟩

namespace Watch

variable {accountId site board : Option String} {threadNo postNo postSubNo : Option Int}
  {application : Value} {owner : Entry Account}

/-- An account that has lapsed is turned down. -/
theorem watchPost_lapsed (present : database.missing? [.accounts] = none)
    (named : database.accounts.find? (Account.isNamed accountId) = some owner) {lapse : Lapse}
    (lapsed : owner.row.lapse (Moment.utc context.clock) = .ok (some lapse)) :
    let outcome := (watchPost accountId site board threadNo postNo postSubNo application).perform
      context database draws
    outcome.answer = .error (.lapsed lapse) ∧ outcome.database = database := by
  intro outcome
  have failed : outcome.answer = .error (.lapsed lapse) := by
    refine Ends.answer_perform _ ?_
    rw [watchPost, ends_bind, Account.ends_lookup_of_present present]
    simp [named, Account.lapseAt, lapsed]
  exact ⟨failed, Achieves.of_failure (watchPost_achieves _ _ _ _ _ _ _) failed⟩

/-- An account that is not there is missed. -/
theorem watchPost_missing (present : database.missing? [.accounts] = none)
    (missing : database.accounts.find? (Account.isNamed accountId) = none) :
    let outcome := (watchPost accountId site board threadNo postNo postSubNo application).perform
      context database draws
    outcome.answer = .error (.noAccount accountId) ∧ outcome.database = database := by
  intro outcome
  have failed : outcome.answer = .error (.noAccount accountId) := by
    refine Ends.answer_perform _ ?_
    rw [watchPost, ends_bind, Account.ends_lookup_of_present present]
    simp [missing]
  exact ⟨failed, Achieves.of_failure (watchPost_achieves _ _ _ _ _ _ _) failed⟩

/-- Where a post is watched for an account in good standing. -/
theorem result_watchPost_at (newest : database.IsNewest)
    (named : database.accounts.find? (Account.isNamed accountId) = some owner)
    (valid : owner.row.lapse (Moment.utc context.clock) = .ok none) (spot : Spot)
    (storable : spot.IsStorable) {number : Int} (isNumber : application.toInteger = .ok number)
    (isStored : isStorable number = true) :
    ((watchPost accountId (some spot.site) (some spot.board) (some spot.threadNo)
        (some spot.postNo) (some spot.postSubNo) application).perform context database
        draws).result =
      if spot.Fits context owner.id database then
        .ok (spot.watch context owner.id number database)
      else .error (.store .numberTooLarge) := by
  have stored : database.accounts.has owner.id = true :=
    Table.has_iff.mpr ⟨owner, (Table.of_find? named).1, rfl⟩
  rw [result_watchPost (newest.missing?_eq_none _) named valid, ← effect_place_eq_byParts,
    spot.effect_place newest stored storable isNumber isStored]

/-- Where a post has been watched, the same answer is given again and nothing is changed. -/
theorem result_watchPost_again (newest : database.IsNewest)
    (named : database.accounts.find? (Account.isNamed accountId) = some owner) (spot : Spot)
    (storable : spot.IsStorable) {number : Int} (isNumber : application.toInteger = .ok number)
    (isStored : isStorable number = true) (fits : spot.Fits context owner.id database)
    {later : Context} (valid : owner.row.lapse (Moment.utc later.clock) = .ok none)
    (draws : Draws) :
    let watched := spot.watch context owner.id number database
    ((watchPost accountId (some spot.site) (some spot.board) (some spot.threadNo)
        (some spot.postNo) (some spot.postSubNo) application).perform later watched.2
        draws).result = .ok watched := by
  intro watched
  have stored : database.accounts.has owner.id = true :=
    Table.has_iff.mpr ⟨owner, (Table.of_find? named).1, rfl⟩
  have kept : database.Agree watched.2 .accounts :=
    .trans Spot.accounts_post (.ensured (by decide))
  have namedAgain : watched.2.accounts.find? (Account.isNamed accountId) = some owner := by
    rwa [← show database.accounts = _ from kept]
  have fitsAgain : spot.Fits later owner.id watched.2 := by
    unfold Spot.Fits
    rw [Spot.thread_again, Spot.descriptor_again]
    exact fits
  rw [result_watchPost_at (Spot.isNewest_watch newest stored) namedAgain valid spot storable
    isNumber isStored, if_pos fitsAgain, Spot.watch_again]

/-- Whoever has been answered has given a site and a board. -/
theorem exists_site_of_answer {id : Int}
    (answered : ((watchPost accountId site board threadNo postNo postSubNo application).perform
      context database draws).answer = .ok id) :
    ∃ siteName boardCode, site = some siteName ∧ board = some boardCode := by
  obtain ⟨_, _, placed⟩ := Achieves.of_answer (watchPost_achieves _ _ _ _ _ _ _) answered
  cases placed with
  | intro named valid threaded described posted watched =>
      cases threaded with
      | intro prepared inserts => exact ⟨_, _, rfl, rfl⟩

end Watch

/-- In every state of the newest revision, to watch a post for an account in good standing is to
resolve its thread and its descriptor, to ensure the post and to subscribe, one after the other. The
request is answered unless there is no room for the numbers of rows; asked again, while the account
is still in good standing, it answers the same and changes nothing. For an account that has lapsed,
or that does not exist, the request fails before anything has been made. -/
theorem Watch.watchPost_by_parts (reached : database.Reached)
    (newest : database.position = some .invites) (accountId site board : Option String)
    {threadNo postNo postSubNo number : Int} {application : Value}
    (isNumber : application.toInteger = .ok number)
    (storable : [threadNo, postNo, postSubNo, number].all isStorable = true) (context : Context)
    (draws : Draws) :
    let ask := watchPost accountId site board (some threadNo) (some postNo) (some postSubNo)
      application
    let outcome := ask.perform context database draws
    (∀ owner, database.accounts.find? (Account.isNamed accountId) = some owner →
      (owner.row.lapse (Moment.utc context.clock) = .ok none →
        outcome.result = byParts context draws owner.id site board (some threadNo) (some postNo)
            (some postSubNo) application database ∧
          (site.isSome = true → board.isSome = true →
            (∃ id, outcome.answer = .ok id) ∨
              outcome.answer = .error (.store .numberTooLarge) ∧ ¬database.HasRoom) ∧
          ∀ id, outcome.answer = .ok id → ∀ (later : Context) (moreDraws : Draws),
            owner.row.lapse (Moment.utc later.clock) = .ok none →
              (ask.perform later outcome.database moreDraws).result =
                .ok (id, outcome.database)) ∧
      (owner.row.HasLapsed context.clock →
        (∃ lapse, outcome.answer = .error (.lapsed lapse)) ∧ outcome.database = database)) ∧
    (database.accounts.find? (Account.isNamed accountId) = none →
      outcome.answer = .error (.noAccount accountId) ∧ outcome.database = database) := by
  intro ask outcome
  have newest := reached.isNewest newest
  have present : database.missing? [.accounts] = none := newest.missing?_eq_none _
  simp only [List.all_cons, List.all_nil, Bool.and_true, Bool.and_eq_true] at storable
  obtain ⟨isThreadNo, isPostNo, isPostSubNo, isStored⟩ := storable
  refine ⟨fun owner named => ⟨fun valid => ⟨result_watchPost present named valid, ?_, ?_⟩, ?_⟩,
    watchPost_missing present⟩
  · intro isSite isBoard
    obtain ⟨site, rfl⟩ := Option.isSome_iff_exists.mp isSite
    obtain ⟨board, rfl⟩ := Option.isSome_iff_exists.mp isBoard
    let spot : Spot := ⟨site, board, threadNo, postNo, postSubNo⟩
    have told : outcome.result = _ := result_watchPost_at newest named valid spot
      ⟨isThreadNo, isPostNo, isPostSubNo⟩ isNumber isStored
    split at told
    · exact .inl ⟨_, (Outcome.result_eq_ok_iff.mp told).1⟩
    · rename_i large
      exact .inr ⟨Outcome.result_eq_error_iff.mp told,
        fun room => large (room.fits (Table.of_find? named).1 spot)⟩
  · intro id answered later moreDraws still
    obtain ⟨siteName, boardCode, rfl, rfl⟩ := exists_site_of_answer answered
    let spot : Spot := ⟨siteName, boardCode, threadNo, postNo, postSubNo⟩
    have told : outcome.result = _ := result_watchPost_at newest named valid spot
      ⟨isThreadNo, isPostNo, isPostSubNo⟩ isNumber isStored
    rw [Outcome.result_eq_ok_iff.mpr ⟨answered, rfl⟩] at told
    split at told
    · rename_i fits
      have same : (id, outcome.database) = spot.watch context owner.id number database :=
        Except.ok.inj told
      have again := result_watchPost_again newest named spot ⟨isThreadNo, isPostNo, isPostSubNo⟩
        isNumber isStored fits still moreDraws
      rwa [← same] at again
    · cases told
  · intro lapsed
    obtain ⟨lapse, isLapse⟩ := lapsed.lapse
    obtain ⟨failed, same⟩ := watchPost_lapsed present named isLapse
    exact ⟨⟨lapse, failed⟩, same⟩

/-- The state after a run in which an account was made and watched a post. -/
def Database.brief : Database :=
  (atRevision .invites ⟨⟨0⟩, true⟩).after Watch.brief

/-- The account then watches another post of the same thread. -/
def Watch.more : Operation Int :=
  watchPost (some "a") (some "s") (some "b") (some 1) (some 3) (some 0) (.integer 0)

/-- The other post is watched by parts, with a descriptor that is new in a thread that is not, and
watching it again changes nothing. -/
theorem Watch.watchPost_by_parts_brief :
    (more.perform { clock := ⟨0⟩ } .brief {}).result =
        byParts { clock := ⟨0⟩ } {} 1 (some "s") (some "b") (some 1) (some 3) (some 0) (.integer 0)
          .brief ∧
      ∃ id, (more.perform { clock := ⟨0⟩ } .brief {}).answer = .ok id ∧
        (more.perform { clock := ⟨60000000⟩ }
          (more.perform { clock := ⟨0⟩ } .brief {}).database {}).result =
            .ok (id, (more.perform { clock := ⟨0⟩ } .brief {}).database) := by
  have named : Database.brief.accounts.find? (Account.isNamed (some "a")) = some Account.brief := by
    decide +kernel
  have room : Database.brief.HasRoom :=
    ⟨by decide +kernel, ⟨by decide +kernel, by decide +kernel⟩,
      ⟨by decide +kernel, by decide +kernel⟩⟩
  have reached : Database.brief.Reached := (Database.Reached.founded .invites ⟨⟨0⟩, true⟩).after _
  have storable : [(1 : Int), 3, 0, 0].all isStorable = true := by decide
  have told := watchPost_by_parts reached rfl (some "a") (some "s") (some "b")
    (show (Value.integer 0).toInteger = .ok 0 from rfl) storable { clock := ⟨0⟩ } {}
  obtain ⟨same, answers, again⟩ := (told.1 Account.brief named).1 rfl
  obtain ⟨id, answered⟩ := (answers rfl rfl).resolve_right fun refused => refused.2 room
  exact ⟨same, id, answered, again id answered { clock := ⟨60000000⟩ } {} rfl⟩

end Lookout
