import Lookout.Proofs.Persistence

/-!
# Natural keys

Threads, descriptors, posts and accounts are asked for by what they are known by, and the answer
is a number. For as long as the row is there this number stands for this key and no other, and
asking for a key that has a number changes nothing.
-/

namespace Lookout

open Operation Store
open Schema (Column Revision TableName)
open Time (Moment Stamp)

/-- What a thread, a descriptor, a post or an account is asked for by. -/
inductive NaturalKey where
  | thread (site board : Option String) (number : Option Int)
  | descriptor (thread postNo postSubNo : Option Int)
  | post (descriptor : Option Int)
  | account (accountId : Option String)
  deriving DecidableEq

namespace NaturalKey

/-- The table whose rows are asked for by a key. -/
def table : NaturalKey → TableName
  | thread .. => .threads
  | descriptor .. => .descriptors
  | post .. => .posts
  | account .. => .accounts

/-- Ask for the number of a key. A row that is missing is made; an account that is made expires
on the given date. -/
def resolve (validUntil : Option Moment) : NaturalKey → Operation Int
  | thread site board number => Thread.resolve site board number
  | descriptor inThread postNo postSubNo => Descriptor.resolve inThread postNo postSubNo
  | post described => Post.ensure described
  | account accountId => Account.upsert accountId validUntil

/-- The key of a thread. -/
def ofThread (row : Thread) : NaturalKey :=
  thread (some row.site) (some row.board) (some row.number)

/-- The key of a descriptor. -/
def ofDescriptor (row : Descriptor) : NaturalKey :=
  descriptor (some row.thread) (some row.postNo) (some row.postSubNo)

/-- The key of a post. -/
def ofPost (row : Post) : NaturalKey :=
  post (some row.descriptor)

/-- The key of an account. -/
def ofAccount (row : Account) : NaturalKey :=
  account (some row.accountId)

/-- The row under a number has a key. -/
def IsAt (database : Database) (id : Int) (key : NaturalKey) : Prop :=
  match key.table with
  | .threads => database.Has id fun row => ofThread row = key
  | .descriptors => database.Has id fun row => ofDescriptor row = key
  | .posts => database.Has id fun row => ofPost row = key
  | .accounts => database.Has id fun row => ofAccount row = key
  | _ => False

/-- The number of a key, if a row has it. -/
def number? (database : Database) (key : NaturalKey) : Option Int :=
  match key.table with
  | .threads => (database.threads.find? fun entry => ofThread entry.row = key).map (·.id)
  | .descriptors =>
      (database.descriptors.find? fun entry => ofDescriptor entry.row = key).map (·.id)
  | .posts => (database.posts.find? fun entry => ofPost entry.row = key).map (·.id)
  | .accounts => (database.accounts.find? fun entry => ofAccount entry.row = key).map (·.id)
  | _ => none

/-- Whether the numbers of a key can be looked for. -/
def isStorable : NaturalKey → Bool
  | thread _ _ number => number.all Operation.isStorable
  | descriptor inThread postNo postSubNo =>
      [inThread, postNo, postSubNo].all fun number => number.all Operation.isStorable
  | post described => described.all Operation.isStorable
  | account _ => true

/-- Whether a request deletes the account with a key. -/
def IsDeletedBy (key : NaturalKey) (request : Request) : Prop :=
  ∃ accountId, key = account accountId ∧ request = .deleteAccount accountId

/-! ### Rows that are alike have the same key -/

theorem alike_thread {left right : Thread} :
    Relation.alike Thread.naturalKey left right = true ↔ ofThread left = ofThread right := by
  rw [eq_comm (a := ofThread left)]
  simp [Relation.alike, Relation.keyOf, Thread.naturalKey, Relation.cell, ofThread]

theorem alike_descriptor {left right : Descriptor} :
    Relation.alike Descriptor.naturalKey left right = true ↔
      ofDescriptor left = ofDescriptor right := by
  rw [eq_comm (a := ofDescriptor left)]
  simp [Relation.alike, Relation.keyOf, Descriptor.naturalKey, Relation.cell, ofDescriptor]

theorem alike_post {left right : Post} :
    Relation.alike Post.naturalKey left right = true ↔ ofPost left = ofPost right := by
  rw [eq_comm (a := ofPost left)]
  simp [Relation.alike, Relation.keyOf, Post.naturalKey, Relation.cell, ofPost]

theorem alike_account {left right : Account} :
    Relation.alike [.accountId] left right = true ↔ ofAccount left = ofAccount right := by
  rw [eq_comm (a := ofAccount left)]
  simp [Relation.alike, Relation.keyOf, Relation.cell, ofAccount]

theorem alike_watch {left right : Watch} :
    Relation.alike Watch.naturalKey left right = true ↔ right = left := by
  obtain ⟨account, descriptor, application⟩ := left
  obtain ⟨otherAccount, otherDescriptor, otherApplication⟩ := right
  simp [Relation.alike, Relation.keyOf, Watch.naturalKey, Relation.cell]

/-! ### Rows of one kind

What is said of keys is said first of the rows of one kind, where being alike in some columns is to
have the same key. -/

section Kind

variable {α : Type} [Relation α] [LawfulRelation α] {database before after : Database}
  {columns : List Column} {key : α → NaturalKey}
  (alike : ∀ {left right : α}, Relation.alike columns left right = true ↔ key left = key right)

include alike

/-- The numbers of two keys of a kind are the same where the keys are. -/
theorem id_eq_iff_of_alike (newest : database.IsNewest)
    (unique : columns ∈ Revision.invites.catalog.uniqueKeys (Relation.table α))
    {id other : Int} {first second : NaturalKey}
    (isFirst : database.Has id fun row => key row = first)
    (isSecond : database.Has other fun row => key row = second) : id = other ↔ first = second := by
  obtain ⟨firstRow, firstStored, rfl⟩ := isFirst
  obtain ⟨secondRow, secondStored, rfl⟩ := isSecond
  constructor
  · rintro rfl
    cases Table.eq_of_id_eq _ firstStored secondStored rfl
    rfl
  · intro same
    exact congrArg Entry.id
      (newest.eq_of_alike unique firstStored secondStored (alike.mpr same))

/-- The row of a key is found under its number. -/
theorem find?_eq_some_iff_of_alike (newest : database.IsNewest)
    (unique : columns ∈ Revision.invites.catalog.uniqueKeys (Relation.table α))
    {id : Int} {wanted : NaturalKey} :
    ((Relation.read database : Table α).find? fun entry => key entry.row = wanted).map (·.id) =
      some id ↔ database.Has id fun row => key row = wanted := by
  constructor
  · intro isId
    obtain ⟨entry, isFound, rfl⟩ := Option.map_eq_some_iff.mp isId
    obtain ⟨stored, isNamed⟩ := Table.of_find? isFound
    exact ⟨entry.row, stored, of_decide_eq_true isNamed⟩
  · rintro ⟨row, stored, isNamed⟩
    rw [Table.find?_of_unique stored (decide_eq_true isNamed) fun other isOther same =>
      newest.eq_of_alike unique isOther stored
        (alike.mpr ((of_decide_eq_true same).trans isNamed.symm))]
    rfl

/-- The row that is there after an insertion has the key. -/
theorem has_of_inserts {row : α} {id : Int} {isNew : Bool}
    (inserts : before.Inserts columns row (id, isNew) after) :
    after.Has id fun other => key other = key row := by
  obtain ⟨other, stored, isAlike⟩ := inserts.has (alike.mpr rfl)
  exact ⟨other, stored, (alike.mp isAlike).symm⟩

omit [LawfulRelation α] in
/-- Nothing is inserted where the key has a number. -/
theorem unchanged_of_inserts {row : α} {answer : Int × Bool}
    (inserts : before.Inserts columns row answer after) {held : Int}
    (isHeld : before.Has held fun other => key other = key row) : after = before := by
  obtain ⟨other, stored, same⟩ := isHeld
  exact inserts.unchanged stored (alike.mpr same.symm)

end Kind

/-! ### Keys of every kind -/

/-- A number stands for one key, and a key has one number. -/
theorem id_eq_iff {database : Database} (newest : database.IsNewest) {first second : NaturalKey}
    (sameKind : first.table = second.table) {id other : Int} (isFirst : IsAt database id first)
    (isSecond : IsAt database other second) : id = other ↔ first = second := by
  cases first <;> cases second <;> cases sameKind
  · exact id_eq_iff_of_alike alike_thread newest (by decide) isFirst isSecond
  · exact id_eq_iff_of_alike alike_descriptor newest (by decide) isFirst isSecond
  · exact id_eq_iff_of_alike alike_post newest (by decide) isFirst isSecond
  · exact id_eq_iff_of_alike alike_account newest (by decide) isFirst isSecond

theorem number?_eq_some_iff {database : Database} (newest : database.IsNewest) {key : NaturalKey}
    {id : Int} : key.number? database = some id ↔ IsAt database id key := by
  cases key with
  | thread => exact find?_eq_some_iff_of_alike alike_thread newest (by decide)
  | descriptor => exact find?_eq_some_iff_of_alike alike_descriptor newest (by decide)
  | post => exact find?_eq_some_iff_of_alike alike_post newest (by decide)
  | account => exact find?_eq_some_iff_of_alike alike_account newest (by decide)

/-- The row of a key is there under a number: it was, or it has been added. -/
inductive Resolves (before after : Database) (id : Int) : NaturalKey → Prop where
  | thread {row : Thread} {isNew : Bool}
      (inserts : before.Inserts Thread.naturalKey row (id, isNew) after) :
      Resolves before after id (ofThread row)
  | descriptor {row : Descriptor} {isNew : Bool}
      (inserts : before.Inserts Descriptor.naturalKey row (id, isNew) after) :
      Resolves before after id (ofDescriptor row)
  | post {row : Post} {isNew : Bool}
      (inserts : before.Inserts Post.naturalKey row (id, isNew) after) :
      Resolves before after id (ofPost row)
  | account {row : Account} {isNew : Bool}
      (inserts : before.Inserts [.accountId] row (id, isNew) after) :
      Resolves before after id (ofAccount row)

/-- Asking for the number of a key that is answered makes sure that its row is there. -/
theorem resolve_achieves {context : Context} {database : Database} (validUntil : Option Moment)
    (key : NaturalKey) :
    (key.resolve validUntil).Achieves context database
      fun id after => Resolves database after id key := by
  cases key with
  | thread site board number =>
      intro draws
      refine (Thread.resolve_achieves site board number draws).imp ?_ (fun _ _ saved => saved)
      rintro id final ⟨prepared, inserts⟩
      exact .thread inserts
  | descriptor inThread postNo postSubNo =>
      intro draws
      refine (Descriptor.resolve_achieves inThread postNo postSubNo draws).imp ?_
        (fun _ _ saved => saved)
      rintro id final ⟨prepared, inserts⟩
      exact .descriptor inserts
  | post described =>
      intro draws
      refine (Post.ensure_achieves described draws).imp ?_ (fun _ _ saved => saved)
      rintro id final ⟨prepared, inserts⟩
      exact .post inserts
  | account accountId =>
      intro draws
      refine (Account.upsert_achieves accountId validUntil draws).imp ?_ (fun _ _ saved => saved)
      rintro id final ⟨prepared, inserts⟩
      exact .account inserts

namespace Resolves

variable {before after : Database} {id : Int} {key : NaturalKey}

/-- The number that is answered is that of the key. -/
theorem isAt (resolves : Resolves before after id key) : IsAt after id key := by
  cases resolves with
  | thread inserts => exact has_of_inserts alike_thread inserts
  | descriptor inserts => exact has_of_inserts alike_descriptor inserts
  | post inserts => exact has_of_inserts alike_post inserts
  | account inserts => exact has_of_inserts alike_account inserts

/-- Nothing is added for a key that has a number. -/
theorem unchanged (resolves : Resolves before after id key) {held : Int}
    (isHeld : IsAt before held key) : after = before := by
  cases resolves with
  | thread inserts => exact unchanged_of_inserts alike_thread inserts isHeld
  | descriptor inserts => exact unchanged_of_inserts alike_descriptor inserts isHeld
  | post inserts => exact unchanged_of_inserts alike_post inserts isHeld
  | account inserts => exact unchanged_of_inserts alike_account inserts isHeld

end Resolves

/-- A turn leaves a key its number, unless it deletes the account of the key. -/
theorem IsAt.outcome {database : Database} {id : Int} {key : NaturalKey}
    (isAt : IsAt database id key) (turn : Turn) (spared : ¬key.IsDeletedBy turn.request) :
    IsAt (turn.outcome database).database id key := by
  cases key with
  | thread site board number =>
      exact turn.has_thread (fun name =>
        thread (some name.1) (some name.2.1) (some name.2.2) = thread site board number) isAt
  | descriptor inThread postNo postSubNo =>
      obtain ⟨row, stored, same⟩ := isAt
      exact ⟨row, turn.mem_descriptors stored, same⟩
  | post described =>
      exact turn.has_post (fun _ same => same) isAt
  | account accountId =>
      obtain ⟨row, stored, same⟩ := isAt
      cases same
      have kept := turn.has_account ⟨row, stored, .refl row⟩ fun deleted =>
        spared ⟨_, rfl, deleted⟩
      obtain ⟨later, isStored, continues⟩ := kept
      exact ⟨later, isStored, congrArg (account <| some ·) continues.accountId⟩

theorem IsAt.after {database : Database} {id : Int} {key : NaturalKey}
    (isAt : IsAt database id key) {turns : List Turn}
    (spared : ∀ turn ∈ turns, ¬key.IsDeletedBy turn.request) :
    IsAt (database.after turns) id key := by
  have kept (turn : Turn) (isTurn : turn ∈ turns) (before : Database)
      (isAt : IsAt before id key) : IsAt (turn.outcome before).database id key :=
    isAt.outcome turn (spared turn isTurn)
  exact Database.after_of_kept_by kept isAt

variable {database : Database} {context : Context} {draws : Draws} {validUntil : Option Moment}
  {key : NaturalKey}

/-- The turn that asks for the number of a key. -/
def turn (validUntil : Option Moment) (context : Context) (draws : Draws) : NaturalKey → Turn
  | thread site board number => ⟨.resolveThread site board number, context, draws⟩
  | descriptor inThread postNo postSubNo =>
      ⟨.resolveDescriptor inThread postNo postSubNo, context, draws⟩
  | post described => ⟨.ensurePost described, context, draws⟩
  | account accountId => ⟨.upsertAccount accountId validUntil, context, draws⟩

theorem database_resolve (key : NaturalKey) :
    ((key.resolve validUntil).perform context database draws).database =
      ((key.turn validUntil context draws).outcome database).database := by
  cases key <;> rfl

/-- Asking for a key deletes nothing. -/
theorem not_isDeletedBy_turn (key other : NaturalKey) :
    ¬other.IsDeletedBy (key.turn validUntil context draws).request := by
  rintro ⟨accountId, -, deletes⟩
  cases key <;> cases deletes

/-! ### Asking for what is there

A stored row answers its number, unless it has a number that is too large to be looked for. -/

theorem answer_thread (newest : database.IsNewest) {id : Int} {row : Thread}
    (stored : ⟨id, row⟩ ∈ database.threads.entries) :
    (((ofThread row).resolve validUntil).perform context database draws).answer =
      if (ofThread row).isStorable then .ok id else .error (.store .numberTooLarge) := by
  have unique : Thread.naturalKey ∈ Revision.invites.catalog.uniqueKeys .threads := by decide
  let made : Thread :=
    { site := row.site, board := row.board, number := row.number,
      createdOn := Stamp.ofClock context.clock }
  have alike : Relation.alike Thread.naturalKey made row = true := alike_thread.mpr rfl
  have found := newest.find?_alike unique stored alike
  refine Ends.answer_perform _ ?_
  by_cases storable : Operation.isStorable row.number = true
  · simp [-ends_addUnlessAlike, ofThread, isStorable, resolve, Thread.resolve, Thread.insert,
      newest.obstacle?_eq_none unique, storable, ends_addUnlessAlike_of_found found, made]
  · simp [ofThread, isStorable, resolve, Thread.resolve, Thread.insert,
      newest.obstacle?_eq_none unique, storable]

theorem answer_descriptor (newest : database.IsNewest) {id : Int} {row : Descriptor}
    (stored : ⟨id, row⟩ ∈ database.descriptors.entries) :
    (((ofDescriptor row).resolve validUntil).perform context database draws).answer =
      if (ofDescriptor row).isStorable then .ok id else .error (.store .numberTooLarge) := by
  have unique : Descriptor.naturalKey ∈ Revision.invites.catalog.uniqueKeys .descriptors := by
    decide
  have alike : Relation.alike Descriptor.naturalKey row row = true := alike_descriptor.mpr rfl
  have found := newest.find?_alike unique stored alike
  refine Ends.answer_perform _ ?_
  by_cases storable : (ofDescriptor row).isStorable = true
  · rw [if_pos storable]
    simp only [isStorable, ofDescriptor] at storable
    simp [-ends_addUnlessAlike, ofDescriptor, resolve, Descriptor.resolve, Descriptor.insert,
      newest.obstacle?_eq_none unique, List.all_eq_true.mp storable,
      ends_addUnlessAlike_of_found found]
  · rw [if_neg storable]
    simp only [isStorable, ofDescriptor, List.all_cons, Option.all_some, List.all_nil,
      Bool.and_true, Bool.and_eq_true, not_and, Bool.not_eq_true] at storable
    simp +contextual [ofDescriptor, resolve, Descriptor.resolve, Descriptor.insert,
      newest.obstacle?_eq_none unique, StoreError.isIntegrity, storable]

theorem answer_post (newest : database.IsNewest) {id : Int} {row : Post}
    (stored : ⟨id, row⟩ ∈ database.posts.entries) :
    (((ofPost row).resolve validUntil).perform context database draws).answer =
      if (ofPost row).isStorable then .ok id else .error (.store .numberTooLarge) := by
  have unique : Post.naturalKey ∈ Revision.invites.catalog.uniqueKeys .posts := by decide
  let made : Post := { descriptor := row.descriptor, createdOn := Stamp.ofClock context.clock }
  have alike : Relation.alike Post.naturalKey made row = true := alike_post.mpr rfl
  have found := newest.find?_alike unique stored alike
  refine Ends.answer_perform _ ?_
  by_cases storable : Operation.isStorable row.descriptor = true
  · simp [-ends_addUnlessAlike, ofPost, isStorable, resolve, Post.ensure, Post.insert,
      newest.obstacle?_eq_none unique, storable, ends_addUnlessAlike_of_found found, made]
  · simp [ofPost, isStorable, resolve, Post.ensure, Post.insert,
      newest.obstacle?_eq_none unique, StoreError.isIntegrity, storable]

theorem answer_account (newest : database.IsNewest) {id : Int} {row : Account}
    (stored : ⟨id, row⟩ ∈ database.accounts.entries) :
    (((ofAccount row).resolve validUntil).perform context database draws).answer = .ok id := by
  have unique : [.accountId] ∈ Revision.invites.catalog.uniqueKeys .accounts := by decide
  let made : Account :=
    { accountId := row.accountId, validUntil := validUntil.map (·.wall),
      createdOn := Stamp.ofClock context.clock }
  have alike : Relation.alike [.accountId] made row = true := alike_account.mpr rfl
  have found := newest.find?_alike unique stored alike
  refine Ends.answer_perform _ ?_
  simp [-ends_addUnlessAlike, ofAccount, resolve, Account.upsert,
    newest.obstacle?_eq_none unique, ends_addUnlessAlike_of_found found, made]

/-- Asking for a key that has a number changes nothing. -/
theorem database_resolve_of_isAt {id : Int} (isAt : IsAt database id key) :
    ((key.resolve validUntil).perform context database draws).database = database := by
  have achieves : (key.resolve validUntil).Achieves context database _ :=
    resolve_achieves validUntil key
  cases told : ((key.resolve validUntil).perform context database draws).answer with
  | error failure => exact achieves.of_failure told
  | ok given =>
      have resolves : Resolves _ _ _ _ := achieves.of_answer told
      exact resolves.unchanged isAt

/-- It is answered with that number, or refused for a number that is too large. -/
theorem answer_resolve (newest : database.IsNewest) {id : Int} (isAt : IsAt database id key) :
    ((key.resolve validUntil).perform context database draws).answer =
      if key.isStorable then .ok id else .error (.store .numberTooLarge) := by
  cases key with
  | thread site board number =>
      obtain ⟨row, stored, same⟩ := isAt
      rw [← same]
      exact answer_thread newest stored
  | descriptor inThread postNo postSubNo =>
      obtain ⟨row, stored, same⟩ := isAt
      rw [← same]
      exact answer_descriptor newest stored
  | post described =>
      obtain ⟨row, stored, same⟩ := isAt
      rw [← same]
      exact answer_post newest stored
  | account accountId =>
      obtain ⟨row, stored, same⟩ := isAt
      rw [← same]
      exact answer_account newest stored

/-- In a run on a database of the newest revision, two answers about keys of a kind are the same
exactly where the keys are, whatever happens in between, as long as the account that the first
answer is about is not deleted. Asking for a key that has a number answers this number, unless the
store cannot look for the key, and changes nothing. -/
theorem answers_eq_iff {database : Database} (reached : database.Reached)
    (newest : database.position = some .invites) :
    (∀ (first second : NaturalKey) (validUntil laterValidUntil : Option Moment)
        (context laterContext : Context) (draws laterDraws : Draws) (middle : List Turn)
        (id laterId : Int),
      let left := (first.resolve validUntil).perform context database draws
      let later := (second.resolve laterValidUntil).perform laterContext
        (left.database.after middle) laterDraws
      first.table = second.table → left.answer = .ok id →
        (∀ turn ∈ middle, ¬first.IsDeletedBy turn.request) → later.answer = .ok laterId →
          (id = laterId ↔ first = second)) ∧
    ∀ (key : NaturalKey) (id : Int), IsAt database id key →
      ∀ (validUntil : Option Moment) (context : Context) (draws : Draws),
        let again := (key.resolve validUntil).perform context database draws
        again.database = database ∧
          again.answer = if key.isStorable then .ok id else .error (.store .numberTooLarge) := by
  have isNewest := reached.isNewest newest
  constructor
  · intro first second validUntil laterValidUntil context laterContext draws laterDraws middle id
      laterId left later sameKind answered spared laterAnswered
    have resolves : Resolves database left.database id first :=
      (resolve_achieves validUntil first).of_answer answered
    have laterResolves : Resolves (left.database.after middle) later.database laterId second :=
      (resolve_achieves laterValidUntil second).of_answer laterAnswered
    have middleNewest : (left.database.after middle).IsNewest := by
      refine Database.IsNewest.after ?_ middle
      simp only [left, database_resolve]
      exact isNewest.outcome _
    have laterNewest : later.database.IsNewest := by
      simp only [later, database_resolve]
      exact middleNewest.outcome _
    -- Neither the turns in between nor the second question take the first number away.
    have kept : IsAt later.database id first := by
      simp only [later, database_resolve]
      exact (resolves.isAt.after spared).outcome _ (not_isDeletedBy_turn second first)
    exact id_eq_iff laterNewest sameKind kept laterResolves.isAt
  · exact fun key id isAt validUntil context draws =>
      ⟨database_resolve_of_isAt isAt, answer_resolve isNewest isAt⟩

/-- An account is deleted between two questions about threads, the first of which is about a
thread that a watch has made. -/
theorem answers_eq_iff_watched :
    let database := (Database.atRevision .invites ⟨⟨0⟩, true⟩).after <|
      [.upsertAccount (some "a") (some (Moment.utc ⟨60000000⟩)),
        .watchPost (some "a") (some "s") (some "b") (some 1) (some 2) (some 0)
          (.integer 0)].map fun request => { request, context := { clock := ⟨0⟩ } }
    let context : Context := { clock := ⟨7⟩ }
    let first := thread (some "s") (some "b") (some 1)
    let second := thread (some "s") (some "c") (some 1)
    let middle : List Turn := [{ request := .deleteAccount (some "a"), context }]
    let left := (first.resolve none).perform context database {}
    let later := (second.resolve none).perform context (left.database.after middle) {}
    database.Reached ∧ database.position = some .invites ∧ first.table = second.table ∧
      left.answer = .ok 1 ∧ (∀ turn ∈ middle, ¬first.IsDeletedBy turn.request) ∧
      later.answer = .ok 2 ∧ ((1 : Int) = 2 ↔ first = second) ∧
      IsAt database 1 first ∧ left.database = database := by
  intro database context first second middle left later
  have reached : database.Reached := (Database.Reached.founded .invites ⟨⟨0⟩, true⟩).after _
  have spared : ∀ turn ∈ middle, ¬first.IsDeletedBy turn.request := by
    rintro turn isOne ⟨accountId, isAccount, -⟩
    exact absurd isAccount NaturalKey.noConfusion
  have answered : left.answer = .ok 1 := rfl
  have laterAnswered : later.answer = .ok 2 := rfl
  have isAt : IsAt database 1 first :=
    ⟨{ site := "s", board := "b", number := 1, createdOn := Time.Stamp.ofClock ⟨0⟩ },
      by decide +kernel, rfl⟩
  obtain ⟨sameNumbers, unchanged⟩ := answers_eq_iff reached rfl
  exact ⟨reached, rfl, rfl, answered, spared, laterAnswered,
    sameNumbers first second none none context context {} {} middle 1 2 rfl answered spared
      laterAnswered,
    isAt, (unchanged first 1 isAt none context {}).1⟩

end NaturalKey

end Lookout
