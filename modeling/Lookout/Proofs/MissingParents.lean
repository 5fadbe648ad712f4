import Lookout.Proofs.Bulk

/-!
# Missing parents

Replies, watches, descriptors and posts name rows of other tables. Asking for one of them fails
because something does not exist exactly where one of the rows that it names is missing, and then
nothing has been changed. In every other case the request is answered, about the only row that is
known by what was asked for, and no row has been added but this one.
-/

namespace Lookout

open Operation Store
open Schema (Column Revision)

variable {context : Context} {database : Database} {draws : Draws}

namespace Database

/-- A number is that of the only row that is known by what was asked for. The row was there and
nothing has been changed, or it is the one row that has been added. -/
structure Ensures {α : Type} [Relation α] (before : Database) (isAsked : α → Prop) (made : α)
    (id : Int) (after : Database) : Prop where
  only : ∃ entry ∈ (Relation.read after : Table α).entries, entry.id = id ∧ isAsked entry.row ∧
    ∀ other ∈ (Relation.read after : Table α).entries, isAsked other.row → other = entry
  kept : (∃ entry ∈ (Relation.read before : Table α).entries, isAsked entry.row) → after = before
  added : (∀ entry ∈ (Relation.read before : Table α).entries, ¬isAsked entry.row) →
    after = before.added made

variable {α : Type} [Relation α] [LawfulRelation α] {key : List Column} {row : α}

/-- Ensuring a row ensures that there is only one row with its key. -/
theorem IsNewest.ensures (newest : database.IsNewest) {isAsked : α → Prop}
    (unique : key ∈ Revision.invites.catalog.uniqueKeys (Relation.table α))
    (only : ∀ columns ∈ Revision.invites.catalog.uniqueKeys (Relation.table α), columns = key)
    (isAsked_iff : ∀ other, isAsked other ↔ Relation.alike key row other = true)
    (isOwn : isAsked row)
    (rooted : database.IsRooted (Relation.table α) (Relation.cell row)) :
    database.Ensures isAsked row (database.ensured key row).1 (database.ensured key row).2 where
  only := by
    obtain ⟨entry, found, same⟩ := database.find?_ensured ((isAsked_iff row).mp isOwn)
    obtain ⟨stored, isAlike⟩ := Table.of_find? found
    refine ⟨entry, stored, same, (isAsked_iff entry.row).mpr isAlike, fun other isOther asked => ?_⟩
    have again := (newest.ensured only rooted).find?_alike unique isOther
      ((isAsked_iff other.row).mp asked)
    exact Option.some.inj (again.symm.trans found)
  kept := by
    rintro ⟨entry, stored, asked⟩
    have found := newest.find?_alike unique stored ((isAsked_iff entry.row).mp asked)
    rw [ensured_of_find? found]
  added absent := by
    unfold Database.ensured
    cases found : (Relation.read database : Table α).find? fun entry =>
        Relation.alike key row entry.row with
    | none => rfl
    | some entry =>
        obtain ⟨stored, isAlike⟩ := Table.of_find? found
        exact absurd ((isAsked_iff entry.row).mpr isAlike) (absent entry stored)

end Database

/-- A request cannot do without some rows. Where they are missing it fails, because something does
not exist, and leaves everything as it was. It fails for want of something nowhere else, but has its
effect. -/
structure Outcome.Requires {α : Type} (outcome : Outcome α) (before : Database) (failure : Failure)
    (parents : Prop) (effect : α → Database → Prop) : Prop where
  notFound_iff :
    (∃ cause, outcome.answer = .error cause ∧ cause.kind = .notFound) ↔ ¬parents
  refused : ¬parents → outcome.answer = .error failure ∧ outcome.database = before
  answered : parents → ∃ answer, outcome.answer = .ok answer ∧ effect answer outcome.database

theorem Outcome.requires {α : Type} {outcome : Outcome α} {before : Database} {failure : Failure}
    {parents : Prop} {effect : α → Database → Prop} (isNotFound : failure.kind = .notFound)
    (refused : ¬parents → outcome.answer = .error failure ∧ outcome.database = before)
    (answered : parents →
      ∃ answer, outcome.answer = .ok answer ∧ effect answer outcome.database) :
    outcome.Requires before failure parents effect where
  notFound_iff := by
    constructor
    · rintro ⟨cause, failed, -⟩ there
      obtain ⟨answer, told, -⟩ := answered there
      cases told.symm.trans failed
    · intro missing
      exact ⟨failure, (refused missing).1, isNotFound⟩
  refused := refused
  answered := answered

/-! ### Insertions without their parents -/

theorem Descriptor.effect_insert_of_orphaned (newest : database.IsNewest) {row : Descriptor}
    (storable : [row.thread, row.postNo, row.postSubNo].all isStorable = true)
    (missing : ¬database.threads.has row.thread = true) :
    (Descriptor.insert (some row.thread) (some row.postNo) (some row.postSubNo)).effect context
      database = .error (.noThread (some row.thread)) := by
  have prepared : database.obstacle? .descriptors (some naturalKey) = none :=
    newest.obstacle?_eq_none (by decide)
  obtain ⟨error, integral, refuses⟩ := newest.refuses_orphan context naturalKey row (by decide)
    (mt isRooted_iff.mp missing)
  apply effect_orFail_of_refusal integral
  simp only [ends_bind, ends_prepareInsertion, prepared, ends_fits, ends_needed, ends_pure,
    reduceCtorEq, false_implies, implies_true, true_and, forall_const, Option.some.injEq,
    forall_eq']
  exact ⟨fun large => by simp_all, fun _ => refuses _ rfl⟩

theorem Post.effect_insert_of_orphaned (newest : database.IsNewest) {descriptor : Int}
    (storable : isStorable descriptor = true)
    (missing : ¬database.descriptors.has descriptor = true) :
    (Post.insert (some descriptor)).effect context database =
      .error (.noDescriptor (some descriptor)) := by
  have prepared : database.obstacle? .posts (some naturalKey) = none :=
    newest.obstacle?_eq_none (by decide)
  obtain ⟨error, integral, refuses⟩ := newest.refuses_orphan context naturalKey
    (fresh context descriptor) (by decide) (mt isRooted_iff.mp missing)
  apply effect_orFail_of_refusal integral
  simp only [ends_bind, ends_prepareInsertion, prepared, ends_fits, ends_needed, ends_stamp,
    ends_pure, reduceCtorEq, false_implies, implies_true, true_and, forall_const,
    Option.some.injEq, forall_eq']
  exact ⟨fun large => by simp_all, fun _ => refuses _ rfl⟩

theorem Watch.effect_insert_of_orphaned (newest : database.IsNewest) {row : Watch}
    (storable : [row.account, row.descriptor, row.application].all isStorable = true)
    (missing : ¬(database.accounts.has row.account = true ∧
      database.descriptors.has row.descriptor = true)) :
    (Watch.insert (some row.account) (some row.descriptor) (some row.application)).effect context
      database = .error (.noWatchParent (some row.account) (some row.descriptor)) := by
  have prepared : database.obstacle? .watches (some naturalKey) = none :=
    newest.obstacle?_eq_none (by decide)
  obtain ⟨error, integral, refuses⟩ := newest.refuses_orphan context naturalKey row (by decide)
    (mt isRooted_iff.mp missing)
  apply effect_orFail_of_refusal integral
  simp only [ends_bind, ends_prepareInsertion, prepared, ends_fits, ends_needed, ends_pure,
    reduceCtorEq, false_implies, implies_true, true_and, forall_const, Option.some.injEq,
    forall_eq']
  exact ⟨fun large => by simp_all, fun _ => refuses _ rfl⟩

/-! ### Requests -/

/-- A request needs the parents of a row where it does what the insertion of the row does. -/
theorem Outcome.requires_parents {α : Type} [Relation α] {outcome : Outcome Int}
    {failure : Failure} {parents : Prop} {key : List Column} {isAsked : α → Prop} {row : α}
    (isNotFound : failure.kind = .notFound)
    (unchanged : outcome.answer = .error failure → outcome.database = database)
    (refused : ¬parents → outcome.result = .error failure)
    (answered : parents → outcome.result = .ok (database.ensured key row))
    (ensures : parents →
      database.Ensures isAsked row (database.ensured key row).1 (database.ensured key row).2) :
    outcome.Requires database failure parents (database.Ensures isAsked row) := by
  apply Outcome.requires isNotFound
  · intro missing
    have failed := Outcome.result_eq_error_iff.mp (refused missing)
    exact ⟨failed, unchanged failed⟩
  · intro there
    obtain ⟨told, left⟩ := Outcome.result_eq_ok_iff.mp (answered there)
    exact ⟨_, told, left ▸ ensures there⟩

/-- Recording a reply needs its account and its two posts. -/
theorem Edge.record_requires (newest : database.IsNewest) {edge : Edge}
    (storable : edge.IsStorable) :
    ((Reply.record (some edge.account) (some edge.descriptor) (some edge.replyTo)).perform context
      database draws).Requires database edge.orphaned (edge.HasParents database)
        (database.Ensures (fun reply => ofReply reply = edge) (edge.row context)) := by
  apply Outcome.requires_parents rfl (Reply.record_achieves _ _ _).of_failure
  · intro missing
    rw [Reply.result_record, effect_insert_of_orphaned context newest storable missing]
    rfl
  · intro parents
    rw [Reply.result_record, effect_insert context newest storable parents]
    rfl
  · intro parents
    exact newest.ensures (by decide) (by decide) (fun _ => alike_row.symm) rfl
      (isRooted_iff.mpr parents)

/-- Subscribing needs the account and the post. -/
theorem Watch.subscribe_requires (newest : database.IsNewest) {row : Watch} {application : Value}
    (isNumber : application.toInteger = .ok row.application)
    (storable : [row.account, row.descriptor, row.application].all isStorable = true) :
    ((subscribe (some row.account) (some row.descriptor) application).perform context database
      draws).Requires database (.noWatchParent (some row.account) (some row.descriptor))
        (database.accounts.has row.account = true ∧
          database.descriptors.has row.descriptor = true)
        (database.Ensures (fun watch => watch = row) row) := by
  have inserts : (wholeNumber application >>= fun number =>
        insert (some row.account) (some row.descriptor) (some number)) =
      insert (some row.account) (some row.descriptor) (some row.application) := by
    simp [wholeNumber, isNumber]
  apply Outcome.requires_parents rfl (subscribe_achieves _ _ _).of_failure
  · intro missing
    rw [result_subscribe, inserts, effect_insert_of_orphaned newest storable missing]
  · rintro ⟨isAccount, isDescriptor⟩
    rw [result_subscribe, inserts, effect_insert newest isAccount isDescriptor, if_pos storable]
  · intro parents
    exact newest.ensures (by decide) (by decide) (fun _ => NaturalKey.alike_watch.symm) rfl
      (isRooted_iff.mpr parents)

/-- Resolving a descriptor needs its thread. -/
theorem Descriptor.resolve_requires (newest : database.IsNewest) {row : Descriptor}
    (storable : [row.thread, row.postNo, row.postSubNo].all isStorable = true) :
    ((resolve (some row.thread) (some row.postNo) (some row.postSubNo)).perform context database
      draws).Requires database (.noThread (some row.thread))
        (database.threads.has row.thread = true)
        (database.Ensures (fun descriptor => descriptor = row) row) := by
  have inserts := (isPlain_insert (some row.thread) (some row.postNo)
    (some row.postSubNo)).result_committed context database draws
  apply Outcome.requires_parents rfl (resolve_achieves _ _ _).of_failure
  · intro missing
    exact inserts.trans (effect_insert_of_orphaned newest storable missing)
  · intro parent
    exact inserts.trans ((effect_insert newest parent _ _).trans (if_pos storable))
  · intro parent
    refine newest.ensures (by decide) (by decide) (fun other => ?_) rfl (isRooted_iff.mpr parent)
    obtain ⟨thread, postNo, postSubNo⟩ := row
    obtain ⟨otherThread, otherPostNo, otherPostSubNo⟩ := other
    simp [Relation.alike, Relation.keyOf, naturalKey, Relation.cell]

namespace Post

variable {descriptor : Int}

/-- The post of a descriptor is the only one once it has been ensured. -/
theorem ensures (newest : database.IsNewest) (context : Context)
    (parent : database.descriptors.has descriptor = true) :
    database.Ensures (fun post => post.descriptor = descriptor) (fresh context descriptor)
      (database.ensured naturalKey (fresh context descriptor)).1
      (database.ensured naturalKey (fresh context descriptor)).2 := by
  refine newest.ensures (by decide) (by decide) (fun other => ?_) rfl (isRooted_iff.mpr parent)
  simp [Relation.alike, Relation.keyOf, naturalKey, Relation.cell, fresh]

/-- Asking for a post needs its descriptor. -/
theorem ensure_requires (newest : database.IsNewest) (storable : isStorable descriptor = true) :
    ((ensure (some descriptor)).perform context database draws).Requires database
      (.noDescriptor (some descriptor)) (database.descriptors.has descriptor = true)
      (database.Ensures (fun post => post.descriptor = descriptor) (fresh context descriptor)) := by
  have inserts := (isPlain_insert (some descriptor)).result_committed context database draws
  apply Outcome.requires_parents rfl (ensure_achieves _).of_failure
  · intro missing
    exact inserts.trans (effect_insert_of_orphaned newest storable missing)
  · intro parent
    exact inserts.trans ((effect_insert newest parent).trans (if_pos storable))
  · intro parent
    exact ensures newest context parent

/-- The post under a number is dead, and nothing else has been changed. It was alive or not. -/
def Dies (before : Database) (id : Int) (wasAlive : Bool) (after : Database) : Prop :=
  (∃ post, ⟨id, post⟩ ∈ before.posts.entries ∧ wasAlive = !post.isDead) ∧
    after = before.updated (fun entry => entry.id = id) fun (post : Post) =>
      { post with isDead := true }

/-- Marking a post as dead does what its insertion does, and then the post dies. -/
theorem result_markDead (descriptor : Option Int) (context : Context) (database : Database)
    (draws : Draws) :
    ((markDead descriptor).perform context database draws).result =
      ((insert descriptor).effect context database).map fun (id, middle) =>
        (decide (0 < middle.posts.count fun entry => entry.id = id && !entry.row.isDead),
          middle.updated (fun (entry : Entry Post) => entry.id = id && !entry.row.isDead)
            fun row => { row with isDead := true }) := by
  have told := isPlain_insert descriptor context { saved := database, current := database, draws }
  apply result_perform_of_ends
  simp only [markDead, ends_bind, ends_updateWhere, ends_commit, ends_pure]
  apply told.imp
  · rintro id final ⟨effect, -⟩
    rw [effect]
    rfl
  · rintro failure final ⟨effect, -⟩
    rw [effect]
    rfl

/-- To mark a post that is alive is to mark it, whether it is alive or not. -/
theorem dies_of_stored {id : Int} {post : Post} (stored : ⟨id, post⟩ ∈ database.posts.entries) :
    Dies database id
      (decide (0 < database.posts.count fun entry => entry.id = id && !entry.row.isDead))
      (database.updated (fun (entry : Entry Post) => entry.id = id && !entry.row.isDead)
        fun row => { row with isDead := true }) := by
  constructor
  · refine ⟨post, stored, ?_⟩
    rw [Bool.eq_iff_iff, decide_eq_true_iff, Table.count, List.countP_pos_iff]
    constructor
    · rintro ⟨other, isOther, alive⟩
      simp only [Bool.and_eq_true, decide_eq_true_eq] at alive
      cases database.posts.eq_of_id_eq isOther stored alive.1
      exact alive.2
    · intro alive
      exact ⟨_, stored, by simpa using alive⟩
  · apply Database.updated_congr
    rintro ⟨number, ⟨owner, isDead, createdOn, deletedOn⟩⟩ -
    cases isDead <;> by_cases isIt : number = id <;> simp [isIt]

/-- Marking a post as dead needs its descriptor. -/
theorem markDead_requires (newest : database.IsNewest) (storable : isStorable descriptor = true) :
    ((markDead (some descriptor)).perform context database draws).Requires database
      (.noDescriptor (some descriptor)) (database.descriptors.has descriptor = true)
      fun wasAlive after => ∃ id middle,
        database.Ensures (fun post => post.descriptor = descriptor) (fresh context descriptor) id
          middle ∧ Dies middle id wasAlive after := by
  have told := result_markDead (some descriptor) context database draws
  apply Outcome.requires rfl
  · intro missing
    rw [effect_insert_of_orphaned newest storable missing] at told
    have failed := Outcome.result_eq_error_iff.mp told
    exact ⟨failed, (markDead_achieves _).of_failure failed⟩
  · intro parent
    rw [effect_insert newest parent, if_pos storable] at told
    have ensured := ensures newest context parent
    generalize database.ensured naturalKey (fresh context descriptor) = made at told ensured
    obtain ⟨id, middle⟩ := made
    obtain ⟨answered, left⟩ := Outcome.result_eq_ok_iff.mp told
    obtain ⟨⟨number, post⟩, stored, same, -⟩ := ensured.only
    subst same
    refine ⟨_, answered, _, middle, ensured, ?_⟩
    rw [left]
    exact dies_of_stored stored

end Post

/-- In a reached database of the newest revision, requests about rows that name others fail because
something does not exist exactly where a row that is named is missing. A reply names its account and
two posts, a watch its account and its post, a descriptor its thread, and a post its descriptor. -/
theorem Database.missing_parents_refused (reached : database.Reached)
    (newest : database.position = some .invites) (context : Context) (draws : Draws) :
    (∀ edge : Edge, edge.IsStorable →
      ((Reply.record (some edge.account) (some edge.descriptor) (some edge.replyTo)).perform context
        database draws).Requires database edge.orphaned (edge.HasParents database)
          (database.Ensures (fun reply => Edge.ofReply reply = edge) (edge.row context))) ∧
    (∀ (row : Watch) (application : Value), application.toInteger = .ok row.application →
      [row.account, row.descriptor, row.application].all isStorable = true →
      ((Watch.subscribe (some row.account) (some row.descriptor) application).perform context
        database draws).Requires database
          (.noWatchParent (some row.account) (some row.descriptor))
          (database.accounts.has row.account = true ∧
            database.descriptors.has row.descriptor = true)
          (database.Ensures (fun watch => watch = row) row)) ∧
    (∀ row : Descriptor, [row.thread, row.postNo, row.postSubNo].all isStorable = true →
      ((Descriptor.resolve (some row.thread) (some row.postNo) (some row.postSubNo)).perform context
        database draws).Requires database (.noThread (some row.thread))
          (database.threads.has row.thread = true)
          (database.Ensures (fun descriptor => descriptor = row) row)) ∧
    ∀ descriptor : Int, isStorable descriptor = true →
      let parent := database.descriptors.has descriptor = true
      let ensures := database.Ensures (fun post => post.descriptor = descriptor)
        (Post.fresh context descriptor)
      ((Post.ensure (some descriptor)).perform context database draws).Requires database
          (.noDescriptor (some descriptor)) parent ensures ∧
        ((Post.markDead (some descriptor)).perform context database draws).Requires database
          (.noDescriptor (some descriptor)) parent fun wasAlive after =>
            ∃ id middle, ensures id middle ∧ Post.Dies middle id wasAlive after := by
  have isNewest := reached.isNewest newest
  refine ⟨?_, ?_, ?_, ?_⟩
  · intro edge storable
    exact Edge.record_requires isNewest storable
  · intro row application isNumber storable
    exact Watch.subscribe_requires isNewest isNumber storable
  · intro row storable
    exact Descriptor.resolve_requires isNewest storable
  · intro descriptor storable
    exact ⟨Post.ensure_requires isNewest storable, Post.markDead_requires isNewest storable⟩

/-- With one account, one thread and one post that is watched: what is there is answered as it is, a
reply to a post that is missing is turned down, and so are watches, descriptors and posts without
their parents. -/
theorem Database.missing_parents_refused_brief :
    let outcome {α : Type} (operation : Operation α) : Outcome α :=
      operation.perform { clock := ⟨0⟩ } .brief {}
    brief.Reached ∧ brief.position = some .invites ∧
      (∃ id, (outcome (Watch.subscribe (some 1) (some 1) (.integer 0))).answer = .ok id ∧
        brief.Ensures (fun watch => watch = ⟨1, 1, 0⟩) (⟨1, 1, 0⟩ : Watch) id
          (outcome (Watch.subscribe (some 1) (some 1) (.integer 0))).database) ∧
      (outcome (Reply.record (some 1) (some 1) (some 2))).answer =
        .error (.noReplyParent (some 1) (some 1) (some 2)) ∧
      (outcome (Descriptor.resolve (some 2) (some 3) (some 0))).database = brief ∧
      (∃ cause, (outcome (Post.ensure (some 2))).answer = .error cause ∧ cause.kind = .notFound) ∧
      ∃ wasAlive, (outcome (Post.markDead (some 1))).answer = .ok wasAlive := by
  intro outcome
  have reached : brief.Reached := (Reached.founded .invites ⟨⟨0⟩, true⟩).after _
  obtain ⟨recorded, subscribed, resolved, posts⟩ :=
    missing_parents_refused reached rfl { clock := ⟨0⟩ } {}
  refine ⟨reached, rfl, ?_, ?_, ?_, ?_, ?_⟩
  · exact (subscribed ⟨1, 1, 0⟩ (.integer 0) rfl (by decide)).answered
      ⟨by decide +kernel, by decide +kernel⟩
  · exact ((recorded ⟨1, 1, 2⟩ (by decide)).refused (by decide +kernel)).1
  · exact ((resolved ⟨2, 3, 0⟩ (by decide)).refused (by decide +kernel)).2
  · exact (posts 2 (by decide)).1.notFound_iff.mpr (by decide +kernel)
  · obtain ⟨wasAlive, answered, -⟩ := (posts 1 (by decide)).2.answered (by decide +kernel)
    exact ⟨wasAlive, answered⟩

end Lookout
