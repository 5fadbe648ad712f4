import Lookout.Proofs.Effects.Accounts

/-!
# Effects on threads, descriptors, posts and watches

Each operation on what a board holds and on who watches it has the effect that its request is
said to have, and leaves nothing behind where it fails.
-/

namespace Lookout

open Operation Store
open Time (Moment)

variable {context : Context} {database : Database}

namespace Thread

theorem insert_prepares (site board : Option String) (number : Option Int) :
    (insert site board number).Prepares context fun before id after =>
      Inserted context before site board number id after := by
  intro session
  simp only [insert, ends_bind, ends_prepareInsertion, ends_fits, ends_needed, ends_stamp,
    ends_addUnlessAlike, ends_pure, implies_true, true_and]
  rintro prepared _ site rfl board rfl number rfl id isNew after inserts
  exact .intro prepared inserts

/-- A thread that is demanded is stored under its number. -/
theorem demand_prepares (id : Option Int) :
    (demand id).Prepares context fun before held after =>
      (held ∈ before.threads.entries ∧ some held.id = id) ∧ after = before := by
  intro session
  simp only [demand, lookup, ends_bind, ends_require, ends_fits, ends_rows, ends_pure,
    implies_true, true_and]
  intro _ _
  cases found : (Relation.read session.current : Table Thread).find? fun entry =>
    some entry.id = id with
  | none => exact rfl
  | some held =>
      obtain ⟨stored, isGiven⟩ := Table.of_find? found
      exact ⟨rfl, ⟨stored, of_decide_eq_true isGiven⟩, rfl⟩

theorem resolve_achieves (site board : Option String) (number : Option Int) :
    (resolve site board number).Achieves context database
      ((Request.resolveThread site board number).Effect context database) :=
  (insert_prepares site board number).committed

theorem advance_achieves (id postNo postSubNo : Option Int) :
    (advance id postNo postSubNo).Achieves context database
      ((Request.advanceWatermark id postNo postSubNo).Effect context database) := by
  intro draws
  match postNo, postSubNo with
  | none, _ => exact rfl
  | some _, none => exact rfl
  | some number, some subNumber =>
      simp only [advance, ends_bind, ends_require, ends_fits, ends_updateWhere, ends_commit,
        ends_ite, ends_log, ends_pure, implies_true, true_and]
      intro _ _
      by_cases moved : 0 < database.threads.count (isBehindAt id (number, subNumber))
      · refine ⟨fun _ => ?_, fun unmoved => absurd moved unmoved⟩
        obtain ⟨entry, stored, isWanted⟩ := Table.exists_of_count (Nat.ne_of_gt moved)
        simp only [isBehindAt, Bool.and_eq_true, decide_eq_true_eq] at isWanted
        exact ⟨number, subNumber, rfl, rfl, ⟨entry, stored, isWanted.1⟩,
          (decide_eq_true moved).symm, rfl⟩
      · -- The commit saved a database in which no row had changed.
        refine ⟨fun hasMoved => absurd hasMoved moved, fun _ => ?_⟩
        have same : (database.updated (isBehindAt id (number, subNumber)) fun row =>
            row.withWatermark (number, subNumber)) = database :=
          Database.updated_of_count _ _ _ (Nat.eq_zero_of_not_pos moved)
        refine (demand_prepares id).ends same ?_
        rintro held final saved ⟨⟨stored, isGiven⟩, -⟩
        change held ∈ (database.updated (isBehindAt id (number, subNumber)) fun row =>
          row.withWatermark (number, subNumber)).threads.entries at stored
        rw [same] at stored
        exact ⟨number, subNumber, rfl, rfl, ⟨held, stored, isGiven⟩,
          (decide_eq_false moved).symm, saved.trans same.symm⟩

theorem storeLastModified_achieves (id : Option Int) (date : Option Moment) :
    (storeLastModified id date).Achieves context database
      ((Request.storeLastModified id date).Effect context database) := by
  intro draws
  simp only [storeLastModified, ends_bind, ends_updateWhere, ends_commit]
  refine (demand_prepares id).ends rfl ?_
  rintro held final _ ⟨⟨stored, isGiven⟩, rfl⟩
  exact ⟨held, stored, isGiven, rfl⟩

theorem markDead_achieves (id : Option Int) :
    (markDead id).Achieves context database
      ((Request.markThreadDead id).Effect context database) := by
  intro draws
  simp only [markDead, ends_bind]
  refine (demand_prepares id).ends rfl ?_
  rintro held final saved ⟨⟨stored, isGiven⟩, rfl⟩
  simp only [ends_require, ends_rows, ends_updateWhere, ends_commit, ends_log, ends_pure]
  exact ⟨fun _ _ => saved, fun _ => ⟨held, stored, isGiven, rfl, rfl⟩⟩

end Thread

namespace Descriptor

theorem insert_prepares (thread postNo postSubNo : Option Int) :
    (insert thread postNo postSubNo).Prepares context fun before id after =>
      Inserted before thread postNo postSubNo id after := by
  refine Prepares.orFail (fun session => ?_) _
  simp only [ends_bind, ends_prepareInsertion, ends_fits, ends_needed, ends_addUnlessAlike,
    ends_pure, implies_true, true_and]
  rintro prepared _ thread rfl postNo rfl postSubNo rfl id isNew after inserts
  exact .intro prepared inserts

theorem resolve_achieves (thread postNo postSubNo : Option Int) :
    (resolve thread postNo postSubNo).Achieves context database
      ((Request.resolveDescriptor thread postNo postSubNo).Effect context database) :=
  (insert_prepares thread postNo postSubNo).committed

end Descriptor

namespace Post

theorem insert_prepares (descriptor : Option Int) :
    (insert descriptor).Prepares context fun before id after =>
      Inserted context before descriptor id after := by
  refine Prepares.orFail (fun session => ?_) _
  simp only [ends_bind, ends_prepareInsertion, ends_fits, ends_needed, ends_stamp,
    ends_addUnlessAlike, ends_pure, implies_true, true_and]
  rintro prepared _ descriptor rfl id isNew after inserts
  exact .intro prepared inserts

theorem ensure_achieves (descriptor : Option Int) :
    (ensure descriptor).Achieves context database
      ((Request.ensurePost descriptor).Effect context database) :=
  (insert_prepares descriptor).committed

theorem markDead_achieves (descriptor : Option Int) :
    (markDead descriptor).Achieves context database
      ((Request.markPostDead descriptor).Effect context database) := by
  intro draws
  simp only [markDead, ends_bind, ends_updateWhere, ends_commit, ends_pure]
  refine (insert_prepares descriptor).ends rfl ?_
  intro id middle _ inserted
  exact ⟨id, middle.current, inserted, rfl, rfl⟩

end Post

namespace Watch

theorem insert_prepares (account descriptor application : Option Int) :
    (insert account descriptor application).Prepares context fun before id after =>
      Inserted before account descriptor application id after := by
  refine Prepares.orFail (fun session => ?_) _
  simp only [ends_bind, ends_prepareInsertion, ends_fits, ends_needed, ends_addUnlessAlike,
    ends_pure, implies_true, true_and]
  rintro prepared storable account rfl descriptor rfl application rfl id isNew after inserts
  exact .intro prepared (storable (some descriptor) (by simp)) inserts

theorem subscribe_achieves (account descriptor : Option Int) (application : Value) :
    (subscribe account descriptor application).Achieves context database
      ((Request.subscribe account descriptor application).Effect context database) := by
  intro draws
  simp only [subscribe, ends_bind, ends_wholeNumber, ends_commit, ends_pure, implies_true,
    true_and]
  intro number isNumber
  refine (insert_prepares account descriptor (some number)).ends rfl ?_
  exact fun id final _ inserted => ⟨number, isNumber, inserted⟩

theorem unsubscribe_achieves (account descriptor : Option Int) (application : Value) :
    (unsubscribe account descriptor application).Achieves context database
      ((Request.unsubscribe account descriptor application).Effect context database) := by
  intro draws
  unfold unsubscribe
  split
  · simp only [ends_bind, ends_pure, ends_require, ends_fits, ends_eraseWhere, ends_commit,
      ends_log, implies_true, true_and]
    exact fun _ _ => ⟨none, .inl ⟨rfl, rfl⟩, rfl, rfl⟩
  · rename_i given
    simp only [ends_bind, ends_pure, ends_require, ends_fits, ends_eraseWhere, ends_commit,
      ends_log, ends_map, ends_wholeNumber, implies_true, true_and]
    intro number isNumber _ _
    exact ⟨some number, .inr ⟨given, number, isNumber, rfl⟩, rfl, rfl⟩

theorem watchPost_achieves (accountId site board : Option String)
    (threadNo postNo postSubNo : Option Int) (application : Value) :
    (watchPost accountId site board threadNo postNo postSubNo application).Achieves context database
      ((Request.watchPost accountId site board threadNo postNo postSubNo application).Effect context
        database) := by
  intro draws
  rw [watchPost, ends_bind]
  refine (Account.lookup_prepares accountId).ends rfl ?_
  rintro found first saved ⟨isFound, current⟩
  cases found with
  | none => exact saved
  | some owner =>
      simp only [ends_bind, ends_pure, ends_now]
      refine (owner.row.lapseAt_prepares _).ends saved ?_
      rintro lapse second saved ⟨isLapse, same⟩
      rw [current] at same
      cases lapse with
      | some lapse => exact saved
      | none =>
          simp only [ends_bind, ends_wholeNumber, ends_commit, ends_log, ends_pure]
          refine (Thread.insert_prepares site board threadNo).ends saved ?_
          intro thread third saved threaded
          refine (Descriptor.insert_prepares (some thread) postNo postSubNo).ends saved ?_
          intro descriptor fourth saved described
          refine (Post.insert_prepares (some descriptor)).ends saved ?_
          intro post fifth saved posted
          refine ⟨fun _ _ => saved, fun number isNumber => ?_⟩
          refine (insert_prepares (some owner.id) (some descriptor) (some number)).ends saved ?_
          intro id final _ watched
          rw [same] at threaded
          exact ⟨number, isNumber, .intro isFound.symm isLapse threaded described posted watched⟩

end Watch

end Lookout
