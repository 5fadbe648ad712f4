import Lookout.Proofs.Effects

/-!
# Effects on log lines and replies

Each operation that keeps log lines or replies, one by one or many together, has the effect
that its request is said to have, and leaves nothing behind where it fails.
-/

namespace Lookout

open Operation Store
open Time (Moment)

variable {context : Context} {database : Database}

namespace Journal

theorem insert_prepares (draft : Draft) :
    (insert draft).Prepares context fun before id after =>
      ∃ line, draft.line? = some line ∧ before.refusal? line = none ∧
        id = before.journal.nextId ∧ after = before.added line := by
  intro session
  simp only [insert, ends_bind, ends_needed, ends_add, implies_true, true_and]
  intro time hasTime message hasMessage admitted
  exact ⟨_, by simp [Draft.line?, hasTime, hasMessage], admitted, rfl, rfl⟩

theorem append_achieves (draft : Draft) :
    (append draft).Achieves context database
      ((Request.appendLine draft).Effect context database) := by
  intro draws
  rw [append, ends_bind, ends_require]
  refine ⟨fun _ _ => rfl, fun present => ?_⟩
  refine Ends.imp ((insert_prepares draft).committed draws) ?_ (fun _ _ saved => saved)
  rintro id final ⟨line, isLine, effective⟩
  exact ⟨line, isLine, present, effective⟩

theorem insertAll_prepares (drafts : List Draft) :
    (insertAll drafts).Prepares context fun before _ after =>
      ∃ lines, drafts.map Draft.line? = lines.map some ∧ before.AddsAll lines after := by
  induction drafts with
  | nil => exact fun session => ⟨rfl, [], rfl, .nil _⟩
  | cons draft rest ih =>
      intro session
      rw [insertAll, ends_bind]
      refine (insert_prepares draft).ends rfl ?_
      rintro id middle saved ⟨line, isLine, admitted, -, current⟩
      refine ih.ends saved ?_
      rintro _ final kept ⟨lines, areLines, adds⟩
      rw [current] at adds
      exact ⟨kept, line :: lines, by simp [isLine, areLines], .cons admitted adds⟩

theorem appendAll_achieves (drafts : Option (List Draft)) :
    (appendAll drafts).Achieves context database
      ((Request.appendLines drafts).Effect context database) := by
  intro draws
  rcases drafts with _ | _ | ⟨draft, rest⟩
  · exact rfl
  · exact ⟨[], [], rfl, rfl, fun some => absurd rfl some, rfl, .nil _⟩
  · simp only [appendAll, ends_bind, ends_require, ends_commit, ends_pure, implies_true, true_and]
    intro present
    refine (insertAll_prepares (draft :: rest)).ends rfl ?_
    rintro _ final _ ⟨lines, areLines, adds⟩
    exact ⟨draft :: rest, lines, rfl, areLines, fun _ => present, rfl, adds⟩

end Journal

namespace Reply

theorem insert_prepares (account descriptor replyTo : Option Int) :
    (insert account descriptor replyTo).Prepares context fun before answer after =>
      Inserted context before account descriptor replyTo answer after := by
  refine Prepares.orFail (fun session => ?_) _
  simp only [ends_bind, ends_prepareInsertion, ends_fits, ends_needed, ends_stamp,
    ends_addUnlessAlike, implies_true, true_and]
  rintro prepared _ account rfl descriptor rfl replyTo rfl id isNew after inserts
  exact .intro prepared inserts

theorem record_achieves (account descriptor replyTo : Option Int) :
    (record account descriptor replyTo).Achieves context database
      ((Request.recordReply account descriptor replyTo).Effect context database) := by
  intro draws
  simp only [record, ends_bind, ends_commit, ends_pure]
  refine (insert_prepares account descriptor replyTo).ends rfl ?_
  rintro ⟨id, isNew⟩ final _ inserted
  exact ⟨isNew, inserted⟩

/-- Reading an edge changes nothing; an edge is a list of three. -/
theorem edge_prepares (value : Value) :
    (edge value).Prepares context fun before given after =>
      ∃ account descriptor replyTo : Value, value = .list [account, descriptor, replyTo] ∧
        given = (account.integer?, descriptor.integer?, replyTo.integer?) ∧ after = before := by
  intro session
  unfold edge
  split
  · exact ⟨rfl, _, _, _, rfl, rfl, rfl⟩
  · exact rfl
  · exact rfl

theorem insertAll_prepares (values : List Value) (count : Nat) :
    (insertAll count values).Prepares context fun before total after =>
      ∃ newer, total = count + newer ∧ InsertedAll context before values newer after := by
  induction values generalizing count with
  | nil => exact fun session => ⟨rfl, 0, rfl, .nil _⟩
  | cons value rest ih =>
      intro session
      simp only [insertAll, ends_bind]
      refine (edge_prepares value).ends rfl ?_
      rintro _ first saved ⟨account, descriptor, replyTo, rfl, rfl, current⟩
      refine (insert_prepares _ _ _).ends saved ?_
      rintro ⟨id, isNew⟩ second kept inserted
      refine (ih _).ends kept ?_
      rintro total final still ⟨newer, rfl, others⟩
      rw [current] at inserted
      refine ⟨still, _, ?_, .cons inserted others⟩
      cases isNew with
      | false => rfl
      | true => exact Nat.add_right_comm count 1 newer

theorem recordAll_achieves (edges : Value) :
    (recordAll edges).Achieves context database
      ((Request.recordReplies edges).Effect context database) := by
  intro draws
  unfold recordAll
  split
  · simp only [ends_bind, ends_commit, ends_log, ends_pure]
    refine (insertAll_prepares _ 0).ends rfl ?_
    rintro _ final _ ⟨newer, rfl, stored⟩
    exact ⟨_, rfl, (Nat.zero_add newer).symm ▸ stored⟩
  · exact rfl

theorem markAttempts_achieves (ids : Option (List (Option Int))) :
    (markAttempts ids).Achieves context database
      ((Request.countAttempts ids).Effect context database) := by
  intro draws
  have nothing : database.replies.count (fun entry => List.contains [] (some entry.id)) = 0 := by
    simp [Table.count]
  have same : attempted database [] = database := Database.updated_of_count _ _ _ nothing
  rcases ids with _ | _ | ⟨id, rest⟩
  · exact ⟨nothing.symm, same.symm⟩
  · exact ⟨nothing.symm, same.symm⟩
  · simp only [markAttempts, ends_bind, ends_require, ends_fits, ends_updateWhere, ends_commit,
      ends_log, ends_pure, implies_true, true_and]
    exact fun _ _ => ⟨rfl, rfl⟩

theorem markAttempt_achieves (id : Option Int) :
    (markAttempt id).Achieves context database
      ((Request.countAttempt id).Effect context database) := by
  intro draws
  rw [markAttempt, ends_bind]
  refine (markAttempts_achieves (some [id]) draws).imp ?_ (fun _ _ saved => saved)
  rintro count final ⟨isCount, changed⟩
  rw [Option.getD_some] at isCount changed
  by_cases nothing : count = 0
  · -- The commit saved a database in which no row had changed.
    rw [if_pos nothing, ends_throw, changed]
    exact Database.updated_of_count _ _ _ (isCount.symm.trans nothing)
  · rw [if_neg nothing, ends_pure]
    obtain ⟨entry, stored, isGiven⟩ := Table.exists_of_count (isCount ▸ nothing)
    exact ⟨⟨entry, stored, by simpa using isGiven⟩, changed⟩

theorem markDelivered_achieves (id : Option Int) (date : Option Moment) :
    (markDelivered id date).Achieves context database
      ((Request.deliverReply id date).Effect context database) := by
  intro draws
  simp only [markDelivered, ends_bind, ends_now, ends_require, ends_fits, ends_updateWhere,
    ends_commit, ends_ite, ends_pure, ends_rows, ends_log, ends_throw, implies_true, true_and]
  intro _ _
  by_cases written : 0 < database.replies.count (isDeliverable id)
  · refine ⟨fun _ => ?_, fun unwritten => absurd written unwritten⟩
    obtain ⟨entry, stored, isWanted⟩ := Table.exists_of_count (Nat.ne_of_gt written)
    simp only [isDeliverable, Bool.and_eq_true, decide_eq_true_eq] at isWanted
    exact ⟨⟨entry, stored, isWanted.1⟩, (decide_eq_true written).symm, rfl⟩
  · -- The commit saved a database in which no row had changed.
    have same : delivered database (isDeliverable id) (context.moment date) = database :=
      Database.updated_of_count _ _ _ (Nat.eq_zero_of_not_pos written)
    refine ⟨fun isWritten => absurd isWritten written, fun _ => ⟨fun known => ?_, fun _ => same⟩⟩
    change (Relation.read (delivered database (isDeliverable id) (context.moment date)) :
      Table Reply).entries.any (fun entry => some entry.id = id) = true at known
    rw [same, List.any_eq_true] at known
    obtain ⟨entry, stored, isGiven⟩ := known
    exact ⟨⟨entry, stored, of_decide_eq_true isGiven⟩, (decide_eq_false written).symm, rfl⟩

theorem markDeliveredFor_achieves (accountId : Option String) (ids : Option (List (Option Int)))
    (date : Option Moment) :
    (markDeliveredFor accountId ids date).Achieves context database
      ((Request.deliverReplies accountId ids date).Effect context database) := by
  intro draws
  have nothing : database.replies.count (isDeliverableTo database accountId []) = 0 := by
    simp [Table.count, isDeliverableTo]
  have same : delivered database (isDeliverableTo database accountId []) (context.moment date) =
      database := Database.updated_of_count _ _ _ nothing
  rcases ids with _ | _ | ⟨id, rest⟩
  · exact ⟨nothing.symm, same.symm⟩
  · exact ⟨nothing.symm, same.symm⟩
  · simp only [markDeliveredFor, ends_bind, ends_now, ends_require, ends_fits, ends_rows,
      ends_updateWhere, ends_commit, ends_ite, ends_log, ends_pure, implies_true, true_and]
    exact fun _ _ => ⟨fun _ => ⟨rfl, rfl⟩, fun _ => ⟨rfl, rfl⟩⟩

end Reply

end Lookout
