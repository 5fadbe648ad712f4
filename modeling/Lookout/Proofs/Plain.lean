import Lookout.Proofs.Effects.Board

/-!
# Plain operations

A plain operation neither commits nor looks at what has been saved or drawn: what it answers and
where it leads depend on the current database alone. In the midst of a session it therefore does
what it does in a session of its own with a commit behind it. The insertions that watching a post is
made of are plain.
-/

namespace Lookout

open Schema (Column TableName)
open Store

/-- What an outcome answers with the database that it leaves, or how it fails. -/
def Outcome.result {α : Type} (outcome : Outcome α) : Except Failure (α × Database) :=
  outcome.answer.map fun answer => (answer, outcome.database)

theorem Outcome.result_eq_ok_iff {α : Type} {outcome : Outcome α} {answer : α}
    {database : Database} :
    outcome.result = .ok (answer, database) ↔
      outcome.answer = .ok answer ∧ outcome.database = database := by
  unfold result
  cases outcome.answer <;> simp [Except.map]

theorem Outcome.result_eq_error_iff {α : Type} {outcome : Outcome α} {failure : Failure} :
    outcome.result = .error failure ↔ outcome.answer = .error failure := by
  unfold result
  cases outcome.answer <;> simp [Except.map]

/-- The failure that takes the place of a cause where the store refused to break the rules about
rows. -/
def Failure.orFail (failure : Failure) : Failure → Failure
  | store error => if error.isIntegrity then failure else store error
  | cause => cause

theorem Failure.orFail_of_integrity {failure : Failure} {error : StoreError}
    (integral : error.isIntegrity = true) : failure.orFail (.store error) = failure :=
  if_pos integral

theorem Failure.orFail_of_other {failure cause : Failure}
    (other : ∀ error, cause = .store error → error.isIntegrity = false) :
    failure.orFail cause = cause := by
  cases cause with
  | store error => simp [orFail, other error rfl]
  | _ => rfl

namespace Operation

variable {α β : Type} {context : Context} {database : Database} {draws : Draws}

/-- What an operation answers on a database, and where it leads, or how it fails. -/
def effect (operation : Operation α) (context : Context) (database : Database) :
    Except Failure (α × Database) :=
  match operation context { saved := database, current := database } with
  | .ok answer final => .ok (answer, final.current)
  | .error failure _ => .error failure

/-- An operation does in every session what it does on the current database, and saves nothing. -/
def IsPlain (operation : Operation α) : Prop :=
  ∀ context session, operation.Ends context session
    (fun answer final =>
      operation.effect context session.current = .ok (answer, final.current) ∧
        final.saved = session.saved)
    (fun failure final =>
      operation.effect context session.current = .error failure ∧ final.saved = session.saved)

/-- What a run on a database can only end in is the effect there. -/
theorem effect_eq_of_ends {operation : Operation α} {expected : Except Failure (α × Database)}
    (ends : operation.Ends context { saved := database, current := database }
      (fun answer final => expected = .ok (answer, final.current))
      (fun failure _ => expected = .error failure)) :
    operation.effect context database = expected := by
  unfold Ends at ends
  unfold effect
  cases told : operation context { saved := database, current := database } <;>
    rw [told] at ends <;> exact ends.symm

/-- Where the store refuses to break the rules about rows, the failure is another one. -/
theorem effect_orFail (failure : Failure) (operation : Operation α) :
    (orFail failure operation).effect context database =
      (operation.effect context database).mapError failure.orFail := by
  refine effect_eq_of_ends ?_
  rw [ends_orFail]
  unfold Ends effect
  cases operation context { saved := database, current := database } with
  | ok answer final => rfl
  | error cause final =>
      refine ⟨?_, fun other => congrArg Except.error (Failure.orFail_of_other other)⟩
      rintro error rfl integral
      exact congrArg Except.error (Failure.orFail_of_integrity integral)

/-- A failure that does not tell of broken rules about rows stays as it is. -/
theorem effect_orFail_of_ends {failure : Failure} {operation : Operation α}
    {expected : Except Failure (α × Database)} (stays : expected.mapError failure.orFail = expected)
    (ends : operation.Ends context { saved := database, current := database }
      (fun answer final => expected = .ok (answer, final.current))
      (fun failure _ => expected = .error failure)) :
    (orFail failure operation).effect context database = expected := by
  rw [effect_orFail, effect_eq_of_ends ends, stays]

/-- Where the store can only refuse to break the rules about rows, the other failure is the effect. -/
theorem effect_orFail_of_refusal {failure : Failure} {operation : Operation α} {error : StoreError}
    (integral : error.isIntegrity = true)
    (ends : operation.Ends context { saved := database, current := database }
      (fun _ _ => False) (fun cause _ => cause = .store error)) :
    (orFail failure operation).effect context database = .error failure := by
  have refused : operation.effect context database = .error (.store error) :=
    effect_eq_of_ends (ends.imp (fun _ _ => False.elim) fun _ _ same =>
      congrArg Except.error same.symm)
  rw [effect_orFail, refused]
  exact congrArg Except.error (Failure.orFail_of_integrity integral)

/-- What a run can only leave is the result of its outcome. -/
theorem result_perform_of_ends {operation : Operation α}
    {expected : Except Failure (α × Database)}
    (ends : operation.Ends context { saved := database, current := database, draws }
      (fun answer final => expected = .ok (answer, final.saved))
      (fun failure _ => expected = .error failure)) :
    (operation.perform context database draws).result = expected := by
  unfold Outcome.result
  rcases ends.outcome with ⟨answer, final, same, answered, left⟩ | ⟨failure, _, same, failed, _⟩
  · rw [answered, left, same]
    rfl
  · rw [failed, same]
    rfl

namespace IsPlain

variable {operation : Operation α} {next : α → Operation β}

/-- An operation is plain whose runs end in what the current database says. -/
theorem of_ends (said : ∀ (context : Context) (database : Database),
      ∃ expected : Except Failure (α × Database),
        ∀ session, session.current = database → operation.Ends context session
          (fun answer final =>
            expected = .ok (answer, final.current) ∧ final.saved = session.saved)
          (fun failure final => expected = .error failure ∧ final.saved = session.saved)) :
    operation.IsPlain := by
  intro context session
  obtain ⟨expected, ends⟩ := said context session.current
  have same : operation.effect context session.current = expected :=
    effect_eq_of_ends (ends { saved := session.current, current := session.current } rfl).left
  rw [same]
  exact ends session rfl

theorem pure (answer : α) : (Pure.pure answer : Operation α).IsPlain :=
  fun _ _ => ⟨rfl, rfl⟩

theorem throw (failure : Failure) : (MonadExcept.throw failure : Operation α).IsPlain :=
  fun _ _ => ⟨rfl, rfl⟩

/-- Of two plain operations one after the other the second one goes on where the first one leads. -/
theorem effect_bind (plain : operation.IsPlain) (follows : ∀ answer, (next answer).IsPlain)
    (context : Context) (database : Database) :
    (operation >>= next).effect context database =
      operation.effect context database >>= fun (answer, middle) =>
        (next answer).effect context middle := by
  refine effect_eq_of_ends ?_
  rw [ends_bind]
  refine (plain context _).imp ?_ ?_
  · rintro answer middle ⟨led, -⟩
    refine (follows answer context middle).imp ?_ ?_
    · exact fun _ _ ⟨told, _⟩ => by rw [led]; exact told
    · exact fun _ _ ⟨told, _⟩ => by rw [led]; exact told
  · exact fun _ _ ⟨failed, _⟩ => by rw [failed]; rfl

theorem bind (plain : operation.IsPlain) (follows : ∀ answer, (next answer).IsPlain) :
    (operation >>= next).IsPlain := by
  intro context session
  rw [effect_bind plain follows, ends_bind]
  refine (plain context session).imp ?_ ?_
  · rintro answer middle ⟨led, saved⟩
    refine (follows answer context middle).imp ?_ ?_
    · exact fun _ _ ⟨told, kept⟩ => ⟨by rw [led]; exact told, kept.trans saved⟩
    · exact fun _ _ ⟨told, kept⟩ => ⟨by rw [led]; exact told, kept.trans saved⟩
  · exact fun _ _ ⟨failed, saved⟩ => ⟨by rw [failed]; rfl, saved⟩

theorem stamp : Operation.stamp.IsPlain :=
  fun _ _ => ⟨rfl, rfl⟩

theorem fits (numbers : List (Option Int)) : (Operation.fits numbers).IsPlain := by
  unfold Operation.fits
  split
  · exact .pure ()
  · exact .throw _

theorem wholeNumber (value : Value) : (Operation.wholeNumber value).IsPlain := by
  unfold Operation.wholeNumber
  cases value.toInteger with
  | ok number => exact .pure number
  | error error => exact .throw _

theorem needed (table : TableName) (column : Column) (value : Option α) :
    (Operation.needed table column value).IsPlain := by
  cases value with
  | none => exact .throw _
  | some given => exact .pure given

theorem prepareInsertion (table : TableName) (ignoring : Option (List Column)) :
    (Operation.prepareInsertion table ignoring).IsPlain := by
  refine .of_ends fun context database => ?_
  cases lacking : database.obstacle? table ignoring with
  | some error =>
      refine ⟨.error (.store error), fun session current => ?_⟩
      simp [current, lacking]
  | none =>
      refine ⟨.ok ((), database), fun session current => ?_⟩
      simp [current, lacking]

theorem addUnlessAlike [Relation α] (key : List Column) (row : α) :
    (Operation.addUnlessAlike key row).IsPlain := by
  refine .of_ends fun context database => ?_
  cases found : (Relation.read database : Table α).find? fun other =>
      Relation.alike key row other.row with
  | some entry =>
      refine ⟨.ok ((entry.id, false), database), fun session current => ?_⟩
      simp [Operation.addUnlessAlike, -ends_addUnlessAlike, current, found]
  | none =>
      cases refused : database.refusal? row with
      | some error =>
          refine ⟨.error (.store error), fun session current => ?_⟩
          simp [Operation.addUnlessAlike, -ends_addUnlessAlike, current, found, refused]
      | none =>
          refine ⟨.ok (((Relation.read database : Table α).nextId, true), database.added row),
            fun session current => ?_⟩
          simp [Operation.addUnlessAlike, -ends_addUnlessAlike, current, found, refused]

/-- Where the store refuses to break the rules about rows, the failure is another one. -/
theorem orFail (plain : operation.IsPlain) (failure : Failure) :
    (Operation.orFail failure operation).IsPlain := by
  intro context session
  rw [effect_orFail, ends_orFail]
  refine (plain context session).imp ?_ ?_
  · exact fun _ _ ⟨led, saved⟩ => ⟨by rw [led]; rfl, saved⟩
  · rintro cause final ⟨failed, saved⟩
    rw [failed]
    refine ⟨?_, fun other => ⟨congrArg Except.error ?_, saved⟩⟩
    · rintro error rfl integral
      exact ⟨congrArg Except.error (Failure.orFail_of_integrity integral), saved⟩
    · exact Failure.orFail_of_other other

/-- In a session of its own, with a commit behind it, a plain operation leaves its effect. -/
theorem result_committed (plain : operation.IsPlain) (context : Context) (database : Database)
    (draws : Draws) :
    ((do let answer ← operation; commit; return answer).perform context database draws).result =
      operation.effect context database := by
  refine result_perform_of_ends ?_
  simp only [ends_bind, ends_commit, ends_pure]
  exact (plain context _).left

end IsPlain

end Operation

open Operation

theorem Thread.isPlain_insert (site board : Option String) (number : Option Int) :
    (Thread.insert site board number).IsPlain :=
  .bind (.prepareInsertion _ _) fun _ => .bind (.fits _) fun _ => .bind (.needed _ _ _) fun _ =>
    .bind (.needed _ _ _) fun _ => .bind (.needed _ _ _) fun _ => .bind .stamp fun _ =>
      .bind (.addUnlessAlike _ _) fun _ => .pure _

theorem Descriptor.isPlain_insert (thread postNo postSubNo : Option Int) :
    (Descriptor.insert thread postNo postSubNo).IsPlain :=
  .orFail (.bind (.prepareInsertion _ _) fun _ => .bind (.fits _) fun _ =>
    .bind (.needed _ _ _) fun _ => .bind (.needed _ _ _) fun _ => .bind (.needed _ _ _) fun _ =>
      .bind (.addUnlessAlike _ _) fun _ => .pure _) _

theorem Post.isPlain_insert (descriptor : Option Int) : (Post.insert descriptor).IsPlain :=
  .orFail (.bind (.prepareInsertion _ _) fun _ => .bind (.fits _) fun _ =>
    .bind (.needed _ _ _) fun _ => .bind .stamp fun _ => .bind (.addUnlessAlike _ _) fun _ =>
      .pure _) _

theorem Watch.isPlain_insert (account descriptor application : Option Int) :
    (Watch.insert account descriptor application).IsPlain :=
  .orFail (.bind (.prepareInsertion _ _) fun _ => .bind (.fits _) fun _ =>
    .bind (.needed _ _ _) fun _ => .bind (.needed _ _ _) fun _ => .bind (.needed _ _ _) fun _ =>
      .bind (.addUnlessAlike _ _) fun _ => .pure _) _

theorem Reply.isPlain_insert (account descriptor replyTo : Option Int) :
    (Reply.insert account descriptor replyTo).IsPlain :=
  .orFail (.bind (.prepareInsertion _ _) fun _ => .bind (.fits _) fun _ =>
    .bind (.needed _ _ _) fun _ => .bind (.needed _ _ _) fun _ => .bind (.needed _ _ _) fun _ =>
      .bind .stamp fun _ => .addUnlessAlike _ _) _

end Lookout
