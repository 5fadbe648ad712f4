import Lookout.Proofs.Effects

/-!
# Effects on accounts, tokens and invites

Each operation on accounts, tokens and invites has the effect that its request is said to
have, and leaves nothing behind where it fails. What an operation does before its commit is
said of the parts that it is made of.
-/

namespace Lookout

open Operation Store
open Time (Moment)

variable {context : Context} {database : Database}

namespace Account

/-- Looking for an account, expired or not, changes nothing. -/
theorem lookup_prepares (accountId : Option String) :
    (lookup accountId true).Prepares context fun before found after =>
      found = before.accounts.find? (isNamed accountId) ∧ after = before := by
  intro session
  simp only [lookup, Bool.true_or, Bool.and_true, ends_bind, ends_require, ends_rows, ends_pure,
    implies_true, true_and, and_true]
  exact fun _ => rfl

/-- An account is like another one where both have the same id. -/
theorem find?_alike (database : Database) (row : Account) :
    database.accounts.find? (fun entry => Relation.alike [.accountId] row entry.row) =
      database.accounts.find? (isNamed (some row.accountId)) := by
  refine congrArg database.accounts.find? (funext fun entry => ?_)
  simp [Relation.alike, Relation.keyOf, Relation.cell, isNamed, eq_comm, Bool.beq_eq_decide_eq]

/-- An account that is demanded is the first one with its id. -/
theorem demand_prepares (accountId : Option String) :
    (demand accountId).Prepares context fun before held after =>
      before.accounts.find? (isNamed accountId) = some held ∧ after = before := by
  intro session
  rw [demand, ends_bind]
  refine (lookup_prepares accountId).ends rfl ?_
  rintro found final saved ⟨rfl, current⟩
  cases named : session.current.accounts.find? (isNamed accountId) with
  | none => exact saved
  | some held => exact ⟨saved, named, current⟩

/-- Where there is a table of accounts, looking for one answers the first one with the id. -/
theorem ends_lookup_of_present {session : Session} {accountId : Option String}
    {answers : Option (Entry Account) → Session → Prop} {fails : Failure → Session → Prop}
    (present : session.current.missing? [.accounts] = none) :
    (lookup accountId true).Ends context session answers fails ↔
      answers (session.current.accounts.find? (isNamed accountId)) session := by
  simp only [lookup, ends_bind, ends_require, ends_rows, ends_pure, present, reduceCtorEq,
    false_implies, implies_true, true_and, forall_const, Bool.true_or, Bool.and_true]
  rfl

/-- Where there is such a table, an account is demanded by an id, which has to be that of one. -/
theorem ends_demand_of_present {session : Session} {accountId : Option String}
    {answers : Entry Account → Session → Prop} {fails : Failure → Session → Prop}
    (present : session.current.missing? [.accounts] = none) :
    (demand accountId).Ends context session answers fails ↔
      (session.current.accounts.find? (isNamed accountId) = none →
        fails (.noAccount accountId) session) ∧
      (∀ owner, session.current.accounts.find? (isNamed accountId) = some owner →
        answers owner session) := by
  rw [demand, ends_bind, ends_lookup_of_present present]
  cases session.current.accounts.find? (isNamed accountId) <;> simp

/-- Judging an account changes nothing. -/
theorem lapseAt_prepares (account : Account) (moment : Moment) :
    (account.lapseAt moment).Prepares context fun before lapse after =>
      account.lapse moment = .ok lapse ∧ after = before := by
  intro session
  unfold lapseAt
  cases account.lapse moment <;> simp

theorem upsert_achieves (accountId : Option String) (validUntil : Option Moment) :
    (upsert accountId validUntil).Achieves context database
      ((Request.upsertAccount accountId validUntil).Effect context database) := by
  intro draws
  simp only [upsert, ends_bind, ends_prepareInsertion, ends_needed, ends_stamp,
    ends_addUnlessAlike, ends_commit, implies_true, true_and]
  rintro prepared accountId rfl id isNew after inserts
  cases isNew <;> exact .intro prepared inserts

theorem setExpiry_achieves (accountId : Option String) (date : Moment) :
    (setExpiry accountId (some date)).Achieves context database
      ((Request.setExpiry accountId (some date)).Effect context database) := by
  intro draws
  rw [setExpiry, ends_bind]
  refine (demand_prepares accountId).ends rfl ?_
  rintro held final _ ⟨found, rfl⟩
  simp only [ends_bind, ends_updateWhere, ends_commit, ends_log]
  exact ⟨held, found, rfl⟩

theorem expire_achieves (accountId : Option String) (date : Option Moment) :
    (expire accountId date).Achieves context database
      ((Request.expireAccount accountId date).Effect context database) := by
  intro draws
  simp only [expire, ends_bind, ends_now]
  refine (demand_prepares accountId).ends rfl ?_
  rintro held final _ ⟨found, rfl⟩
  simp only [ends_updateWhere, ends_commit, ends_log]
  exact ⟨held, found, rfl⟩

theorem delete_achieves (accountId : Option String) :
    (delete accountId).Achieves context database
      ((Request.deleteAccount accountId).Effect context database) := by
  intro draws
  simp only [delete, ends_bind, ends_require, ends_eraseWhere, ends_commit, ends_pure,
    implies_true, true_and]
  exact fun _ => ⟨rfl, rfl⟩

theorem status_achieves (accountId : Option String) (moment : Moment) :
    (status accountId moment).Achieves context database
      ((Request.checkAccount accountId moment).Effect context database) := by
  intro draws
  rw [status, ends_bind]
  refine (lookup_prepares accountId).ends rfl ?_
  rintro found middle saved ⟨isFound, -⟩
  cases found with
  | none => exact saved
  | some held => exact (held.row.lapseAt_prepares moment).ends saved fun _ _ kept _ => kept

end Account

namespace Token

/-- Looking for a token changes nothing. -/
theorem find_prepares (text : String) (application kind : Int) :
    (find text application kind).Prepares context fun before found after =>
      found = before.tokens.find? (holds (some text) application kind) ∧ after = before := by
  intro session
  simp only [find, ends_bind, ends_require, ends_fits, ends_rows, ends_pure, implies_true,
    true_and, and_true]
  exact fun _ _ => rfl

/-- Looking for a slot changes nothing. -/
theorem slot_prepares (account application kind : Int) :
    (slot account application kind).Prepares context fun before found after =>
      found = before.tokens.find? (isSlot account application kind) ∧ after = before := by
  intro session
  simp only [slot, ends_bind, ends_require, ends_fits, ends_rows, ends_pure, implies_true,
    true_and, and_true]
  exact fun _ _ => rfl

/-- A token that no row holds is registered by filling the slot. -/
theorem fill_prepares (owner : Entry Account) (text : Option String) (application kind : Int) :
    (fill owner text application kind).Prepares context fun before id after =>
      before.tokens.find? (holds text application kind) = none →
        Registered before owner.id text application kind id after := by
  intro session
  rw [fill, ends_bind]
  refine (slot_prepares owner.id application kind).ends rfl ?_
  rintro found middle saved ⟨isFound, current⟩
  cases found with
  | some held =>
      simp only [ends_bind, ends_updateWhere, ends_pure, current]
      exact ⟨saved, fun free => .replaced free isFound.symm⟩
  | none =>
      rw [ends_bind, ends_prepareInsertion, ends_orFail, ends_add, current]
      refine ⟨fun _ _ => saved, fun prepared => ⟨?_, fun admitted => ?_⟩⟩
      · exact fun error _ => ⟨fun _ _ _ => saved, fun _ => saved⟩
      · exact ⟨saved, fun free => .added free isFound.symm prepared admitted⟩

theorem register_achieves (accountId text : Option String) (application kind : Value) :
    (register accountId text application kind).Achieves context database
      ((Request.registerToken accountId text application kind).Effect context database) := by
  intro draws
  -- What is left to do once the token is known to be in no row.
  have filled (owner : Entry Account) (applicationNo kindNo : Int)
      (named : database.accounts.find? (Account.isNamed accountId) = some owner)
      (present : owner.row.deletedOn = none)
      (isApplication : application.toInteger = .ok applicationNo)
      (isKind : kind.toInteger = .ok kindNo)
      (free : database.tokens.find? (holds text applicationNo kindNo) = none)
      (middle : Session) (saved : middle.saved = database) (current : middle.current = database) :
      (fill owner text applicationNo kindNo).Ends context middle
        (fun id final => (Request.registerToken accountId text application kind).Effect context
          database id final.current)
        (fun _ final => final.saved = database) := by
    refine (fill_prepares owner text applicationNo kindNo).ends saved ?_
    intro id final _ registered
    rw [current] at registered
    exact ⟨owner, applicationNo, kindNo, named, present, isApplication, isKind, registered free⟩
  cases text with
  | none =>
      simp only [register, ends_bind, ends_wholeNumber, ends_ite, ends_log, ends_throw, ends_pure,
        ends_commit, implies_true, true_and, Option.not_isSome_iff_eq_none]
      intro applicationNo isApplication kindNo isKind
      refine (Account.demand_prepares accountId).ends rfl ?_
      rintro owner middle saved ⟨named, current⟩
      refine ⟨fun _ => saved, fun present => ?_⟩
      have free : database.tokens.find? (holds none applicationNo kindNo) = none := by
        simp [Table.find?, holds]
      exact filled owner applicationNo kindNo named present isApplication isKind free middle saved
        current
  | some characters =>
      simp only [register, ends_bind, ends_wholeNumber, ends_ite, ends_log, ends_throw,
        implies_true, true_and, Option.not_isSome_iff_eq_none]
      intro _ applicationNo isApplication kindNo isKind
      refine (Account.demand_prepares accountId).ends rfl ?_
      rintro owner middle saved ⟨named, current⟩
      refine ⟨fun _ => saved, fun present => ?_⟩
      refine (find_prepares characters applicationNo kindNo).ends saved ?_
      rintro existing final kept ⟨looked, same⟩
      rw [current] at looked same
      cases existing with
      | none =>
          simp only [ends_bind, ends_commit, ends_log, ends_pure]
          exact filled owner applicationNo kindNo named present isApplication isKind looked.symm
            final kept same
      | some held =>
          simp only [ends_bind, ends_ite, ends_commit, ends_rollback, ends_throw, ends_pure, same]
          refine ⟨fun own => ?_, fun _ => kept⟩
          exact ⟨owner, applicationNo, kindNo, named, present, isApplication, isKind,
            .kept looked.symm own⟩

end Token

namespace Invite

/-- Adding days changes nothing. -/
theorem later_prepares (moment : Moment) (days : Int) :
    (later moment days).Prepares context fun before answer after =>
      moment.addDays days = .ok answer ∧ after = before := by
  intro session
  unfold later
  cases moment.addDays days <;> simp

/-- Drawing ids changes nothing and gives as many as are asked for; it looks into the table of
invites for each. -/
theorem drawIds_prepares (count : Nat) (drawn : List String) :
    (drawIds drawn count).Prepares context fun before ids after =>
      ids.length = drawn.length + count ∧ (count ≠ 0 → before.missing? [.invites] = none) ∧
        after = before := by
  induction count generalizing drawn with
  | zero => exact fun session => ⟨rfl, rfl, fun some => absurd rfl some, rfl⟩
  | succ count ih =>
      intro session
      simp only [drawIds, drawFree, ends_bind, ends_get]
      have looks : ∀ text middle, middle.saved = session.saved →
          middle.current = session.current →
          (do if drawn.contains text then return false
              else return (← lookup (some text)).isNone : Operation Bool).Ends context middle
            (fun free final => final.saved = session.saved ∧ final.current = session.current ∧
              (free = true → session.current.missing? [.invites] = none))
            (fun _ final => final.saved = session.saved) := by
        intro text middle saved current
        simpa [lookup, saved, current] using fun _ present _ => present
      refine (ends_drawWhere _ looks _ rfl rfl).imp ?_ (fun _ _ saved => saved)
      rintro inviteId middle ⟨saved, current, present⟩
      refine (ih (drawn ++ [inviteId])).ends saved ?_
      rintro ids final kept ⟨length, -, same⟩
      rw [List.length_append, List.length_singleton] at length
      exact ⟨kept, by omega, fun _ => present, same.trans current⟩

theorem addAll_prepares (expiresOn : Moment) (ids : List String) :
    (addAll expiresOn ids).Prepares context fun before _ after =>
      before.AddsAll (ids.map (fresh context expiresOn.wall)) after := by
  induction ids with
  | nil => exact fun session => ⟨rfl, .nil _⟩
  | cons inviteId rest ih =>
      intro session
      simp only [addAll, ends_bind, ends_stamp, ends_add, implies_true, true_and, List.map_cons]
      intro admitted
      refine ih.ends rfl ?_
      exact fun _ final saved adds => ⟨saved, .cons admitted adds⟩

theorem generate_achieves (amount : Option Int) (date : Option Moment) :
    (generate amount date).Achieves context database
      ((Request.generateInvites amount date).Effect context database) := by
  intro draws
  cases amount with
  | none => exact rfl
  | some amount =>
      simp only [generate, ends_bind, ends_ite, ends_throw, ends_now, ends_read, ends_commit,
        ends_log, ends_pure, implies_true, true_and, not_or, Int.not_lt]
      rintro ⟨positive, _⟩
      refine (later_prepares _ _).ends rfl ?_
      rintro expiresOn first saved ⟨lasting, current⟩
      refine (drawIds_prepares amount.toNat []).ends saved ?_
      rintro ids second kept ⟨length, looked, same⟩
      refine (addAll_prepares expiresOn ids).ends kept ?_
      rintro _ third _ adds
      rw [same, current] at adds
      rw [current] at looked
      rw [List.length_nil] at length
      have present (drawn : ids ≠ []) : database.missing? [.invites] = none := by
        have some : ids.length ≠ 0 := mt List.length_eq_zero_iff.mp drawn
        exact looked (by omega)
      exact ⟨expiresOn, congrArg some (by omega), lasting, present, adds⟩

theorem accept_achieves (inviteId : Option String) (date : Option Moment) :
    (accept inviteId date).Achieves context database
      ((Request.acceptInvite inviteId date).Effect context database) := by
  intro draws
  simp only [accept, drawFree, ends_bind, ends_now, ends_require, ends_updateWhere, ends_ite,
    ends_rollback, ends_log, ends_pure, ends_read, ends_get, implies_true, true_and]
  intro _
  refine ⟨fun closed => .refused closed, fun isOpen => ?_⟩
  let free (userId : String) : Prop := ∀ accountId,
    Account.idOfUserId context.settings (some userId) = .ok accountId →
      database.accounts.find? (Account.isNamed (some accountId)) = none
  refine (ends_drawWhere free ?_ _ rfl rfl).imp ?_ (fun _ _ saved => saved)
  · intro userId middle saved current
    cases identified : Account.idOfUserId context.settings (some userId) with
    | error failure => exact saved
    | ok accountId =>
        simp only [ends_bind, ends_pure]
        refine (Account.lookup_prepares (some accountId)).ends saved ?_
        rintro found final kept ⟨isFound, same⟩
        rw [current] at isFound same
        refine ⟨kept, same, fun absent other isOther => ?_⟩
        cases identified.symm.trans isOther
        exact isFound.symm.trans (Option.isNone_iff_eq_none.mp absent)
  · rintro userId middle ⟨saved, current, isFree⟩
    cases identified : Account.idOfUserId context.settings (some userId) with
    | error failure => exact saved
    | ok accountId =>
        simp only [ends_pure, ends_prepareInsertion, ends_stamp, ends_addUnlessAlike]
        refine (later_prepares _ _).ends saved ?_
        rintro validUntil final kept ⟨trial, same⟩
        rw [current] at same
        refine ⟨fun _ _ => kept, fun prepared =>
          ⟨fun _ _ => kept, fun id isNew after inserts => ?_⟩⟩
        rw [same] at prepared inserts
        have isFree := isFree accountId identified
        cases inserts with
        | present found => cases found.symm.trans ((Account.find?_alike database _).trans isFree)
        | added absent admitted =>
            refine ⟨fun known => ?_, fun _ => ?_⟩
            · cases known
            · exact .opened isOpen identified isFree trial prepared admitted

theorem cleanup_achieves (date : Option Moment) :
    (cleanup date).Achieves context database
      ((Request.sweepInvites date).Effect context database) := by
  intro draws
  simp only [cleanup, ends_bind, ends_now, ends_require, ends_eraseWhere, ends_commit, ends_log,
    ends_pure, implies_true, true_and]
  exact fun _ => ⟨rfl, rfl⟩

end Invite

end Lookout
