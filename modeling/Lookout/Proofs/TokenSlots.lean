import Lookout.Proofs.Newest

/-!
# Slots of tokens

Whether a token is registered is settled, at every revision of the schema, by the length of its
text, by the account, and by the rows that there are. The cases in which it fails exclude each
other and leave the database alone. A token that is registered is the only one in the slot of its
account, and nothing else has changed.
-/

namespace Lookout

open Operation Store
open Schema (Catalog Column Revision TableName)

variable {context : Context} {database : Database} {draws : Draws}

/-- What is reached at a revision is whole and has the tables and indexes of that revision. -/
theorem Database.Reached.isAt {revision : Revision} (reached : database.Reached)
    (position : database.position = some revision) :
    database.IsIntegral ∧ database.IsAt (some revision) := by
  obtain ⟨orderly, placed⟩ := reached.isSettled
  rcases placed with ⟨absent, -⟩ | isAt
  · rw [position] at absent
    cases absent
  · exact ⟨orderly.integral, position ▸ isAt⟩

/-- Accounts and their tokens are kept at every revision. -/
theorem Database.IsAt.missing?_eq_none {revision : Revision}
    (isAt : database.IsAt (some revision)) {tables : List TableName}
    (among : tables ⊆ [.accounts, .tokens]) : database.missing? tables = none := by
  refine List.find?_eq_none.mpr fun table isOne => ?_
  have known : table = .accounts ∨ table = .tokens := by simpa using among isOne
  rw [isAt.catalog.hasTable]
  rcases known with rfl | rfl <;> cases revision <;> decide

/-- Accounts with the same id are the same row, at every revision. -/
theorem Database.IsAt.eq_of_accountId {revision : Revision} (isAt : database.IsAt (some revision))
    (integral : database.IsIntegral) {left right : Entry Account}
    (leftStored : left ∈ database.accounts.entries)
    (rightStored : right ∈ database.accounts.entries)
    (same : left.row.accountId = right.row.accountId) : left = right := by
  have unique : [.accountId] ∈ database.catalog.uniqueKeys (Relation.table Account) := by
    rw [isAt.catalog.mem_uniqueKeys]
    cases revision <;> decide
  refine integral.eq_of_alike unique leftStored rightStored ?_
  simp [Relation.alike, Relation.keyOf, Relation.cell, same]

namespace Store.Table

variable {α : Type} {table : Table α} {entry : Entry α} {id : Int} {step : α → α}

/-- A change of the row under a number leaves the others alone. -/
theorem mem_update_iff_of_ne (other : entry.id ≠ id) :
    entry ∈ (table.update (fun held => held.id = id) step).entries ↔ entry ∈ table.entries := by
  rw [entries_update, List.mem_map]
  constructor
  · rintro ⟨old, stored, rfl⟩
    split at other
    · rename_i own
      exact absurd (of_decide_eq_true own) other
    · rename_i own
      rwa [if_neg own]
  · exact fun stored => ⟨entry, stored, if_neg (by simpa using other)⟩

/-- The row under the number is the one that was there, changed. -/
theorem eq_of_mem_update {held : Entry α} (isHeld : held ∈ table.entries)
    (stored : entry ∈ (table.update (fun held => held.id = id) step).entries)
    (heldId : held.id = id) (own : entry.id = id) : entry = ⟨id, step held.row⟩ := by
  subst heldId
  rw [entries_update, List.mem_map] at stored
  obtain ⟨old, isOld, rfl⟩ := stored
  have same : old.id = held.id := by
    split at own <;> exact own
  obtain rfl := table.eq_of_id_eq isOld isHeld same
  simp

end Store.Table

namespace Token

/-- A text that a token cannot have. -/
def IsMisfit (text : Option String) : Prop :=
  ∃ characters, text = some characters ∧ ¬(1 ≤ characters.length ∧ characters.length ≤ 1024)

/-- Another account holds a token for an application and kind. -/
def IsTaken (database : Database) (account : Int) (text : Option String)
    (application kind : Int) : Prop :=
  ∃ held ∈ database.tokens.entries,
    holds text application kind held = true ∧ held.row.account ≠ account

/-- An account holds its one token in another slot, as long as it can have only one. -/
def IsFull (revision : Revision) (database : Database) (account application kind : Int) : Prop :=
  revision.number ≤ 2 ∧ (∃ held ∈ database.tokens.entries, held.row.account = account) ∧
    ∀ held ∈ database.tokens.entries, isSlot account application kind held = false

/-- A token is the only one in its slot, under the number of what was in the slot before; every
other row is what it was. -/
structure Settled (before : Database) (row : Token) (id : Int) (after : Database) : Prop where
  own : ∀ held ∈ before.tokens.entries,
    isSlot row.account row.application row.kind held = true ↔ held.id = id
  filled : ∀ entry, entry ∈ after.tokens.entries ∧
    isSlot row.account row.application row.kind entry = true ↔ entry = ⟨id, row⟩
  others : ∀ entry : Entry Token, entry.id ≠ id →
    (entry ∈ after.tokens.entries ↔ entry ∈ before.tokens.entries)
  elsewhere : ∀ table, table ≠ .tokens → before.Agree after table
  catalog : after.catalog = before.catalog

/-- The columns that tell the tokens of an account apart; at first it could have one only. -/
def slotKey (revision : Revision) : List Column :=
  .ownerAccountId :: if revision.number ≤ 2 then [] else [.applicationType, .tokenType]

/-- A token is told by its text, and by the slot that it is in. -/
theorem mem_uniqueKeys_iff {revision : Revision} (isAt : database.IsAt (some revision))
    {columns : List Column} :
    columns ∈ database.catalog.uniqueKeys .tokens ↔
      columns = textKey ∨ columns = slotKey revision := by
  rw [isAt.catalog.mem_uniqueKeys]
  have keys : (Catalog.atPosition (some revision)).uniqueKeys .tokens =
      if revision.number ≤ 2 then [slotKey revision, textKey]
      else [textKey, slotKey revision] := by
    cases revision <;> rfl
  rw [keys]
  split <;> simp [or_comm]

/-- Tokens in the same slot are the same row. -/
theorem eq_of_isSlot {revision : Revision} (integral : database.IsIntegral)
    (isAt : database.IsAt (some revision)) {account application kind : Int}
    {left right : Entry Token} (leftStored : left ∈ database.tokens.entries)
    (rightStored : right ∈ database.tokens.entries)
    (isLeft : isSlot account application kind left = true)
    (isRight : isSlot account application kind right = true) : left = right := by
  have unique : slotKey revision ∈ database.catalog.uniqueKeys (Relation.table Token) :=
    (mem_uniqueKeys_iff isAt).mpr (.inr rfl)
  refine integral.eq_of_alike unique leftStored rightStored ?_
  simp only [isSlot, Bool.and_eq_true, decide_eq_true_eq] at isLeft isRight
  unfold slotKey
  split <;> simp [Relation.alike, Relation.keyOf, Relation.cell, isLeft, isRight]

/-- Rows that hold the same token are the same row. -/
theorem eq_of_holds {revision : Revision} (integral : database.IsIntegral)
    (isAt : database.IsAt (some revision)) {text : Option String} {application kind : Int}
    {left right : Entry Token} (leftStored : left ∈ database.tokens.entries)
    (rightStored : right ∈ database.tokens.entries)
    (isLeft : holds text application kind left = true)
    (isRight : holds text application kind right = true) : left = right := by
  have unique : textKey ∈ database.catalog.uniqueKeys (Relation.table Token) :=
    (mem_uniqueKeys_iff isAt).mpr (.inl rfl)
  refine integral.eq_of_alike unique leftStored rightStored ?_
  simp only [holds, Bool.and_eq_true, decide_eq_true_eq] at isLeft isRight
  obtain ⟨characters, isText⟩ := Option.isSome_iff_exists.mp isLeft.1.1.1
  rw [isText] at isLeft isRight
  exact Relation.alike_iff.mpr ⟨_, by rw [keyIn_textKey, isLeft.1.1.2]; rfl,
    by rw [keyIn_textKey, isRight.1.1.2, isLeft.1.2, isLeft.2, isRight.1.2, isRight.2]; rfl⟩

section Settled

variable {revision : Revision} {account application kind : Int} {held : Entry Token}

/-- A token takes the place of what is in its slot. -/
theorem settled_updated (integral : database.IsIntegral) (isAt : database.IsAt (some revision))
    (stored : held ∈ database.tokens.entries)
    (isTheSlot : isSlot account application kind held = true) (text : Option String) :
    Settled database { account, text, application, kind } held.id
      (database.updated (fun entry => entry.id = held.id) fun (row : Token) =>
        { row with text }) where
  own other isOther := by
    constructor
    · exact fun isSame => by rw [eq_of_isSlot integral isAt isOther stored isSame isTheSlot]
    · intro same
      rwa [database.tokens.eq_of_id_eq isOther stored same]
  filled entry := by
    have isHeld := isTheSlot
    simp only [isSlot, Bool.and_eq_true, decide_eq_true_eq] at isHeld
    obtain ⟨⟨rfl, rfl⟩, rfl⟩ := isHeld
    constructor
    · rintro ⟨isOne, isSame⟩
      by_cases same : entry.id = held.id
      · exact Table.eq_of_mem_update stored isOne rfl same
      · have isOther := (Table.mem_update_iff_of_ne same).mp isOne
        exact absurd (eq_of_isSlot integral isAt isOther stored isSame isTheSlot ▸ rfl) same
    · rintro rfl
      refine ⟨?_, isTheSlot⟩
      have changed := Database.mem_updated stored (fun entry => entry.id = held.id)
        fun (row : Token) => { row with text }
      rwa [if_pos (decide_eq_true rfl)] at changed
  others entry other := Table.mem_update_iff_of_ne other
  elsewhere table other := .updated other
  catalog := rfl

/-- A slot that is not there yet is made for a token. -/
theorem settled_added
    (vacant : ∀ held ∈ database.tokens.entries, isSlot account application kind held = false)
    (text : Option String) :
    Settled database { account, text, application, kind } database.tokens.nextId
      (database.added { account, text, application, kind : Token }) where
  own other isOther := by
    rw [vacant other isOther]
    have below := database.tokens.id_lt_nextId isOther
    simp only [Bool.false_eq_true, false_iff]
    omega
  filled entry := by
    change entry ∈ database.tokens.entries ++ [_] ∧ _ ↔ _
    rw [List.mem_append, List.mem_singleton]
    constructor
    · rintro ⟨isOld | isNew, isSame⟩
      · rw [vacant entry isOld] at isSame
        cases isSame
      · exact isNew
    · rintro rfl
      exact ⟨.inr rfl, by simp [isSlot]⟩
  others entry other := by
    change entry ∈ database.tokens.entries ++ [_] ↔ _
    rw [List.mem_append, List.mem_singleton, or_iff_left]
    rintro rfl
    exact other rfl
  elsewhere table other := .added _ other
  catalog := rfl

end Settled

/-- How registering a token ends, and what it leaves of the database. -/
inductive Verdict (revision : Revision) (database : Database) (accountId text : Option String)
    (application kind : Int) : Except Failure Int → Database → Prop where
  | misfit {length : Nat} (unfit : IsMisfit text) :
      Verdict revision database accountId text application kind (.error (.tokenLength length))
        database
  | unknown (fit : ¬IsMisfit text)
      (absent : ∀ owner ∈ database.accounts.entries, some owner.row.accountId ≠ accountId) :
      Verdict revision database accountId text application kind (.error (.noAccount accountId))
        database
  | deleted {owner : Entry Account} (fit : ¬IsMisfit text)
      (stored : owner ∈ database.accounts.entries) (named : some owner.row.accountId = accountId)
      (gone : owner.row.deletedOn ≠ none) :
      Verdict revision database accountId text application kind
        (.error (.accountDeleted accountId)) database
  | taken {owner : Entry Account} (fit : ¬IsMisfit text)
      (stored : owner ∈ database.accounts.entries) (named : some owner.row.accountId = accountId)
      (present : owner.row.deletedOn = none)
      (taken : IsTaken database owner.id text application kind) :
      Verdict revision database accountId text application kind (.error (.tokenTaken text))
        database
  | full {owner : Entry Account} (fit : ¬IsMisfit text)
      (stored : owner ∈ database.accounts.entries) (named : some owner.row.accountId = accountId)
      (present : owner.row.deletedOn = none)
      (full : IsFull revision database owner.id application kind) :
      Verdict revision database accountId text application kind
        (.error (.slotRefused text accountId)) database
  | settled {owner : Entry Account} {id : Int} {after : Database} (fit : ¬IsMisfit text)
      (stored : owner ∈ database.accounts.entries) (named : some owner.row.accountId = accountId)
      (present : owner.row.deletedOn = none)
      (free : ¬IsTaken database owner.id text application kind)
      (room : ¬IsFull revision database owner.id application kind)
      (settled : Settled database ⟨owner.id, text, application, kind⟩ id after) :
      Verdict revision database accountId text application kind (.ok id) after

section Verdict

variable {revision : Revision} {accountId text : Option String} {application kind : Int}
  {owner : Entry Account} {session : Session}

/-- An account that has one token and can have no other is refused a second one. -/
theorem refusal?_of_isFull {account : Int} (isAt : database.IsAt (some revision))
    (full : IsFull revision database account application kind) (text : Option String) :
    ∃ key, database.refusal? { account, text, application, kind : Token } =
      some (.duplicate .tokens key) := by
  obtain ⟨single, ⟨held, stored, own⟩, -⟩ := full
  have unique : slotKey revision ∈ database.catalog.uniqueKeys (Relation.table Token) :=
    (mem_uniqueKeys_iff isAt).mpr (.inr rfl)
  refine Database.exists_duplicate_of_alike unique stored ?_
  simp [slotKey, single, Relation.alike, Relation.keyOf, Relation.cell, own]

/-- A token that no row holds is taken into a slot that is not there yet, if there is room. -/
theorem refusal?_eq_none (isAt : database.IsAt (some revision))
    (stored : owner ∈ database.accounts.entries)
    (free : database.tokens.find? (holds text application kind) = none)
    (vacant : ∀ held ∈ database.tokens.entries, isSlot owner.id application kind held = false)
    (room : ¬IsFull revision database owner.id application kind) :
    database.refusal? { account := owner.id, text, application, kind : Token } = none := by
  refine Database.admitted_of_unlike_and_rooted ?_ ?_
  · intro columns unique held isHeld
    rw [Bool.eq_false_iff]
    intro alike
    rcases (mem_uniqueKeys_iff isAt).mp unique with rfl | rfl
    · obtain ⟨key, ofRow, ofHeld⟩ := Relation.alike_iff.mp alike
      exact keyIn_ne_of_free free isHeld ofRow ofHeld
    · have unslotted := vacant held isHeld
      by_cases single : revision.number ≤ 2
      · refine room ⟨single, ⟨held, isHeld, ?_⟩, vacant⟩
        simpa [slotKey, single, Relation.alike, Relation.keyOf, Relation.cell] using alike
      · simp [slotKey, single, Relation.alike, Relation.keyOf, Relation.cell] at alike
        simp [isSlot, alike] at unslotted
  · intro key isKey id names
    simp only [Relation.table, TableName.definition, List.mem_singleton] at isKey
    subst isKey
    cases names
    exact Table.has_iff.mpr ⟨owner, stored, rfl⟩

/-- Filling the slot of an account with a token that no other account holds settles it there, or
is refused for want of room. -/
theorem ends_fill (integral : database.IsIntegral) (isAt : database.IsAt (some revision))
    (storable : isStorable application = true ∧ isStorable kind = true)
    (stored : owner ∈ database.accounts.entries)
    (free : database.tokens.find? (holds text application kind) = none)
    (current : session.current = database) (saved : session.saved = database) :
    (fill owner text application kind).Ends context session
      (fun id final => ¬IsFull revision database owner.id application kind ∧
        Settled database ⟨owner.id, text, application, kind⟩ id final.current)
      (fun failure final => IsFull revision database owner.id application kind ∧
        failure = .slotRefused text (some owner.row.accountId) ∧ final.saved = database) := by
  have present : database.missing? [.tokens] = none := isAt.missing?_eq_none (by simp)
  have prepared : database.obstacle? .tokens none = none := by
    have parents : database.missing? [.accounts] = none := isAt.missing?_eq_none (by simp)
    simp only [Database.obstacle?, present, Option.any_none, Bool.false_eq_true, if_false]
    rw [Option.map_eq_none_iff]
    exact parents
  have looked : (slot owner.id application kind).Ends context session
      (fun found final => found = database.tokens.find? (isSlot owner.id application kind) ∧
        final = session) (fun _ _ => False) := by
    simp only [slot, ends_bind, ends_require, ends_fits, ends_rows, ends_pure, current, present]
    simp [storable]
    rfl
  rw [fill, ends_bind]
  refine looked.imp ?_ (fun _ _ => False.elim)
  rintro found _ ⟨isFound, rfl⟩
  cases found with
  | some held =>
      obtain ⟨isHeld, isTheSlot⟩ := Table.of_find? isFound.symm
      simp only [ends_bind, ends_updateWhere, ends_pure, current]
      refine ⟨fun full => ?_, settled_updated integral isAt isHeld isTheSlot text⟩
      rw [full.2.2 held isHeld] at isTheSlot
      cases isTheSlot
  | none =>
      have vacant : ∀ held ∈ database.tokens.entries,
          isSlot owner.id application kind held = false := by
        simpa [Table.find?] using isFound.symm
      rw [ends_bind, ends_prepareInsertion, ends_orFail, ends_add, current, prepared]
      refine ⟨fun error blocked => ?_, fun _ => ⟨fun error refused => ?_, fun admitted => ?_⟩⟩
      · cases blocked
      · by_cases full : IsFull revision database owner.id application kind
        · obtain ⟨key, isDuplicate⟩ := refusal?_of_isFull isAt full text
          cases refused.symm.trans isDuplicate
          exact ⟨fun _ _ _ => ⟨full, rfl, saved⟩, fun integral => by cases integral _ rfl⟩
        · rw [refusal?_eq_none isAt stored free vacant full] at refused
          cases refused
      · refine ⟨fun full => ?_, settled_added vacant text⟩
        obtain ⟨key, isDuplicate⟩ := refusal?_of_isFull isAt full text
        rw [admitted] at isDuplicate
        cases isDuplicate

/-- A text is no token's where it does not have an admissible length. -/
theorem isMisfit_some_iff {characters : String} :
    IsMisfit (some characters) ↔ (!isAdmissible characters) = true := by
  simp only [IsMisfit, Option.some.injEq, exists_eq_left', isAdmissible, Bool.not_eq_true',
    Bool.and_eq_false_iff, decide_eq_false_iff_not]
  unfold Settings.tokenMax
  omega

/-- Looking for a token answers the first row that holds it. -/
theorem ends_find {characters : String} {answers : Option (Entry Token) → Session → Prop}
    {fails : Failure → Session → Prop} (present : session.current.missing? [.tokens] = none)
    (storable : isStorable application = true ∧ isStorable kind = true) :
    (find characters application kind).Ends context session answers fails ↔
      answers (session.current.tokens.find? (holds (some characters) application kind))
        session := by
  simp only [find, ends_bind, ends_require, ends_fits, ends_rows, ends_pure, present]
  simp [storable]
  rfl

/-- A token that its own account holds already is where it belongs. -/
theorem verdict_of_own (integral : database.IsIntegral) (isAt : database.IsAt (some revision))
    {held : Entry Token} (fit : ¬IsMisfit text) (stored : owner ∈ database.accounts.entries)
    (named : some owner.row.accountId = accountId) (present : owner.row.deletedOn = none)
    (isHeld : held ∈ database.tokens.entries) (holding : holds text application kind held = true)
    (own : held.row.account = owner.id) :
    Verdict revision database accountId text application kind (.ok held.id) database := by
  have isTheSlot : isSlot owner.id application kind held = true := by
    simp only [holds, Bool.and_eq_true, decide_eq_true_eq] at holding
    simp [isSlot, own, holding]
  have isText : held.row.text = text := by
    simp only [holds, Bool.and_eq_true, decide_eq_true_eq] at holding
    exact holding.1.1.2
  have unchanged : database.updated (fun entry => entry.id = held.id) (fun (row : Token) =>
      { row with text }) = database := by
    refine Database.updated_self fun entry isOne same => ?_
    rw [database.tokens.eq_of_id_eq isOne isHeld (of_decide_eq_true same), ← isText]
  have settled := settled_updated integral isAt isHeld isTheSlot text
  rw [unchanged] at settled
  refine .settled fit stored named present ?_ ?_ settled
  · rintro ⟨other, isOther, likewise, foreign⟩
    rw [eq_of_holds integral isAt isOther isHeld likewise holding] at foreign
    exact foreign own
  · rintro ⟨-, -, vacant⟩
    rw [vacant held isHeld] at isTheSlot
    cases isTheSlot

/-- Registering a token comes to its verdict. -/
theorem verdict_register (integral : database.IsIntegral) (isAt : database.IsAt (some revision))
    (storable : isStorable application = true ∧ isStorable kind = true)
    {applicationValue kindValue : Value}
    (isApplication : applicationValue.toInteger = .ok application)
    (isKind : kindValue.toInteger = .ok kind) (accountId text : Option String)
    (context : Context) (draws : Draws) :
    Verdict revision database accountId text application kind
      ((register accountId text applicationValue kindValue).perform context database draws).answer
      ((register accountId text applicationValue kindValue).perform context database
        draws).database := by
  have ends : (register accountId text applicationValue kindValue).Ends context
      { saved := database, current := database, draws }
      (fun id final =>
        Verdict revision database accountId text application kind (.ok id) final.saved)
      (fun failure final =>
        Verdict revision database accountId text application kind (.error failure)
          final.saved) := by
    have accounts : database.missing? [.accounts] = none := isAt.missing?_eq_none (by simp)
    have tokens : database.missing? [.tokens] = none := isAt.missing?_eq_none (by simp)
    -- What is left to do once no row is known to hold the token.
    have filled {owner : Entry Account} (fit : ¬IsMisfit text)
        (stored : owner ∈ database.accounts.entries)
        (named : some owner.row.accountId = accountId) (present : owner.row.deletedOn = none)
        (free : database.tokens.find? (holds text application kind) = none) :
        (fill owner text application kind).Ends context
          { saved := database, current := database, draws }
          (fun id final =>
            Verdict revision database accountId text application kind (.ok id) final.current)
          (fun failure final =>
            Verdict revision database accountId text application kind (.error failure)
              final.saved) := by
      refine (ends_fill integral isAt storable stored free rfl rfl).imp ?_ ?_
      · rintro id final ⟨room, settled⟩
        refine .settled fit stored named present ?_ room settled
        rintro ⟨held, isHeld, holding, -⟩
        exact List.find?_eq_none.mp free held isHeld holding
      · rintro _ final ⟨full, rfl, saved⟩
        rw [saved, named]
        exact .full fit stored named present full
    have unknown (fit : ¬IsMisfit text)
        (absent : database.accounts.find? (Account.isNamed accountId) = none) :
        Verdict revision database accountId text application kind
          (.error (.noAccount accountId)) database := by
      refine .unknown fit fun owner stored named => ?_
      exact List.find?_eq_none.mp absent owner stored (decide_eq_true named)
    have owned {owner : Entry Account}
        (found : database.accounts.find? (Account.isNamed accountId) = some owner) :
        owner ∈ database.accounts.entries ∧ some owner.row.accountId = accountId :=
      (Table.of_find? found).imp_right of_decide_eq_true
    cases text with
    | none =>
        have fit : ¬IsMisfit none := by simp [IsMisfit]
        simp only [register, ends_bind, ends_wholeNumber, isApplication, isKind, Except.ok.injEq,
          forall_eq', reduceCtorEq, false_implies, implies_true, true_and, ends_pure, ends_commit,
          ends_log, ends_ite, ends_throw]
        rw [Account.ends_demand_of_present accounts]
        refine ⟨unknown fit, fun owner found => ?_⟩
        obtain ⟨stored, named⟩ := owned found
        refine ⟨fun gone => .deleted fit stored named (Option.isSome_iff_ne_none.mp gone),
          fun present => ?_⟩
        refine filled fit stored named (Option.not_isSome_iff_eq_none.mp present) ?_
        simp [Table.find?, holds]
    | some characters =>
        simp only [register, ends_bind, ends_wholeNumber, isApplication, isKind, Except.ok.injEq,
          forall_eq', reduceCtorEq, false_implies, implies_true, true_and, ends_log, ends_ite,
          ends_throw]
        rw [Account.ends_demand_of_present accounts]
        refine ⟨fun unfit => .misfit (isMisfit_some_iff.mpr unfit), fun admissible => ?_⟩
        have fit : ¬IsMisfit (some characters) := mt isMisfit_some_iff.mp admissible
        refine ⟨unknown fit, fun owner found => ?_⟩
        obtain ⟨stored, named⟩ := owned found
        refine ⟨fun gone => .deleted fit stored named (Option.isSome_iff_ne_none.mp gone),
          fun present => ?_⟩
        have present := Option.not_isSome_iff_eq_none.mp present
        rw [ends_find tokens storable]
        cases holding : database.tokens.find? (holds (some characters) application kind) with
        | none =>
            simp only [ends_bind, ends_commit, ends_log, ends_pure]
            exact filled fit stored named present holding
        | some held =>
            obtain ⟨isHeld, isHolding⟩ := Table.of_find? holding
            simp only [ends_bind, ends_ite, ends_commit, ends_rollback, ends_throw, ends_pure]
            refine ⟨fun own => ?_, fun other => .taken fit stored named present
              ⟨held, isHeld, isHolding, other⟩⟩
            exact verdict_of_own integral isAt fit stored named present isHeld isHolding own
  rcases ends.outcome with ⟨id, final, verdict, answered, same⟩ | ⟨_, final, verdict, failed, same⟩
  · rwa [answered, same]
  · rwa [failed, same]

end Verdict

/-- At every revision, whether a token is registered is settled by the length of its text, then by
the account, then by the tokens that there are. Where it fails the database stays, and where it is
registered nothing but its slot has changed; while an account can have several tokens, it is never
refused for want of room. -/
theorem register_settles_iff {revision : Revision} (reached : database.Reached)
    (position : database.position = some revision) (accountId text : Option String)
    (applicationValue kindValue : Value) {application kind : Int}
    (isApplication : applicationValue.toInteger = .ok application)
    (isKind : kindValue.toInteger = .ok kind)
    (storable : isStorable application = true ∧ isStorable kind = true)
    (context : Context) (draws : Draws) :
    let outcome :=
      (register accountId text applicationValue kindValue).perform context database draws
    let raises (kind : FailureKind) : Prop :=
      ∃ failure, outcome.answer = .error failure ∧ failure.kind = kind
    let isNamed (owner : Entry Account) : Prop :=
      owner ∈ database.accounts.entries ∧ some owner.row.accountId = accountId
    (raises .value ↔ IsMisfit text) ∧
    (¬IsMisfit text →
      (raises .notFound ↔ ¬∃ owner, isNamed owner) ∧
      ∀ owner, isNamed owner →
        (raises .notValid ↔ owner.row.deletedOn ≠ none) ∧
        (owner.row.deletedOn = none →
          (raises .conflict ↔ IsTaken database owner.id text application kind ∨
            IsFull revision database owner.id application kind) ∧
          (¬IsTaken database owner.id text application kind →
            ¬IsFull revision database owner.id application kind →
              ∃ id, outcome.answer = .ok id ∧
                Settled database ⟨owner.id, text, application, kind⟩ id outcome.database))) ∧
    (∀ failure, outcome.answer = .error failure → outcome.database = database) ∧
    (3 ≤ revision.number →
      ∀ token holder, outcome.answer ≠ .error (.slotRefused token holder)) := by
  obtain ⟨integral, isAt⟩ := reached.isAt position
  have verdict := verdict_register integral isAt storable isApplication isKind accountId text
    context draws
  generalize (register accountId text applicationValue kindValue).perform context database draws =
    outcome at verdict ⊢
  obtain ⟨answer, after, _, _⟩ := outcome
  intro outcome raises isNamed
  -- The account that a verdict is about is the only one with its id.
  have only {owner : Entry Account} (stored : owner ∈ database.accounts.entries)
      (named : some owner.row.accountId = accountId) (other : Entry Account) :
      isNamed other ↔ other = owner := by
    constructor
    · rintro ⟨isOther, likewise⟩
      exact isAt.eq_of_accountId integral isOther stored
        (Option.some.inj (likewise.trans named.symm))
    · rintro rfl
      exact ⟨stored, named⟩
  cases verdict with
  | misfit unfit => simp [outcome, raises, Failure.kind, unfit]
  | unknown fit absent =>
      have nobody (owner : Entry Account) : ¬isNamed owner := fun ⟨stored, named⟩ =>
        absent owner stored named
      simp [outcome, raises, Failure.kind, fit, nobody]
  | deleted fit stored named gone =>
      simp [outcome, raises, Failure.kind, fit, only stored named, gone]
  | taken fit stored named present taken =>
      simp [outcome, raises, Failure.kind, fit, only stored named, present, taken]
  | full fit stored named present full =>
      have early : ¬3 ≤ revision.number := Nat.not_le_of_lt (Nat.lt_succ_of_le full.1)
      simp [outcome, raises, Failure.kind, fit, only stored named, present, full, early]
  | settled fit stored named present free room settled =>
      simp [outcome, raises, fit, only stored named, present, free, room, settled]

/-- An account with one token, at a revision. -/
def single (revision : Revision) : Database :=
  (Database.atRevision revision ⟨⟨0⟩, true⟩).after <|
    [.upsertAccount (some "a") none,
      .registerToken (some "a") (some "x") (.integer 0) (.integer 0)].map fun request =>
    { request, context := { clock := ⟨0⟩ } }

/-- Such an account is refused a second token at the second revision and given it at the third. -/
theorem register_settles_second :
    let outcome (revision : Revision) :=
      (register (some "a") (some "y") (.integer 1) (.integer 0)).perform { clock := ⟨0⟩ }
        (single revision) {}
    (∃ failure, (outcome .posts).answer = .error failure ∧ failure.kind = .conflict) ∧
      ∃ id, (outcome .applications).answer = .ok id ∧
        Settled (single .applications) ⟨1, some "y", 1, 0⟩ id (outcome .applications).database := by
  have reached (revision : Revision) : (single revision).Reached :=
    (Database.Reached.founded revision ⟨⟨0⟩, true⟩).after _
  have fit : ¬IsMisfit (some "y") := by
    rintro ⟨_, isText, unfit⟩
    cases isText
    exact unfit (by decide)
  let owner : Entry Account := ⟨1, { accountId := "a", createdOn := ⟨⟨0⟩, false⟩ }⟩
  have settles (revision : Revision) (position : (single revision).position = some revision)
      (stored : owner ∈ (single revision).accounts.entries) :=
    (((register_settles_iff (reached revision) position (some "a") (some "y") (.integer 1)
      (.integer 0) rfl rfl (by decide) { clock := ⟨0⟩ } {}).2.1 fit).2 owner ⟨stored, rfl⟩).2 rfl
  have alone (revision : Revision) (held : Entry Token)
      (stored : held ∈ (single revision).tokens.entries) :
      holds (some "y") 1 0 held = false ∧ isSlot 1 1 0 held = false := by
    revert held
    cases revision <;> decide
  constructor
  · refine (settles .posts rfl (.head _)).1.mpr (.inr ⟨by decide, ?_, fun held stored => ?_⟩)
    · exact ⟨⟨1, 1, some "x", 0, 0⟩, .head _, rfl⟩
    · exact (alone .posts held stored).2
  · refine (settles .applications rfl (.head _)).2 ?_ ?_
    · rintro ⟨held, stored, holding, -⟩
      rw [(alone .applications held stored).1] at holding
      cases holding
    · exact fun full => absurd full.1 (by decide)

end Token

end Lookout
