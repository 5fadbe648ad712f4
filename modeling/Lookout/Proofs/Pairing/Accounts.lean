import Lookout.Proofs.Pairing

/-!
# Accounts, tokens and invites side by side

What the operations on accounts, tokens and invites do in a run they do in the run beside it:
with disguised arguments they find the disguises of the rows that they found before.
-/

namespace Lookout

open Disguisable (disguised)
open Operation
open Pairing
open Store
open Time (Moment)

variable {pairing : Pairing} {context : Context}

namespace Pairing.Joins

variable {first second : Database}

/-- An account under a number has an id where its disguise has the disguise of the id. -/
theorem any_owner (joins : pairing.Joins first second) (id : Int) (accountId : Option String) :
    (second.accounts.entries.any fun account => account.id = id &&
        some account.row.accountId = accountId.map pairing.disguise.accounts) =
      first.accounts.entries.any fun account => account.id = id &&
        some account.row.accountId = accountId := by
  rw [joins.accounts, Table.entries_map, List.any_map]
  refine List.any_congr rfl fun account => ?_
  exact congrArg (_ && ·) (Account.decide_accountId_disguised _ account accountId)

/-- An account under a number can be notified where its disguise can. -/
theorem any_notifiable (joins : pairing.Joins first second) (id : Int) (clock : Time.WallTime) :
    (second.accounts.entries.any fun account =>
        account.id = id && account.row.isNotifiable clock) =
      first.accounts.entries.any fun account =>
        account.id = id && account.row.isNotifiable clock := by
  rw [joins.accounts, Table.entries_map, List.any_map]
  rfl

end Pairing.Joins

namespace Account

theorem follows_lookup (accountId : Option String) (includeDeleted : Bool) :
    pairing.Follows context (lookup accountId includeDeleted)
      (lookup (accountId.map pairing.disguise.accounts) includeDeleted)
      fun found other => other = found.map (Entry.map (disguised pairing.disguise)) := by
  refine .bind (.require _) fun _ _ _ => .bind .rows fun table other same => .pure ?_
  rw [same]
  refine Table.find?_map fun entry => ?_
  exact congrArg (· && _) (decide_accountId_disguised _ entry accountId)

theorem follows_demand (accountId : Option String) :
    pairing.Follows context (demand accountId)
      (demand (accountId.map pairing.disguise.accounts))
      fun found other => other = found.map (disguised pairing.disguise) := by
  refine .bindMap (follows_lookup accountId true) fun found => ?_
  cases found with
  | some entry => exact .pure rfl
  | none => exact .throw rfl

theorem follows_upsert (accountId : Option String) (validUntil : Option Moment) :
    pairing.Follows context (upsert accountId validUntil)
      (upsert (accountId.map pairing.disguise.accounts) validUntil) Eq := by
  refine .bind (.prepareInsertion (by decide)) fun _ _ present => ?_
  refine .bindMap (.needed _ accountId) fun accountId => ?_
  refine .bindSame .stamp fun stamp => ?_
  refine .bindSame (.addUnlessAlike _ _ present) fun (id, added) => ?_
  refine .bind .commit fun _ _ _ => ?_
  refine .ite Iff.rfl (fun _ => ?_) fun _ => .pure rfl
  exact .bind (.log (by simp)) fun _ _ _ => .pure rfl

theorem follows_setExpiry (accountId : Option String) (validUntil : Option Moment) :
    pairing.Follows context (setExpiry accountId validUntil)
      (setExpiry (accountId.map pairing.disguise.accounts) validUntil) Eq := by
  refine .bindMap (follows_demand accountId) fun account => ?_
  refine .bind (.updateWhere (fun _ => rfl) fun _ => rfl) fun _ _ _ => ?_
  refine .bind .commit fun _ _ _ => ?_
  cases validUntil with
  | some date => exact .log (by simp)
  | none => exact .throw rfl

theorem follows_expire (accountId : Option String) (date : Option Moment) :
    pairing.Follows context (expire accountId date)
      (expire (accountId.map pairing.disguise.accounts) date) Eq := by
  refine .bindSame .now fun now => ?_
  refine .bindMap (follows_demand accountId) fun account => ?_
  refine .bind (.updateWhere (fun _ => rfl) fun _ => rfl) fun _ _ _ => ?_
  exact .bind .commit fun _ _ _ => .log (by simp)

theorem follows_delete (accountId : Option String) :
    pairing.Follows context (delete accountId)
      (delete (accountId.map pairing.disguise.accounts)) Eq := by
  refine .bind (.require _) fun _ _ _ => ?_
  refine .bindSame (.eraseWhere (by decide) fun entry => ?_) fun count => ?_
  · exact decide_accountId_disguised _ entry accountId
  exact .bind .commit fun _ _ _ => .pure rfl

theorem follows_lapseAt (account : Account) (moment : Moment) :
    pairing.Follows context (account.lapseAt moment)
      ((disguised pairing.disguise account).lapseAt moment) Eq := by
  change pairing.Follows context (account.lapseAt moment) (account.lapseAt moment) Eq
  unfold lapseAt
  cases account.lapse moment with
  | ok lapse => exact .pure rfl
  | error error => exact .throw rfl

theorem follows_status (accountId : Option String) (moment : Moment) :
    pairing.Follows context (status accountId moment)
      (status (accountId.map pairing.disguise.accounts) moment) Eq := by
  refine .bindMap (follows_lookup accountId true) fun found => ?_
  cases found with
  | some account => exact follows_lapseAt account.row moment
  | none => exact .throw rfl

theorem follows_belongings (accountId : Option String) :
    pairing.Follows context (belongings accountId)
      (belongings (accountId.map pairing.disguise.accounts)) Eq := by
  refine .bindMap (follows_lookup accountId true) fun found => ?_
  cases found with
  | none => exact .pure rfl
  | some account =>
      refine .bind (.require _) fun _ _ _ => .bind .database fun first second joins => .pure ?_
      simp only [joins.tokens, joins.replies, joins.watches]
      rw [Table.ids_select_map fun _ => rfl, Table.ids_select_map fun _ => rfl,
        Table.ids_select_map fun _ => rfl]
      rfl

/-- A user id that cannot be hashed fails without a word of account ids and tokens. -/
theorem disguised_of_idOfUserId {settings : Settings} {userId : Option String} {failure : Failure}
    (failed : idOfUserId settings userId = .error failure) (disguise : Disguise) :
    failure.disguised disguise = failure := by
  unfold idOfUserId Digest.ofTextRounds Digest.ofGiven at failed
  repeat' split at failed
  all_goals cases failed
  all_goals rfl

theorem follows_identified (userId : Option String) :
    pairing.Follows context (Request.identified userId) (Request.identified userId) Eq := by
  refine .bindSame .read fun around => ?_
  cases identified : idOfUserId around.settings userId with
  | ok accountId => exact .pure rfl
  | error failure => exact .throw (disguised_of_idOfUserId identified _).symm

end Account

namespace Token

theorem follows_ofAccount (accountId : Option String) :
    pairing.Follows context (ofAccount accountId)
      (ofAccount (accountId.map pairing.disguise.accounts))
      fun tokens others => others = tokens.map (Entry.map (disguised pairing.disguise)) := by
  refine .bind (.require _) fun _ _ _ => .bind .database fun first second joins => .pure ?_
  rw [joins.tokens, Table.select_map fun token => joins.any_owner token.row.account accountId]
  exact (List.map_mergeSort (f := Entry.map (disguised pairing.disguise)) fun _ _ _ _ => rfl).symm

theorem follows_find (text : String) (application kind : Int) :
    pairing.Follows context (find text application kind)
      (find (pairing.disguise.tokens text) application kind)
      fun found other => other = found.map (Entry.map (disguised pairing.disguise)) := by
  refine .bind (.require _) fun _ _ _ => .bind (.fits _) fun _ _ _ => ?_
  refine .bind .rows fun table other same => .pure ?_
  rw [same]
  refine Table.find?_map fun entry => ?_
  exact congrArg (· && _ && _) (decide_text_disguised _ entry (some text))

theorem follows_slot (account application kind : Int) :
    pairing.Follows context (slot account application kind) (slot account application kind)
      fun found other => other = found.map (Entry.map (disguised pairing.disguise)) := by
  refine .bind (.require _) fun _ _ _ => .bind (.fits _) fun _ _ _ => ?_
  refine .bind .rows fun table other same => .pure ?_
  rw [same]
  exact Table.find?_map fun _ => rfl

theorem follows_fill (owner : Entry Account) (text : Option String) (application kind : Int) :
    pairing.Follows context (fill owner text application kind)
      (fill (owner.map (disguised pairing.disguise)) (text.map pairing.disguise.tokens) application
        kind) Eq := by
  refine .bindMap (follows_slot owner.id application kind) fun held => ?_
  cases held with
  | some held =>
      refine .bind (.updateWhere (fun _ => rfl) fun _ => rfl) fun _ _ _ => ?_
      exact .pure rfl
  | none =>
      refine .bind (.prepareInsertion (by decide)) fun _ _ present => ?_
      exact .orFail (.add _ present) rfl

theorem follows_register (accountId text : Option String) (application kind : Value) :
    pairing.Follows context (register accountId text application kind)
      (register (accountId.map pairing.disguise.accounts) (text.map pairing.disguise.tokens)
        application kind) Eq := by
  unfold register
  -- The operation goes on in three places: after the check of the token, after that of the
  -- account, and after the search for the token. Each is followed from the last one backwards.
  extract_lets register registerOther
  have registers : pairing.Follows context (register ()) (registerOther ()) Eq := by
    refine .bindSame (.wholeNumber _) fun application => ?_
    refine .bindSame (.wholeNumber _) fun kind => ?_
    refine .bindMap (Account.follows_demand accountId) fun owner => ?_
    extract_lets settle store settleOther storeOther
    have settles (existing : Option (Entry Token)) :
        pairing.Follows context (settle existing)
          (settleOther (existing.map (Entry.map (disguised pairing.disguise)))) Eq := by
      cases existing with
      | some held =>
          refine .ite Iff.rfl (fun _ => .bind .commit fun _ _ _ => .pure rfl) fun _ => ?_
          exact .bind .rollback fun _ _ _ => .throw rfl
      | none =>
          refine .bindSame (follows_fill owner text application kind) fun id => ?_
          refine .bind .commit fun _ _ _ => ?_
          exact .bind (.log (by simp)) fun _ _ _ => .pure rfl
    have stores : pairing.Follows context (store ()) (storeOther ()) Eq := by
      cases text with
      | none => exact settles none
      | some characters =>
          refine .bindMap (follows_find characters application kind) fun existing => ?_
          exact settles existing
    refine .ite Iff.rfl (fun _ => ?_) fun _ => stores
    refine .bind (.log (by simp)) fun _ _ _ => ?_
    exact .bind (.throw rfl) fun _ _ => False.elim
  cases text with
  | none => exact registers
  | some characters =>
      refine .ite (by simp [isAdmissible]) (fun _ => ?_) fun _ => registers
      refine .bind (.throw ?_) fun _ _ => False.elim
      exact congrArg Failure.tokenLength (pairing.disguise.tokens.length_rename characters)

end Token

namespace Invite

theorem follows_lookup (inviteId : Option String) :
    pairing.Follows context (lookup inviteId) (lookup inviteId) fun found other =>
      found = other ∧ pairing.earlier.hasTable .invites = true := by
  refine .bind (.require _) fun _ _ present => ?_
  refine .bindSame (.bareRows fun _ => rfl) fun table => ?_
  exact .pure ⟨rfl, present _ (.head _)⟩

theorem follows_later (moment : Moment) (days : Int) :
    pairing.Follows context (later moment days) (later moment days) Eq := by
  unfold later
  cases moment.addDays days with
  | ok later => exact .pure rfl
  | error error => exact .throw rfl

/-- The same invite ids are drawn, and where any are drawn there is a table of invites. -/
theorem follows_drawIds (count : Nat) (drawn : List String) :
    pairing.Follows context (drawIds drawn count) (drawIds drawn count) fun ids other =>
      ids = other ∧ (ids = drawn ∨ pairing.earlier.hasTable .invites = true) := by
  induction count generalizing drawn with
  | zero => exact .pure ⟨rfl, .inl rfl⟩
  | succ count ih =>
      refine .bind (.drawFree (pairing.earlier.hasTable .invites = true) fun text => ?_)
        fun inviteId other ⟨same, present⟩ => ?_
      · refine .ite Iff.rfl (fun _ => .pure ⟨rfl, nofun⟩) fun _ => ?_
        refine .bind (follows_lookup _) fun found other ⟨same, present⟩ => ?_
        subst same
        exact .pure ⟨rfl, fun _ => present⟩
      · subst same
        exact (ih (drawn ++ [inviteId])).imp fun ids other same => ⟨same.1, .inr present⟩

theorem follows_addAll (expiresOn : Moment) (ids : List String)
    (present : ids = [] ∨ pairing.earlier.hasTable .invites = true) :
    pairing.Follows context (addAll expiresOn ids) (addAll expiresOn ids) Eq := by
  induction ids with
  | nil => exact .pure rfl
  | cons inviteId rest ih =>
      have present := present.resolve_left (List.cons_ne_nil inviteId rest)
      refine .bindSame .stamp fun stamp => ?_
      exact .bind (.add _ present) fun _ _ _ => ih (.inr present)

theorem follows_generate (amount : Option Int) (date : Option Moment) :
    pairing.Follows context (generate amount date) (generate amount date) Eq := by
  cases amount with
  | none => exact .throw rfl
  | some amount =>
      refine .ite Iff.rfl (fun _ => ?_) fun _ => ?_
      · exact .bind (.throw rfl) fun _ _ => False.elim
      · refine .bindSame .now fun now => ?_
        refine .bindSame .read fun context => ?_
        refine .bindSame (follows_later _ _) fun expiresOn => ?_
        refine .bind (follows_drawIds _ []) fun ids _ ⟨same, present⟩ => ?_
        subst same
        refine .bind (follows_addAll expiresOn ids present) fun _ _ _ => ?_
        refine .bind .commit fun _ _ _ => .bind (.log rfl) fun _ _ _ => .pure rfl

theorem follows_accept (plain : pairing.disguise = .plain) (inviteId : Option String)
    (date : Option Moment) :
    pairing.Follows context (accept inviteId date) (accept inviteId date) Eq := by
  have unchanged (accountId : String) : pairing.disguise.accounts accountId = accountId := by
    rw [plain]
    rfl
  refine .bindSame .now fun now => ?_
  refine .bind (.require _) fun _ _ _ => ?_
  refine .bindSame (.updateWhere (fun _ => rfl) fun _ => rfl) fun accepted => ?_
  refine .ite Iff.rfl (fun _ => ?_) fun _ => ?_
  · exact .bind .rollback fun _ _ _ => .bind (.log rfl) fun _ _ _ => .pure rfl
  · refine .bindSame .read fun around => ?_
    extract_lets settings identify
    -- Both runs hash the same user id, so what they look for is in no disguise.
    have identifies (userId : String) :
        pairing.Follows context (identify userId) (identify userId) Eq := by
      unfold identify
      cases identified : Account.idOfUserId settings (some userId) with
      | ok accountId => exact .pure rfl
      | error failure => exact .throw (Account.disguised_of_idOfUserId identified _).symm
    have looks (accountId : String) :
        pairing.Follows context (Account.lookup (some accountId) true)
          (Account.lookup (some accountId) true)
          fun found other => other = found.map (Entry.map (disguised pairing.disguise)) := by
      have follows : pairing.Follows context _ _ _ := Account.follows_lookup (some accountId) true
      rwa [Option.map_some, unchanged] at follows
    refine .bind (.drawFree True fun userId => ?_) fun userId _ ⟨same, _⟩ => ?_
    · refine .bindSame (identifies userId) fun accountId => ?_
      refine .bindMap (looks accountId) fun found => ?_
      exact .pure ⟨Option.isNone_map.symm, fun _ => trivial⟩
    subst same
    refine .bindSame (identifies userId) fun accountId => ?_
    refine .bindSame (follows_later _ _) fun validUntil => ?_
    refine .bind (.prepareInsertion (by decide)) fun _ _ present => ?_
    refine .bindSame .stamp fun stamp => ?_
    have adds (key : List Schema.Column) (row : Account) :
        pairing.Follows context (addUnlessAlike key row) (addUnlessAlike key row) Eq := by
      have follows : pairing.Follows context _ _ _ := .addUnlessAlike key row present
      rwa [plain, Disguisable.disguised_plain] at follows
    refine .bindSame (adds _ _) fun added => .ite Iff.rfl (fun _ => ?_) fun _ => ?_
    · exact .bind .rollback fun _ _ _ => .bind (.log rfl) fun _ _ _ => .pure rfl
    · exact .bind .commit fun _ _ _ => .bind (.log rfl) fun _ _ _ => .pure rfl

theorem follows_cleanup (date : Option Moment) :
    pairing.Follows context (cleanup date) (cleanup date) Eq := by
  refine .bindSame .now fun now => ?_
  refine .bind (.require _) fun _ _ _ => ?_
  refine .bindSame (.eraseWhere (by decide) fun _ => rfl) fun count => ?_
  exact .bind .commit fun _ _ _ => .bind (.log rfl) fun _ _ _ => .pure rfl

end Invite

end Lookout
