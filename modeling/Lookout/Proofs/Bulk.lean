import Lookout.Proofs.Histories
import Lookout.Proofs.WatchParts
import Mathlib.Data.Finset.Card
import Mathlib.Data.Finset.SDiff

/-!
# Recording replies in bulk

To record many replies together is to record them one by one, with one answer for all: how many of
them were new. Each reply is known by its account and its two posts. Where one of these does not
exist for some reply of the list, wherever it stands, no reply of the list is kept.
-/

namespace Lookout

open Operation Store

variable {context : Context} {database : Database} {draws : Draws}

/-- Recording a reply alone leaves what its insertion does. -/
theorem Reply.result_record (account descriptor replyTo : Option Int) :
    ((record account descriptor replyTo).perform context database draws).result =
      ((insert account descriptor replyTo).effect context database).map
        fun inserted => (inserted.1.1, inserted.2) := by
  have told := isPlain_insert account descriptor replyTo context
    { saved := database, current := database, draws }
  refine result_perform_of_ends ?_
  simp only [record, ends_bind, ends_commit, ends_pure]
  refine told.imp ?_ ?_
  · rintro answer final ⟨effect, -⟩
    rw [effect]
    rfl
  · rintro failure final ⟨effect, -⟩
    rw [effect]
    rfl

/-- What a reply is known by: who is told that one post answered another one. -/
structure Edge where
  account : Int
  descriptor : Int
  replyTo : Int
  deriving DecidableEq, Repr

/-- What a stored reply is known by. -/
def Edge.ofReply (row : Reply) : Edge :=
  ⟨row.account, row.descriptor, row.replyTo⟩

/-- What the stored replies are known by. -/
def Database.edges (database : Database) : Finset Edge :=
  (database.replies.entries.map fun entry => Edge.ofReply entry.row).toFinset

theorem Database.mem_edges {edge : Edge} :
    edge ∈ database.edges ↔ ∃ entry ∈ database.replies.entries, Edge.ofReply entry.row = edge := by
  simp [edges]

namespace Edge

/-- An edge as it is given. -/
def value (edge : Edge) : Value :=
  .list [.integer edge.account, .integer edge.descriptor, .integer edge.replyTo]

/-- The turn that records an edge alone. -/
def turn (context : Context) (edge : Edge) : Turn where
  request := .recordReply (some edge.account) (some edge.descriptor) (some edge.replyTo)
  context := context

/-- The row of an edge that is not there yet. -/
def row (context : Context) (edge : Edge) : Reply :=
  { account := edge.account, descriptor := edge.descriptor, replyTo := edge.replyTo
    createdOn := Time.Stamp.ofClock context.clock }

/-- The numbers of an edge fit into the store. -/
def IsStorable (edge : Edge) : Prop :=
  isStorable edge.account = true ∧ isStorable edge.descriptor = true ∧
    isStorable edge.replyTo = true

/-- The account and both posts of an edge exist. -/
structure HasParents (database : Database) (edge : Edge) : Prop where
  account : database.accounts.has edge.account = true
  descriptor : database.descriptors.has edge.descriptor = true
  replyTo : database.descriptors.has edge.replyTo = true

theorem hasParents_iff {database : Database} {edge : Edge} : edge.HasParents database ↔
    database.accounts.has edge.account = true ∧ database.descriptors.has edge.descriptor = true ∧
      database.descriptors.has edge.replyTo = true :=
  ⟨fun ⟨account, descriptor, replyTo⟩ => ⟨account, descriptor, replyTo⟩,
    fun ⟨account, descriptor, replyTo⟩ => ⟨account, descriptor, replyTo⟩⟩

instance (edge : Edge) : Decidable edge.IsStorable :=
  inferInstanceAs (Decidable (_ ∧ _ ∧ _))

instance (database : Database) (edge : Edge) : Decidable (edge.HasParents database) :=
  decidable_of_iff _ hasParents_iff.symm

/-- How an edge fails whose account or one of whose posts does not exist. -/
def orphaned (edge : Edge) : Failure :=
  .noReplyParent (some edge.account) (some edge.descriptor) (some edge.replyTo)

/-- The database that has the reply of an edge. -/
def stored (context : Context) (edge : Edge) (database : Database) : Database :=
  (database.ensured Reply.naturalKey (edge.row context)).2

variable {edge : Edge}

theorem alike_row {other : Reply} :
    Relation.alike Reply.naturalKey (edge.row context) other = true ↔ ofReply other = edge := by
  obtain ⟨account, descriptor, replyTo⟩ := edge
  simp [Relation.alike, Relation.keyOf, Reply.naturalKey, Relation.cell, row, ofReply]

/-- A reply is rooted where its account and its posts exist. -/
theorem isRooted_iff {reply : Reply} :
    database.IsRooted .replies (Relation.cell reply) ↔ (ofReply reply).HasParents database := by
  rw [hasParents_iff]
  simp [Database.IsRooted, Schema.TableName.definition, Relation.cell, Database.hasRow, ofReply]

/-- An edge is there and stays, or it is added. -/
theorem stored_cases (context : Context) (edge : Edge) (database : Database) :
    (edge ∈ database.edges ∧ edge.stored context database = database) ∨
      edge ∉ database.edges ∧ edge.stored context database = database.added (edge.row context) := by
  unfold stored Database.ensured
  cases found : (Relation.read database : Table Reply).find? fun entry =>
      Relation.alike Reply.naturalKey (edge.row context) entry.row with
  | some entry =>
      obtain ⟨isStored, isAlike⟩ := Table.of_find? found
      exact .inl ⟨Database.mem_edges.mpr ⟨entry, isStored, alike_row.mp isAlike⟩, rfl⟩
  | none =>
      refine .inr ⟨fun isStored => ?_, rfl⟩
      obtain ⟨entry, there, same⟩ := Database.mem_edges.mp isStored
      exact List.find?_eq_none.mp found entry there (alike_row.mpr same)

theorem edges_stored : (edge.stored context database).edges = insert edge database.edges := by
  rcases stored_cases context edge database with ⟨there, same⟩ | ⟨-, same⟩
  · rw [same, Finset.insert_eq_of_mem there]
  · have entries : (database.added (edge.row context)).replies.entries =
        database.replies.entries ++ [⟨database.replies.nextId, edge.row context⟩] := rfl
    have own : ofReply (edge.row context) = edge := rfl
    rw [same, Database.edges, entries, List.map_append, List.toFinset_append, Finset.union_comm]
    exact congrArg (fun edge => [edge].toFinset ∪ database.edges) own

/-- The table grows where an edge is new. -/
theorem length_stored : (edge.stored context database).replies.entries.length =
    database.replies.entries.length + if edge ∈ database.edges then 0 else 1 := by
  rcases stored_cases context edge database with ⟨there, same⟩ | ⟨absent, same⟩
  · rw [same, if_pos there, Nat.add_zero]
  · rw [same, if_neg absent]
    exact List.length_append

/-- Accounts and descriptors stay as they are. -/
theorem hasParents_stored {other : Edge} :
    other.HasParents (edge.stored context database) ↔ other.HasParents database := by
  have accounts : database.Agree (edge.stored context database) .accounts := .ensured (by decide)
  have descriptors : database.Agree (edge.stored context database) .descriptors :=
    .ensured (by decide)
  rw [hasParents_iff, hasParents_iff, ← show database.accounts = _ from accounts,
    ← show database.descriptors = _ from descriptors]

theorem isNewest_stored (newest : database.IsNewest) (parents : edge.HasParents database) :
    (edge.stored context database).IsNewest :=
  newest.ensured (by decide) (isRooted_iff.mpr parents)

/-! ### What an insertion does -/

/-- Where an edge has been inserted, its reply is there, and whether it is new is told. -/
theorem eq_of_inserts {id : Int} {isNew : Bool} {after : Database}
    (inserts : database.Inserts Reply.naturalKey (edge.row context) (id, isNew) after) :
    id = (database.ensured Reply.naturalKey (edge.row context)).1 ∧
      isNew = decide (edge ∉ database.edges) ∧ after = edge.stored context database := by
  unfold stored
  cases inserts with
  | present found =>
      obtain ⟨isStored, isAlike⟩ := Table.of_find? found
      have there : edge ∈ database.edges :=
        Database.mem_edges.mpr ⟨_, isStored, alike_row.mp isAlike⟩
      rw [Database.ensured_of_find? found]
      exact ⟨rfl, (decide_eq_false (not_not_intro there)).symm, rfl⟩
  | added absent admitted =>
      have unstored : edge ∉ database.edges := by
        intro there
        obtain ⟨entry, isStored, same⟩ := Database.mem_edges.mp there
        exact List.find?_eq_none.mp absent entry isStored (alike_row.mpr same)
      refine ⟨?_, (decide_eq_true unstored).symm, ?_⟩
      · simp only [Database.ensured, absent]
      · simp only [Database.ensured, absent]

/-- An edge whose parents exist is there after its insertion, which tells whether it is new. -/
theorem effect_insert (context : Context) (newest : database.IsNewest)
    (storable : edge.IsStorable) (parents : edge.HasParents database) :
    (Reply.insert (some edge.account) (some edge.descriptor) (some edge.replyTo)).effect
        context database =
      .ok (((database.ensured Reply.naturalKey (edge.row context)).1,
        decide (edge ∉ database.edges)), edge.stored context database) := by
  have prepared : database.obstacle? .replies (some Reply.naturalKey) = none :=
    newest.obstacle?_eq_none (by decide)
  obtain ⟨account, descriptor, replyTo⟩ := storable
  refine effect_orFail_of_ends rfl ?_
  simp only [ends_bind, ends_prepareInsertion, prepared, ends_fits, ends_needed, ends_stamp,
    reduceCtorEq, false_implies, implies_true, true_and, forall_const, Option.some.injEq,
    forall_eq']
  refine ⟨fun large => ?_, fun _ => (ends_addUnlessAlike _ _).mpr ⟨?_, ?_⟩⟩
  · simp [account, descriptor, replyTo] at large
  · rintro error ⟨absent, refused⟩
    have admitted : database.refusal? (edge.row context) = none :=
      Database.admitted_of_absent (newest.only_key (by decide)) absent (isRooted_iff.mpr parents)
    exact absurd (admitted.symm.trans refused) (Option.some_ne_none error).symm
  · intro id isNew after inserts
    obtain ⟨rfl, rfl, rfl⟩ := eq_of_inserts inserts
    rfl

/-- An edge without one of its parents is turned down. -/
theorem effect_insert_of_orphaned (context : Context) (newest : database.IsNewest)
    (storable : edge.IsStorable) (orphan : ¬edge.HasParents database) :
    (Reply.insert (some edge.account) (some edge.descriptor) (some edge.replyTo)).effect
      context database = .error edge.orphaned := by
  have prepared : database.obstacle? .replies (some Reply.naturalKey) = none :=
    newest.obstacle?_eq_none (by decide)
  obtain ⟨account, descriptor, replyTo⟩ := storable
  obtain ⟨error, integral, refuses⟩ := newest.refuses_orphan context Reply.naturalKey
    (edge.row context) (by decide) (mt isRooted_iff.mp orphan)
  refine effect_orFail_of_refusal integral ?_
  simp only [ends_bind, ends_prepareInsertion, prepared, ends_fits, ends_needed, ends_stamp,
    reduceCtorEq, false_implies, implies_true, true_and, forall_const, Option.some.injEq,
    forall_eq']
  refine ⟨fun large => ?_, fun _ => refuses _ rfl⟩
  simp [account, descriptor, replyTo] at large

/-! ### Recording edges -/

/-- Recording an edge alone leaves what its insertion does. -/
theorem result_turn (context : Context) (newest : database.IsNewest) (storable : edge.IsStorable)
    (parents : edge.HasParents database) :
    ∃ id, ((edge.turn context).outcome database).result =
      .ok (id, edge.stored context database) := by
  change ∃ id, ((Reply.record _ _ _).perform context database {}).result = _
  rw [Reply.result_record, effect_insert context newest storable parents]
  exact ⟨_, rfl⟩

/-- Given an edge as a list of three, reading it changes nothing. -/
theorem isPlain_read (value : Value) : (Reply.edge value).IsPlain := by
  unfold Reply.edge
  split
  · exact .pure _
  · exact .throw _
  · exact .throw _

theorem isPlain_insertAll (values : List Value) (count : Nat) :
    (Reply.insertAll count values).IsPlain := by
  induction values generalizing count with
  | nil => exact .pure count
  | cons value rest ih =>
      exact .bind (isPlain_read value) fun _ => .bind (Reply.isPlain_insert _ _ _) fun _ => ih _

/-- After the first edge of a list has been inserted, the others are. -/
theorem effect_insertAll_cons (context : Context) (edge : Edge) (rest : List Edge) (count : Nat)
    (database : Database) :
    (Reply.insertAll count ((edge :: rest).map value)).effect context database =
      (Reply.insert (some edge.account) (some edge.descriptor) (some edge.replyTo)).effect
          context database >>= fun (answer, middle) =>
        (Reply.insertAll (if answer.2 then count + 1 else count) (rest.map value)).effect context
          middle :=
  (Reply.isPlain_insert _ _ _).effect_bind (fun _ => isPlain_insertAll _ _) context database

/-- Of the edges of a list, those that are new are one, if the first one is, and those that are new
after it. -/
theorem card_new (edge : Edge) (rest known : Finset Edge) :
    (insert edge rest \ known).card =
      (rest \ insert edge known).card + if edge ∈ known then 0 else 1 := by
  by_cases there : edge ∈ known
  · rw [if_pos there, Finset.insert_sdiff_of_mem _ there, Finset.insert_eq_of_mem there,
      Nat.add_zero]
  · rw [if_neg there, ← Finset.card_insert_of_notMem
      (fun isOne => (Finset.mem_sdiff.mp isOne).2 (Finset.mem_insert_self edge known))]
    congr 1
    ext other
    by_cases same : other = edge <;> simp [same, there]

/-- The database that has the replies of all edges of a list. -/
def storedAll (context : Context) (edges : List Edge) (database : Database) : Database :=
  edges.foldl (fun database edge => edge.stored context database) database

/-- The table grows by as many rows as different edges are new. -/
theorem length_storedAll (context : Context) (edges : List Edge) (database : Database) :
    (storedAll context edges database).replies.entries.length =
      database.replies.entries.length + (edges.toFinset \ database.edges).card := by
  induction edges generalizing database with
  | nil =>
      rw [List.toFinset_nil, Finset.empty_sdiff, Finset.card_empty]
      rfl
  | cons edge rest ih =>
      have grown := ih (edge.stored context database)
      rw [length_stored, edges_stored] at grown
      rw [List.toFinset_cons, card_new]
      exact grown.trans (by omega)

/-- Edges whose parents exist are recorded one by one. -/
theorem after_turns (context : Context) {edges : List Edge} (newest : database.IsNewest)
    (storable : ∀ edge ∈ edges, edge.IsStorable)
    (parents : ∀ edge ∈ edges, edge.HasParents database) :
    database.after (edges.map (turn context)) = storedAll context edges database ∧
      ∀ event ∈ database.history (edges.map (turn context)),
        event.outcome.answer.isOk = true := by
  induction edges generalizing database with
  | nil => exact ⟨rfl, fun _ happened => absurd happened List.not_mem_nil⟩
  | cons edge rest ih =>
      obtain ⟨isStorable, restStorable⟩ := List.forall_mem_cons.mp storable
      obtain ⟨hasParents, restParents⟩ := List.forall_mem_cons.mp parents
      obtain ⟨_, recorded⟩ := result_turn context newest isStorable hasParents
      obtain ⟨answered, left⟩ := Outcome.result_eq_ok_iff.mp recorded
      have newestAfter : (edge.stored context database).IsNewest :=
        isNewest_stored newest hasParents
      obtain ⟨after, answers⟩ := ih newestAfter restStorable
        fun other isOther => hasParents_stored.mpr (restParents other isOther)
      rw [List.map_cons, Database.after, Database.history, left]
      refine ⟨after, List.forall_mem_cons.mpr ⟨?_, answers⟩⟩
      rw [Event.outcome, answered]
      rfl

/-- Edges whose parents exist are all inserted, and as many are counted as are new. -/
theorem effect_insertAll (context : Context) {edges : List Edge} (count : Nat)
    (newest : database.IsNewest) (storable : ∀ edge ∈ edges, edge.IsStorable)
    (parents : ∀ edge ∈ edges, edge.HasParents database) :
    (Reply.insertAll count (edges.map value)).effect context database =
      .ok (count + (edges.toFinset \ database.edges).card,
        storedAll context edges database) := by
  induction edges generalizing count database with
  | nil =>
      rw [List.toFinset_nil, Finset.empty_sdiff, Finset.card_empty]
      rfl
  | cons edge rest ih =>
      obtain ⟨isStorable, restStorable⟩ := List.forall_mem_cons.mp storable
      obtain ⟨hasParents, restParents⟩ := List.forall_mem_cons.mp parents
      have inserted := effect_insert context newest isStorable hasParents
      have newestAfter : (edge.stored context database).IsNewest :=
        isNewest_stored newest hasParents
      have others (count : Nat) := ih count newestAfter restStorable
        fun other isOther => hasParents_stored.mpr (restParents other isOther)
      rw [edges_stored] at others
      rw [effect_insertAll_cons, inserted, List.toFinset_cons, card_new]
      refine (others _).trans (congrArg (fun total => Except.ok (total, _)) ?_)
      by_cases there : edge ∈ database.edges
      · simp [there]
      · simp [there]
        omega

/-- Where an edge of a list has no parents, the first such edge fails the insertion of all. -/
theorem effect_insertAll_of_orphaned (context : Context) {edges : List Edge} (count : Nat)
    (newest : database.IsNewest) (storable : ∀ edge ∈ edges, edge.IsStorable)
    (orphan : ∃ edge ∈ edges, ¬edge.HasParents database) :
    ∃ edge ∈ edges, ¬edge.HasParents database ∧
      (Reply.insertAll count (edges.map value)).effect context database = .error edge.orphaned := by
  induction edges generalizing count database with
  | nil => exact absurd orphan (by simp)
  | cons edge rest ih =>
      obtain ⟨isStorable, restStorable⟩ := List.forall_mem_cons.mp storable
      rw [effect_insertAll_cons]
      by_cases hasParents : edge.HasParents database
      · have inserted := effect_insert context newest isStorable hasParents
        have later : ∃ other ∈ rest, ¬other.HasParents (edge.stored context database) := by
          obtain ⟨other, isOther, lost⟩ := orphan
          rcases List.mem_cons.mp isOther with rfl | isLater
          · exact absurd hasParents lost
          · exact ⟨other, isLater, mt hasParents_stored.mp lost⟩
        rw [inserted]
        obtain ⟨first, isFirst, lost, failed⟩ :=
          ih _ (isNewest_stored newest hasParents) restStorable later
        exact ⟨first, .tail _ isFirst, mt hasParents_stored.mpr lost, failed⟩
      · rw [effect_insert_of_orphaned context newest isStorable hasParents]
        exact ⟨edge, .head _, hasParents, rfl⟩

/-- Recording many edges together leaves what their insertion does. -/
theorem result_recordAll (values : List Value) (context : Context) (database : Database)
    (draws : Draws) :
    ((Reply.recordAll (.list values)).perform context database draws).result =
      (Reply.insertAll 0 values).effect context database := by
  have told := isPlain_insertAll values 0 context
    { saved := database, current := database, draws }
  refine result_perform_of_ends ?_
  simp only [Reply.recordAll, ends_bind, ends_commit, ends_log, ends_pure]
  exact told.left

/-- In a reached database of the newest revision, edges whose parents exist are recorded together
as they are one by one. The answer is how many different ones are new; by so many the table grows,
and their order does not matter. If one has no parents, wherever it stands, nothing is recorded. -/
theorem record_together (reached : database.Reached) (newest : database.position = some .invites)
    (context : Context) (draws : Draws) {edges : List Edge}
    (storable : ∀ edge ∈ edges, edge.IsStorable) :
    let outcome := (Reply.recordAll (.list (edges.map value))).perform context database draws
    let turns := edges.map (turn context)
    let new := (edges.toFinset \ database.edges).card
    ((∀ edge ∈ edges, edge.HasParents database) →
      outcome.answer = .ok new ∧ outcome.database = database.after turns ∧
      (∀ event ∈ database.history turns, event.outcome.answer.isOk = true) ∧
      outcome.database.replies.entries.length = database.replies.entries.length + new ∧
      ∀ others : List Edge, others.Perm edges →
        ((Reply.recordAll (.list (others.map value))).perform context database draws).answer =
          .ok new) ∧
    ((∃ edge ∈ edges, ¬edge.HasParents database) →
      ∃ edge ∈ edges, ¬edge.HasParents database ∧ edge.orphaned.kind = .notFound ∧
        outcome.answer = .error edge.orphaned ∧ outcome.database = database) := by
  have isNewest := reached.isNewest newest
  intro outcome turns new
  constructor
  · intro parents
    -- The list in any order: the effect depends on which edges there are.
    have recorded {others : List Edge} (same : others.Perm edges) :=
      (result_recordAll (others.map value) context database draws).trans <|
        effect_insertAll context 0 isNewest
          (fun edge isOne => storable edge (same.mem_iff.mp isOne))
          fun edge isOne => parents edge (same.mem_iff.mp isOne)
    obtain ⟨after, answers⟩ := after_turns context isNewest storable parents
    obtain ⟨answered, left⟩ := Outcome.result_eq_ok_iff.mp (recorded (.refl edges))
    rw [Nat.zero_add] at answered
    refine ⟨answered, left.trans after.symm, answers,
      left ▸ length_storedAll context edges database, fun others same => ?_⟩
    obtain ⟨told, -⟩ := Outcome.result_eq_ok_iff.mp (recorded same)
    rwa [Nat.zero_add, List.toFinset_eq_of_perm _ _ same] at told
  · intro orphan
    obtain ⟨edge, isOne, lost, failed⟩ :=
      effect_insertAll_of_orphaned context 0 isNewest storable orphan
    have failure := Outcome.result_eq_error_iff.mp
      ((result_recordAll (edges.map value) context database draws).trans failed)
    exact ⟨edge, isOne, lost, rfl, failure,
      (Reply.recordAll_achieves (.list (edges.map value))).of_failure failure⟩

/-- Of four edges two are different and new; an edge of an account that does not exist keeps the
one before it out. -/
theorem record_together_four :
    let database := (Database.atRevision .invites ⟨⟨0⟩, true⟩).after <|
      [.upsertAccount (some "a") none,
        .resolveThread (some "s") (some "b") (some 1),
        .resolveDescriptor (some 1) (some 2) (some 0),
        .resolveDescriptor (some 1) (some 3) (some 0),
        .recordReply (some 1) (some 2) (some 1)].map fun request =>
          { request, context := { clock := ⟨0⟩ } }
    let edges : List Edge := [⟨1, 1, 2⟩, ⟨1, 2, 1⟩, ⟨1, 1, 2⟩, ⟨1, 1, 1⟩]
    let orphans : List Edge := [⟨1, 1, 2⟩, ⟨9, 2, 1⟩]
    database.Reached ∧ database.position = some .invites ∧
      (∀ edge ∈ edges ++ orphans, edge.IsStorable) ∧
      (∀ edge ∈ edges, edge.HasParents database) ∧
      ((Reply.recordAll (.list (edges.map value))).perform { clock := ⟨0⟩ } database {}).answer =
        .ok 2 ∧
      (∃ edge ∈ orphans, ¬edge.HasParents database) ∧
      ((Reply.recordAll (.list (orphans.map value))).perform { clock := ⟨0⟩ } database
        {}).database = database := by
  intro database edges orphans
  have reached : database.Reached := (Database.Reached.founded .invites ⟨⟨0⟩, true⟩).after _
  have newest : database.position = some .invites := by decide +kernel
  have storable : ∀ edge ∈ edges ++ orphans, edge.IsStorable := by decide
  have parents : ∀ edge ∈ edges, edge.HasParents database := by decide +kernel
  have orphan : ∃ edge ∈ orphans, ¬edge.HasParents database := by decide +kernel
  have two : (edges.toFinset \ database.edges).card = 2 := by decide +kernel
  obtain ⟨kept, -⟩ := record_together reached newest { clock := ⟨0⟩ } {} fun edge isOne =>
    storable edge (List.mem_append_left _ isOne)
  obtain ⟨-, lost⟩ := record_together reached newest { clock := ⟨0⟩ } {} fun edge isOne =>
    storable edge (List.mem_append_right _ isOne)
  obtain ⟨_, _, _, _, _, unchanged⟩ := lost orphan
  exact ⟨reached, newest, storable, parents, two ▸ (kept parents).1, orphan, unchanged⟩

end Edge

end Lookout
