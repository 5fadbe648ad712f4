import Lookout.Proofs.Pairing

/-!
# The board side by side

What the operations on threads, descriptors and posts do in a run they do in the run beside it.
None of them speaks of account ids or tokens, so both runs are of the very same operation.
-/

namespace Lookout

open Operation
open Pairing
open Store
open Time (Moment)

variable {pairing : Pairing} {context : Context}

namespace Thread

theorem follows_insert (site board : Option String) (number : Option Int) :
    pairing.Follows context (insert site board number) (insert site board number) Eq := by
  refine .bind (.prepareInsertion (by decide)) fun _ _ present => ?_
  refine .bind (.fits _) fun _ _ _ => ?_
  refine .bindSame (.neededSame site) fun site => ?_
  refine .bindSame (.neededSame board) fun board => ?_
  refine .bindSame (.neededSame number) fun number => ?_
  refine .bindSame .stamp fun stamp => ?_
  exact .bindSame (.addUnlessAlike _ _ present) fun _ => .pure rfl

theorem follows_resolve (site board : Option String) (number : Option Int) :
    pairing.Follows context (resolve site board number) (resolve site board number) Eq :=
  .bindSame (follows_insert site board number) fun _ => .bindSame .commit fun _ => .pure rfl

theorem follows_lookup (id : Option Int) :
    pairing.Follows context (lookup id) (lookup id) Eq := by
  refine .bind (.require _) fun _ _ _ => .bind (.fits _) fun _ _ _ => ?_
  exact .bindSame (.bareRows fun _ => rfl) fun _ => .pure rfl

theorem follows_demand (id : Option Int) :
    pairing.Follows context (demand id) (demand id) Eq := by
  refine .bindSame (follows_lookup id) fun found => ?_
  cases found with
  | some entry => exact .pure rfl
  | none => exact .throw rfl

theorem follows_find (site board : Option String) (number : Option Int) :
    pairing.Follows context (find site board number) (find site board number) Eq := by
  refine .bind (.require _) fun _ _ _ => .bind (.fits _) fun _ _ _ => ?_
  exact .bindSame (.bareRows fun _ => rfl) fun _ => .pure rfl

theorem follows_advance (id postNo postSubNo : Option Int) :
    pairing.Follows context (advance id postNo postSubNo) (advance id postNo postSubNo) Eq := by
  cases postNo with
  | none => exact .throw rfl
  | some number =>
      cases postSubNo with
      | none => exact .throw rfl
      | some subNumber =>
          refine .bind (.require _) fun _ _ _ => .bind (.fits _) fun _ _ _ => ?_
          refine .bindSame (.updateWhere (fun _ => rfl) fun _ => rfl) fun moved => ?_
          refine .bindSame .commit fun _ => .ite Iff.rfl (fun _ => ?_) fun _ => ?_
          · exact .bindSame (.log rfl) fun _ => .pure rfl
          · exact .bindSame (follows_demand id) fun _ => .pure rfl

theorem follows_lastProcessed (id : Option Int) :
    pairing.Follows context (lastProcessed id) (lastProcessed id) Eq := by
  refine .bindSame (follows_lookup id) fun found => ?_
  cases found with
  | some entry => exact .pure rfl
  | none => exact .pure rfl

theorem follows_storeLastModified (id : Option Int) (date : Option Moment) :
    pairing.Follows context (storeLastModified id date) (storeLastModified id date) Eq := by
  refine .bindSame (follows_demand id) fun thread => ?_
  exact .bindSame (.updateWhere (fun _ => rfl) fun _ => rfl) fun _ => .commit

theorem follows_lastModified? (id : Option Int) :
    pairing.Follows context (lastModified? id) (lastModified? id) Eq :=
  .bindSame (follows_demand id) fun _ => .pure rfl

theorem follows_markDead (id : Option Int) :
    pairing.Follows context (markDead id) (markDead id) Eq := by
  refine .bindSame (follows_demand id) fun thread => ?_
  refine .bind (.require _) fun _ _ _ => ?_
  refine .bindSame (.bareRows fun _ => rfl) fun descriptors => ?_
  refine .bindSame (.updateWhere (fun _ => rfl) fun _ => rfl) fun count => ?_
  refine .bindSame (.updateWhere (fun _ => rfl) fun _ => rfl) fun _ => ?_
  exact .bindSame .commit fun _ => .bindSame (.log rfl) fun _ => .pure rfl

/-- The same threads are polled. -/
theorem follows_watched : pairing.Follows context watched watched Eq := by
  refine .bind (.require _) fun _ _ _ => .bind .database fun first second joins => .pure ?_
  have threads : second.threads = first.threads := joins.read_eq Thread fun _ => rfl
  have descriptors : second.descriptors = first.descriptors := joins.read_eq Descriptor fun _ => rfl
  have posts : second.posts = first.posts := joins.read_eq Post fun _ => rfl
  have watches : second.watches = first.watches := joins.read_eq Watch fun _ => rfl
  unfold isWatched isPolled
  rw [threads, descriptors, posts, watches]

end Thread

namespace Descriptor

theorem follows_insert (thread postNo postSubNo : Option Int) :
    pairing.Follows context (insert thread postNo postSubNo) (insert thread postNo postSubNo)
      Eq := by
  refine .orFail (.bind (.prepareInsertion (by decide)) fun _ _ present => ?_) rfl
  refine .bind (.fits _) fun _ _ _ => ?_
  refine .bindSame (.neededSame thread) fun thread => ?_
  refine .bindSame (.neededSame postNo) fun postNo => ?_
  refine .bindSame (.neededSame postSubNo) fun postSubNo => ?_
  exact .bindSame (.addUnlessAlike _ _ present) fun _ => .pure rfl

theorem follows_resolve (thread postNo postSubNo : Option Int) :
    pairing.Follows context (resolve thread postNo postSubNo) (resolve thread postNo postSubNo)
      Eq :=
  .bindSame (follows_insert thread postNo postSubNo) fun _ => .bindSame .commit fun _ => .pure rfl

theorem follows_lookup (id : Option Int) :
    pairing.Follows context (lookup id) (lookup id) Eq := by
  refine .bind (.require _) fun _ _ _ => .bind (.fits _) fun _ _ _ => ?_
  refine .bindSame (.bareRows fun _ => rfl) fun descriptors => ?_
  cases descriptors.find? fun entry => some entry.id = id with
  | none => exact .pure rfl
  | some descriptor =>
      refine .bind (.require _) fun _ _ _ => ?_
      refine .bindSame (.bareRows fun _ => rfl) fun threads => ?_
      exact .bindSame (.bareRows fun _ => rfl) fun posts => .pure rfl

theorem follows_ofThread (thread : Option Int) :
    pairing.Follows context (ofThread thread) (ofThread thread) Eq := by
  refine .bind (.require _) fun _ _ _ => .bind (.fits _) fun _ _ _ => ?_
  exact .bindSame (.bareRows fun _ => rfl) fun _ => .pure rfl

end Descriptor

namespace Post

theorem follows_insert (descriptor : Option Int) :
    pairing.Follows context (insert descriptor) (insert descriptor) Eq := by
  refine .orFail (.bind (.prepareInsertion (by decide)) fun _ _ present => ?_) rfl
  refine .bind (.fits _) fun _ _ _ => ?_
  refine .bindSame (.neededSame descriptor) fun descriptor => ?_
  refine .bindSame .stamp fun stamp => ?_
  exact .bindSame (.addUnlessAlike _ _ present) fun _ => .pure rfl

theorem follows_ensure (descriptor : Option Int) :
    pairing.Follows context (ensure descriptor) (ensure descriptor) Eq :=
  .bindSame (follows_insert descriptor) fun _ => .bindSame .commit fun _ => .pure rfl

theorem follows_markDead (descriptor : Option Int) :
    pairing.Follows context (markDead descriptor) (markDead descriptor) Eq := by
  refine .bindSame (follows_insert descriptor) fun id => ?_
  refine .bindSame (.updateWhere (fun _ => rfl) fun _ => rfl) fun count => ?_
  exact .bindSame .commit fun _ => .pure rfl

end Post

end Lookout
