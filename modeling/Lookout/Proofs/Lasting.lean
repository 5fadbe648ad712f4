import Lookout.Proofs.Downgrade
import Lookout.Proofs.Drift
import Lookout.Proofs.Orderly

/-!
# What lasts through schema changes

A property lasts that every schema change of the revisions keeps, and every change of the ledger
and of the position. It holds after a way to another revision if it held before. That a database
is orderly lasts.
-/

namespace Lookout

open Operation Store
open Schema (Change Direction Revision)

namespace Migration

variable {context : Context} {session : Session} {property : Database → Prop}

/-- Schema changes and changes of the ledger and the position keep a property. -/
structure IsLasting (property : Database → Prop) : Prop where
  altered : ∀ {before after : Database} {step : Change}, property before → step.isKnown = true →
    altered before step = .ok after → property after
  moved : ∀ {before : Database} (position : Option Revision), property before →
    property { before with position }
  recorded : ∀ {before : Database} (ledger : Table LedgerLine), property before →
    before.catalog.hasTable .ledger = true → property { before with ledger }

/-- Order lasts. -/
theorem isLasting_isOrderly : IsLasting Database.IsOrderly where
  altered orderly known done := orderly.altered known done
  moved position orderly := by
    refine orderly.of_agree rfl ?_ (.inr rfl)
    intro table other _
    cases table with
    | position => exact absurd rfl other
    | _ => rfl
  recorded ledger orderly present := by
    refine orderly.of_agree rfl ?_ (.inl present)
    intro table _ other
    cases table with
    | ledger => exact absurd rfl other
    | _ => rfl

/-- So does a property of all rows of a table that neither the catalog nor the ledger nor the
position has to do with. -/
theorem isLasting_forall {α : Type} {rows : Database → List (Entry α)} {valid : Entry α → Prop}
    (erase : ∀ database table gone, rows (database.erase table gone) ⊆ rows database)
    (under : ∀ database catalog, rows (database.under catalog) = rows database)
    (moved : ∀ database position, rows { database with position } = rows database)
    (recorded : ∀ database ledger, rows { database with ledger } = rows database) :
    IsLasting fun database => ∀ entry ∈ rows database, valid entry where
  altered := by
    intro before after step holds _ done
    obtain ⟨-, same⟩ := under_of_altered done
    rw [same, under]
    cases step with
    | dropTable table => exact fun entry stored => holds entry (erase before table (fun _ => true) stored)
    | _ => exact holds
  moved position holds := by rwa [moved]
  recorded ledger holds _ := by rwa [recorded]

namespace IsLasting

theorem ends_alterAll (lasting : IsLasting property) {changes : List Change}
    (known : ∀ step ∈ changes, step.isKnown = true) (holds : property session.current) :
    (alterAll changes).Ends context session
      (fun _ final => property final.current) (fun _ _ => True) := by
  induction changes generalizing session with
  | nil => exact holds
  | cons step rest ih =>
      rw [alterAll, ends_bind, ends_alter]
      refine ⟨fun _ _ => trivial, fun after done => ?_⟩
      exact ih (fun other later => known other (.tail _ later))
        (lasting.altered holds (known step (.head _)) done)

/-- Recording a revision keeps what lasts. -/
theorem ends_apply (lasting : IsLasting property) (revision : Revision)
    (isOpen : session.isOpen = true) (holds : property session.current) :
    (Ledger.apply (some revision.number) (some revision.label) (some revision.checksum)).Ends
      context session (fun _ final => property final.current) (fun _ _ => True) := by
  cases present : session.current.catalog.hasTable .ledger with
  | true =>
      refine (Ledger.ends_apply present isOpen).imp ?_ (fun _ _ _ => trivial)
      rintro _ final ⟨_, _, same⟩
      rw [same]
      exact lasting.recorded _ holds present
  | false => simp [Ledger.apply, Database.missing?, present]

/-- So does forgetting one. -/
theorem ends_forget (lasting : IsLasting property) (revision : Revision)
    (present : session.current.catalog.hasTable .ledger = true)
    (holds : property session.current) :
    (Ledger.forget (some revision.number)).Ends
      context session (fun _ final => property final.current) (fun _ _ => True) := by
  have storable : isStorable revision.number = true := by
    cases revision <;> decide
  refine (Migration.ends_forget storable present).imp ?_ (fun _ _ _ => trivial)
  rintro _ final ⟨_, _, same⟩
  rw [same]
  exact lasting.recorded _ holds present

theorem ends_take (lasting : IsLasting property) (direction : Direction) (revision : Revision)
    (holds : property session.current) :
    (take direction revision).Ends context session
      (fun _ final => property final.current) (fun _ _ => True) := by
  cases direction with
  | upgrade =>
      rw [take, ends_bind]
      refine (lasting.ends_alterAll (fun _ made => Schema.isKnown_of_mem (.inl made)) holds).imp ?_
        (fun _ _ _ => trivial)
      intro _ middle middleHolds
      simp only [moveTo, ends_bind, ends_change, ends_pure]
      exact lasting.ends_apply revision rfl (lasting.moved _ middleHolds)
  | downgrade =>
      rw [take, ends_bind]
      refine (lasting.ends_alterAll (fun _ made => Schema.isKnown_of_mem (.inr made)) holds).imp ?_
        (fun _ _ _ => trivial)
      intro _ middle middleHolds
      simp only [moveTo, Ledger.isPresent, ends_bind, ends_change, ends_database, ends_pure,
        ends_ite]
      exact ⟨fun present => lasting.ends_forget revision present (lasting.moved _ middleHolds),
        fun _ => lasting.moved _ middleHolds⟩

theorem ends_takeAll (lasting : IsLasting property) (direction : Direction)
    (steps : List Revision) (holds : property session.current) :
    (takeAll direction steps).Ends context session
      (fun _ final => property final.current) (fun _ _ => True) := by
  induction steps generalizing session with
  | nil => exact holds
  | cons revision rest ih =>
      rw [takeAll, ends_bind]
      exact (lasting.ends_take direction revision holds).imp (fun _ _ middleHolds => ih middleHolds)
        (fun _ _ _ => trivial)

/-- What lasts holds at the end of every way that a target leads. -/
theorem ends_lead (lasting : IsLasting property) (direction : Direction) (target : String)
    (holds : property session.current) :
    (lead direction target).Ends context session
      (fun _ final => property final.current) (fun _ _ => True) := by
  simp only [lead, ends_bind, ends_database, ends_ite, ends_alter]
  refine ⟨fun _ => ⟨fun _ _ => trivial, fun after done => ?_⟩, fun _ => ?_⟩
  · have made : property after := lasting.altered holds rfl done
    split
    · exact lasting.ends_takeAll direction _ made
    · trivial
  · split
    · exact lasting.ends_takeAll direction _ holds
    · trivial

end IsLasting

end Migration

end Lookout
