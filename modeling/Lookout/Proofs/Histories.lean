import Lookout.Proofs.Atomicity

/-!
# Histories

What has happened in a run: each turn with the database that it found. What the calls of a run
have answered is counted along its history.
-/

namespace Lookout

open Store

/-- A turn and the database that it found. -/
structure Event where
  turn : Turn
  before : Database

namespace Event

/-- How the turn of an event ended. -/
def outcome (event : Event) : Outcome event.turn.request.Answer :=
  event.turn.outcome event.before

/-- The database that an event left. -/
def after (event : Event) : Database :=
  event.outcome.database

end Event

namespace Turn

/-- A turn is answered and has had its effect, or it fails and has left no trace. -/
theorem ends (turn : Turn) (dated : turn.request.isDated) (database : Database) :
    (∃ answer, (turn.outcome database).answer = .ok answer ∧
      turn.request.Effect turn.context database answer (turn.outcome database).database) ∨
    ∃ failure, (turn.outcome database).answer = .error failure ∧
      (turn.outcome database).database = database := by
  rcases (Request.achieves dated turn.draws).outcome with
    ⟨answer, _, effective, answered, same⟩ | ⟨failure, _, saved, failed, same⟩
  · exact .inl ⟨answer, answered, same ▸ effective⟩
  · exact .inr ⟨failure, failed, same.trans saved⟩

end Turn

namespace Database

/-- The events of a run. -/
def history (database : Database) : List Turn → List Event
  | [] => []
  | turn :: rest => ⟨turn, database⟩ :: (turn.outcome database).database.history rest

/-- An event of a run found what the turns before it had left. -/
theorem before_of_mem_history {database : Database} {turns : List Turn} {event : Event}
    (happened : event ∈ database.history turns) :
    ∃ earlier later, turns = earlier ++ event.turn :: later ∧
      event.before = database.after earlier := by
  induction turns generalizing database with
  | nil => cases happened
  | cons turn rest ih =>
      rcases List.mem_cons.mp happened with rfl | happened
      · exact ⟨[], rest, rfl, rfl⟩
      · obtain ⟨earlier, later, rfl, same⟩ := ih happened
        exact ⟨turn :: earlier, later, rfl, same⟩

/-- What grows by one with each event of a kind, and stays the same with any other, counts the
events of that kind. -/
theorem countP_history {kind : Event → Bool} (measure : Database → Nat) {database : Database}
    {turns : List Turn}
    (grows : ∀ event ∈ database.history turns,
      measure event.after = measure event.before + if kind event then 1 else 0) :
    measure (database.after turns) =
      measure database + (database.history turns).countP kind := by
  induction turns generalizing database with
  | nil => rfl
  | cons turn rest ih =>
      have first : measure (turn.outcome database).database =
          measure database + if kind ⟨turn, database⟩ then 1 else 0 := grows _ (.head _)
      have others := ih fun event later => grows event (.tail _ later)
      rw [after, others, first, history, List.countP_cons]
      omega

end Database

end Lookout
