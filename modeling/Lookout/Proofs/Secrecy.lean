import Lookout.Proofs.Pairing.Requests

/-!
# Secrecy of account ids and tokens

What an outcome shows of itself is its log and, where it is a failure, the kind and the text of
that. A request in disguise, made of a database in the same disguise, shows what the request
shows: neither the log nor a failure tells more of account ids and tokens than messages may show
of them. The database that it leaves is in disguise again, and so a whole run tells no more.
-/

namespace Lookout

open Disguisable (disguised)
open Operation
open Schema (Catalog)
open Store

/-- The kind and the text of the failure that an outcome is, if it is one. -/
def Outcome.complaint? {α : Type} (outcome : Outcome α) : Option (FailureKind × String) :=
  match outcome.answer with
  | .ok _ => none
  | .error failure => some (failure.kind, failure.message)

/-- A turn with other account ids and tokens. -/
def Turn.disguised (disguise : Disguise) (turn : Turn) : Turn :=
  { turn with request := turn.request.disguised disguise }

namespace Pairing

/-- Runs with the same catalog, of which the second one is in disguise. -/
def masking (disguise : Disguise) (catalog : Catalog) : Pairing where
  disguise
  earlier := catalog
  later := catalog
  isStrict := True
  hasTable := id
  ignored _ := id
  covered _ isKey := ⟨_, isKey, fun _ => id⟩
  strict _ := rfl

/-- A database is joined to its disguise. -/
theorem joins_masking (disguise : Disguise) (database : Database) :
    (masking disguise database.catalog).Joins database (database.disguised disguise) where
  earlier := rfl
  later := rfl
  journal := (Table.map_self fun _ => rfl).symm
  accounts := rfl
  tokens := rfl
  invites := (Table.map_self fun _ => rfl).symm
  threads := (Table.map_self fun _ => rfl).symm
  descriptors := (Table.map_self fun _ => rfl).symm
  posts := (Table.map_self fun _ => rfl).symm
  replies := (Table.map_self fun _ => rfl).symm
  watches := (Table.map_self fun _ => rfl).symm

/-- A database that is joined to another one, and has its position and its ledger, is the disguise
of it. -/
theorem Joins.eq_disguised {disguise : Disguise} {catalog : Catalog} {first second : Database}
    (joins : (masking disguise catalog).Joins first second)
    (position : second.position = first.position) (ledger : second.ledger = first.ledger) :
    second = first.disguised disguise := by
  obtain ⟨earlier, later, journal, accounts, tokens, invites, threads, descriptors, posts, replies,
    watches⟩ := joins
  have bare {α : Type} {left right : Table α} {change : α → α} (same : right = left.map change)
      (unchanged : ∀ row, change row = row) : right = left :=
    same.trans (Table.map_self unchanged)
  cases first
  cases second
  simp only [Database.disguised, Database.mk.injEq]
  exact ⟨later.trans earlier.symm, position, ledger, bare journal fun _ => rfl, accounts, tokens,
    bare invites fun _ => rfl, bare threads fun _ => rfl, bare descriptors fun _ => rfl,
    bare posts fun _ => rfl, bare replies fun _ => rfl, bare watches fun _ => rfl⟩

end Pairing

/-- A request in disguise shows what the request shows, and leaves a database that is joined to
the one that the request leaves. -/
theorem Request.perform_disguised {request : Request} (given : request.hashesUserId = false)
    (disguise : Disguise) (context : Context) (database : Database) (draws : Draws) :
    let shown := request.operation.perform context database draws
    let masked := (request.disguised disguise).operation.perform context
      (database.disguised disguise) draws
    masked.log = shown.log ∧ masked.complaint? = shown.complaint? ∧
      (Pairing.masking disguise database.catalog).Joins shown.database masked.database := by
  intro shown masked
  have follows : (Pairing.masking disguise database.catalog).Follows context request.operation
      (request.disguised disguise).operation _ :=
    request.follows fun hashes => by
      rw [given] at hashes
      cases hashes
  have joins := Pairing.joins_masking disguise database
  unfold Outcome.complaint?
  cases ended : shown.answer with
  | ok answer =>
      obtain ⟨reply, replied, -, joined, sameLog⟩ := follows.of_answer joins ended
      rw [show masked.answer = .ok reply from replied]
      exact ⟨sameLog, rfl, joined⟩
  | error failure =>
      obtain ⟨failed, joined, sameLog⟩ := follows.of_failure trivial joins ended
      rw [show masked.answer = .error (failure.disguised disguise) from failed]
      refine ⟨sameLog, ?_, joined⟩
      simp only [Failure.kind_disguised, Failure.message_disguised]

/-- Whatever account ids and tokens there are, in the database and in a request, the request shows
the same of itself: it writes the same log, and it fails for the same cause with the same text,
or not at all. -/
theorem Request.shows_no_secrets (request : Request) (given : request.hashesUserId = false)
    (disguise : Disguise) (context : Context) (database : Database) (draws : Draws) :
    let shown := request.operation.perform context database draws
    let masked := (request.disguised disguise).operation.perform context
      (database.disguised disguise) draws
    masked.log = shown.log ∧ masked.complaint? = shown.complaint? :=
  let ⟨log, complaint, _⟩ := request.perform_disguised given disguise context database draws
  ⟨log, complaint⟩

/-- Two accounts and two tokens change places. To register a token that the other account holds
then fails, and the failure shows as much of either token. -/
theorem Request.shows_no_secrets_swapped :
    let disguise : Disguise :=
      { accounts := .swap "secret" "hidden" (by decide +kernel) (by decide +kernel)
        tokens := .swap "token-1" "token-2" (by decide +kernel) (by decide +kernel) }
    let context : Context := { clock := ⟨0⟩ }
    let database := (Database.atRevision .invites ⟨⟨0⟩, true⟩).after
      [{ request := .upsertAccount (some "secret") none, context },
        { request := .upsertAccount (some "hidden") none, context },
        { request := .registerToken (some "secret") (some "token-1") (.integer 0) (.integer 0)
          context }]
    let request : Request :=
      .registerToken (some "hidden") (some "token-1") (.integer 0) (.integer 0)
    let shown := request.operation.perform context database {}
    let masked := (request.disguised disguise).operation.perform context
      (database.disguised disguise) {}
    (request.hashesUserId = false ∧
      request.disguised disguise =
        .registerToken (some "secret") (some "token-2") (.integer 0) (.integer 0) ∧
      shown.complaint? =
        some (.conflict, "Token ... is already registered to another account")) ∧
    masked.log = shown.log ∧ masked.complaint? = shown.complaint? := by
  intro disguise context database request
  refine ⟨⟨rfl, rfl, by decide +kernel⟩, ?_⟩
  exact request.shows_no_secrets rfl disguise context database {}

/-- A turn in disguise leaves the disguise of what the turn leaves. -/
theorem Turn.outcome_disguised {turn : Turn} (given : turn.request.hashesUserId = false)
    (disguise : Disguise) (database : Database) :
    ((turn.disguised disguise).outcome (database.disguised disguise)).database =
      (turn.outcome database).database.disguised disguise := by
  obtain ⟨-, -, joined⟩ :=
    turn.request.perform_disguised given disguise turn.context database turn.draws
  refine Pairing.Joins.eq_disguised joined ?_ ?_
  · exact ((turn.disguised disguise).schema_outcome _).2.trans
      (turn.schema_outcome database).2.symm
  · exact ((turn.disguised disguise).ledger_outcome _).trans (turn.ledger_outcome database).symm

/-- A run in disguise leaves the disguise of what the run leaves, so that every turn of it shows
what the turn of the other run shows. -/
theorem Database.after_disguised (disguise : Disguise) (database : Database) {turns : List Turn}
    (given : ∀ turn ∈ turns, turn.request.hashesUserId = false) :
    (database.disguised disguise).after (turns.map (Turn.disguised disguise)) =
      (database.after turns).disguised disguise := by
  induction turns generalizing database with
  | nil => rfl
  | cons turn rest ih =>
      rw [List.map_cons, after, after, turn.outcome_disguised (given turn (.head _))]
      exact ih _ fun later isLater => given later (.tail _ isLater)

end Lookout
