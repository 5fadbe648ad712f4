/-!
# Draws

The supply of randomness for invite ids and user ids: a state, a rule for the next one,
and the number that a state gives. Nothing else is known of it, so what is proved about
drawn texts holds for any supply.
-/

namespace Lookout

/-- A rule that turns states into numbers. -/
structure Generator where
  next : UInt64 → UInt64
  output : UInt64 → Nat

/-- The linear congruence that is used unless another rule is given. -/
def Generator.congruential : Generator where
  next state := state * 6364136223846793005 + 1442695040888963407
  output state := (state >>> 33).toNat

/-- A supply of random numbers. -/
structure Draws where
  state : UInt64 := 0
  generator : Generator := .congruential
  /-- How often a text that is in use is drawn again before giving up. -/
  attempts : Nat := 100000

namespace Draws

/-- A supply that starts from a seed. -/
def ofSeed (seed : Int) : Draws where
  state := UInt64.ofInt seed

/-- The characters that texts are drawn from. -/
def alphabet : List Char :=
  "abcdefghijklmnopqrstuvwxyzABCDEFGHIJKLMNOPQRSTUVWXYZ0123456789".toList

/-- The same characters for access by their place. -/
def alphabetTable : Array Char := alphabet.toArray

/-- The next number below a bound. -/
def below (draws : Draws) (bound : Nat) : Nat × Draws :=
  let state := draws.generator.next draws.state
  (draws.generator.output state % bound, { draws with state })

/-- The next so many characters, in the order in which they are drawn. -/
def characters (draws : Draws) : Nat → List Char × Draws
  | 0 => ([], draws)
  | count + 1 =>
      let (place, draws) := draws.below alphabetTable.size
      let (rest, draws) := draws.characters count
      (alphabetTable.getD place 'a' :: rest, draws)

/-- The next text of a length. -/
def text (draws : Draws) (length : Nat) : String × Draws :=
  let (drawn, draws) := draws.characters length
  (String.ofList drawn, draws)

/-- Every drawn text has the length that was asked for. -/
theorem length_characters (draws : Draws) (count : Nat) :
    (draws.characters count).1.length = count := by
  induction count generalizing draws with
  | zero => rfl
  | succ count inductionHypothesis => simp [characters, inductionHypothesis]

end Draws

end Lookout
