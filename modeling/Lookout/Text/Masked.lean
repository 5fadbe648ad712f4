/-!
# Masked text

Tokens and account ids are secrets. Messages show a masked form: short values whole,
longer ones with their middle, or all of it, replaced by three dots.
-/

namespace Lookout.Text

/-- Values below this length are shown whole. -/
def maskFrom : Nat := 6

/-- How many characters a masked value shows at each end: ten for each full hundred of
its length, but at most eight. -/
def shownEnd (length : Nat) : Nat :=
  min (length / 100 * 10) 8

/-- The masked form of a value, and `None` where there is none. -/
def masked : Option String → String
  | none => "None"
  | some value =>
      let characters := value.toList
      let length := characters.length
      if length < maskFrom then value
      else
        String.ofList (characters.take (shownEnd length)) ++ "..." ++
          String.ofList (characters.drop (length - shownEnd length))

end Lookout.Text
