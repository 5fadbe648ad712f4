/-!
# Lines

A text falls into lines at every mark that ends one: line feeds and carriage returns,
the separators of ASCII down to records, and the three line ends that Unicode adds. A
carriage return and the line feed after it are one mark.
-/

namespace Lookout.Text

/-- Whether a character ends a line. -/
def isLineEnd (character : Char) : Bool :=
  let code := character.toNat
  (0x0a ≤ code && code ≤ 0x0d) || (0x1c ≤ code && code ≤ 0x1e) || code == 0x85 ||
    code == 0x2028 || code == 0x2029

/-- The lines of a text without the marks that end them. What follows the last mark is a
line only if there is something. -/
def splitLines : List Char → List (List Char)
  | [] => []
  | '\r' :: '\n' :: rest => [] :: splitLines rest
  | character :: rest =>
      if isLineEnd character then [] :: splitLines rest
      else match splitLines rest with
        | [] => [[character]]
        | line :: more => (character :: line) :: more

/-- The lines of a text. -/
def lines (text : String) : List String :=
  (splitLines text.toList).map String.ofList

end Lookout.Text
