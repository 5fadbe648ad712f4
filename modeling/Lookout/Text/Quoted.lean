import Lookout.Text.Printable

/-!
# Quoted text

A text in quotes, as error messages show it: single quotes unless the text holds a
single and no double quote, with escapes for the quote, the backslash, line ends, tabs
and every character that does not print.
-/

namespace Lookout.Text

/-- The quote that goes around a text. -/
def quoteFor (text : List Char) : Char :=
  if text.contains '\'' && !text.contains '"' then '"' else '\''

/-- The lower-case hexadecimal digits of a number, padded with zeros to a width. -/
def hexPadded (width number : Nat) : List Char :=
  let digits := Nat.toDigits 16 number
  List.replicate (width - digits.length) '0' ++ digits

/-- The code of a character as an escape. -/
def hexEscape (character : Char) : List Char :=
  if character.toNat < 0x100 then '\\' :: 'x' :: hexPadded 2 character.toNat
  else if character.toNat < 0x10000 then '\\' :: 'u' :: hexPadded 4 character.toNat
  else '\\' :: 'U' :: hexPadded 8 character.toNat

/-- One character as it stands inside quotes. -/
def quoteChar (quote character : Char) : List Char :=
  if character = quote ∨ character = '\\' then ['\\', character]
  else if character = '\n' then ['\\', 'n']
  else if character = '\r' then ['\\', 'r']
  else if character = '\t' then ['\\', 't']
  else if isPrintable character then [character]
  else hexEscape character

/-- A text in quotes. -/
def quoted (text : String) : String :=
  let characters := text.toList
  let quote := quoteFor characters
  String.ofList (quote :: (characters.flatMap (quoteChar quote) ++ [quote]))

/-- A text with an escape for every character outside ASCII. -/
def asciiOnly (text : String) : String :=
  String.ofList <| text.toList.flatMap fun character =>
    if character.toNat < 0x80 then [character] else hexEscape character

/-- A text in quotes, or `None` where there is none. -/
def quoted? : Option String → String
  | some text => quoted text
  | none => "None"

/-- A text as it stands, or `None` where there is none. -/
def plain? : Option String → String
  | some text => text
  | none => "None"

end Lookout.Text
