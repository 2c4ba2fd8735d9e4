import Backtrack.Text.Combining
import Backtrack.Text.Unprintable

/-! Texts and the way they are written as literals. A literal is printable: a
character that would not show, or that would combine with its neighbour, is
written by its code point. -/

namespace Backtrack

/-- The characters of a text, first to last. Parsers work on these. -/
abbrev Text := List Char

namespace Text

/-- A code point between braces, in lowercase hexadecimal without padding. -/
def codePoint (c : Char) : Text :=
  ['\\', 'u', '\x7b'] ++ Nat.toDigits 16 c.toNat ++ ['\x7d']

/-- How a character is written inside a literal that `quote` encloses. Only the
enclosing quote needs an escape; the other one stands for itself. -/
def escape (quote c : Char) : Text :=
  if c = '\x00' then ['\\', '0']
  else if c = '\t' then ['\\', 't']
  else if c = '\r' then ['\\', 'r']
  else if c = '\n' then ['\\', 'n']
  else if c = '\\' || c = quote then ['\\', c]
  else if isCombining c || isUnprintable c then codePoint c
  else [c]

/-- The literal of a text, in double quotes. -/
def quoted (text : Text) : String :=
  String.ofList ('"' :: text.flatMap (escape '"') ++ ['"'])

/-- The literal of one character, in single quotes. -/
def quotedChar (c : Char) : String :=
  String.ofList ('\'' :: escape '\'' c ++ ['\''])

end Text
end Backtrack
