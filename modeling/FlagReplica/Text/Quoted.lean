import FlagReplica.Text.Printable

/-!
# Quoted text

A text between quotes for a reader of messages. Single quotes serve unless the text holds one and no
double quote. What does not show is written by its number, in two, four or eight lower-case
hexadecimal digits.
-/

namespace FlagReplica.Text

/-- The last `width` hexadecimal digits of a number. -/
def hexDigits : (width n : Nat) → List Char
  | 0, _ => []
  | width + 1, n => hexDigits width (n / 16) ++ [Nat.digitChar (n % 16)]

/-- A code point written by its number. -/
def numbered (n : Nat) : List Char :=
  if n < 0x100 then '\\' :: 'x' :: hexDigits 2 n
  else if n < 0x10000 then '\\' :: 'u' :: hexDigits 4 n
  else '\\' :: 'U' :: hexDigits 8 n

/-- A code point between quotes. -/
def quotedPoint (quote : Char) (c : CodePoint) : List Char :=
  if c = .scalar quote ∨ c = .scalar '\\' then ['\\', Char.ofNat c.toNat]
  else if c = .scalar '\n' then ['\\', 'n']
  else if c = .scalar '\r' then ['\\', 'r']
  else if c = .scalar '\t' then ['\\', 't']
  else if c.isPrintable then [Char.ofNat c.toNat]
  else numbered c.toNat

/-- The quote that a text is put between. -/
def quoteFor (t : Text) : Char :=
  if t.contains (.scalar '\'') && !t.contains (.scalar '"') then '"' else '\''

/-- A text between quotes. -/
def quoted (t : Text) : Text :=
  let quote := quoteFor t
  ofChars (quote :: (t.flatMap (quotedPoint quote) ++ [quote]))

end FlagReplica.Text
