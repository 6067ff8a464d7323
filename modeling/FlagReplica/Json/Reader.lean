import FlagReplica.Json.Value
import FlagReplica.Text.Numeral

/-!
# Reading JSON

A recursive reader over code points. A refusal names the problem and the place where it was noticed;
inside the reader the place is the number of code points left, and `read` turns it into a position,
a line and a column. Every call of the reader's three mutually recursive functions takes at least
one code point off the text, so one more than the length of the text bounds their nesting.
-/

namespace FlagReplica.Json

/-- What is wrong with a text that is not JSON. -/
inductive Problem where
  | byteOrderMark
  | expectingValue
  | expectingName
  | expectingColon
  | expectingComma
  | extraData
  | unterminatedString
  | controlCharacter
  | badEscape
  | badUnicodeEscape
  /-- A problem that somebody else's reader words itself. -/
  | told (text : Text)
deriving DecidableEq

/-- The wording of a problem. -/
def Problem.text : Problem → Text
  | byteOrderMark => "Unexpected UTF-8 BOM (decode using utf-8-sig)"
  | expectingValue => "Expecting value"
  | expectingName => "Expecting property name enclosed in double quotes"
  | expectingColon => "Expecting ':' delimiter"
  | expectingComma => "Expecting ',' delimiter"
  | extraData => "Extra data"
  | unterminatedString => "Unterminated string starting at"
  | controlCharacter => "Invalid control character at"
  | badEscape => "Invalid \\escape"
  | badUnicodeEscape => "Invalid \\uXXXX escape"
  | told text => text

/-- A problem at a position of a text, counted from zero, with the line and column counted from
one. -/
structure Misread where
  problem : Problem
  position : Int
  line : Nat
  column : Int
deriving DecidableEq

/-- A problem at a position: lines end with a newline, and the column counts from the last one. A
position need not lie in the text. A negative one looks at what comes before that many code points
from the end, and a great one at the whole text. -/
def Misread.locate (problem : Problem) (text : Text) (position : Int) : Misread :=
  let before := text.take (if position < 0 then text.length + position else position).toNat
  let newline := CodePoint.scalar '\n'
  let lastLine := before.reverse.takeWhile (· != newline)
  { problem, position
    line := before.count newline + 1
    column := position - (before.length - lastLine.length) + 1 }

/-- The wording of a problem with its place. -/
def Misread.text (m : Misread) : Text :=
  m.problem.text ++ ": line " ++ Text.ofNat m.line ++ " column " ++ Text.ofInt m.column
    ++ " (char " ++ Text.ofInt m.position ++ ")"

/-- Why a text gives no value: it is not JSON, or it has an integer of too many digits. -/
inductive ReadError where
  | misread (m : Misread)
  | tooManyDigits (count : Nat)
deriving DecidableEq

/-- Why the reader stops, with the number of code points left at the place it complains of. -/
inductive Stop where
  | problem (problem : Problem) (left : Nat)
  | tooManyDigits (count : Nat)

/-! ## Blanks, literals, numbers -/

/-- The four blank characters of JSON. -/
def isBlank : CodePoint → Bool
  | .scalar c => c == ' ' || c == '\t' || c == '\n' || c == '\r'
  | .surrogate _ => false

/-- Passes over blanks. -/
def skipBlanks (s : Text) : Text :=
  s.dropWhile isBlank

/-- The natural number that digits spell. -/
def naturalOfDigits (digits : Text) : Nat :=
  digits.foldl (fun n d => n * 10 + (d.toNat - '0'.toNat)) 0

/-- The digits at the front of a text and what follows them. -/
def spanDigits (s : Text) : Text × Text :=
  s.span CodePoint.isDigit

/-- The digits of the integer part: a zero alone, or any digits that do not begin with one. -/
def readWhole? : Text → Option (Text × Text)
  | .scalar '0' :: rest => some ([.scalar '0'], rest)
  | s =>
    match spanDigits s with
    | ([], _) => none
    | (digits, rest) => some (digits, rest)

/-- The digits of a fraction, if a point with digits after it follows. -/
def readFraction? : Text → Option (Text × Text)
  | .scalar '.' :: s =>
    match spanDigits s with
    | ([], _) => none
    | (digits, rest) => some (digits, rest)
  | _ => none

/-- An exponent, if its mark with digits after it follows. -/
def readExponent? : Text → Option (Int × Text)
  | .scalar c :: s =>
    if c = 'e' ∨ c = 'E' then
      let (negative, s) := match s with
        | .scalar '-' :: s => (true, s)
        | .scalar '+' :: s => (false, s)
        | s => (false, s)
      match spanDigits s with
      | ([], _) => none
      | (digits, rest) =>
        let n : Int := naturalOfDigits digits
        some (if negative then -n else n, rest)
    else none
  | _ => none

/-- A number at the front of a text: the longest match of the grammar. With neither fraction nor
exponent it is an integer. -/
def readNumber (s : Text) : Except Stop (Number × Text) :=
  let (negative, unsigned) := match s with
    | .scalar '-' :: rest => (true, rest)
    | s => (false, s)
  match readWhole? unsigned with
  | none => .error (.problem .expectingValue s.length)
  | some (whole, afterWhole) =>
    let (fraction, afterFraction) := (readFraction? afterWhole).getD ([], afterWhole)
    match readExponent? afterFraction, fraction with
    | none, [] =>
      if whole.length > digitLimit then .error (.tooManyDigits whole.length)
      else
        let n : Int := naturalOfDigits whole
        .ok (.integer (if negative then -n else n), afterWhole)
    | exponent?, _ =>
      let (exponent, rest) := exponent?.getD (0, afterFraction)
      .ok (.binary (.ofDecimal negative (naturalOfDigits (whole ++ fraction))
        (exponent - fraction.length)), rest)

/-! ## Strings -/

/-- A piece of a string: a code point as it stands, or a unit named by its number. -/
inductive Piece where
  | plain (c : CodePoint)
  | named (unit : Nat)

/-- The character that a two-character escape stands for. -/
def shortEscape? : CodePoint → Option Char
  | .scalar '"' => some '"'
  | .scalar '\\' => some '\\'
  | .scalar '/' => some '/'
  | .scalar 'b' => some '\x08'
  | .scalar 'f' => some '\x0c'
  | .scalar 'n' => some '\n'
  | .scalar 'r' => some '\r'
  | .scalar 't' => some '\t'
  | _ => none

/-- The number that four hexadecimal digits spell. -/
def hexFour? (a b c d : CodePoint) : Option Nat := do
  return (((← a.hexDigit?) * 16 + (← b.hexDigit?)) * 16 + (← c.hexDigit?)) * 16 + (← d.hexDigit?)

/-- Reads the pieces of a string up to its closing quote. `opening` is the number of code points
left at the opening quote. A unit named by its number must leave something to read after it. -/
def readPieces (opening : Nat) : Text → Except Stop (List Piece × Text)
  | [] => .error (.problem .unterminatedString opening)
  | .scalar '"' :: rest => .ok ([], rest)
  | [.scalar '\\'] => .error (.problem .unterminatedString opening)
  | .scalar '\\' :: .scalar 'u' :: a :: b :: c :: d :: rest =>
    match hexFour? a b c d, rest with
    | some unit, _ :: _ => do
      let (pieces, rest) ← readPieces opening rest
      return (.named unit :: pieces, rest)
    | _, _ => .error (.problem .badUnicodeEscape (rest.length + 5))
  | .scalar '\\' :: c :: rest =>
    match shortEscape? c with
    | some e => do
      let (pieces, rest) ← readPieces opening rest
      return (.plain e :: pieces, rest)
    | none =>
      if c = .scalar 'u' then .error (.problem .badUnicodeEscape (rest.length + 1))
      else .error (.problem .badEscape (rest.length + 2))
  | c :: rest =>
    if c.toNat < 0x20 then .error (.problem .controlCharacter (rest.length + 1))
    else do
      let (pieces, rest) ← readPieces opening rest
      return (.plain c :: pieces, rest)

/-- The text that pieces spell: two named units that form a surrogate pair spell one code point. -/
def joinPieces : List Piece → Text
  | .named high :: .named low :: rest =>
    let first := CodePoint.ofNat high
    let second := CodePoint.ofNat low
    if first.isHighSurrogate && second.isLowSurrogate then
      .joinSurrogates first second :: joinPieces rest
    else first :: joinPieces (.named low :: rest)
  | .named unit :: rest => .ofNat unit :: joinPieces rest
  | .plain c :: rest => c :: joinPieces rest
  | [] => []

/-- Reads a string whose opening quote has been taken off. -/
def readString (s : Text) : Except Stop (Text × Text) := do
  let (pieces, rest) ← readPieces (s.length + 1) s
  return (joinPieces pieces, rest)

/-! ## Values -/

/-- The literals that are not numbers, and the three that are not finite. -/
def literals : List (String × Value) :=
  [("null", .null), ("true", .boolean true), ("false", .boolean false),
    ("NaN", .number (.binary .notANumber)), ("Infinity", .number (.binary (.infinite false))),
    ("-Infinity", .number (.binary (.infinite true)))]

/-- The literal at the front of a text. -/
def readLiteral? (s : Text) : Option (Value × Text) :=
  literals.findSome? fun (word, v) => (Text.dropPrefix? word s).map fun rest => (v, rest)

mutual

/-- Reads the value at the front of a text. -/
def readValue : (fuel : Nat) → Text → Except Stop (Value × Text)
  | 0, s => .error (.problem .expectingValue s.length)
  | fuel + 1, s =>
    match s with
    | .scalar '"' :: rest => do
      let (t, rest) ← readString rest
      return (.text t, rest)
    | .scalar '[' :: rest =>
      match skipBlanks rest with
      | .scalar ']' :: rest => .ok (.array [], rest)
      | rest => do
        let (items, rest) ← readItems fuel rest
        return (.array items, rest)
    | .scalar '\x7b' :: rest =>
      match skipBlanks rest with
      | .scalar '\x7d' :: rest => .ok (.object [], rest)
      | rest => do
        let (members, rest) ← readMembers fuel rest
        return (.object (Table.ofEntries members), rest)
    | s =>
      match readLiteral? s with
      | some (v, rest) => .ok (v, rest)
      | none => do
        let (n, rest) ← readNumber s
        return (.number n, rest)

/-- Reads the items of an array, of which there is at least one, and the bracket that closes it. -/
def readItems : (fuel : Nat) → Text → Except Stop (List Value × Text)
  | 0, s => .error (.problem .expectingValue s.length)
  | fuel + 1, s => do
    let (v, rest) ← readValue fuel s
    match skipBlanks rest with
    | .scalar ']' :: rest => return ([v], rest)
    | .scalar ',' :: rest => do
      let (items, rest) ← readItems fuel (skipBlanks rest)
      return (v :: items, rest)
    | rest => .error (.problem .expectingComma rest.length)

/-- Reads the members of an object, of which there is at least one, and the brace that closes it. -/
def readMembers : (fuel : Nat) → Text → Except Stop (List (Text × Value) × Text)
  | 0, s => .error (.problem .expectingName s.length)
  | fuel + 1, s =>
    match s with
    | .scalar '"' :: rest => do
      let (name, rest) ← readString rest
      match skipBlanks rest with
      | .scalar ':' :: rest => do
        let (v, rest) ← readValue fuel (skipBlanks rest)
        match skipBlanks rest with
        | .scalar '\x7d' :: rest => return ([(name, v)], rest)
        | .scalar ',' :: rest => do
          let (members, rest) ← readMembers fuel (skipBlanks rest)
          return ((name, v) :: members, rest)
        | rest => .error (.problem .expectingComma rest.length)
      | rest => .error (.problem .expectingColon rest.length)
    | s => .error (.problem .expectingName s.length)

end

/-- Reads a whole text: one value with blanks around it and nothing else. -/
def readWholeText (s : Text) : Except Stop Value := do
  let (v, rest) ← readValue (2 * (s.length + 1)) (skipBlanks s)
  match skipBlanks rest with
  | [] => return v
  | rest => .error (.problem .extraData rest.length)

/-- The value that a text spells which was just decoded from octets. A byte order mark left in it is
a character like any other. -/
def readDecoded (s : Text) : Except ReadError Value :=
  match readWholeText s with
  | .ok v => .ok v
  | .error (.problem problem left) =>
    .error (.misread (.locate problem s ((s.length - left : Nat) : Int)))
  | .error (.tooManyDigits count) => .error (.tooManyDigits count)

/-- The value that a text spells. One that begins with a byte order mark was decoded without regard
to it, and is refused. -/
def read (s : Text) : Except ReadError Value :=
  match s with
  | .scalar '\uFEFF' :: _ => .error (.misread (.locate .byteOrderMark s 0))
  | _ => readDecoded s

end FlagReplica.Json
