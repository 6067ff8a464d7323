import FlagReplica.Text.Basic

/-!
# Octets to text

Decoding of octets by one of the Unicode encoding forms, with the exact place and cause of a
refusal. A form is given by what it reads at the front of the octets (`Form.next`); `Form.decode`
repeats that to the end. The octets after a refused stretch play no part in the answer.
-/

namespace FlagReplica.Octets

/-- Why a stretch of octets spells no code point. -/
inductive Problem where
  | invalidStart
  | invalidContinuation
  | unexpectedEnd
  | truncated
  | outOfRange
deriving DecidableEq

/-- The wording of a problem. -/
def Problem.text : Problem → String
  | invalidStart => "invalid start byte"
  | invalidContinuation => "invalid continuation byte"
  | unexpectedEnd => "unexpected end of data"
  | truncated => "truncated data"
  | outOfRange => "code point not in range(0x110000)"

/-- A refusal: the form that refused, the offset of the refused octets, the octets themselves. -/
structure Refusal where
  form : String
  offset : Nat
  octets : List UInt8
  problem : Problem
deriving DecidableEq

/-- The two lower-case hexadecimal digits of an octet. -/
def hexPair (b : UInt8) : String :=
  String.ofList [Nat.digitChar (b.toNat / 16), Nat.digitChar (b.toNat % 16)]

/-- One refused octet is shown; several are told by their first and last offset. -/
def Refusal.text (r : Refusal) : String :=
  let place := match r.octets with
    | [b] => s!"byte 0x{hexPair b} in position {r.offset}"
    | bs => s!"bytes in position {r.offset}-{r.offset + bs.length - 1}"
  s!"'{r.form}' codec can't decode {place}: {r.problem.text}"

/-- What stands at the front of the octets: a code point of some width, or a refused stretch. -/
inductive Front where
  | point (c : CodePoint) (width : Nat)
  | refused (problem : Problem) (width : Nat)

/-- An encoding form: its name and its reading of the front of a non-empty sequence of octets. -/
structure Form where
  name : String
  next : List UInt8 → Front

/-- Reads code points to the end; `fuel` bounds their number and `offset` counts the octets that
came before. -/
def Form.decodeFrom (form : Form) : (fuel offset : Nat) → List UInt8 → Except Refusal Text
  | _, _, [] => .ok []
  | 0, _, _ => .ok []
  | fuel + 1, offset, bytes =>
    match form.next bytes with
    | .point c width => do
      let rest ← form.decodeFrom fuel (offset + width) (bytes.drop width)
      return c :: rest
    | .refused problem width => .error ⟨form.name, offset, bytes.take width, problem⟩

/-- The text that octets spell. Each code point takes at least one octet, so their number bounds
the steps; `skip` octets at the front (a byte order mark) are passed over but counted. -/
def Form.decode (form : Form) (skip : Nat) (bytes : List UInt8) : Except Refusal Text :=
  form.decodeFrom bytes.length skip (bytes.drop skip)

/-! ## UTF-8 -/

/-- A continuation octet: `10xxxxxx`. -/
def isContinuation (b : UInt8) : Bool :=
  0x80 ≤ b && b < 0xC0

/-- The low six bits, which a continuation octet carries. -/
def payload (b : UInt8) : Nat :=
  b.toNat % 64

/-- The octets after the first of a three-octet sequence. The second octet must not make the
sequence overlong or, unless halves of surrogate pairs are let through, spell one of them. -/
def nextOfThree (halves : Bool) (a : UInt8) : List UInt8 → Front
  | [] => .refused .unexpectedEnd 1
  | b :: rest =>
    if !isContinuation b || (a == 0xE0 && b < 0xA0) then .refused .invalidContinuation 1
    else
      let half := a == 0xED && 0xA0 ≤ b
      match rest with
      | [] => if half then .refused .invalidContinuation 1 else .refused .unexpectedEnd 2
      | c :: _ =>
        if half && !(halves && isContinuation c) then .refused .invalidContinuation 1
        else if !isContinuation c then .refused .invalidContinuation 2
        else .point (.ofNat ((a.toNat % 16 * 64 + payload b) * 64 + payload c)) 3

/-- The octets after the first of a four-octet sequence, which must stay in range and not be
overlong. -/
def nextOfFour (a : UInt8) : List UInt8 → Front
  | [] => .refused .unexpectedEnd 1
  | b :: rest =>
    if !isContinuation b || (a == 0xF0 && b < 0x90) || (a == 0xF4 && 0x90 ≤ b) then
      .refused .invalidContinuation 1
    else match rest with
      | [] => .refused .unexpectedEnd 2
      | c :: rest =>
        if !isContinuation c then .refused .invalidContinuation 2
        else match rest with
          | [] => .refused .unexpectedEnd 3
          | d :: _ =>
            if !isContinuation d then .refused .invalidContinuation 3
            else .point
              (.ofNat (((a.toNat % 8 * 64 + payload b) * 64 + payload c) * 64 + payload d)) 4

/-- UTF-8. With `halves` the three-octet spellings of lone surrogates are read too. -/
def utf8 (halves : Bool) : Form where
  name := "utf-8"
  next
    | [] => .refused .unexpectedEnd 0
    | a :: rest =>
      if a < 0x80 then .point (.ofNat a.toNat) 1
      else if a < 0xC2 then .refused .invalidStart 1
      else if a < 0xE0 then
        match rest with
        | [] => .refused .unexpectedEnd 1
        | b :: _ =>
          if isContinuation b then .point (.ofNat (a.toNat % 32 * 64 + payload b)) 2
          else .refused .invalidContinuation 1
      else if a < 0xF0 then nextOfThree halves a rest
      else if a < 0xF5 then nextOfFour a rest
      else .refused .invalidStart 1

/-! ## UTF-16 and UTF-32 -/

/-- The order of the octets in a unit of more than one octet. -/
inductive Endian where
  | little
  | big
deriving DecidableEq

/-- The number that octets spell, most significant octet last for little-endian order. -/
def Endian.value (order : Endian) (bytes : List UInt8) : Nat :=
  let digits := match order with
    | .little => bytes.reverse
    | .big => bytes
  digits.foldl (fun n b => n * 256 + b.toNat) 0

/-- The ending that names the order in the name of a form. -/
def Endian.ending : Endian → String
  | little => "le"
  | big => "be"

/-- UTF-16. Two units that form a surrogate pair spell one code point; a half without its partner
stands for itself. -/
def utf16 (order : Endian) : Form where
  name := "utf-16-" ++ order.ending
  next
    | a :: b :: rest =>
      let first := CodePoint.ofNat (order.value [a, b])
      match rest with
      | c :: d :: _ =>
        let second := CodePoint.ofNat (order.value [c, d])
        if first.isHighSurrogate && second.isLowSurrogate then
          .point (.joinSurrogates first second) 4
        else .point first 2
      | _ => .point first 2
    | _ => .refused .truncated 1

/-- UTF-32. A half of a surrogate pair stands for itself. -/
def utf32 (order : Endian) : Form where
  name := "utf-32-" ++ order.ending
  next
    | a :: b :: c :: d :: _ =>
      let n := order.value [a, b, c, d]
      if n < 0x110000 then .point (.ofNat n) 4 else .refused .outOfRange 4
    | short => .refused .truncated short.length

/-! ## Telling the form from the octets -/

/-- Decodes octets whose first character is known to be ASCII by telling the form from a byte order
mark or, without one, from the places of zero octets among the first four. -/
def decodeGuessed : List UInt8 → Except Refusal Text
  | bytes@(0x00 :: 0x00 :: 0xFE :: 0xFF :: _) => (utf32 .big).decode 4 bytes
  | bytes@(0xFF :: 0xFE :: 0x00 :: 0x00 :: _) => (utf32 .little).decode 4 bytes
  | bytes@(0xFE :: 0xFF :: _) => (utf16 .big).decode 2 bytes
  | bytes@(0xFF :: 0xFE :: _) => (utf16 .little).decode 2 bytes
  | 0xEF :: 0xBB :: 0xBF :: bytes => (utf8 true).decode 0 bytes
  | bytes@(a :: b :: c :: d :: _) =>
    if a == 0 then
      if b == 0 then (utf32 .big).decode 0 bytes else (utf16 .big).decode 0 bytes
    else if b == 0 then
      if c == 0 && d == 0 then (utf32 .little).decode 0 bytes else (utf16 .little).decode 0 bytes
    else (utf8 true).decode 0 bytes
  | bytes@(a :: b :: []) =>
    if a == 0 then (utf16 .big).decode 0 bytes
    else if b == 0 then (utf16 .little).decode 0 bytes
    else (utf8 true).decode 0 bytes
  | bytes => (utf8 true).decode 0 bytes

/-- The octets that pairs of hexadecimal digits spell; what is no such digit counts as zero. -/
def ofHex : Text → List UInt8
  | high :: low :: rest =>
    UInt8.ofNat (high.hexDigit?.getD 0 * 16 + low.hexDigit?.getD 0) :: ofHex rest
  | _ => []

end FlagReplica.Octets
