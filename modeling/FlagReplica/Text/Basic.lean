/-!
# Text

Text as it travels through payloads: a sequence of Unicode code points. An escape in a payload can
name one half of a surrogate pair on its own, which no `Char` can hold, so a code point is a scalar
value or such a half. `Text.ofString` places every ordinary string among them.
-/

namespace FlagReplica

/-- A Unicode code point: a scalar value, or one half of a surrogate pair standing alone. -/
inductive CodePoint where
  | scalar (c : Char)
  /-- The code point `0xD800 + offset`. -/
  | surrogate (offset : Fin 0x800)
deriving DecidableEq

/-- A sequence of code points. -/
abbrev Text := List CodePoint

namespace CodePoint

/-- The number that names the code point. -/
def toNat : CodePoint → Nat
  | scalar c => c.toNat
  | surrogate offset => 0xD800 + offset.val

/-- The code point that a number names; a number past the last code point names NUL. -/
def ofNat (n : Nat) : CodePoint :=
  if h : 0xD800 ≤ n ∧ n < 0xE000 then surrogate ⟨n - 0xD800, by omega⟩ else scalar (Char.ofNat n)

instance : Coe Char CodePoint := ⟨scalar⟩

/-- Whether the code point is one of the decimal digits of ASCII, the only ones in a number. -/
def isDigit : CodePoint → Bool
  | scalar c => c.isDigit
  | surrogate _ => false

/-- The value of a hexadecimal digit, in either case. -/
def hexDigit? : CodePoint → Option Nat
  | scalar c =>
    if '0' ≤ c ∧ c ≤ '9' then some (c.toNat - '0'.toNat)
    else if 'a' ≤ c ∧ c ≤ 'f' then some (c.toNat - 'a'.toNat + 10)
    else if 'A' ≤ c ∧ c ≤ 'F' then some (c.toNat - 'A'.toNat + 10)
    else none
  | surrogate _ => none

/-- Whether the code point is the first half of a surrogate pair. -/
def isHighSurrogate (c : CodePoint) : Bool :=
  0xD800 ≤ c.toNat && c.toNat < 0xDC00

/-- Whether the code point is the second half of a surrogate pair. -/
def isLowSurrogate (c : CodePoint) : Bool :=
  0xDC00 ≤ c.toNat && c.toNat < 0xE000

/-- The scalar value that two halves of a surrogate pair spell together. -/
def joinSurrogates (high low : CodePoint) : CodePoint :=
  ofNat (0x10000 + (high.toNat - 0xD800) * 0x400 + (low.toNat - 0xDC00))

end CodePoint

namespace Text

/-- The code points that characters are. -/
def ofChars (cs : List Char) : Text :=
  cs.map .scalar

/-- The code points of a string. -/
def ofString (s : String) : Text :=
  ofChars s.toList

instance : Coe String Text := ⟨ofString⟩

/-- A text as a string. Half of a surrogate pair, which a string cannot hold, becomes the
replacement character. -/
def asString (t : Text) : String :=
  String.ofList (t.map fun
    | .scalar c => c
    | .surrogate _ => '\uFFFD')

/-- What follows a given beginning, if the text begins with it. -/
def dropPrefix? : (beginning text : Text) → Option Text
  | [], text => some text
  | _ :: _, [] => none
  | b :: beginning, c :: text => if b = c then dropPrefix? beginning text else none

/-- The text without the copies of `c` at its end. -/
def trimEnd (c : CodePoint) (text : Text) : Text :=
  (text.reverse.dropWhile (· == c)).reverse

/-- The stretches of the text between copies of `c`. -/
def splitOn (c : CodePoint) : Text → List Text
  | [] => [[]]
  | d :: rest =>
    if d = c then [] :: splitOn c rest
    else match splitOn c rest with
      | [] => [[d]]
      | first :: others => (d :: first) :: others

/-- The decimal digits of a natural number. -/
def ofNat (n : Nat) : Text :=
  ofChars (Nat.toDigits 10 n)

/-- The decimal digits of an integer, after a minus sign if it is negative. -/
def ofInt : Int → Text
  | .ofNat n => ofNat n
  | .negSucc n => CodePoint.scalar '-' :: ofNat (n + 1)

/-- The order of texts by code point. -/
def precedes : Text → Text → Bool
  | [], _ => true
  | _ :: _, [] => false
  | a :: s, b :: t => a.toNat < b.toNat || (a.toNat == b.toNat && precedes s t)

/-- Texts joined with a separator between each two. -/
def joinWith (separator : Text) : List Text → Text
  | [] => []
  | [t] => t
  | t :: u :: rest => t ++ separator ++ joinWith separator (u :: rest)

/-- Strings are the same text only if they are the same string. -/
@[simp]
theorem ofString_inj {s t : String} : ofString s = ofString t ↔ s = t := by
  constructor
  · intro h
    have hchars : s.toList = t.toList := (List.map_inj_right fun _ _ => CodePoint.scalar.inj).1 h
    exact String.toList_inj.1 hchars
  · rintro rfl
    rfl

/-- A beginning is dropped only from a text that is it followed by the answer. -/
theorem eq_append_of_dropPrefix? {beginning text rest : Text}
    (h : dropPrefix? beginning text = some rest) : text = beginning ++ rest := by
  induction beginning generalizing text with
  | nil => simpa [dropPrefix?] using h
  | cons b beginning ih =>
    cases text with
    | nil => simp [dropPrefix?] at h
    | cons c text =>
      by_cases hb : b = c
      · subst hb
        simp only [dropPrefix?, if_true] at h
        simp [ih h]
      · simp [dropPrefix?, hb] at h

end Text

end FlagReplica
