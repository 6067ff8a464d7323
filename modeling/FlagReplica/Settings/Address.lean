import FlagReplica.Json.Reader
import FlagReplica.Text.FormEncoding

/-!
# Addresses

An address taken apart as far as a connection needs it: scheme, user, host and port. The scheme ends
at the first colon, and an address without one begins with its authority. The user and the host of
an address on the web, which is one of the schemes `http` and `https` or of none, are brought into
their normal form; those of other addresses are left as they are.
-/

namespace FlagReplica

/-- The parts of an address. -/
structure Address where
  scheme : Option Text
  user : Option Text
  host : Option Text
  port : Option Nat

namespace Address

/-- The text up to the first code point that ends it, and the rest. -/
def cut (ends : List Char) (t : Text) : Text × Text :=
  t.span fun c => !ends.any fun e => c = .scalar e

/-- ASCII letters in lower case. -/
def lowered (t : Text) : Text :=
  t.map fun
    | .scalar c => .scalar c.toLower
    | c => c

/-- ASCII letters in upper case. -/
def raised (t : Text) : Text :=
  t.map fun
    | .scalar c => .scalar c.toUpper
    | c => c

/-! ## Schemes -/

/-- A code point that a scheme may hold after its first letter. -/
def inScheme : CodePoint → Bool
  | .scalar c => c.isAlphanum || c == '+' || c == '-'
  | .surrogate _ => false

/-- The scheme of an address, if it begins with a letter and a colon follows, and what comes after
the colon. -/
def splitScheme (address : Text) : Option Text × Text :=
  match address.span inScheme, address with
  | (scheme, .scalar ':' :: rest), .scalar first :: _ =>
    if first.isAlpha then (some (lowered scheme), rest) else (none, address)
  | _, _ => (none, address)

/-- Whether addresses of a scheme are brought into normal form. -/
def isWeb (scheme? : Option Text) : Bool :=
  match scheme? with
  | none => true
  | some scheme => scheme = "http" || scheme = "https"

/-- The part of an address that names user, host and port. An address without a scheme begins with
it, unless the first character is a slash. -/
def authority (scheme? : Option Text) (afterScheme : Text) : Text :=
  let begins := scheme?.isNone ∧ afterScheme.head? ≠ some (.scalar '/')
  let rest := if begins then afterScheme else (Text.dropPrefix? "//" afterScheme).getD []
  (cut ['/', '\\', '?', '#'] rest).1

/-! ## Escapes -/

/-- A text with its escapes, percent signs with two hexadecimal digits after them, in upper case,
and the number of the escapes. -/
def raiseEscapes : Text → Text × Nat
  | .scalar '%' :: a :: b :: rest =>
    if a.hexDigit?.isSome && b.hexDigit?.isSome then
      let (raisedRest, count) := raiseEscapes rest
      (.scalar '%' :: raised [a, b] ++ raisedRest, count + 1)
    else
      let (raisedRest, count) := raiseEscapes (a :: b :: rest)
      (.scalar '%' :: raisedRest, count)
  | c :: rest =>
    let (raisedRest, count) := raiseEscapes rest
    (c :: raisedRest, count)
  | [] => ([], 0)

/-- Whether each percent sign of a text begins an escape. -/
def isEscaped (t : Text) : Bool :=
  (raiseEscapes t).2 = t.count (.scalar '%')

/-- The escape of an octet. -/
def escape (b : UInt8) : Text :=
  Text.ofChars ['%', FormEncoding.upperHex (b.toNat / 16), FormEncoding.upperHex (b.toNat % 16)]

/-- A text in which only the characters of a class stand for themselves and all others are escaped.
Percent signs are left alone if each begins an escape. -/
def escaped (plain : Char → Bool) (t : Text) : Text :=
  let percentStands := isEscaped t
  let keeps (b : UInt8) : Bool :=
    b < 0x80 && (plain (Char.ofNat b.toNat) || (percentStands && b = 0x25))
  ((raiseEscapes t).1.flatMap Octets.utf8Octets).flatMap fun b =>
    if keeps b then Text.ofChars [Char.ofNat b.toNat] else escape b

/-- The characters that stand for themselves everywhere in an address. -/
def isUnreserved (c : Char) : Bool :=
  c.isAlphanum || c == '.' || c == '_' || c == '-' || c == '~'

/-- The characters that stand for themselves where a user is named. -/
def inUser (c : Char) : Bool :=
  isUnreserved c || "!$&'()*+,;=:".toList.contains c

/-! ## Hosts -/

/-- Whether a text can be the name of a host: it has no brackets, and all its percent signs begin
escapes. -/
def isHostName (t : Text) : Bool :=
  isEscaped t && !t.any fun c => c = .scalar '[' || c = .scalar ']'

/-- Whether a text is a group of a numbered host: one to four hexadecimal digits. -/
def isGroup (t : Text) : Bool :=
  1 ≤ t.length && t.length ≤ 4 && t.all (·.hexDigit?.isSome)

/-- Whether a text is four numbers of one to three digits with points between them. -/
def isDotted (t : Text) : Bool :=
  let parts := Text.splitOn (.scalar '.') t
  parts.length == 4 && parts.all fun part =>
    1 ≤ part.length && part.length ≤ 3 && part.all CodePoint.isDigit

/-- The number of groups in a stretch of them with colons between. At the end of a host the last two
may be written as a dotted one. -/
def groupCount? (atEnd : Bool) (t : Text) : Option Nat :=
  let groups := Text.splitOn (.scalar ':') t
  if t.isEmpty then some 0
  else if groups.all isGroup then some groups.length
  else if atEnd && groups.dropLast.all isGroup && isDotted (groups.getLast?.getD []) then
    some (groups.length + 1)
  else none

/-- What stands before and after the first pair of colons. -/
def cutColons : Text → Option (Text × Text)
  | .scalar ':' :: .scalar ':' :: rest => some ([], rest)
  | c :: rest => (cutColons rest).map fun (before, after) => (c :: before, after)
  | [] => none

/-- Whether a text numbers a host: by eight groups, or by fewer with a pair of colons for what is
left out. -/
def isNumber (t : Text) : Bool :=
  match cutColons t with
  | none => groupCount? true t = some 8
  | some (before, after) =>
    match groupCount? false before, groupCount? true after with
    | some left, some right => left + right ≤ 7
    | _, _ => false

/-- Whether a text names a zone of a numbered host. -/
def isZone (t : Text) : Bool :=
  !t.isEmpty && isEscaped t && t.all fun
    | .scalar c => isUnreserved c || c == '%'
    | .surrogate _ => false

/-- A host in brackets: a number, and perhaps a zone after a percent sign, which may itself be
escaped. On the web the number is in lower case and the sign is not escaped. -/
def bracketed? (isWeb : Bool) (inside : Text) : Option Text :=
  let form (t : Text) : Text := "[" ++ t ++ "]"
  match cut ['%'] inside with
  | (number, _ :: zone) =>
    if isNumber number && isZone zone then
      let plainZone := match Text.dropPrefix? "25" zone with
        | some (c :: rest) => c :: rest
        | _ => zone
      some (form
        (if isWeb then lowered number ++ "%" ++ escaped isUnreserved plainZone else inside))
    else none
  | (number, []) =>
    if isNumber number then some (form (if isWeb then lowered number else number)) else none

/-- A host by its name. On the web it is in lower case and has to be ASCII. -/
def named? (isWeb : Bool) (name : Text) : Option Text :=
  if !isHostName name then none
  else if !isWeb then some name
  else if name.all (·.toNat < 0x80) then some (lowered name)
  else none

/-- The port that follows a host, if one does. Zeros at its front do not count, nor does a newline
at its end. -/
def port? (t : Text) : Option (Option Nat) :=
  let t := if t.getLast? = some (.scalar '\n') then t.dropLast else t
  match t with
  | [] => some none
  | .scalar ':' :: digits =>
    let significant := digits.dropWhile (· = .scalar '0')
    let number := Json.naturalOfDigits significant
    if digits.all CodePoint.isDigit ∧ significant.length ≤ 5 ∧ number ≤ 65535 then
      some (if digits.isEmpty then none else some number)
    else none
  | _ => none

/-- The host and port at the end of an address. -/
def place? (isWeb : Bool) (t : Text) : Option (Text × Option Nat) := do
  match t with
  | .scalar '[' :: rest =>
    match cut [']'] rest with
    | (inside, _ :: afterHost) => return (← bracketed? isWeb inside, ← port? afterHost)
    | (_, []) => none
  | _ =>
    let (name, afterHost) := cut [':'] t
    return (← named? isWeb name, ← port? afterHost)

/-- Takes an address apart, if its authority is well formed. The last at sign ends the user; an
empty user or authority counts as absent. -/
def parse? (address : Text) : Option Address := do
  let (scheme, afterScheme) := splitScheme address
  let authority := authority scheme afterScheme
  let (placeEnd, userEnd) := authority.reverse.span (· ≠ .scalar '@')
  let user := (userEnd.drop 1).reverse
  let (host, port) ← place? (isWeb scheme) placeEnd.reverse
  return {
    scheme
    user :=
      if user.isEmpty then none else some (if isWeb scheme then escaped inUser user else user)
    host := if authority.isEmpty then none else some host
    port }

end Address

end FlagReplica
