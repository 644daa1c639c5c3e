import Sandwich.Domain.Name
import Sandwich.Hex
import Sandwich.Text.Utf8

/-! Which texts are the host of an address: a name, four bytes, or eight groups of
two bytes in brackets. -/

namespace Sandwich

/-- Why a text is no address. -/
inductive UrlError
  | relative
  | emptyHost
  | invalidPort
  | invalidIpv4
  | invalidIpv6
  | invalidName
  | invalidCharacter
deriving DecidableEq

def UrlError.message : UrlError → String
  | relative => "relative URL without a base"
  | emptyHost => "empty host"
  | invalidPort => "invalid port number"
  | invalidIpv4 => "invalid IPv4 address"
  | invalidIpv6 => "invalid IPv6 address"
  | invalidName => "invalid international domain name"
  | invalidCharacter => "invalid domain character"

namespace Url

/-! ### Numeric hosts -/

def isHexDigit (c : Char) : Bool :=
  c.isDigit || ('a' ≤ c && c ≤ 'f') || ('A' ≤ c && c ≤ 'F')

/-- The value of a numeral, its characters being digits of the base. -/
def numeralValue (base : Nat) (cs : List Char) : Nat :=
  cs.foldl (fun n c => base * n + ((Hex.value? (UInt8.ofNat c.toNat)).getD 0).toNat) 0

/-- A part of a numeric host. A leading `0x` marks base sixteen, a leading zero base eight. -/
def ipv4Number? (cs : List Char) : Option Nat :=
  let (base, digits) := match cs with
    | '0' :: 'x' :: digits => (16, digits)
    | '0' :: 'X' :: digits => (16, digits)
    | '0' :: c :: digits => (8, c :: digits)
    | digits => (10, digits)
  let isDigit (c : Char) : Bool :=
    if base = 16 then isHexDigit c else if base = 8 then '0' ≤ c && c ≤ '7' else c.isDigit
  if cs.isEmpty || !digits.all isDigit then none else some (numeralValue base digits)

/-- The parts of a name, with no empty one at its end. -/
def labels (name : List Char) : List (List Char) :=
  let parts := name.splitOn '.'
  if parts.getLast? = some [] then parts.dropLast else parts

/-- Whether a name is meant as a numeric host: its last part is a number. -/
def endsInNumber (name : List Char) : Bool :=
  match (labels name).getLast? with
  | none => false
  | some part => (!part.isEmpty && part.all Char.isDigit) || (ipv4Number? part).isSome

/-- At most four numbers. All but the last are bytes, and the last takes the bytes left. -/
def isIpv4 (name : List Char) : Bool :=
  let parts := labels name
  match parts.mapM ipv4Number? with
  | none => false
  | some numbers =>
    parts.length ≤ 4 && numbers.dropLast.all (· ≤ 255) &&
      (numbers.getLast?.getD 0) < bitBound (8 * (5 - numbers.length))

/-- A byte in decimal without a leading zero. -/
def isDecimalByte (cs : List Char) : Bool :=
  !cs.isEmpty && cs.all Char.isDigit && (cs.length = 1 || cs.head? ≠ some '0') &&
    numeralValue 10 cs ≤ 255

/-- Four bytes in decimal. -/
def isDottedQuad (cs : List Char) : Bool :=
  let parts := cs.splitOn '.'
  parts.length = 4 && parts.all isDecimalByte

/-- The groups of a host in brackets after `groups` of them. A gap stands for
groups of zeros and may occur once; `bound` is the length of the text. -/
def ipv6Groups : (bound groups : Nat) → (gap : Bool) → List Char → Bool
  | _, groups, gap, [] => gap || groups = 8
  | 0, _, _, _ => false
  | bound + 1, groups, gap, c :: cs =>
    if groups = 8 then false
    else if c = ':' then !gap && ipv6Groups bound (groups + 1) true cs
    else
      let group := ((c :: cs).take 4).takeWhile isHexDigit
      match (c :: cs).drop group.length with
      | [] => ipv6Groups bound (groups + 1) gap []
      | '.' :: _ =>
        !group.isEmpty && groups ≤ 6 && isDottedQuad (c :: cs) && (gap || groups = 6)
      | ':' :: rest => !rest.isEmpty && ipv6Groups bound (groups + 1) gap rest
      | _ => false

/-- Groups of digits in base sixteen between colons. -/
def isIpv6 (cs : List Char) : Bool :=
  match cs with
  | ':' :: ':' :: rest => ipv6Groups cs.length 1 true rest
  | ':' :: _ => false
  | _ => 2 ≤ cs.length && ipv6Groups cs.length 0 false cs

/-! ### Hosts -/

/-- The bytes of a text in which `%` and two digits stand for a byte. -/
def percentDecode : List Char → Bytes
  | '%' :: a :: b :: cs =>
    if isHexDigit a && isHexDigit b then UInt8.ofNat (numeralValue 16 [a, b]) :: percentDecode cs
    else Hex.utf8 ['%'] ++ percentDecode (a :: b :: cs)
  | c :: cs => Hex.utf8 [c] ++ percentDecode cs
  | [] => []
termination_by cs => cs.length

/-- Whether the host of a scheme of the web is one. -/
def checkHost (host : List Char) : Except UrlError Unit :=
  match host with
  | '[' :: rest =>
    if rest.getLast? = some ']' && isIpv6 rest.dropLast then .ok () else .error .invalidIpv6
  | _ =>
    match Domain.ofText? (Text.decodeUtf8Lossy (percentDecode host)) with
    | none => .error .invalidName
    | some name =>
      if name.isEmpty then .error .emptyHost
      else if endsInNumber name && !isIpv4 name then .error .invalidIpv4
      else .ok ()

/-- Whether the host of any other scheme is one. -/
def checkOpaqueHost (host : List Char) : Except UrlError Unit :=
  match host with
  | '[' :: _ => checkHost host
  | _ =>
    if host.any fun c => c = '\x00' || " #/:<>?@[\\]^|".contains c then .error .invalidCharacter
    else .ok ()

end Url

end Sandwich
