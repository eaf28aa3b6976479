import Governance.Json.Literal
import Governance.Text.Decimal
import Governance.Text.Segments
import Governance.Text.Utf8
import Governance.Url.Domain

/-!
# Hosts of URLs

A host is an address between brackets, an address of four numbers, or a domain. In the schemes of the
web a domain is percent-decoded and mapped to lower case before it is checked, and what ends in a
number has to be an address of four numbers, which may be hexadecimal or octal and may leave out
middle parts. In other schemes a host is any text without the characters that delimit URLs.
-/

namespace Governance.Url

open Governance.Text

/-- Why a text is no URL. -/
inductive Fault
  | relative
  | emptyHost
  | domainName
  | domainCharacter
  | port
  | ipv4
  | ipv6
  deriving DecidableEq, Repr

/-- The words for a fault. -/
def Fault.message : Fault → String
  | relative => "relative URL without a base"
  | emptyHost => "empty host"
  | domainName => "invalid international domain name"
  | domainCharacter => "invalid domain character"
  | port => "invalid port number"
  | ipv4 => "invalid IPv4 address"
  | ipv6 => "invalid IPv6 address"

/-! ## Addresses of four numbers -/

/-- What a part of an address of four numbers denotes. -/
inductive Part
  | number (n : Nat)
  /-- A numeral beyond 32 bits. -/
  | tooLarge
  /-- No numeral. -/
  | other

/-- Whether a character is a hexadecimal digit. -/
def isHexDigit (c : Char) : Bool :=
  (Json.Literal.hexValue c).isSome

/-- The number of a run of digits in a base up to sixteen. -/
def numberIn (base : Nat) (cs : List Char) : Nat :=
  cs.foldl (fun n c => base * n + (Json.Literal.hexValue c).getD 0) 0

/-- Reads digits in a base; none at all denote zero. -/
def partIn (base : Nat) (isDigit : Char → Bool) (cs : List Char) : Part :=
  if !cs.all isDigit then .other
  else if numberIn base cs < UInt32.size then .number (numberIn base cs) else .tooLarge

/-- Reads a part: hexadecimal after `0x`, octal after `0`, else decimal. -/
def partOf : List Char → Part
  | [] => .other
  | '0' :: 'x' :: cs | '0' :: 'X' :: cs => partIn 16 isHexDigit cs
  | ['0'] => .number 0
  | '0' :: cs => partIn 8 (fun c => '0' ≤ c && c ≤ '7') cs
  | cs => partIn 10 Char.isDigit cs

/-- Whether a domain ends in a number, not counting a final point. -/
def endsInNumber (domain : List Char) : Bool :=
  let last? :=
    match (segments '.' domain).reverse with
    | [] :: part :: _ => some part
    | [[]] | [] => none
    | part :: _ => some part
  match last? with
  | none => false
  | some part =>
    (!part.isEmpty && part.all Char.isDigit) ||
      match partOf part with
      | .other => false
      | _ => true

/-- Whether a domain is an address of at most four numbers: each but the last fits a byte, and the last
fills the bytes that are left. -/
def isIpv4 (domain : List Char) : Bool :=
  let parts := segments '.' domain
  let parts := if parts.getLast? = some [] then parts.dropLast else parts
  let numbers := parts.filterMap fun p =>
    match partOf p with
    | .number n => some n
    | _ => none
  decide (numbers.length = parts.length ∧ parts.length ≤ 4) &&
    numbers.dropLast.all (· ≤ 255) &&
    decide (numbers.getLast?.getD 0 < Nat.pow 256 (5 - numbers.length))

/-! ## Addresses between brackets -/

/-- Whether a text is four decimal numbers below 256 without leading zeros. -/
def isPlainIpv4 (cs : List Char) : Bool :=
  let parts := segments '.' cs
  parts.length == 4 && parts.all fun p =>
    !p.isEmpty && p.all Char.isDigit && decide (p.length = 1 ∨ p.head? ≠ some '0') &&
      decide (numberOf p ≤ 255)

/-- Whether the rest of a text completes an address of eight groups of which `count` have been read;
`gap` says whether a run of groups has been left out. -/
def completesIpv6 : Nat → List Char → Nat → Bool → Bool
  | _, [], count, gap => gap || count == 8
  | 0, _ :: _, _, _ => false
  | fuel + 1, ':' :: cs, count, gap =>
    decide (count < 8) && !gap && completesIpv6 fuel cs (count + 1) true
  | fuel + 1, cs, count, gap =>
    let group := (cs.take 4).takeWhile isHexDigit
    decide (count < 8) &&
      match cs.drop group.length with
      | [] => completesIpv6 fuel [] (count + 1) gap
      | ':' :: rest => !rest.isEmpty && completesIpv6 fuel rest (count + 1) gap
      | '.' :: _ =>
        !group.isEmpty && decide (count ≤ 6) && isPlainIpv4 cs && (gap || count == 6)
      | _ => false

/-- Whether a text is an address of eight groups. -/
def isIpv6 : List Char → Bool
  | ':' :: ':' :: cs => completesIpv6 cs.length cs 1 true
  | ':' :: _ => false
  | cs => decide (2 ≤ cs.length) && completesIpv6 cs.length cs 0 false

/-- Checks an address that starts with a bracket, which is `open`; its text follows. -/
def checkBracketed (cs : List Char) : Except Fault Unit :=
  match cs.reverse with
  | ']' :: inner => if isIpv6 inner.reverse then .ok () else .error .ipv6
  | _ => .error .ipv6

/-! ## Domains -/

/-- The bytes of a text with every percent sign and its two hexadecimal digits decoded. -/
def percentDecode : List Char → List UInt8
  | [] => []
  | '%' :: a :: b :: cs =>
    match Json.Literal.hexValue a, Json.Literal.hexValue b with
    | some hi, some lo => UInt8.ofNat (hi * 16 + lo) :: percentDecode cs
    | _, _ => 37 :: percentDecode (a :: b :: cs)
  | c :: cs => Utf8.encode (String.singleton c) ++ percentDecode cs

/-- Checks a domain or an address of four numbers. -/
def checkDomain (host : List Char) : Except Fault Unit :=
  match (Utf8.decode (percentDecode host)).bind fun text => Domain.ofText? text.toList with
  | none => .error .domainName
  | some [] => .error .emptyHost
  | some domain => if endsInNumber domain && !isIpv4 domain then .error .ipv4 else .ok ()

/-- Checks a host in a scheme of the web. -/
def checkHost : List Char → Except Fault Unit
  | '[' :: cs => checkBracketed cs
  | cs => checkDomain cs

/-- Checks a host in another scheme. -/
def checkOpaqueHost : List Char → Except Fault Unit
  | '[' :: cs => checkBracketed cs
  | cs =>
    if cs.any fun c => "\x00\t\n\r #/:<>?@[\\]^|".toList.contains c then .error .domainCharacter
    else .ok ()

end Governance.Url
