import AgentSync.Domain.Name
import AgentSync.Http.Percent

namespace AgentSync

/-- Why a text is no URL. -/
inductive UrlError where
  | relative
  | emptyHost
  | invalidDomain
  | invalidDomainCharacter
  | invalidIpv4
  | invalidIpv6
  /-- The number after the host is none, or is too large. -/
  | invalidEndpoint
  deriving DecidableEq, Repr, Inhabited

namespace UrlError

def message : UrlError → String
  | relative => "relative URL without a base"
  | emptyHost => "empty host"
  | invalidDomain => "invalid international domain name"
  | invalidDomainCharacter => "invalid domain character"
  | invalidIpv4 => "invalid IPv4 address"
  | invalidIpv6 => "invalid IPv6 address"
  | invalidEndpoint => "invalid port number"

end UrlError

namespace Host

open Text

/-- The value of digits in a base; `none` if there is another character or no digit. -/
def numeral? (base : Nat) (cs : List Char) : Option Nat :=
  if cs.isEmpty then none
  else cs.foldl (fun n c => do
    let n ← n
    let d ← hexValue? c
    if d < base then return n * base + d else none) (some 0)

/-- A number of an IPv4 address: hexadecimal after `0x`, octal after `0`, decimal otherwise. -/
def ipv4Number? : List Char → Option Nat
  | [] => none
  | ['0'] => some 0
  | '0' :: 'x' :: rest | '0' :: 'X' :: rest => if rest.isEmpty then some 0 else numeral? 16 rest
  | '0' :: rest => numeral? 8 rest
  | cs => numeral? 10 cs

/-- The labels of a domain, without an empty last one. -/
def labels (cs : List Char) : List (List Char) :=
  let pieces := splitOn '.' cs
  if pieces.length ≠ 1 ∧ pieces.getLast? = some [] then pieces.dropLast else pieces

/-- Whether the last label of a domain makes it an IPv4 address. -/
def endsInNumber (cs : List Char) : Bool :=
  match (labels cs).getLast? with
  | none | some [] => false
  | some last => last.all Char.isDigit || (last.take 2 == ['0', 'x'] && (ipv4Number? last).isSome)

/-- Whether numbers form an IPv4 address: each but the last is a byte, the last fills what is
left. -/
def isIpv4 (cs : List Char) : Bool :=
  match (labels cs).mapM ipv4Number? with
  | none => false
  | some numbers =>
    numbers.length ≤ 4 && numbers.dropLast.all (· ≤ 255) &&
      (numbers.getLast?.getD 0) < Nat.pow 256 (5 - numbers.length)

/-- Whether a piece of an IPv6 address is a number of at most four hexadecimal digits. -/
def isIpv6Piece (cs : List Char) : Bool :=
  1 ≤ cs.length && cs.length ≤ 4 && cs.all fun c => (hexValue? c).isSome

/-- Whether a text is an IPv4 address of four decimal bytes. -/
def isDotted (cs : List Char) : Bool :=
  let parts := splitOn '.' cs
  parts.length == 4 && parts.all fun part =>
    part.all Char.isDigit && (part.length == 1 || part.head? != some '0') &&
      (numeral? 10 part).any (· ≤ 255)

/-- The number of pieces in one side of an IPv6 address, whose last may be a dotted address that
counts for two. -/
def ipv6Length? (mayBeDotted : Bool) (cs : List Char) : Option Nat :=
  if cs.isEmpty then some 0
  else
    let parts := splitOn ':' cs
    if parts.all isIpv6Piece then some parts.length
    else if mayBeDotted && parts.dropLast.all isIpv6Piece && (parts.getLast?.any isDotted) then
      some (parts.length + 1)
    else none

/-- What stands before and after the first pair of colons. -/
def splitAtGap : List Char → Option (List Char × List Char)
  | [] => none
  | ':' :: ':' :: rest => some ([], rest)
  | c :: rest => (splitAtGap rest).map fun (before, after) => (c :: before, after)

/-- Whether a text is an IPv6 address: eight pieces, or fewer around one gap. -/
def isIpv6 (cs : List Char) : Bool :=
  match splitAtGap cs with
  | none => ipv6Length? true cs == some 8
  | some (before, after) =>
    match ipv6Length? false before, ipv6Length? true after with
    | some m, some n => m + n ≤ 7
    | _, _ => false

/-- Characters that no host of another scheme has. -/
def isForbiddenOpaque (c : Char) : Bool := "\x00\t\n\r #/:<>?@[\\]^|".toList.contains c

/-- An address in brackets. -/
def ofBrackets? (cs : List Char) : Except UrlError (List Char) :=
  if cs.getLast? = some ']' ∧ isIpv6 (cs.drop 1).dropLast then .ok cs else .error .invalidIpv6

/-- The host that a text in a URL of a well-known scheme names, in ASCII and lower case. -/
def ofDomain? (cs : List Char) : Except UrlError (List Char) :=
  if cs.head? = some '[' then ofBrackets? cs
  else
    match (Percent.decode? cs).bind Domain.toAscii? with
    | none => .error .invalidDomain
    | some domain =>
      if domain.isEmpty then .error .emptyHost
      else if endsInNumber domain ∧ !isIpv4 domain then .error .invalidIpv4
      else .ok domain

/-- The host that a text in a URL of any other scheme names. -/
def ofOpaque? (cs : List Char) : Except UrlError (List Char) :=
  if cs.head? = some '[' then ofBrackets? cs
  else if cs.any isForbiddenOpaque then .error .invalidDomainCharacter
  else .ok (Percent.encode (Percent.printableBut "") cs)

end Host

end AgentSync
