import RemoteCall.Http.Address
import RemoteCall.Http.Domain
import RemoteCall.Http.Url.Error
import RemoteCall.Http.Url.Percent

namespace RemoteCall

def Http.octal? (cs : List Char) : Option Nat :=
  if cs.all fun c => '0' ≤ c && c ≤ '7' then some (Nat.ofDigitChars 8 cs 0) else none

/-- A number in an address: hexadecimal behind `0x`, octal behind `0`, else decimal. -/
def Http.addressNumber? (cs : List Char) : Option Nat :=
  match cs with
  | '0' :: 'x' :: digits => if digits.isEmpty then some 0 else Digits.hex? digits
  | '0' :: digit :: digits => Http.octal? (digit :: digits)
  | cs => Digits.nat? cs

/-- The parts of a domain, without an empty one at the end. -/
def Http.domainParts (domain : List Char) : List (List Char) :=
  let parts := pieces (· == '.') domain
  if parts.getLast? = some [] then parts.dropLast else parts

/-- A domain whose last part is a number has to be an address. -/
def Http.endsInNumber (domain : List Char) : Bool :=
  match (Http.domainParts domain).getLast? with
  | none => false
  | some last => (!last.isEmpty && last.all Char.isDigit) || (Http.addressNumber? last).isSome

/-- Up to four numbers between dots. All but the last are bytes, and the last stands for all the
bytes that are left. -/
def Http.v4? (domain : List Char) : Option (List Nat) := do
  let numbers ← (Http.domainParts domain).mapM Http.addressNumber?
  let bytes := numbers.dropLast
  let last ← numbers.getLast?
  if bytes.length ≤ 3 ∧ bytes.all (· ≤ 255) ∧ last < Nat.pow 256 (4 - bytes.length) then
    some (bytes ++ (List.range (4 - bytes.length)).reverse.map fun i => last / Nat.pow 256 i % 256)
  else none

/-- An address in brackets. -/
def Http.bracketed (inside : List Char) : Except Http.UrlError (List Char) :=
  if inside.getLast? ≠ some ']' then .error .invalidV6
  else match Http.v6? inside.dropLast with
    | none => .error .invalidV6
    | some groups => .ok ('[' :: Http.compressed groups ++ [']'])

/-- A host of the net in its one way of writing: an address, or a domain in ASCII. -/
def Http.hostName (cs : List Char) : Except Http.UrlError (List Char) :=
  match cs with
  | '[' :: inside => Http.bracketed inside
  | cs =>
    match (Http.percentDecode? cs).bind Http.Domain.ascii? with
    | none => .error .invalidDomain
    | some [] => .error .emptyHost
    | some domain =>
      if Http.endsInNumber domain then
        match Http.v4? domain with
        | none => .error .invalidV4
        | some bytes => .ok (Http.dotted bytes)
      else .ok domain

/-- A host of a scheme that has its own rules for hosts. -/
def Http.opaqueHost (cs : List Char) : Except Http.UrlError (List Char) :=
  match cs with
  | '[' :: inside => Http.bracketed inside
  | cs =>
    if cs.any "\x00\t\n\r #/:<>?@[\\]^|".toList.contains then .error .invalidHostCharacter
    else .ok (Http.percentEncode [] cs)

end RemoteCall
