import RemoteCall.Text.Digits
import RemoteCall.Text.Split

namespace RemoteCall

/-- The address of a host: four bytes, or eight groups of sixteen bits and the number of the zone
in which they are meant. -/
inductive Http.Host where
  | v4 (a b c d : Nat)
  | v6 (groups : List Nat) (scope : Nat)

structure Http.Address where
  host : Http.Host
  port : Nat

/-- A number of digits only and within the limit. -/
def Http.bounded? (limit : Nat) (cs : List Char) : Option Nat :=
  (Digits.nat? cs).filter (· ≤ limit)

/-- One byte of an address, without zeros in front. -/
def Http.byte? (cs : List Char) : Option Nat :=
  if 3 < cs.length ∨ (1 < cs.length ∧ cs.head? = some '0') then none else Http.bounded? 255 cs

def Http.bytes? (cs : List Char) : Option (List Nat) :=
  match pieces (· == '.') cs with
  | [a, b, c, d] => [a, b, c, d].mapM Http.byte?
  | _ => none

/-- One group of up to four hexadecimal digits. -/
def Http.group? (cs : List Char) : Option Nat :=
  if 4 < cs.length then none else Digits.hex? cs

/-- Groups between colons. Four bytes in dots may stand for the last two, if they are allowed
here. -/
def Http.groups? (dotted : Bool) : List (List Char) → Option (List Nat)
  | [] => some []
  | [last] =>
    match Http.bytes? last with
    | some [a, b, c, d] => if dotted then some [a * 256 + b, c * 256 + d] else none
    | _ => (Http.group? last).map fun n => [n]
  | first :: rest => do
    let n ← Http.group? first
    let more ← Http.groups? dotted rest
    return n :: more

def Http.side? (dotted : Bool) (cs : List Char) : Option (List Nat) :=
  if cs.isEmpty then some [] else Http.groups? dotted (pieces (· == ':') cs)

/-- Eight groups, where `::` stands once for one or more groups of zero. -/
def Http.v6? (cs : List Char) : Option (List Nat) :=
  match splitAt? "::".toList cs with
  | none => (Http.side? true cs).filter fun groups => groups.length == 8
  | some (front, back) => do
    let front ← Http.side? false front
    let back ← Http.side? true back
    if front.length + back.length ≤ 7 then
      some (front ++ List.replicate (8 - front.length - back.length) 0 ++ back)
    else none

/-- An address and the zone that may follow it behind `%`. -/
def Http.scoped? (cs : List Char) : Option Http.Host := do
  let (address, scope) ← match splitAt? ['%'] cs with
    | none => some (cs, 0)
    | some (address, zone) => (Http.bounded? 4294967295 zone).map fun n => (address, n)
  let groups ← Http.v6? address
  return .v6 groups scope

/-- An address with its port, such as `127.0.0.1:80` or `[::1]:80`. -/
def Http.Address.ofText? (cs : List Char) : Option Http.Address :=
  match cs with
  | '[' :: cs => do
    let (inside, port) ← splitAt? "]:".toList cs
    let host ← Http.scoped? inside
    let port ← Http.bounded? 65535 port
    return ⟨host, port⟩
  | cs => do
    let (front, port) ← splitAt? [':'] cs
    let bytes ← Http.bytes? front
    let port ← Http.bounded? 65535 port
    match bytes with
    | [a, b, c, d] => some ⟨.v4 a b c d, port⟩
    | _ => none

def Http.dotted (bytes : List Nat) : List Char :=
  ['.'].intercalate (bytes.map Digits.ofNat)

def Http.groupText (groups : List Nat) : List Char :=
  [':'].intercalate (groups.map (Nat.toDigits 16))

/-- The number of zeros at the front. -/
def Http.zeros (groups : List Nat) : Nat :=
  (groups.takeWhile (· == 0)).length

/-- Where the longest run of zeros begins and how long it is, the first of several. -/
def Http.longestZeros (groups : List Nat) : Nat × Nat :=
  (List.range groups.length).foldl
    (fun best start =>
      let length := Http.zeros (groups.drop start)
      if best.2 < length then (start, length) else best)
    (0, 0)

/-- Groups without zeros in front, the longest run of two or more groups of zero left out. -/
def Http.compressed (groups : List Nat) : List Char :=
  let (start, length) := Http.longestZeros groups
  if length < 2 then Http.groupText groups
  else Http.groupText (groups.take start) ++ "::".toList ++ Http.groupText (groups.drop (start + length))

/-- An address of eight groups. One that embeds an address of four bytes shows these in dots. -/
def Http.v6Text (groups : List Nat) : List Char :=
  match groups with
  | [0, 0, 0, 0, 0, 0xffff, p, q] =>
    "::ffff:".toList ++ Http.dotted [p / 256, p % 256, q / 256, q % 256]
  | _ => Http.compressed groups

def Http.Address.text (a : Http.Address) : List Char :=
  match a.host with
  | .v4 w x y z => Http.dotted [w, x, y, z] ++ ':' :: Digits.ofNat a.port
  | .v6 groups scope =>
    '[' :: Http.v6Text groups ++ (if scope = 0 then [] else '%' :: Digits.ofNat scope) ++
      ']' :: ':' :: Digits.ofNat a.port

end RemoteCall
