import RemoteCall.Json
import RemoteCall.Text.Digits

namespace RemoteCall

/-- A number as it is spelled: its digits before and behind the point, and its power of ten. -/
structure Json.Numeral where
  negative : Bool
  whole : List Char
  fraction : List Char
  power : Option (Bool × List Char)

/-- The digits at the front, one at least. -/
def Json.digits? (cs : List Char) : Option (List Char × List Char) :=
  let digits := cs.takeWhile Char.isDigit
  if digits.isEmpty then none else some (digits, cs.dropWhile Char.isDigit)

/-- A zero in front stands alone. -/
def Json.wholePart? : List Char → Option (List Char × List Char)
  | '0' :: cs => some (['0'], cs)
  | cs => Json.digits? cs

def Json.fractionPart? : List Char → Option (List Char × List Char)
  | '.' :: cs => Json.digits? cs
  | cs => some ([], cs)

def Json.powerDigits? (negative : Bool) (cs : List Char) : Option (Option (Bool × List Char) × List Char) :=
  (Json.digits? cs).map fun (digits, rest) => (some (negative, digits), rest)

def Json.powerPart? : List Char → Option (Option (Bool × List Char) × List Char)
  | [] => some (none, [])
  | c :: cs =>
    if c = 'e' ∨ c = 'E' then
      match cs with
      | '-' :: cs => Json.powerDigits? true cs
      | '+' :: cs => Json.powerDigits? false cs
      | cs => Json.powerDigits? false cs
    else some (none, c :: cs)

def Json.unsignedNumeral? (negative : Bool) (cs : List Char) : Option (Json.Numeral × List Char) := do
  let (whole, cs) ← Json.wholePart? cs
  let (fraction, cs) ← Json.fractionPart? cs
  let (power, cs) ← Json.powerPart? cs
  return (⟨negative, whole, fraction, power⟩, cs)

def Json.numeral? : List Char → Option (Json.Numeral × List Char)
  | '-' :: cs => Json.unsignedNumeral? true cs
  | cs => Json.unsignedNumeral? false cs

/-- Takes digits into a 64-bit significand until the next one would not fit. Says how many were
left over. -/
def Json.significand (start : Nat) : List Char → Nat × Nat
  | [] => (start, 0)
  | c :: cs =>
    let next := start * 10 + (c.toNat - 48)
    if next < Nat.pow 2 64 then Json.significand next cs else (start, cs.length + 1)

def Json.powerOfTen (n : Nat) : Double :=
  Double.ofDecimal false 1 n

/-- `f · 10 ^ e` in one multiplication or division where ten has that power as a double, and by way
of several divisions for very small numbers. A result out of range is an error. -/
def Json.scaled? (f : Double) (e : Int) : Option Double :=
  if e < -308 then
    if f.isZero then some f else Json.scaled? (f.div (Json.powerOfTen 308)) (e + 308)
  else if e < 0 then some (f.div (Json.powerOfTen e.natAbs))
  else if e ≤ 308 then
    let product := f.mul (Json.powerOfTen e.natAbs)
    if product.isInfinite then none else some product
  else if f.isZero then some f
  else none
termination_by (-e).toNat

/-- The double of a numeral, which is not always the nearest: only digits that fit into the
significand count, and the power of ten is applied with a rounding of its own. Powers of more than
31 bits are settled by their sign alone. -/
def Json.Numeral.magnitude? (n : Json.Numeral) : Option Double :=
  let (first, left) := Json.significand 0 n.whole
  let (digits, unused) := Json.significand first n.fraction
  let start : Int := left - ((n.fraction.length : Int) - unused)
  match n.power with
  | none => Json.scaled? (Double.ofInt digits) start
  | some (negative, power) =>
    let power := Digits.value power
    if power ≤ 2147483647 then
      Json.scaled? (Double.ofInt digits) (if negative then start - power else start + power)
    else if digits = 0 ∨ negative then some Double.zero
    else none

/-- Without fraction and power, what 64 bits can hold is a whole number, but for minus zero. -/
def Json.Numeral.number? (n : Json.Numeral) : Option Json.Number :=
  let whole := Digits.value n.whole
  if n.fraction.isEmpty && n.power.isNone && whole < Nat.pow 2 64 then
    if !n.negative then some (.whole whole)
    else if whole ≠ 0 ∧ whole ≤ Nat.pow 2 63 then some (.whole (-(whole : Int)))
    else some (.double (Double.ofInt whole).neg)
  else
    n.magnitude?.map fun x => .double (if n.negative then x.neg else x)

end RemoteCall
