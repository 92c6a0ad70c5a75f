import RemoteCall.Double
import RemoteCall.Text.Digits

namespace RemoteCall

/-- The digits of a power up to the one that brings it to 65536 or more, which is the last to count. -/
def Double.powerDigits (power : Nat) : List Char → Nat
  | [] => power
  | c :: cs =>
    if power < 65536 then Double.powerDigits (10 * power + (c.toNat - '0'.toNat)) cs else power

def Double.unsignedPower? (cs : List Char) : Option Nat :=
  if !cs.isEmpty && cs.all Char.isDigit then some (Double.powerDigits 0 cs) else none

/-- The power of ten behind the mark `e`, or zero where there is no mark. Nothing may follow. -/
def Double.power? : List Char → Option Int
  | [] => some 0
  | c :: cs =>
    if c = 'e' ∨ c = 'E' then
      match cs with
      | '-' :: cs => (Double.unsignedPower? cs).map fun n => -(n : Int)
      | '+' :: cs => (Double.unsignedPower? cs).map Int.ofNat
      | cs => (Double.unsignedPower? cs).map Int.ofNat
    else none

/-- Decimal digits with an optional point, a digit on one side of it at least, and an optional
power of ten. -/
def Double.unsigned? (negative : Bool) (cs : List Char) : Option Double :=
  let whole := cs.takeWhile Char.isDigit
  let rest := cs.dropWhile Char.isDigit
  let (fraction, rest) := match rest with
    | '.' :: more => (more.takeWhile Char.isDigit, more.dropWhile Char.isDigit)
    | _ => ([], rest)
  if whole.isEmpty && fraction.isEmpty then none
  else (Double.power? rest).map fun power =>
    Double.ofDecimal negative (Digits.value (whole ++ fraction)) (power - fraction.length)

def Double.magnitude? (negative : Bool) (cs : List Char) : Option Double :=
  let word := cs.map Char.toLower
  if word = "nan".toList then some Double.nan
  else if word = "inf".toList ∨ word = "infinity".toList then
    some (Double.ofRatio negative (Nat.pow 2 1024) 1)
  else Double.unsigned? negative cs

/-- The double nearest to the number that the text writes, where a power of ten counts by its first
five or six significant digits. -/
def Double.ofText? : List Char → Option Double
  | '-' :: cs => Double.magnitude? true cs
  | '+' :: cs => Double.magnitude? false cs
  | cs => Double.magnitude? false cs

end RemoteCall
