import RemoteCall.Double
import RemoteCall.Text.Digits

namespace RemoteCall

/-- Which of two equally near decimals is taken. -/
inductive Tie where
  | up
  | even

/-- The number `d.ddd · 10 ^ exponent` by its significant digits. -/
structure Decimal where
  digits : List Char
  exponent : Int

/-- The decimal exponent of the first digit of `mantissa · 2 ^ exponent`, for a positive
mantissa. Below one, the digits of the reciprocal are counted: no power of two is a negative power
of ten, so the count is exact. -/
def Decimal.leading (mantissa : Nat) (exponent : Int) : Int :=
  let num := mantissa * Nat.pow 2 exponent.toNat
  let den := Nat.pow 2 (-exponent).toNat
  if den ≤ num then ((Digits.ofNat (num / den)).length : Int) - 1
  else -((Digits.ofNat (den / num)).length : Int)

/-- Whether `c · 10 ^ t` reads back as `mantissa · 2 ^ exponent`: it lies between the midpoints to
the two neighbours, which themselves go to the even mantissa. Below a power of two the lower
neighbour is half as far away. All sides are taken four times, and both are brought to whole numbers. -/
def Decimal.readsBack (mantissa : Nat) (exponent : Int) (c : Nat) (t : Int) : Bool :=
  let scale := Nat.pow 2 exponent.toNat * Nat.pow 10 (-t).toNat
  let point := 4 * c * Nat.pow 10 t.toNat * Nat.pow 2 (-exponent).toNat
  let low := (4 * mantissa - if mantissa = Nat.pow 2 52 ∧ -1074 < exponent then 1 else 2) * scale
  let high := (4 * mantissa + 2) * scale
  if mantissa % 2 = 0 then low ≤ point && point ≤ high else low < point && point < high

/-- The nearest decimal with its last digit at `10 ^ t` that reads back, if one does. Only the
two neighbours of the number on that grid have to be looked at. -/
def Decimal.onGrid (tie : Tie) (mantissa : Nat) (exponent : Int) (t : Int) : Option Nat :=
  let num := mantissa * Nat.pow 2 exponent.toNat * Nat.pow 10 (-t).toNat
  let den := Nat.pow 2 (-exponent).toNat * Nat.pow 10 t.toNat
  let c := num / den
  let above :=
    let twice := 2 * (num % den)
    match tie with
    | .up => decide (den ≤ twice)
    | .even => decide (den < twice ∨ (den = twice ∧ c % 2 = 1))
  match Decimal.readsBack mantissa exponent c t, Decimal.readsBack mantissa exponent (c + 1) t with
  | true, true => some (if above then c + 1 else c)
  | true, false => some c
  | false, true => some (c + 1)
  | false, false => none

/-- The fewest digits that read back, the nearest of those; seventeen always suffice. -/
def Decimal.shortest (tie : Tie) (mantissa : Nat) (exponent : Int) : Decimal :=
  if mantissa = 0 then ⟨['0'], 0⟩
  else
    let first := Decimal.leading mantissa exponent
    let found := (List.range 17).findSome? fun (more : Nat) =>
      (Decimal.onGrid tie mantissa exponent (first - more)).map fun c => (c, first - (more : Int))
    let (c, t) := found.getD (0, 0)
    let digits := Digits.ofNat c
    let significant := (digits.reverse.dropWhile (· == '0')).reverse
    ⟨significant, t + digits.length - 1⟩

end RemoteCall
