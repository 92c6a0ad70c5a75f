namespace RemoteCall

/-- The bits of the one value that stands for every result which is no number. -/
def Double.nanBits : UInt64 := 0x7ff8000000000000

def Double.isNanBits (bits : UInt64) : Bool :=
  0x7ff0000000000000 < (bits &&& 0x7fffffffffffffff)

/-- A double-precision number by its bits. All bit patterns that are no number count as one
value, so two doubles are the same exactly if no reader can tell them apart. -/
structure Double where
  bits : UInt64
  one_nan : Double.isNanBits bits = true → bits = Double.nanBits
  deriving DecidableEq

def Double.ofBits (bits : UInt64) : Double :=
  if h : Double.isNanBits bits = true then ⟨Double.nanBits, fun _ => rfl⟩ else ⟨bits, fun n => absurd n h⟩

def Double.nan : Double := Double.ofBits Double.nanBits

def Double.zero : Double := Double.ofBits 0

instance : Inhabited Double := ⟨Double.zero⟩

def Double.toFloat (x : Double) : Float :=
  Float.ofBits x.bits

def Double.ofFloat (x : Float) : Double :=
  Double.ofBits x.toBits

/-- What the bits mean. A finite number is `mantissa · 2 ^ exponent`. -/
inductive Double.Parts where
  | nan
  | infinite (negative : Bool)
  | finite (negative : Bool) (mantissa : Nat) (exponent : Int)

def Double.parts (x : Double) : Double.Parts :=
  let n := x.bits.toNat
  let negative := decide (Nat.pow 2 63 ≤ n)
  let field : Nat := n / Nat.pow 2 52 % Nat.pow 2 11
  let fraction := n % Nat.pow 2 52
  if field = 2047 then if fraction = 0 then .infinite negative else .nan
  else if field = 0 then .finite negative fraction (-1074)
  else .finite negative (Nat.pow 2 52 + fraction) ((field : Int) - 1075)

def Double.isFinite (x : Double) : Bool :=
  match x.parts with
  | .finite .. => true
  | _ => false

/-- The quotient rounded to the nearest whole number, a half to the even neighbour. -/
def Double.roundQuotient (num den : Nat) : Nat :=
  let q := num / den
  let r := num % den
  if den < 2 * r ∨ (den = 2 * r ∧ q % 2 = 1) then q + 1 else q

/-- The greatest power of two that is not above `num / den`, by its exponent. -/
def Double.binaryExponent (num den : Nat) : Int :=
  let k : Int := (num.log2 : Int) - den.log2
  if num * Nat.pow 2 (-k).toNat < den * Nat.pow 2 k.toNat then k - 1 else k

/-- The double nearest to `num / den`, a half to the even neighbour. The mantissa gets 53 bits,
or fewer where the exponent has reached its least value. Its rounding up to the next power of two
carries into the exponent field of the bits, and past the greatest finite number it gives the bits of
infinity. -/
def Double.ofRatio (negative : Bool) (num den : Nat) : Double :=
  let sign : Nat := if negative then Nat.pow 2 63 else 0
  if num = 0 then Double.ofBits (UInt64.ofNat sign)
  else
    let q := max (Double.binaryExponent num den - 52) (-1074)
    let m := Double.roundQuotient (num * Nat.pow 2 (-q).toNat) (den * Nat.pow 2 q.toNat)
    Double.ofBits (UInt64.ofNat (sign + min ((q + 1074).toNat * Nat.pow 2 52 + m) (2047 * Nat.pow 2 52)))

def Double.ofInt (n : Int) : Double :=
  Double.ofRatio (decide (n < 0)) n.natAbs 1

/-- The double nearest to `digits · 10 ^ exponent`. Exponents that are far out of range are
settled without computing the power. -/
def Double.ofDecimal (negative : Bool) (digits : Nat) (exponent : Int) : Double :=
  if digits = 0 then Double.ofRatio negative 0 1
  else if 400 < exponent then Double.ofRatio negative (Nat.pow 2 1024) 1
  else if exponent < -400 - (digits.log2 : Int) then Double.ofRatio negative 0 1
  else Double.ofRatio negative (digits * Nat.pow 10 exponent.toNat) (Nat.pow 10 (-exponent).toNat)

def Double.isInfinite (x : Double) : Bool :=
  match x.parts with
  | .infinite _ => true
  | _ => false

def Double.isZero (x : Double) : Bool :=
  (x.bits &&& 0x7fffffffffffffff) == 0

def Double.isNan (x : Double) : Bool :=
  Double.isNanBits x.bits

/-- Equality of numbers: the two zeros are equal, and what is no number equals nothing. -/
def Double.agrees (x y : Double) : Bool :=
  !x.isNan && !y.isNan &&
    (x.bits == y.bits || ((x.bits ||| y.bits) &&& 0x7fffffffffffffff) == 0)

/-- The other sign, also of a zero. -/
def Double.neg (x : Double) : Double :=
  Double.ofBits (x.bits ^^^ 0x8000000000000000)

def Double.add (x y : Double) : Double :=
  Double.ofFloat (x.toFloat + y.toFloat)

def Double.mul (x y : Double) : Double :=
  Double.ofFloat (x.toFloat * y.toFloat)

def Double.div (x y : Double) : Double :=
  Double.ofFloat (x.toFloat / y.toFloat)

end RemoteCall
