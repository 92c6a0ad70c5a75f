import RemoteCall.Text.Digits.Value

namespace RemoteCall

/-- The number that a run of decimal digits writes; the empty run writes none. -/
def Digits.nat? (cs : List Char) : Option Nat :=
  if !cs.isEmpty && cs.all Char.isDigit then some (Digits.value cs) else none

/-- A number with an optional sign in front of its digits. -/
def Digits.int? : List Char → Option Int
  | '-' :: cs => (Digits.nat? cs).map fun n => -(n : Int)
  | '+' :: cs => (Digits.nat? cs).map Int.ofNat
  | cs => (Digits.nat? cs).map Int.ofNat

/-- The 32-bit word of a number that has one. -/
def Digits.fit32? (n : Int) : Option Int32 :=
  if -2147483648 ≤ n ∧ n ≤ 2147483647 then some (Int32.ofInt n) else none

/-- The 64-bit word of a number that has one. -/
def Digits.fit64? (n : Int) : Option Int64 :=
  if -9223372036854775808 ≤ n ∧ n ≤ 9223372036854775807 then some (Int64.ofInt n) else none

def Digits.int32? (cs : List Char) : Option Int32 :=
  (Digits.int? cs).bind Digits.fit32?

def Digits.int64? (cs : List Char) : Option Int64 :=
  (Digits.int? cs).bind Digits.fit64?

def Digits.ofNat (n : Nat) : List Char :=
  Nat.toDigits 10 n

def Digits.ofInt (n : Int) : List Char :=
  if n < 0 then '-' :: Digits.ofNat n.natAbs else Digits.ofNat n.natAbs

/-- The digits of a number, with zeros in front up to the given width. -/
def Digits.padded (width n : Nat) : List Char :=
  List.replicate (width - (Digits.ofNat n).length) '0' ++ Digits.ofNat n

/-- The value of a hexadecimal digit of either case. -/
def Digits.hexDigit? (c : Char) : Option Nat :=
  if '0' ≤ c ∧ c ≤ '9' then some (c.toNat - 48)
  else if 'a' ≤ c ∧ c ≤ 'f' then some (c.toNat - 87)
  else if 'A' ≤ c ∧ c ≤ 'F' then some (c.toNat - 55)
  else none

/-- The number that a run of hexadecimal digits writes; the empty run writes none. -/
def Digits.hex? (cs : List Char) : Option Nat :=
  if cs.isEmpty then none
  else cs.foldlM (fun n c => (Digits.hexDigit? c).map (16 * n + ·)) 0

end RemoteCall
