import RemoteCall.Double.Shortest

namespace RemoteCall

/-- How a form of text writes a number. -/
structure DoubleStyle where
  tie : Tie
  /-- The exponents of the first digit for which no power of ten is written. -/
  plain : Int → Bool
  /-- What follows a whole number that is written without a power of ten. -/
  wholeEnd : List Char
  /-- What stands between the power mark `e` and a power that is not negative. -/
  powerSign : List Char
  nan : List Char
  infinite : List Char

/-- Text for people and for XML: digits only, however many. -/
def DoubleStyle.display : DoubleStyle where
  tie := .up
  plain _ := true
  wholeEnd := []
  powerSign := []
  nan := "NaN".toList
  infinite := "inf".toList

/-- JSON text: a fraction marks a double, and far from one a power of ten is written. JSON has
no spelling for what is not finite. -/
def DoubleStyle.json : DoubleStyle where
  tie := .even
  plain k := -5 ≤ k && k ≤ 15
  wholeEnd := ".0".toList
  powerSign := ['+']
  nan := "null".toList
  infinite := "null".toList

def Decimal.plainText (wholeEnd : List Char) (d : Decimal) : List Char :=
  if d.exponent < 0 then
    '0' :: '.' :: List.replicate (-d.exponent - 1).toNat '0' ++ d.digits
  else
    let whole := d.exponent.toNat + 1
    if d.digits.length ≤ whole then
      d.digits ++ List.replicate (whole - d.digits.length) '0' ++ wholeEnd
    else d.digits.take whole ++ '.' :: d.digits.drop whole

def Decimal.powerText (powerSign : List Char) (d : Decimal) : List Char :=
  let fraction := d.digits.drop 1
  d.digits.take 1 ++ (if fraction.isEmpty then [] else '.' :: fraction) ++
    'e' :: (if d.exponent < 0 then [] else powerSign) ++ Digits.ofInt d.exponent

def Double.text (style : DoubleStyle) (x : Double) : List Char :=
  match x.parts with
  | .nan => style.nan
  | .infinite negative => if negative then '-' :: style.infinite else style.infinite
  | .finite negative mantissa exponent =>
    let d := Decimal.shortest style.tie mantissa exponent
    let body := if style.plain d.exponent then d.plainText style.wholeEnd else d.powerText style.powerSign
    if negative then '-' :: body else body

end RemoteCall
