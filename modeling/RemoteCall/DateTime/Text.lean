import RemoteCall.DateTime
import RemoteCall.Text.Blank
import RemoteCall.Text.Digits

namespace RemoteCall

/-- A year of the four-digit range stands without a sign, any other with one. -/
def DateTime.yearText (year : Int) : List Char :=
  if 0 ≤ year ∧ year ≤ 9999 then Digits.padded 4 year.natAbs
  else (if year < 0 then '-' else '+') :: Digits.padded 4 year.natAbs

/-- The form `YYYYMMDDThh:mm:ss`. Fractions of a second are left out, and a leap second is
second 60. -/
def DateTime.text (t : DateTime) : List Char :=
  DateTime.yearText t.year ++ Digits.padded 2 t.month ++ Digits.padded 2 t.day ++
    'T' :: Digits.padded 2 t.hour ++ ':' :: Digits.padded 2 t.minute ++
    ':' :: Digits.padded 2 (if t.isLeapSecond then t.second + 1 else t.second)

/-- The digits at the front, at most as many as the width, and what follows them. -/
def DateTime.leadingDigits : Nat → List Char → List Char × List Char
  | 0, cs => ([], cs)
  | _ + 1, [] => ([], [])
  | width + 1, c :: cs =>
    if c.isDigit then
      let (digits, rest) := DateTime.leadingDigits width cs
      (c :: digits, rest)
    else ([], c :: cs)

/-- A number of one digit at least and of no more than the width. -/
def DateTime.number? (width : Nat) (cs : List Char) : Option (Nat × List Char) :=
  let (digits, rest) := DateTime.leadingDigits width cs
  (Digits.nat? digits).map fun n => (n, rest)

/-- A number of one or two digits behind blanks. -/
def DateTime.field? (cs : List Char) : Option (Nat × List Char) :=
  DateTime.number? 2 (cs.dropWhile isBlank)

/-- A year behind blanks: up to four digits, or a sign and all digits that follow it. -/
def DateTime.year? (cs : List Char) : Option (Int × List Char) :=
  match cs.dropWhile isBlank with
  | '-' :: rest => (DateTime.number? rest.length rest).map fun (n, rest) => (-(n : Int), rest)
  | '+' :: rest => (DateTime.number? rest.length rest).map fun (n, rest) => ((n : Int), rest)
  | rest => (DateTime.number? 4 rest).map fun (n, rest) => ((n : Int), rest)

def DateTime.mark? (mark : Char) : List Char → Option (List Char)
  | [] => none
  | c :: cs => if c = mark then some cs else none

/-- Reads the text form, with blanks allowed at both ends and in front of each number. -/
def DateTime.ofText? (text : List Char) : Option DateTime := do
  let (year, cs) ← DateTime.year? (trimmed text)
  let (month, cs) ← DateTime.field? cs
  let (day, cs) ← DateTime.field? cs
  let cs ← DateTime.mark? 'T' cs
  let (hour, cs) ← DateTime.field? cs
  let cs ← DateTime.mark? ':' cs
  let (minute, cs) ← DateTime.field? cs
  let cs ← DateTime.mark? ':' cs
  let (second, cs) ← DateTime.field? cs
  if !cs.isEmpty then none
  else if second = 60 then DateTime.of? year month day hour minute 59 1000000000
  else DateTime.of? year month day hour minute second 0

end RemoteCall
