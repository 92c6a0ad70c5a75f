namespace RemoteCall

/-- The character that stands for six bits. -/
def Base64.letter (n : Nat) : Char :=
  if n < 26 then Char.ofNat (65 + n)
  else if n < 52 then Char.ofNat (71 + n)
  else if n < 62 then Char.ofNat (n - 4)
  else if n = 62 then '+' else '/'

/-- The six bits that a character of the alphabet stands for. -/
def Base64.sextet? (c : Char) : Option Nat :=
  if 'A' ≤ c ∧ c ≤ 'Z' then some (c.toNat - 65)
  else if 'a' ≤ c ∧ c ≤ 'z' then some (c.toNat - 71)
  else if '0' ≤ c ∧ c ≤ '9' then some (c.toNat + 4)
  else if c = '+' then some 62
  else if c = '/' then some 63
  else none

/-- Three bytes are four sextets; at the end, one byte is two sextets and two bytes are three,
the spare bits zero. -/
def Base64.sextets : List UInt8 → List Nat
  | [] => []
  | [a] => [a.toNat / 4, a.toNat % 4 * 16]
  | [a, b] => [a.toNat / 4, a.toNat % 4 * 16 + b.toNat / 16, b.toNat % 16 * 4]
  | a :: b :: c :: rest =>
    a.toNat / 4 :: (a.toNat % 4 * 16 + b.toNat / 16) :: (b.toNat % 16 * 4 + c.toNat / 64) ::
      c.toNat % 64 :: Base64.sextets rest

/-- Refuses a lone sextet at the end and spare bits that are not zero. -/
def Base64.bytes? : List Nat → Option (List UInt8)
  | [] => some []
  | [_] => none
  | [p, q] => if q % 16 = 0 then some [UInt8.ofNat (p * 4 + q / 16)] else none
  | [p, q, r] =>
    if r % 4 = 0 then some [UInt8.ofNat (p * 4 + q / 16), UInt8.ofNat (q % 16 * 16 + r / 4)]
    else none
  | p :: q :: r :: s :: rest =>
    (Base64.bytes? rest).map fun bytes =>
      UInt8.ofNat (p * 4 + q / 16) :: UInt8.ofNat (q % 16 * 16 + r / 4) ::
        UInt8.ofNat (r % 4 * 64 + s) :: bytes

/-- How many `=` fill the last group of a text with this many letters. -/
def Base64.padding (letters : Nat) : Nat :=
  (4 - letters % 4) % 4

def Base64.bare (bytes : List UInt8) : List Char :=
  (Base64.sextets bytes).map Base64.letter

def Base64.encode (bytes : List UInt8) : List Char :=
  let letters := Base64.bare bytes
  letters ++ List.replicate (Base64.padding letters.length) '='

/-- The text cut into lines of at most 76 characters, where `room` are left on the present one.
A line is broken only where a character follows. -/
def Base64.wrap (room : Nat) : List Char → List Char
  | [] => []
  | c :: cs =>
    match room with
    | 0 => '\r' :: '\n' :: c :: Base64.wrap 75 cs
    | room + 1 => c :: Base64.wrap room cs

def Base64.encodeLines (bytes : List UInt8) : List Char :=
  Base64.wrap 76 (Base64.encode bytes)

def Base64.isSpace (c : Char) : Bool :=
  c == ' ' || c == '\t' || c == '\n' || c == '\x0c' || c == '\r'

/-- White space counts for nothing, and some or all of the `=` at the end may be missing. -/
def Base64.decode? (text : List Char) : Option (List UInt8) :=
  let reversed := (text.filter fun c => !Base64.isSpace c).reverse
  let fill := (reversed.takeWhile (· == '=')).length
  let letters := (reversed.dropWhile (· == '=')).reverse
  if fill ≤ Base64.padding letters.length then
    (letters.mapM Base64.sextet?).bind Base64.bytes?
  else none

end RemoteCall
