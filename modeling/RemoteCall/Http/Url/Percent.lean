import RemoteCall.Text.Digits

namespace RemoteCall

/-- A byte that may not stand in a location, by its number. -/
def Http.percent (b : UInt8) : List Char :=
  '%' :: [Nat.digitChar (b.toNat / 16), Nat.digitChar (b.toNat % 16)].map Char.toUpper

/-- Characters outside printable ASCII and those that are special are written by their bytes. -/
def Http.percentEncode (special cs : List Char) : List Char :=
  cs.flatMap fun c =>
    if 0x20 < c.toNat ∧ c.toNat < 0x7f ∧ !special.contains c then [c]
    else (String.ofList [c]).toUTF8.toList.flatMap Http.percent

def Http.fragmentMarks : List Char :=
  "\"<>`".toList

def Http.queryMarks : List Char :=
  "\"#<>'".toList

def Http.pathMarks : List Char :=
  Http.fragmentMarks ++ "#?\x7b\x7d".toList

def Http.userMarks : List Char :=
  Http.pathMarks ++ "/:;=@[\\]^|".toList

/-- Bytes with those that are written by their numbers behind a percent sign. The bytes so far come in
reverse. -/
def Http.unescaped (done : List UInt8) : List UInt8 → List UInt8
  | [] => done.reverse
  | b :: high :: low :: rest =>
    match Digits.hexDigit? (Char.ofNat high.toNat), Digits.hexDigit? (Char.ofNat low.toNat) with
    | some h, some l =>
      if b = 37 then Http.unescaped (UInt8.ofNat (16 * h + l) :: done) rest
      else Http.unescaped (b :: done) (high :: low :: rest)
    | _, _ => Http.unescaped (b :: done) (high :: low :: rest)
  | b :: rest => Http.unescaped (b :: done) rest

/-- The text that is meant by one with bytes behind percent signs, if these make up characters. -/
def Http.percentDecode? (cs : List Char) : Option (List Char) :=
  let bytes := Http.unescaped [] (String.ofList cs).toUTF8.toList
  (String.fromUTF8? (ByteArray.mk bytes.toArray)).map String.toList

end RemoteCall
