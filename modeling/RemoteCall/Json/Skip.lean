import RemoteCall.Json.Parser

namespace RemoteCall

/-- What follows a string of which only the form is checked: escaped surrogates may stand alone. -/
def Json.skipString : List Char → Option (List Char)
  | [] => none
  | '"' :: cs => some cs
  | '\\' :: 'u' :: a :: b :: c :: d :: cs =>
    if (Digits.hex? [a, b, c, d]).isSome then Json.skipString cs else none
  | '\\' :: c :: cs => if (Json.lettered? c).isSome then Json.skipString cs else none
  | c :: cs => if c.toNat < 0x20 ∨ c = '\\' then none else Json.skipString cs

/-- What follows a container of one entry at least, from behind its opening bracket. -/
def Json.skipEntries (close : Char) (entry : List Char → Option (List Char)) :
    Nat → List Char → Option (List Char)
  | 0, _ => none
  | count + 1, cs =>
    match (entry cs).map Json.skipSpace with
    | some (c :: rest) =>
      if c = ',' then Json.skipEntries close entry count rest
      else if c = close then some rest
      else none
    | _ => none

def Json.skipMember (value : List Char → Option (List Char)) (cs : List Char) : Option (List Char) :=
  match Json.skipSpace cs with
  | '"' :: cs =>
    match (Json.skipString cs).map Json.skipSpace with
    | some (':' :: rest) => value rest
    | _ => none
  | _ => none

def Json.skipFrom (width : Nat) : Nat → List Char → Option (List Char)
  | 0, _ => none
  | depth + 1, cs =>
    match Json.skipSpace cs with
    | [] => none
    | '"' :: cs => Json.skipString cs
    | '[' :: cs =>
      match Json.skipSpace cs with
      | ']' :: rest => some rest
      | cs => Json.skipEntries ']' (Json.skipFrom width depth) width cs
    | '\x7b' :: cs =>
      match Json.skipSpace cs with
      | '\x7d' :: rest => some rest
      | cs => Json.skipEntries '\x7d' (Json.skipMember (Json.skipFrom width depth)) width cs
    | 'n' :: cs => (Json.word? "ull".toList .null cs).map Prod.snd
    | 't' :: cs => (Json.word? "rue".toList .null cs).map Prod.snd
    | 'f' :: cs => (Json.word? "alse".toList .null cs).map Prod.snd
    | cs => (Json.numeral? cs).map Prod.snd

/-- What follows a value that is not made use of. It may nest to any depth, and its numbers may
have any size. -/
def Json.skip? (cs : List Char) : Option (List Char) :=
  Json.skipFrom cs.length (cs.length + 1) cs

end RemoteCall
