import RemoteCall.Json.Number

namespace RemoteCall

def Json.isSpace (c : Char) : Bool :=
  c == ' ' || c == '\n' || c == '\t' || c == '\r'

def Json.skipSpace (cs : List Char) : List Char :=
  cs.dropWhile Json.isSpace

/-- Four hexadecimal digits. -/
def Json.unit? : List Char → Option (Nat × List Char)
  | a :: b :: c :: d :: rest => (Digits.hex? [a, b, c, d]).map fun n => (n, rest)
  | _ => none

/-- The character that an escape by number stands for. One above U+FFFF takes two escapes, whose
numbers are a high and a low surrogate; a surrogate by itself is none. -/
def Json.numbered? (cs : List Char) : Option (Char × List Char) :=
  match Json.unit? cs with
  | none => none
  | some (n, rest) =>
    if n < 0xd800 ∨ 0xe000 ≤ n then some (Char.ofNat n, rest)
    else if 0xdc00 ≤ n then none
    else match rest with
      | '\\' :: 'u' :: rest =>
        match Json.unit? rest with
        | some (low, rest) =>
          if 0xdc00 ≤ low ∧ low < 0xe000 then
            some (Char.ofNat (0x10000 + (n - 0xd800) * 0x400 + (low - 0xdc00)), rest)
          else none
        | none => none
      | _ => none

/-- The character that a letter stands for behind a backslash. -/
def Json.lettered? : Char → Option Char
  | '"' => some '"'
  | '\\' => some '\\'
  | '/' => some '/'
  | 'b' => some '\x08'
  | 'f' => some '\x0c'
  | 'n' => some '\n'
  | 'r' => some '\r'
  | 't' => some '\t'
  | _ => none

/-- The first character of what is left of a string, plain or escaped. -/
def Json.char? : List Char → Option (Char × List Char)
  | [] => none
  | '\\' :: 'u' :: cs => Json.numbered? cs
  | '\\' :: c :: cs => (Json.lettered? c).map fun plain => (plain, cs)
  | c :: cs => if c.toNat < 0x20 ∨ c = '\\' then none else some (c, cs)

theorem Json.unit_length {cs rest : List Char} {n : Nat} (found : Json.unit? cs = some (n, rest)) :
    rest.length < cs.length := by
  unfold Json.unit? at found
  split at found
  · obtain ⟨_, _, pair⟩ := Option.map_eq_some_iff.mp found
    simp only [Prod.mk.injEq] at pair
    simp only [← pair.2, List.length_cons]
    omega
  · simp at found

theorem Json.numbered_length {cs rest : List Char} {c : Char}
    (found : Json.numbered? cs = some (c, rest)) : rest.length < cs.length := by
  unfold Json.numbered? at found
  split at found
  · simp at found
  · rename_i n after first
    have shorter := Json.unit_length first
    split at found
    · simp only [Option.some.injEq, Prod.mk.injEq] at found
      exact found.2 ▸ shorter
    · split at found
      · simp at found
      · split at found
        · split at found
          · rename_i second
            have := Json.unit_length second
            split at found
            · simp only [Option.some.injEq, Prod.mk.injEq] at found
              simp only [← found.2]
              simp only [List.length_cons] at shorter
              omega
            · simp at found
          · simp at found
        · simp at found

theorem Json.char_length {cs rest : List Char} {c : Char} (found : Json.char? cs = some (c, rest)) :
    rest.length < cs.length := by
  unfold Json.char? at found
  split at found
  · simp at found
  · have := Json.numbered_length found
    simp only [List.length_cons]
    omega
  · obtain ⟨_, _, pair⟩ := Option.map_eq_some_iff.mp found
    simp only [Prod.mk.injEq] at pair
    simp only [← pair.2, List.length_cons]
    omega
  · split at found
    · simp at found
    · simp only [Option.some.injEq, Prod.mk.injEq] at found
      simp [← found.2]

/-- A string from behind its opening quote, and what follows its closing one. The first list
holds what has been read already, latest character first. -/
def Json.stringFrom (done : List Char) : List Char → Option (String × List Char)
  | [] => none
  | c :: cs =>
    if c = '"' then some (String.ofList done.reverse, cs)
    else match _found : Json.char? (c :: cs) with
      | none => none
      | some (plain, rest) => Json.stringFrom (plain :: done) rest
termination_by cs => cs.length
decreasing_by exact Json.char_length _found

def Json.quoted? (cs : List Char) : Option (String × List Char) :=
  match Json.skipSpace cs with
  | '"' :: cs => Json.stringFrom [] cs
  | _ => none

/-- The items of an array from behind its opening bracket, of which there is one at least and no
more than the count. -/
def Json.itemsFrom (item : List Char → Option (Json × List Char)) :
    Nat → List Json → List Char → Option (List Json × List Char)
  | 0, _, _ => none
  | count + 1, done, cs =>
    match item cs with
    | none => none
    | some (j, rest) =>
      match Json.skipSpace rest with
      | ',' :: rest => Json.itemsFrom item count (j :: done) rest
      | ']' :: rest => some ((j :: done).reverse, rest)
      | _ => none

/-- One member of an object. -/
def Json.member? (item : List Char → Option (Json × List Char)) (cs : List Char) :
    Option ((String × Json) × List Char) :=
  match Json.quoted? cs with
  | none => none
  | some (name, rest) =>
    match Json.skipSpace rest with
    | ':' :: rest => (item rest).map fun (j, rest) => ((name, j), rest)
    | _ => none

/-- The members of an object from behind its opening brace, of which there is one at least and no
more than the count. -/
def Json.membersFrom (item : List Char → Option (Json × List Char)) :
    Nat → List (String × Json) → List Char → Option (List (String × Json) × List Char)
  | 0, _, _ => none
  | count + 1, done, cs =>
    match Json.member? item cs with
    | none => none
    | some (member, rest) =>
      match Json.skipSpace rest with
      | ',' :: rest => Json.membersFrom item count (member :: done) rest
      | '\x7d' :: rest => some ((member :: done).reverse, rest)
      | _ => none

/-- A word that stands for a value. -/
def Json.word? (word : List Char) (j : Json) (cs : List Char) : Option (Json × List Char) :=
  if word.isPrefixOf cs then some (j, cs.drop word.length) else none

/-- A value at the front of the text, and what follows it. No container in it has more than
`width` entries, and containers nest no deeper than `depth`. -/
def Json.valueFrom (width depth : Nat) (cs : List Char) : Option (Json × List Char) :=
  match Json.skipSpace cs with
  | [] => none
  | '"' :: cs => (Json.stringFrom [] cs).map fun (s, rest) => (.string s, rest)
  | '[' :: cs =>
    match depth with
    | 0 => none
    | depth + 1 =>
      match Json.skipSpace cs with
      | ']' :: rest => some (.array [], rest)
      | cs =>
        (Json.itemsFrom (Json.valueFrom width depth) width [] cs).map fun (items, rest) =>
          (.array items, rest)
  | '\x7b' :: cs =>
    match depth with
    | 0 => none
    | depth + 1 =>
      match Json.skipSpace cs with
      | '\x7d' :: rest => some (.object [], rest)
      | cs =>
        (Json.membersFrom (Json.valueFrom width depth) width [] cs).map fun (members, rest) =>
          (.object (Members.ofList members), rest)
  | 'n' :: cs => Json.word? "ull".toList .null cs
  | 't' :: cs => Json.word? "rue".toList (.boolean true) cs
  | 'f' :: cs => Json.word? "alse".toList (.boolean false) cs
  | cs =>
    match Json.numeral? cs with
    | none => none
    | some (numeral, rest) => numeral.number?.map fun n => (.number n, rest)

/-- Containers in a document may nest this deep. -/
def Json.maxDepth : Nat := 127

/-- A document is one value with nothing but white space around it. No container has more entries
than the text has characters, so the length bounds them all. -/
def Json.parse? (cs : List Char) : Option Json :=
  match Json.valueFrom cs.length Json.maxDepth cs with
  | none => none
  | some (j, rest) => if (Json.skipSpace rest).isEmpty then some j else none

end RemoteCall
