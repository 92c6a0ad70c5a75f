namespace RemoteCall

/-- The digits from zero to 35: the letters, then the decimal digits. -/
def Punycode.digitChar (d : Nat) : Char :=
  if d < 26 then Char.ofNat (97 + d) else Char.ofNat (22 + d)

def Punycode.digit? (c : Char) : Option Nat :=
  if 'a' ≤ c ∧ c ≤ 'z' then some (c.toNat - 97)
  else if 'A' ≤ c ∧ c ≤ 'Z' then some (c.toNat - 65)
  else if '0' ≤ c ∧ c ≤ '9' then some (c.toNat - 22)
  else none

/-- The least digit that another one follows, at the given place of a number. Places are counted in
steps of 36. -/
def Punycode.threshold (bias place : Nat) : Nat :=
  min 26 (max 1 (place - bias))

theorem Punycode.threshold_bounds (bias place : Nat) :
    1 ≤ Punycode.threshold bias place ∧ Punycode.threshold bias place ≤ 26 := by
  unfold Punycode.threshold
  omega

/-- A number in digits, the least significant first. -/
def Punycode.digits (bias place n : Nat) : List Char :=
  let t := Punycode.threshold bias place
  if n < t then [Punycode.digitChar n]
  else Punycode.digitChar (t + (n - t) % (36 - t)) :: Punycode.digits bias (place + 36) ((n - t) / (36 - t))
termination_by n
decreasing_by
  have bounds := Punycode.threshold_bounds bias place
  have := Nat.div_le_self (n - Punycode.threshold bias place) (36 - Punycode.threshold bias place)
  omega

/-- Reads a number at the front. Each place weighs more than the one before by what its digits can
tell apart. -/
def Punycode.number? (bias place weight sum : Nat) : List Char → Option (Nat × List Char)
  | [] => none
  | c :: cs =>
    match Punycode.digit? c with
    | none => none
    | some d =>
      let t := Punycode.threshold bias place
      if d < t then some (sum + d * weight, cs)
      else Punycode.number? bias (place + 36) (weight * (36 - t)) (sum + d * weight) cs

theorem Punycode.number?_length {bias place weight sum n : Nat} {cs rest : List Char}
    (read : Punycode.number? bias place weight sum cs = some (n, rest)) : rest.length < cs.length := by
  induction cs generalizing place weight sum with
  | nil => simp [Punycode.number?] at read
  | cons c cs ih =>
    simp only [Punycode.number?] at read
    split at read
    · simp at read
    · split at read
      · simp only [Option.some.injEq, Prod.mk.injEq] at read
        simp [← read.2]
      · exact Nat.lt_succ_of_lt (ih read)

/-- Brings a gap below 456, and counts the places that this takes. -/
def Punycode.shrink (place gap : Nat) : Nat × Nat :=
  if gap ≤ 455 then (place, gap) else Punycode.shrink (place + 36) (gap / 35)
termination_by gap

/-- The bias for the next gap, after the first or a later gap that led to a text of `size`
characters. -/
def Punycode.adapt (first : Bool) (gap size : Nat) : Nat :=
  let gap := if first then gap / 700 else gap / 2
  let (place, gap) := Punycode.shrink 0 (gap + gap / size)
  place + 36 * gap / (gap + 38)

/-- Where the last character has been put in: the text has `size` characters, and the next one is a
`code` or above, at `place` or later if it is the same. -/
structure Punycode.Cursor where
  code : Nat := 128
  place : Nat := 0
  size : Nat
  bias : Nat := 72
  first : Bool := true

/-- The cursor behind a character that has been put in after a gap. -/
def Punycode.Cursor.next (t : Punycode.Cursor) (code place gap : Nat) : Punycode.Cursor :=
  { code, place := place + 1, size := t.size + 1, bias := Punycode.adapt t.first gap (t.size + 1), first := false }

/-- Puts characters into a text, by the gaps between them in writing. -/
def Punycode.insert (t : Punycode.Cursor) (text : List Char) (cs : List Char) : Option (List Char) :=
  match cs with
  | [] => some text
  | c :: rest =>
    match read : Punycode.number? t.bias 36 1 0 (c :: rest) with
    | none => none
    | some (gap, rest) =>
      let code := t.code + (t.place + gap) / (t.size + 1)
      let place := (t.place + gap) % (t.size + 1)
      if code.isValidChar then
        Punycode.insert (t.next code place gap) (text.insertIdx place (Char.ofNat code)) rest
      else none
termination_by cs.length
decreasing_by exact Punycode.number?_length read

/-- Reads a text that is written in ASCII: its own ASCII characters up to the last hyphen, if it has
any, and the gaps between the others. -/
def Punycode.decode? (cs : List Char) : Option (List Char) :=
  let gaps := (cs.reverse.takeWhile (· != '-')).reverse
  let ascii := cs.take (cs.length - gaps.length - 1)
  Punycode.insert { size := ascii.length } ascii (if ascii.isEmpty then cs else gaps)

/-- The characters beyond ASCII, each with its place among those that are put in before it, in the
order in which they are put in. -/
def Punycode.insertions (cs : List Char) : List (Nat × Nat) :=
  let codes := cs.map Char.toNat
  let all := (codes.zipIdx).filter fun (code, _) => 128 ≤ code
  (all.mergeSort fun a b => a.1 ≤ b.1).map fun (code, i) => (code, (codes.take i).countP (· ≤ code))

def Punycode.gaps (t : Punycode.Cursor) : List (Nat × Nat) → List Char
  | [] => []
  | (code, place) :: rest =>
    let gap := (code - t.code) * (t.size + 1) + place - t.place
    Punycode.digits t.bias 36 gap ++ Punycode.gaps (t.next code place gap) rest

/-- Writes a text in ASCII. -/
def Punycode.encode (cs : List Char) : List Char :=
  let ascii := cs.filter fun c => c.toNat < 128
  let mark := if ascii.isEmpty then [] else ['-']
  ascii ++ mark ++ Punycode.gaps { size := ascii.length } (Punycode.insertions cs)

end RemoteCall
