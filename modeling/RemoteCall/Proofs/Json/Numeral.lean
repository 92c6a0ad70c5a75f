import RemoteCall.Json.Printer
import RemoteCall.Json.Parser
import RemoteCall.Proofs.Double

namespace RemoteCall

/-- What stands behind a number and is no part of it. -/
def Json.EndsNumber (rest : List Char) : Prop :=
  ∀ c ∈ rest.head?, c.isDigit = false ∧ c ≠ '.' ∧ c ≠ 'e' ∧ c ≠ 'E'

theorem Json.EndsNumber.nil : Json.EndsNumber [] := by
  intro c head
  cases head

theorem Json.EndsNumber.cons {c : Char} {rest : List Char}
    (ends : c.isDigit = false ∧ c ≠ '.' ∧ c ≠ 'e' ∧ c ≠ 'E') : Json.EndsNumber (c :: rest) := by
  intro d head
  cases head
  exact ends

theorem Json.digits?_append {cs digits left rest : List Char} (read : Json.digits? cs = some (digits, left))
    (ends : Json.EndsNumber rest) : Json.digits? (cs ++ rest) = some (digits, left ++ rest) := by
  have stop : rest.takeWhile Char.isDigit = [] :=
    List.takeWhile_eq_nil_iff.mpr (not_first fun c head => (ends c head).1)
  have taken : (cs ++ rest).takeWhile Char.isDigit = cs.takeWhile Char.isDigit := by
    rw [List.takeWhile_append, stop, List.append_nil]
    split
    · rename_i all
      exact ((List.takeWhile_prefix _).eq_of_length all).symm
    · rfl
  have dropped : (cs ++ rest).dropWhile Char.isDigit = cs.dropWhile Char.isDigit ++ rest := by
    have whole := List.takeWhile_append_dropWhile (p := Char.isDigit) (l := cs ++ rest)
    have part := List.takeWhile_append_dropWhile (p := Char.isDigit) (l := cs)
    rw [taken] at whole
    refine List.append_cancel_left (whole.trans ?_)
    rw [← List.append_assoc, part]
  simp only [Json.digits?] at read ⊢
  rw [taken, dropped]
  split at read
  · cases read
  · rename_i some
    rw [if_neg some]
    cases read
    rfl

theorem Json.wholePart?_append {cs digits left rest : List Char} (read : Json.wholePart? cs = some (digits, left))
    (ends : Json.EndsNumber rest) : Json.wholePart? (cs ++ rest) = some (digits, left ++ rest) := by
  unfold Json.wholePart? at read
  split at read
  · cases read
    rfl
  · rename_i noZero
    cases cs with
    | nil => cases read
    | cons c cs =>
      rw [List.cons_append, Json.wholePart?, ← List.cons_append, Json.digits?_append read ends]
      rintro cs' same
      exact noZero cs (by rw [(List.cons.inj same).1])

theorem Json.fractionPart?_append {cs digits left rest : List Char}
    (read : Json.fractionPart? cs = some (digits, left)) (ends : Json.EndsNumber rest) :
    Json.fractionPart? (cs ++ rest) = some (digits, left ++ rest) := by
  unfold Json.fractionPart? at read
  split at read
  · exact Json.digits?_append read ends
  · rename_i noPoint
    cases read
    rw [Json.fractionPart?]
    intro more same
    cases cs with
    | nil => exact (ends '.' (by rw [← List.nil_append rest, same]; rfl)).2.1 rfl
    | cons c cs => exact noPoint cs (by rw [(List.cons.inj same).1])

theorem Json.powerDigits?_append {negative : Bool} {cs left rest : List Char} {power : Option (Bool × List Char)}
    (read : Json.powerDigits? negative cs = some (power, left)) (ends : Json.EndsNumber rest) :
    Json.powerDigits? negative (cs ++ rest) = some (power, left ++ rest) := by
  obtain ⟨⟨digits, after⟩, found, same⟩ := Option.map_eq_some_iff.mp read
  cases same
  rw [Json.powerDigits?, Json.digits?_append found ends, Option.map_some]

/-- The digits of a power behind its mark, with a sign or without. -/
def Json.signedDigits? : List Char → Option (Option (Bool × List Char) × List Char)
  | '-' :: cs => Json.powerDigits? true cs
  | '+' :: cs => Json.powerDigits? false cs
  | cs => Json.powerDigits? false cs

theorem Json.powerPart?_cons (c : Char) (cs : List Char) :
    Json.powerPart? (c :: cs) =
      if c = 'e' ∨ c = 'E' then Json.signedDigits? cs else some (none, c :: cs) := by
  unfold Json.powerPart? Json.signedDigits?
  rfl

theorem Json.signedDigits?_append {cs left rest : List Char} {power : Option (Bool × List Char)}
    (read : Json.signedDigits? cs = some (power, left)) (ends : Json.EndsNumber rest) :
    Json.signedDigits? (cs ++ rest) = some (power, left ++ rest) := by
  unfold Json.signedDigits? at read
  split at read
  · exact Json.powerDigits?_append read ends
  · exact Json.powerDigits?_append read ends
  · rename_i noMinus noPlus
    cases cs with
    | nil => cases read
    | cons c cs =>
      rw [List.cons_append, Json.signedDigits?, ← List.cons_append, Json.powerDigits?_append read ends]
      · intro more same
        exact noMinus cs (by rw [(List.cons.inj same).1])
      · intro more same
        exact noPlus cs (by rw [(List.cons.inj same).1])

theorem Json.powerPart?_append {cs left rest : List Char} {power : Option (Bool × List Char)}
    (read : Json.powerPart? cs = some (power, left)) (ends : Json.EndsNumber rest) :
    Json.powerPart? (cs ++ rest) = some (power, left ++ rest) := by
  cases cs with
  | nil =>
    cases read
    cases rest with
    | nil => rfl
    | cons c rest =>
      obtain ⟨_, _, noLower, noUpper⟩ := ends c rfl
      rw [List.nil_append, Json.powerPart?_cons, if_neg (not_or.mpr ⟨noLower, noUpper⟩)]
  | cons c cs =>
    rw [Json.powerPart?_cons] at read
    rw [List.cons_append, Json.powerPart?_cons]
    split at read
    · rename_i mark
      rw [if_pos mark, Json.signedDigits?_append read ends]
    · rename_i noMark
      rw [if_neg noMark]
      cases read
      rfl

theorem Json.unsignedNumeral?_eq_some {negative : Bool} {cs left : List Char} {n : Json.Numeral} :
    Json.unsignedNumeral? negative cs = some (n, left) ↔
      ∃ whole fraction power second third, Json.wholePart? cs = some (whole, second) ∧
        Json.fractionPart? second = some (fraction, third) ∧ Json.powerPart? third = some (power, left) ∧
        n = ⟨negative, whole, fraction, power⟩ := by
  simp only [Json.unsignedNumeral?, Option.bind_eq_bind, Option.bind_eq_some_iff, Option.pure_def,
    Option.some.injEq, Prod.exists, Prod.mk.injEq]
  constructor
  · rintro ⟨whole, second, atWhole, fraction, third, atFraction, power, last, atPower, rfl, rfl⟩
    exact ⟨whole, fraction, power, second, third, atWhole, atFraction, atPower, rfl⟩
  · rintro ⟨whole, fraction, power, second, third, atWhole, atFraction, atPower, rfl⟩
    exact ⟨whole, second, atWhole, fraction, third, atFraction, power, left, atPower, rfl, rfl⟩

theorem Json.unsignedNumeral?_append {negative : Bool} {cs left rest : List Char} {n : Json.Numeral}
    (read : Json.unsignedNumeral? negative cs = some (n, left)) (ends : Json.EndsNumber rest) :
    Json.unsignedNumeral? negative (cs ++ rest) = some (n, left ++ rest) := by
  obtain ⟨whole, fraction, power, second, third, atWhole, atFraction, atPower, same⟩ :=
    Json.unsignedNumeral?_eq_some.mp read
  exact Json.unsignedNumeral?_eq_some.mpr ⟨whole, fraction, power, second ++ rest, third ++ rest,
    Json.wholePart?_append atWhole ends, Json.fractionPart?_append atFraction ends,
    Json.powerPart?_append atPower ends, same⟩

/-- A numeral is read the same whatever stands behind it, as long as that is no part of a number. -/
theorem Json.numeral?_append {cs left rest : List Char} {n : Json.Numeral}
    (read : Json.numeral? cs = some (n, left)) (ends : Json.EndsNumber rest) :
    Json.numeral? (cs ++ rest) = some (n, left ++ rest) := by
  unfold Json.numeral? at read
  split at read
  · exact Json.unsignedNumeral?_append read ends
  · rename_i noMinus
    cases cs with
    | nil => cases read
    | cons c cs =>
      rw [List.cons_append, Json.numeral?, ← List.cons_append, Json.unsignedNumeral?_append read ends]
      intro more same
      exact noMinus cs (by rw [(List.cons.inj same).1])

end RemoteCall
