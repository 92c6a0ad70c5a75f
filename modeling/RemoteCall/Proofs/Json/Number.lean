import Mathlib.Data.List.TakeWhile
import RemoteCall.Proofs.Json.Numeral

namespace RemoteCall

/-- Its text is one numeral, which stands for the number. -/
def Json.Number.Reads (n : Json.Number) : Prop :=
  (∀ c ∈ n.text, Double.isNumeric c = true) ∧
    ∃ numeral, Json.numeral? n.text = some (numeral, []) ∧ numeral.number? = some n

theorem Json.Number.Reads.text_eq_cons {n : Json.Number} (reads : n.Reads) :
    ∃ c cs, n.text = c :: cs ∧ Double.isNumeric c = true := by
  obtain ⟨numeric, numeral, read, _⟩ := reads
  cases form : n.text with
  | nil =>
    rw [form] at read
    cases read
  | cons c cs => exact ⟨c, cs, rfl, numeric c (form ▸ List.mem_cons_self ..)⟩

theorem Json.digits?_all {cs : List Char} (nonempty : cs ≠ []) (digits : ∀ c ∈ cs, c.isDigit = true) :
    Json.digits? cs = some (cs, []) := by
  have whole : cs.takeWhile Char.isDigit = cs := List.takeWhile_eq_self_iff.mpr digits
  have left : cs.dropWhile Char.isDigit = [] := List.dropWhile_eq_nil_iff.mpr digits
  simp only [Json.digits?, whole, left, List.isEmpty_iff, nonempty, if_false]

theorem Json.wholePart?_ofNat (n : Nat) : Json.wholePart? (Digits.ofNat n) = some (Digits.ofNat n, []) := by
  rcases Nat.eq_zero_or_pos n with rfl | positive
  · rfl
  · have first := Digits.head_ofNat_ne_zero positive
    rw [Json.wholePart?, Json.digits?_all (Digits.ofNat_ne_nil n) fun _ => Digits.isDigit_of_mem_ofNat]
    intro cs form
    exact first (by rw [form, List.head?_cons])

theorem Json.unsignedNumeral?_ofNat (negative : Bool) (n : Nat) :
    Json.unsignedNumeral? negative (Digits.ofNat n) = some (⟨negative, Digits.ofNat n, [], none⟩, []) :=
  Json.unsignedNumeral?_eq_some.mpr ⟨_, [], none, [], [], Json.wholePart?_ofNat n, rfl, rfl, rfl⟩

theorem Json.numeral?_ofInt (n : Int) :
    Json.numeral? (Digits.ofInt n) = some (⟨decide (n < 0), Digits.ofNat n.natAbs, [], none⟩, []) := by
  unfold Digits.ofInt
  split
  · rename_i negative
    rw [Json.numeral?, Json.unsignedNumeral?_ofNat, decide_eq_true negative]
  · rename_i natural
    rw [Json.numeral?, Json.unsignedNumeral?_ofNat, decide_eq_false natural]
    intro cs form
    have minus : '-' ∈ Digits.ofNat n.natAbs := by simp [form]
    exact absurd (Digits.isDigit_of_mem_ofNat minus) (by decide)

/-- Whole numbers that 64 bits can hold are read as they are written. -/
theorem Json.Number.reads_whole {n : Int} (lower : -9223372036854775808 ≤ n) (upper : n < 18446744073709551616) :
    (Json.Number.whole n).Reads := by
  have fits : n.natAbs < Nat.pow 2 64 := by
    rw [show Nat.pow 2 64 = 18446744073709551616 from rfl]
    omega
  refine ⟨fun _ => Double.isNumeric_ofInt, _, Json.numeral?_ofInt n, ?_⟩
  simp only [Json.Numeral.number?, Digits.value_ofNat, List.isEmpty_nil, Option.isNone_none, Bool.and_self,
    decide_eq_true fits, if_true]
  by_cases negative : n < 0
  · have bound : n.natAbs ≠ 0 ∧ n.natAbs ≤ Nat.pow 2 63 := by
      rw [show Nat.pow 2 63 = 9223372036854775808 from rfl]
      omega
    have same : -(n.natAbs : Int) = n := by omega
    rw [decide_eq_true negative, Bool.not_true, if_neg Bool.false_ne_true, if_pos bound, same]
  · have same : (n.natAbs : Int) = n := by omega
    rw [decide_eq_false negative, Bool.not_false, if_pos rfl, same]

theorem Json.Number.reads_int32 (n : Int32) : (Json.Number.whole n.toInt).Reads := by
  have lower := n.le_toInt
  have upper := n.toInt_lt
  exact Json.Number.reads_whole (by omega) (by omega)

theorem Json.Number.reads_int64 (n : Int64) : (Json.Number.whole n.toInt).Reads := by
  have lower := n.le_toInt
  have upper := n.toInt_lt
  exact Json.Number.reads_whole (by omega) (by omega)

theorem Json.digits?_suffix {cs digits left : List Char} (read : Json.digits? cs = some (digits, left)) :
    left <:+ cs := by
  simp only [Json.digits?] at read
  split at read
  · cases read
  · cases read
    exact List.dropWhile_suffix _

theorem Json.wholePart?_suffix {cs digits left : List Char} (read : Json.wholePart? cs = some (digits, left)) :
    left <:+ cs := by
  unfold Json.wholePart? at read
  split at read
  · cases read
    exact List.suffix_cons ..
  · exact Json.digits?_suffix read

theorem Json.fractionPart?_suffix {cs digits left : List Char} (read : Json.fractionPart? cs = some (digits, left)) :
    left <:+ cs := by
  unfold Json.fractionPart? at read
  split at read
  · exact (Json.digits?_suffix read).trans (List.suffix_cons ..)
  · cases read
    exact List.suffix_refl _

theorem Json.powerDigits?_suffix {negative : Bool} {cs left : List Char} {power : Option (Bool × List Char)}
    (read : Json.powerDigits? negative cs = some (power, left)) : left <:+ cs := by
  obtain ⟨⟨digits, after⟩, found, same⟩ := Option.map_eq_some_iff.mp read
  cases same
  exact Json.digits?_suffix found

theorem Json.signedDigits?_suffix {cs left : List Char} {power : Option (Bool × List Char)}
    (read : Json.signedDigits? cs = some (power, left)) : left <:+ cs := by
  unfold Json.signedDigits? at read
  split at read
  · exact (Json.powerDigits?_suffix read).trans (List.suffix_cons ..)
  · exact (Json.powerDigits?_suffix read).trans (List.suffix_cons ..)
  · exact Json.powerDigits?_suffix read

theorem Json.powerPart?_suffix {cs left : List Char} {power : Option (Bool × List Char)}
    (read : Json.powerPart? cs = some (power, left)) : left <:+ cs := by
  cases cs with
  | nil =>
    cases read
    exact List.suffix_refl _
  | cons c cs =>
    rw [Json.powerPart?_cons] at read
    split at read
    · exact (Json.signedDigits?_suffix read).trans (List.suffix_cons ..)
    · cases read
      exact List.suffix_refl _

theorem Json.unsignedNumeral?_suffix {negative : Bool} {cs left : List Char} {n : Json.Numeral}
    (read : Json.unsignedNumeral? negative cs = some (n, left)) : left <:+ cs := by
  obtain ⟨whole, fraction, power, second, third, atWhole, atFraction, atPower, _⟩ :=
    Json.unsignedNumeral?_eq_some.mp read
  exact ((Json.powerPart?_suffix atPower).trans (Json.fractionPart?_suffix atFraction)).trans
    (Json.wholePart?_suffix atWhole)

theorem Json.numeral?_suffix {cs left : List Char} {n : Json.Numeral} (read : Json.numeral? cs = some (n, left)) :
    left <:+ cs := by
  unfold Json.numeral? at read
  split at read
  · exact (Json.unsignedNumeral?_suffix read).trans (List.suffix_cons ..)
  · exact Json.unsignedNumeral?_suffix read

theorem Json.isSpace_of_isNumeric {c : Char} (numeric : Double.isNumeric c = true) : Json.isSpace c = false := by
  have clear := Double.isBlank_of_isNumeric numeric
  cases space : Json.isSpace c with
  | false => rfl
  | true =>
    simp only [Json.isSpace, Bool.or_eq_true, beq_iff_eq] at space
    rcases space with ((rfl | rfl) | rfl) | rfl <;> exact absurd clear (by decide)

theorem Json.skipSpace_cons {c : Char} {cs : List Char} (dark : Json.isSpace c = false) :
    Json.skipSpace (c :: cs) = c :: cs :=
  List.dropWhile_cons_of_neg (Bool.not_eq_true _ ▸ dark)

/-- A value that begins like a number is one. -/
theorem Json.valueFrom_numeric {width depth : Nat} {c : Char} {cs : List Char}
    (numeric : Double.isNumeric c = true) :
    Json.valueFrom width depth (c :: cs) =
      (Json.numeral? (c :: cs)).bind fun (numeral, rest) => numeral.number?.map fun n => (.number n, rest) := by
  have other {d : Char} (odd : Double.isNumeric d = false) : c ≠ d := fun same => by
    rw [same, odd] at numeric
    cases numeric
  unfold Json.valueFrom
  rw [Json.skipSpace_cons (Json.isSpace_of_isNumeric numeric)]
  split
  · rename_i form
    cases form
  · rename_i form
    exact absurd (List.cons.inj form).1 (other (by decide))
  · rename_i form
    exact absurd (List.cons.inj form).1 (other (by decide))
  · rename_i form
    exact absurd (List.cons.inj form).1 (other (by decide))
  · rename_i form
    exact absurd (List.cons.inj form).1 (other (by decide))
  · rename_i form
    exact absurd (List.cons.inj form).1 (other (by decide))
  · rename_i form
    exact absurd (List.cons.inj form).1 (other (by decide))
  · cases Json.numeral? (c :: cs) <;> rfl

/-- The text of a double is read as that double. -/
def Double.ReadsBack (x : Double) : Prop :=
  Json.parse? (x.text .json) = some (.number (.double x))

theorem Json.Number.reads_double {x : Double} (finite : x.isFinite = true) (back : x.ReadsBack) :
    (Json.Number.double x).Reads := by
  have numeric {c : Char} (member : c ∈ x.text .json) : Double.isNumeric c = true :=
    Double.isNumeric_text (by decide) (by decide) finite member
  unfold Double.ReadsBack at back
  cases form : x.text .json with
  | nil =>
    rw [form] at back
    cases back
  | cons c cs =>
    rw [form] at back
    simp only [Json.parse?, Json.valueFrom_numeric (numeric (form ▸ List.mem_cons_self ..))] at back
    split at back
    · cases back
    · rename_i j rest read
      split at back
      · rename_i blank
        cases back
        obtain ⟨⟨numeral, left⟩, atNumeral, atNumber⟩ := Option.bind_eq_some_iff.mp read
        obtain ⟨n, number, same⟩ := Option.map_eq_some_iff.mp atNumber
        cases same
        -- nothing but space may follow, and the text has none
        have empty : left = [] := by
          cases left with
          | nil => rfl
          | cons d left =>
            have inside : d ∈ x.text .json := form ▸ (Json.numeral?_suffix atNumeral).subset (List.mem_cons_self ..)
            rw [Json.skipSpace_cons (Json.isSpace_of_isNumeric (numeric inside))] at blank
            cases blank
        subst empty
        exact ⟨fun _ => numeric, numeral, by rw [Json.Number.text, form, atNumeral], number⟩
      · cases back

end RemoteCall
