import Mathlib.Algebra.Group.Nat.Defs
import Mathlib.Data.List.Induction
import RemoteCall.Proofs.Scanning
import RemoteCall.Text.Blank
import RemoteCall.Text.Digits

namespace RemoteCall

theorem Digits.digit_bounds {c : Char} (digit : c.isDigit = true) : 48 ≤ c.toNat ∧ c.toNat ≤ 57 := by
  simpa [Char.isDigit, UInt32.le_iff_toNat_le] using digit

theorem isBlank_of_isDigit {c : Char} (digit : c.isDigit = true) : isBlank c = false := by
  have bounds := Digits.digit_bounds digit
  simp only [isBlank, Bool.or_eq_false_iff, Bool.and_eq_false_iff, decide_eq_false_iff_not, beq_eq_false_iff_ne]
  omega

theorem isDigit_of_isBlank {c : Char} (blank : isBlank c = true) : c.isDigit = false := by
  cases digit : c.isDigit with
  | false => rfl
  | true =>
    rw [isBlank_of_isDigit digit] at blank
    cases blank

/-- Only the characters at the two ends matter for trimming. -/
theorem trimmed_eq_self {cs : List Char} (head : ∀ c ∈ cs.head?, isBlank c = false)
    (last : ∀ c ∈ cs.getLast?, isBlank c = false) : trimmed cs = cs := by
  have last : ∀ c ∈ cs.reverse.head?, isBlank c = false := List.head?_reverse ▸ last
  rw [trimmed, List.dropWhile_eq_self_iff.mpr (not_first head), List.dropWhile_eq_self_iff.mpr (not_first last),
    List.reverse_reverse]

theorem trimmed_of_noBlank {cs : List Char} (plain : ∀ c ∈ cs, isBlank c = false) : trimmed cs = cs :=
  trimmed_eq_self (fun c member => plain c (List.mem_of_mem_head? member))
    fun c member => plain c (List.mem_of_mem_getLast? member)

theorem trim_eq_self_iff {s : String} : trim s = s ↔ trimmed s.toList = s.toList := by
  rw [trim, ← String.toList_inj, String.toList_ofList]

theorem head?_trimmed (cs : List Char) : ∀ c ∈ (trimmed cs).head?, isBlank c = false := by
  intro c head
  obtain ⟨rest, whole⟩ : trimmed cs <+: cs.dropWhile isBlank := List.rdropWhile_prefix isBlank _
  have first : (cs.dropWhile isBlank).head? = some c := by
    rw [← whole, List.head?_append, head, Option.some_or]
  have stop := List.head?_dropWhile_not isBlank cs
  rw [first] at stop
  simpa using stop

theorem getLast?_trimmed (cs : List Char) : ∀ c ∈ (trimmed cs).getLast?, isBlank c = false := by
  intro c last
  obtain ⟨some, same⟩ := List.mem_getLast?_eq_getLast last
  have stop : ¬isBlank ((trimmed cs).getLast some) = true := List.rdropWhile_last_not isBlank _ some
  rw [same]
  simpa using stop

/-- Blanks around a text do not count. -/
theorem trimmed_padded {before cs after : List Char} (front : ∀ c ∈ before, isBlank c = true)
    (back : ∀ c ∈ after, isBlank c = true) : trimmed (before ++ (cs ++ after)) = trimmed cs := by
  have backwards : ∀ c ∈ after.reverse, isBlank c = true := fun c member => back c (List.mem_reverse.mp member)
  rw [trimmed, trimmed, List.dropWhile_append_of_pos front, List.dropWhile_append]
  split
  · rename_i nothing
    rw [List.isEmpty_iff.mp nothing]
    have gone : (after ++ []).dropWhile isBlank = [] := List.dropWhile_append_of_pos back
    rw [List.append_nil] at gone
    rw [gone]
  · rw [List.reverse_append, List.dropWhile_append_of_pos backwards]

/-- Trimming takes nothing away but blanks. -/
theorem filter_trimmed {p : Char → Bool} {cs : List Char} (apart : ∀ c ∈ cs, isBlank c = true → p c = false) :
    (trimmed cs).filter p = cs.filter p := by
  obtain ⟨front, back, form, blankFront, blankBack⟩ := exists_stripped isBlank cs
  rw [← trimmed] at form
  have gone {ds : List Char} (inside : ds ⊆ cs) (blank : ∀ c ∈ ds, isBlank c = true) : ds.filter p = [] := by
    refine List.filter_eq_nil_iff.mpr fun c member => ?_
    rw [apart c (inside member) (blank c member)]
    exact Bool.false_ne_true
  have first : front ⊆ cs := fun c member => form ▸ List.mem_append_left _ member
  have last : back ⊆ cs := fun c member => form ▸ List.mem_append_right _ (List.mem_append_right _ member)
  have whole := congrArg (List.filter p) form
  rw [List.filter_append, List.filter_append, gone first blankFront, gone last blankBack] at whole
  rw [whole, List.nil_append, List.append_nil]

theorem Digits.isDigit_of_mem_ofNat {n : Nat} {c : Char} (member : c ∈ ofNat n) : c.isDigit = true :=
  Nat.isDigit_of_mem_toDigits (by decide) (by decide) member

theorem Digits.ofNat_ne_nil (n : Nat) : ofNat n ≠ [] :=
  Nat.toDigits_ne_nil

/-- A numeral of a positive number does not begin with a zero. -/
theorem Digits.head_ofNat_ne_zero {n : Nat} (positive : 0 < n) : (ofNat n).head? ≠ some '0' := by
  induction n using Nat.strongRecOn with
  | ind n ih =>
    rw [ofNat, Nat.toDigits_eq_if (by decide)]
    by_cases small : n < 10
    · simp only [if_pos small, List.head?_cons, ne_eq, Option.some.injEq, Nat.digitChar_eq_zero]
      omega
    · have inner := ih (n / 10) (by omega) (by omega)
      rw [if_neg small, List.head?_append, Option.or_of_isSome (by simp)]
      exact inner

theorem Digits.value_ofNat (n : Nat) : value (ofNat n) = n := by
  rw [value_eq_ofDigitChars, ofNat, Nat.ofDigitChars_ten_toDigits]

theorem Digits.nat?_eq_some {cs : List Char} (nonempty : cs ≠ []) (digits : ∀ c ∈ cs, c.isDigit = true) :
    nat? cs = some (value cs) := by
  have some : cs.isEmpty = false := by simpa using nonempty
  rw [nat?, some, List.all_eq_true.mpr digits, Bool.not_false, Bool.true_and, if_pos rfl]

theorem Digits.nat?_ofNat (n : Nat) : nat? (ofNat n) = some n := by
  rw [nat?_eq_some (ofNat_ne_nil n) fun _ => isDigit_of_mem_ofNat, value_ofNat]

theorem Digits.int?_of_digit {c : Char} {cs : List Char} (digit : c.isDigit = true) :
    int? (c :: cs) = (nat? (c :: cs)).map Int.ofNat := by
  unfold int?
  split
  · rename_i same
    rw [(List.cons.inj same).1] at digit
    exact absurd digit (by decide)
  · rename_i same
    rw [(List.cons.inj same).1] at digit
    exact absurd digit (by decide)
  · rfl

theorem Digits.int?_ofInt (n : Int) : int? (ofInt n) = some n := by
  unfold ofInt
  split
  · rename_i negative
    have same : -((n.natAbs : Nat) : Int) = n := by omega
    rw [int?, nat?_ofNat]
    exact congrArg some same
  · obtain ⟨c, cs, form⟩ := List.exists_cons_of_ne_nil (ofNat_ne_nil n.natAbs)
    have digit : c.isDigit = true := isDigit_of_mem_ofNat (n := n.natAbs) (by simp [form])
    have same : ((n.natAbs : Nat) : Int) = n := by omega
    rw [form, int?_of_digit digit, ← form, nat?_ofNat, Option.map_some, Int.ofNat_eq_natCast, same]

theorem Digits.fit32?_toInt (n : Int32) : fit32? n.toInt = some n := by
  have lower := n.le_toInt
  have upper := n.toInt_lt
  rw [fit32?, if_pos (by omega), Int32.ofInt_toInt]

theorem Digits.fit64?_toInt (n : Int64) : fit64? n.toInt = some n := by
  have lower := n.le_toInt
  have upper := n.toInt_lt
  rw [fit64?, if_pos (by omega), Int64.ofInt_toInt]

theorem Digits.int32?_ofInt (n : Int32) : int32? (ofInt n.toInt) = some n := by
  rw [int32?, int?_ofInt, Option.bind_some, fit32?_toInt]

theorem Digits.int64?_ofInt (n : Int64) : int64? (ofInt n.toInt) = some n := by
  rw [int64?, int?_ofInt, Option.bind_some, fit64?_toInt]

theorem Digits.noBlank_ofInt (n : Int) : ∀ c ∈ ofInt n, isBlank c = false := by
  intro c member
  unfold ofInt at member
  split at member
  · rcases List.mem_cons.mp member with rfl | digit
    · decide
    · exact isBlank_of_isDigit (isDigit_of_mem_ofNat digit)
  · exact isBlank_of_isDigit (isDigit_of_mem_ofNat member)

theorem Digits.isDigit_of_mem_padded {width n : Nat} {c : Char} (member : c ∈ padded width n) : c.isDigit = true := by
  rcases List.mem_append.mp member with zero | digit
  · rw [List.eq_of_mem_replicate zero]
    decide
  · exact isDigit_of_mem_ofNat digit

theorem Digits.exists_padded_eq_cons (width n : Nat) :
    ∃ c cs, Digits.padded width n = c :: cs ∧ c.isDigit = true := by
  have nonempty : Digits.padded width n ≠ [] := List.append_ne_nil_of_right_ne_nil _ (Digits.ofNat_ne_nil n)
  obtain ⟨c, cs, form⟩ := List.exists_cons_of_ne_nil nonempty
  have first : c ∈ Digits.padded width n := by simp [form]
  exact ⟨c, cs, form, Digits.isDigit_of_mem_padded first⟩

theorem Digits.value_padded (width n : Nat) : value (padded width n) = n := by
  rw [value_eq_ofDigitChars, padded, Nat.ofDigitChars_append, Nat.ofDigitChars_replicate_zero, Nat.mul_zero,
    ofNat, Nat.ofDigitChars_ten_toDigits]

theorem Digits.padded_inj {width m n : Nat} : padded width m = padded width n ↔ m = n := by
  constructor
  · intro same
    rw [← value_padded width m, same, value_padded]
  · rintro rfl
    rfl

theorem Digits.length_padded {width n : Nat} (positive : 0 < width) (fits : n < Nat.pow 10 width) :
    (padded width n).length = width := by
  have short : (ofNat n).length ≤ width := (Nat.length_toDigits_le_iff (by decide) positive).mpr fits
  simp only [padded, List.length_append, List.length_replicate]
  omega

theorem Digits.value_concat (ds : List Char) (c : Char) : value (ds ++ [c]) = 10 * value ds + (c.toNat - 48) := by
  rw [value_eq_ofDigitChars, value_eq_ofDigitChars, Nat.ofDigitChars_append, Nat.ofDigitChars_cons,
    Nat.ofDigitChars_nil]
  rfl

theorem Digits.value_lt {ds : List Char} (digits : ∀ c ∈ ds, c.isDigit = true) : value ds < 10 ^ ds.length := by
  induction ds using List.reverseRecOn with
  | nil => simp [value_eq_ofDigitChars]
  | append_singleton ds c ih =>
    have front := ih fun d member => digits d (List.mem_append_left _ member)
    have last := Digits.digit_bounds (digits c (by simp))
    rw [value_concat, List.length_append, List.length_singleton, Nat.pow_succ]
    omega

/-- Digits of the same number are the same if there are as many of them. -/
theorem Digits.eq_of_value_eq {ds es : List Char} (inDs : ∀ c ∈ ds, c.isDigit = true)
    (inEs : ∀ c ∈ es, c.isDigit = true) (length : ds.length = es.length) (same : value ds = value es) : ds = es := by
  induction ds using List.reverseRecOn generalizing es with
  | nil => exact (List.length_eq_zero_iff.mp length.symm).symm
  | append_singleton ds c ih =>
    obtain rfl | ⟨es, d, form⟩ := es.eq_nil_or_concat
    · simp at length
    · rw [List.concat_eq_append] at form
      subst form
      have lastC := Digits.digit_bounds (inDs c (by simp))
      have lastD := Digits.digit_bounds (inEs d (by simp))
      rw [value_concat, value_concat] at same
      have front := ih (fun b member => inDs b (List.mem_append_left _ member))
        (fun b member => inEs b (List.mem_append_left _ member)) (by simpa using length) (by omega)
      have last : c = d := Char.toNat_inj.mp (by omega)
      rw [front, last]

theorem Digits.padded_value {ds : List Char} (some : ds ≠ []) (digits : ∀ c ∈ ds, c.isDigit = true) :
    padded ds.length (value ds) = ds := by
  have length := length_padded (List.length_pos_iff.mpr some) (value_lt digits)
  exact eq_of_value_eq (fun _ => isDigit_of_mem_padded) digits length (value_padded _ _)

end RemoteCall
