import RemoteCall.Double.Reading
import RemoteCall.Double.Text
import RemoteCall.Proofs.Digits

namespace RemoteCall

/-- The characters of which the text of a finite number is made. -/
def Double.isNumeric (c : Char) : Bool :=
  c.isDigit || c == '-' || c == '+' || c == '.' || c == 'e'

theorem Double.isNumeric_of_isDigit {c : Char} (digit : c.isDigit = true) : Double.isNumeric c = true := by
  simp only [Double.isNumeric, digit, Bool.true_or]

theorem Double.isBlank_of_isNumeric {c : Char} (numeric : Double.isNumeric c = true) : isBlank c = false := by
  simp only [Double.isNumeric, Bool.or_eq_true, beq_iff_eq] at numeric
  rcases numeric with (((digit | rfl) | rfl) | rfl) | rfl
  · exact isBlank_of_isDigit digit
  all_goals decide

theorem Double.isNumeric_ofInt {n : Int} {c : Char} (member : c ∈ Digits.ofInt n) : Double.isNumeric c = true := by
  unfold Digits.ofInt at member
  split at member
  · rcases List.mem_cons.mp member with rfl | digit
    · decide
    · exact Double.isNumeric_of_isDigit (Digits.isDigit_of_mem_ofNat digit)
  · exact Double.isNumeric_of_isDigit (Digits.isDigit_of_mem_ofNat member)

theorem Decimal.isDigit_of_mem_shortest {tie : Tie} {mantissa : Nat} {exponent : Int} {c : Char}
    (member : c ∈ (Decimal.shortest tie mantissa exponent).digits) : c.isDigit = true := by
  unfold Decimal.shortest at member
  split at member
  · rw [List.mem_singleton.mp member]
    decide
  · have inside := (List.dropWhile_sublist _).subset (List.mem_reverse.mp member)
    exact Digits.isDigit_of_mem_ofNat (List.mem_reverse.mp inside)

theorem Decimal.isNumeric_plainText {d : Decimal} {wholeEnd : List Char} {c : Char}
    (digits : ∀ c ∈ d.digits, c.isDigit = true) (ends : ∀ c ∈ wholeEnd, Double.isNumeric c = true)
    (member : c ∈ d.plainText wholeEnd) : Double.isNumeric c = true := by
  have digit (inside : c ∈ d.digits) := Double.isNumeric_of_isDigit (digits c inside)
  have zero {n : Nat} (inside : c ∈ List.replicate n '0') : Double.isNumeric c = true := by
    rw [List.eq_of_mem_replicate inside]
    decide
  simp only [Decimal.plainText] at member
  split at member
  · simp only [List.cons_append, List.mem_cons, List.mem_append] at member
    rcases member with rfl | rfl | zeros | inside
    · decide
    · decide
    · exact zero zeros
    · exact digit inside
  · split at member
    · simp only [List.mem_append] at member
      rcases member with (inside | zeros) | last
      · exact digit inside
      · exact zero zeros
      · exact ends c last
    · simp only [List.mem_append, List.mem_cons] at member
      rcases member with whole | rfl | fraction
      · exact digit (List.mem_of_mem_take whole)
      · decide
      · exact digit (List.mem_of_mem_drop fraction)

theorem Decimal.isNumeric_powerText {d : Decimal} {powerSign : List Char} {c : Char}
    (digits : ∀ c ∈ d.digits, c.isDigit = true) (signs : ∀ c ∈ powerSign, Double.isNumeric c = true)
    (member : c ∈ d.powerText powerSign) : Double.isNumeric c = true := by
  have digit (inside : c ∈ d.digits) := Double.isNumeric_of_isDigit (digits c inside)
  simp only [Decimal.powerText, List.mem_append, List.mem_cons] at member
  rcases member with ((first | fraction) | rfl | sign) | power
  · exact digit (List.mem_of_mem_take first)
  · split at fraction
    · simp at fraction
    · rcases List.mem_cons.mp fraction with rfl | inside
      · decide
      · exact digit (List.mem_of_mem_drop inside)
  · decide
  · split at sign
    · simp at sign
    · exact signs c sign
  · exact Double.isNumeric_ofInt power

/-- A style adds nothing of its own but its ends and signs. -/
theorem Double.isNumeric_text {style : DoubleStyle} {x : Double} {c : Char}
    (ends : style.wholeEnd.all Double.isNumeric = true) (signs : style.powerSign.all Double.isNumeric = true)
    (finite : x.isFinite = true) (member : c ∈ x.text style) : Double.isNumeric c = true := by
  unfold Double.isFinite at finite
  split at finite
  · rename_i negative mantissa exponent parts
    have digits : ∀ c ∈ (Decimal.shortest style.tie mantissa exponent).digits, c.isDigit = true :=
      fun _ => Decimal.isDigit_of_mem_shortest
    have body {c : Char} (inside : c ∈ (if style.plain (Decimal.shortest style.tie mantissa exponent).exponent
        then (Decimal.shortest style.tie mantissa exponent).plainText style.wholeEnd
        else (Decimal.shortest style.tie mantissa exponent).powerText style.powerSign)) :
        Double.isNumeric c = true := by
      split at inside
      · exact Decimal.isNumeric_plainText digits (List.all_eq_true.mp ends) inside
      · exact Decimal.isNumeric_powerText digits (List.all_eq_true.mp signs) inside
    simp only [Double.text, parts] at member
    split at member
    · rcases List.mem_cons.mp member with rfl | inside
      · decide
      · exact body inside
    · exact body member
  · cases finite

theorem Double.noBlank_display (x : Double) : ∀ c ∈ x.text .display, isBlank c = false := by
  intro c member
  by_cases finite : x.isFinite = true
  · exact Double.isBlank_of_isNumeric (Double.isNumeric_text (by decide) (by decide) finite member)
  · unfold Double.isFinite at finite
    have words : ("NaN".toList ++ '-' :: "inf".toList).all (fun c => !isBlank c) = true := by decide
    suffices inside : c ∈ "NaN".toList ++ '-' :: "inf".toList by
      simpa using List.all_eq_true.mp words c inside
    cases parts : x.parts with
    | nan =>
      simp only [Double.text, parts] at member
      exact List.mem_append_left _ member
    | infinite negative =>
      simp only [Double.text, parts] at member
      cases negative with
      | true => exact List.mem_append_right _ member
      | false => exact List.mem_append_right _ (List.mem_cons_of_mem _ member)
    | finite => simp [parts] at finite

/-- Digits, one at least, and digits behind a point if there is one, are a number. -/
theorem Double.exists_unsigned? {whole tail : List Char} (negative : Bool) (nonempty : whole ≠ [])
    (digits : ∀ c ∈ whole, c.isDigit = true)
    (point : tail = [] ∨ ∃ fraction, tail = '.' :: fraction ∧ ∀ c ∈ fraction, c.isDigit = true) :
    ∃ y, Double.unsigned? negative (whole ++ tail) = some y := by
  have stop : ∀ c ∈ tail.head?, c.isDigit = false := by
    rcases point with rfl | ⟨fraction, rfl, _⟩
    · nofun
    · intro c head
      cases head
      decide
  have taken := takeWhile_front digits stop
  have left := dropWhile_front digits stop
  have some : whole.isEmpty = false := by simpa using nonempty
  rcases point with rfl | ⟨fraction, rfl, plain⟩
  · simp only [Double.unsigned?, taken, left, some, Bool.false_and, Bool.false_eq_true, if_false, Double.power?,
      Option.map_some]
    exact ⟨_, rfl⟩
  · have rest : fraction.dropWhile Char.isDigit = [] := by
      have gone : (fraction ++ []).dropWhile Char.isDigit = [] := List.dropWhile_append_of_pos plain
      rwa [List.append_nil] at gone
    simp only [Double.unsigned?, taken, left, some, Bool.false_and, Bool.false_eq_true, if_false, rest, Double.power?,
      Option.map_some]
    exact ⟨_, rfl⟩

theorem Double.exists_magnitude? {cs : List Char} {negative : Bool}
    (read : ∃ y, Double.unsigned? negative cs = some y) : ∃ y, Double.magnitude? negative cs = some y := by
  unfold Double.magnitude?
  dsimp only
  split
  · exact ⟨_, rfl⟩
  · split
    · exact ⟨_, rfl⟩
    · exact read

theorem Decimal.exists_plainText_eq {d : Decimal} (digits : ∀ c ∈ d.digits, c.isDigit = true) :
    ∃ whole tail, d.plainText [] = whole ++ tail ∧ whole ≠ [] ∧ (∀ c ∈ whole, c.isDigit = true) ∧
      (tail = [] ∨ ∃ fraction, tail = '.' :: fraction ∧ ∀ c ∈ fraction, c.isDigit = true) := by
  have padded {zeros : Nat} {cs : List Char} (plain : ∀ c ∈ cs, c.isDigit = true) :
      (∀ c ∈ List.replicate zeros '0' ++ cs, c.isDigit = true) ∧
        ∀ c ∈ cs ++ List.replicate zeros '0', c.isDigit = true := by
    have zero : ∀ c ∈ List.replicate zeros '0', c.isDigit = true := fun c member => by
      rw [List.eq_of_mem_replicate member]
      decide
    exact ⟨fun c member => (List.mem_append.mp member).elim (zero c) (plain c),
      fun c member => (List.mem_append.mp member).elim (plain c) (zero c)⟩
  unfold Decimal.plainText
  split
  · exact ⟨['0'], _, rfl, List.cons_ne_nil _ _, List.forall_mem_singleton.mpr rfl, Or.inr ⟨_, rfl, (padded digits).1⟩⟩
  · dsimp only
    split
    · rename_i short
      refine ⟨_, [], rfl, List.ne_nil_of_length_pos ?_, (padded digits).2, Or.inl rfl⟩
      rw [List.length_append, List.length_replicate]
      omega
    · rename_i long
      refine ⟨_, _, rfl, List.ne_nil_of_length_pos ?_, fun c member => digits c (List.mem_of_mem_take member),
        Or.inr ⟨_, rfl, fun c member => digits c (List.mem_of_mem_drop member)⟩⟩
      rw [List.length_take]
      omega

/-- The text of a number is that of some number, whether it is the same one or not. -/
theorem Double.exists_ofText?_text (x : Double) : ∃ y, Double.ofText? (x.text .display) = some y := by
  cases parts : x.parts with
  | nan =>
    simp only [Double.text, parts]
    exact ⟨_, rfl⟩
  | infinite negative =>
    simp only [Double.text, parts]
    cases negative <;> exact ⟨_, rfl⟩
  | finite negative mantissa exponent =>
    have plain : DoubleStyle.display.plain = fun _ => true := rfl
    have ends : DoubleStyle.display.wholeEnd = [] := rfl
    simp only [Double.text, parts, plain, ends, if_true]
    have shortest : ∀ c ∈ (Decimal.shortest DoubleStyle.display.tie mantissa exponent).digits, c.isDigit = true :=
      fun _ => Decimal.isDigit_of_mem_shortest
    obtain ⟨whole, tail, form, nonempty, digits, point⟩ := Decimal.exists_plainText_eq shortest
    rw [form]
    have read (sign : Bool) := Double.exists_magnitude? (Double.exists_unsigned? sign nonempty digits point)
    cases negative with
    | true => exact read true
    | false =>
      obtain ⟨c, cs, first⟩ := List.exists_cons_of_ne_nil nonempty
      have digit : c.isDigit = true := digits c (first ▸ List.mem_cons_self ..)
      have unsigned := read false
      rw [if_neg Bool.false_ne_true]
      rw [first, List.cons_append] at unsigned ⊢
      unfold Double.ofText?
      split
      · rename_i same
        rw [(List.cons.inj same).1] at digit
        exact absurd digit (by decide)
      · rename_i same
        rw [(List.cons.inj same).1] at digit
        exact absurd digit (by decide)
      · exact unsigned

end RemoteCall
