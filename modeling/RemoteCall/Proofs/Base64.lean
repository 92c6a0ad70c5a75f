import Mathlib.Data.List.DropRight
import RemoteCall.Base64
import RemoteCall.Proofs.Digits

namespace RemoteCall

theorem Base64.sextet?_letter : ∀ n < 64, Base64.sextet? (Base64.letter n) = some n := by decide

theorem Base64.letter_ne_fill : ∀ n < 64, (Base64.letter n == '=') = false := by decide

theorem Base64.isSpace_letter : ∀ n < 64, Base64.isSpace (Base64.letter n) = false := by decide

theorem Base64.isBlank_letter : ∀ n < 64, isBlank (Base64.letter n) = false := by decide

theorem Base64.sextets_lt (bytes : List UInt8) : ∀ n ∈ Base64.sextets bytes, n < 64 := by
  fun_induction Base64.sextets bytes with
  | case1 => simp
  | case2 a =>
    have := a.toNat_lt
    simp only [List.mem_cons, List.not_mem_nil, or_false, forall_eq_or_imp, forall_eq]
    omega
  | case3 a b =>
    have := a.toNat_lt
    have := b.toNat_lt
    simp only [List.mem_cons, List.not_mem_nil, or_false, forall_eq_or_imp, forall_eq]
    omega
  | case4 a b c rest ih =>
    have := a.toNat_lt
    have := b.toNat_lt
    have := c.toNat_lt
    simp only [List.mem_cons, forall_eq_or_imp]
    refine ⟨by omega, by omega, by omega, by omega, ih⟩

theorem Base64.joined_bits {a : UInt8} {n : Nat} (same : n = a.toNat) : UInt8.ofNat n = a := by
  rw [same, UInt8.ofNat_toNat]

/-- Six bits at a time, the bytes are all there. -/
theorem Base64.bytes?_sextets (bytes : List UInt8) : Base64.bytes? (Base64.sextets bytes) = some bytes := by
  fun_induction Base64.sextets bytes with
  | case1 => rfl
  | case2 a =>
    have spare : a.toNat % 4 * 16 % 16 = 0 := by omega
    rw [Base64.bytes?, if_pos spare, Base64.joined_bits (a := a) (by omega)]
  | case3 a b =>
    have := b.toNat_lt
    have spare : b.toNat % 16 * 4 % 4 = 0 := by omega
    rw [Base64.bytes?, if_pos spare, Base64.joined_bits (a := a) (by omega),
      Base64.joined_bits (a := b) (by omega)]
  | case4 a b c rest ih =>
    have := b.toNat_lt
    have := c.toNat_lt
    rw [Base64.bytes?, ih, Option.map_some, Base64.joined_bits (a := a) (by omega),
      Base64.joined_bits (a := b) (by omega), Base64.joined_bits (a := c) (by omega)]

theorem Base64.mapM_sextet? {ns : List Nat} (small : ∀ n ∈ ns, n < 64) :
    (ns.map Base64.letter).mapM Base64.sextet? = some ns := by
  induction ns with
  | nil => rfl
  | cons n ns ih =>
    rw [List.map_cons, List.mapM_cons, Base64.sextet?_letter n (small n (List.mem_cons_self ..)),
      ih fun m member => small m (List.mem_cons_of_mem _ member)]
    rfl

theorem Base64.of_mem_bare {p : Char → Bool} {b : Bool} (letters : ∀ n < 64, p (Base64.letter n) = b)
    (bytes : List UInt8) : ∀ c ∈ Base64.bare bytes, p c = b := by
  intro c member
  obtain ⟨n, inside, rfl⟩ := List.mem_map.mp member
  exact letters n (Base64.sextets_lt bytes n inside)

theorem Base64.of_mem_encode {p : Char → Bool} {b : Bool} (letters : ∀ n < 64, p (Base64.letter n) = b)
    (fill : p '=' = b) (bytes : List UInt8) : ∀ c ∈ Base64.encode bytes, p c = b := by
  intro c member
  rcases List.mem_append.mp member with letter | padding
  · exact Base64.of_mem_bare letters bytes c letter
  · rw [List.eq_of_mem_replicate padding]
    exact fill

/-- Only what is left without white space counts. -/
theorem Base64.decode?_congr {s t : List Char}
    (same : (s.filter fun c => !Base64.isSpace c) = t.filter fun c => !Base64.isSpace c) :
    Base64.decode? s = Base64.decode? t := by
  simp only [Base64.decode?, same]

/-- A text without its white space. -/
def Base64.compact (text : List Char) : List Char :=
  text.filter fun c => !Base64.isSpace c

/-- A text without the `=` at its end. -/
def Base64.unpadded (text : List Char) : List Char :=
  text.rdropWhile (· == '=')

/-- How many `=` a text ends with. -/
def Base64.fill (text : List Char) : Nat :=
  (text.rtakeWhile (· == '=')).length

theorem Base64.unpadded_append_fill (text : List Char) :
    Base64.unpadded text ++ List.replicate (Base64.fill text) '=' = text := by
  have filled : text.rtakeWhile (· == '=') = List.replicate (Base64.fill text) '=' :=
    List.eq_replicate_iff.mpr ⟨rfl, fun c member => by simpa using List.mem_rtakeWhile_imp member⟩
  rw [← filled]
  exact List.rdropWhile_append_rtakeWhile

theorem Base64.unpadded_letters {letters : List Char} (plain : ∀ c ∈ letters, (c == '=') = false) (fill : Nat) :
    Base64.unpadded (letters ++ List.replicate fill '=') = letters ∧
      Base64.fill (letters ++ List.replicate fill '=') = fill := by
  induction fill with
  | zero =>
    have last (some : letters ≠ []) : ¬(letters.getLast some == '=') = true := by
      simp [plain _ (List.getLast_mem some)]
    rw [List.replicate_zero, List.append_nil]
    exact ⟨List.rdropWhile_eq_self_iff.mpr last, congrArg List.length (List.rtakeWhile_eq_nil_iff.mpr last)⟩
  | succ fill ih =>
    obtain ⟨letters', filled⟩ := ih
    rw [List.replicate_succ', ← List.append_assoc]
    refine ⟨?_, ?_⟩
    · rw [Base64.unpadded, List.rdropWhile_concat_pos _ _ _ rfl]
      exact letters'
    · rw [Base64.fill, List.rtakeWhile_concat_pos _ _ _ rfl, List.length_append]
      exact congrArg (· + 1) filled

theorem Base64.decode?_eq (text : List Char) :
    Base64.decode? text =
      if Base64.fill (Base64.compact text) ≤ Base64.padding (Base64.unpadded (Base64.compact text)).length then
        ((Base64.unpadded (Base64.compact text)).mapM Base64.sextet?).bind Base64.bytes?
      else none := by
  rw [Base64.fill, List.rtakeWhile, List.length_reverse]
  rfl

/-- A text of letters with no more `=` behind them than there is room for is read as the bytes of the letters. -/
theorem Base64.decode?_letters {text : List Char} {bytes : List UInt8} {fill : Nat}
    (fits : fill ≤ Base64.padding (Base64.bare bytes).length)
    (form : Base64.compact text = Base64.bare bytes ++ List.replicate fill '=') :
    Base64.decode? text = some bytes := by
  obtain ⟨letters, filled⟩ := Base64.unpadded_letters
    (Base64.of_mem_bare (p := (· == '=')) Base64.letter_ne_fill bytes) fill
  rw [Base64.decode?_eq, form, letters, filled, if_pos fits, Base64.bare,
    Base64.mapM_sextet? (Base64.sextets_lt bytes), Option.bind_some, Base64.bytes?_sextets]

theorem Base64.decode?_encode (bytes : List UInt8) : Base64.decode? (Base64.encode bytes) = some bytes :=
  Base64.decode?_letters (Nat.le_refl _) <| List.filter_eq_self.mpr fun c member => by
    rw [Base64.of_mem_encode Base64.isSpace_letter (by decide) bytes c member, Bool.not_false]

theorem Base64.filter_wrap {keep : Char → Bool} (noReturn : keep '\r' = false) (noFeed : keep '\n' = false)
    (room : Nat) (cs : List Char) : (Base64.wrap room cs).filter keep = cs.filter keep := by
  fun_induction Base64.wrap room cs with
  | case1 => rfl
  | case2 c cs ih =>
    rw [List.filter_cons_of_neg (Bool.not_eq_true _ ▸ noReturn), List.filter_cons_of_neg (Bool.not_eq_true _ ▸ noFeed)]
    simp only [List.filter_cons, ih]
  | case3 c cs room ih => simp only [List.filter_cons, ih]

theorem Base64.decode?_encodeLines (bytes : List UInt8) :
    Base64.decode? (Base64.encodeLines bytes) = some bytes := by
  rw [Base64.encodeLines, Base64.decode?_congr (Base64.filter_wrap rfl rfl 76 _), Base64.decode?_encode]

theorem Base64.getLast?_wrap (room : Nat) (cs : List Char) : (Base64.wrap room cs).getLast? = cs.getLast? := by
  fun_induction Base64.wrap room cs with
  | case1 => rfl
  | case2 c cs ih =>
    cases cs with
    | nil => rfl
    | cons d cs => simpa [Base64.wrap] using ih
  | case3 c cs room ih =>
    cases cs with
    | nil => rfl
    | cons d cs =>
      cases room <;> simpa [Base64.wrap] using ih

theorem Base64.trimmed_encodeLines (bytes : List UInt8) :
    trimmed (Base64.encodeLines bytes) = Base64.encodeLines bytes := by
  have plain := Base64.of_mem_encode Base64.isBlank_letter (by decide) bytes
  refine trimmed_eq_self (fun c head => ?_) fun c last => ?_
  · cases form : Base64.encode bytes with
    | nil => simp [Base64.encodeLines, form, Base64.wrap] at head
    | cons d ds =>
      have same : d = c := by simpa [Base64.encodeLines, form, Base64.wrap] using head
      exact plain c (by simp [form, same])
  · rw [Base64.encodeLines, Base64.getLast?_wrap] at last
    exact plain c (List.mem_of_mem_getLast? last)

end RemoteCall
