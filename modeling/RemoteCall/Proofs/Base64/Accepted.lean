import RemoteCall.Proofs.Base64

namespace RemoteCall

/-- A character of the alphabet stands for six bits that it is the letter of. -/
theorem Base64.letter_of_sextet? {c : Char} {n : Nat} (read : Base64.sextet? c = some n) :
    n < 64 ∧ Base64.letter n = c := by
  unfold Base64.sextet? at read
  split at read
  · rename_i upper
    have bounds : 65 ≤ c.toNat ∧ c.toNat ≤ 90 := upper
    cases read
    have small : c.toNat - 65 < 26 := by omega
    have code : 65 + (c.toNat - 65) = c.toNat := by omega
    exact ⟨by omega, by rw [Base64.letter, if_pos small, code, Char.ofNat_toNat]⟩
  · split at read
    · rename_i lower
      have bounds : 97 ≤ c.toNat ∧ c.toNat ≤ 122 := lower
      cases read
      have code : 71 + (c.toNat - 71) = c.toNat := by omega
      exact ⟨by omega, by rw [Base64.letter, if_neg (by omega), if_pos (by omega), code, Char.ofNat_toNat]⟩
    · split at read
      · rename_i digit
        have bounds : 48 ≤ c.toNat ∧ c.toNat ≤ 57 := digit
        cases read
        have code : c.toNat + 4 - 4 = c.toNat := by omega
        exact ⟨by omega, by
          rw [Base64.letter, if_neg (by omega), if_neg (by omega), if_pos (by omega), code, Char.ofNat_toNat]⟩
      · split at read
        · rename_i plus
          cases read
          exact ⟨by decide, plus.symm⟩
        · split at read
          · rename_i slash
            cases read
            exact ⟨by decide, slash.symm⟩
          · cases read

theorem Base64.mapM_sextet?_eq_some {cs : List Char} {ns : List Nat} (read : cs.mapM Base64.sextet? = some ns) :
    (∀ n ∈ ns, n < 64) ∧ ns.map Base64.letter = cs := by
  induction cs generalizing ns with
  | nil =>
    cases read
    exact ⟨nofun, rfl⟩
  | cons c cs ih =>
    rw [List.mapM_cons, Option.bind_eq_bind, Option.bind_eq_some_iff] at read
    obtain ⟨n, first, rest⟩ := read
    rw [Option.bind_eq_bind, Option.bind_eq_some_iff] at rest
    obtain ⟨others, later, same⟩ := rest
    cases same
    obtain ⟨small, letters⟩ := ih later
    obtain ⟨bound, letter⟩ := Base64.letter_of_sextet? first
    exact ⟨List.forall_mem_cons.mpr ⟨bound, small⟩, by rw [List.map_cons, letter, letters]⟩

/-- Bytes are read from their own six-bit form only: the spare bits at the end have to be zero. -/
theorem Base64.sextets_of_bytes? {ns : List Nat} {bytes : List UInt8} (small : ∀ n ∈ ns, n < 64)
    (read : Base64.bytes? ns = some bytes) : Base64.sextets bytes = ns := by
  fun_induction Base64.bytes? ns generalizing bytes with
  | case1 =>
    cases read
    rfl
  | case2 => cases read
  | case3 p q spare =>
    cases read
    have p64 : p < 64 := small p (by simp)
    have q64 : q < 64 := small q (by simp)
    have byte : (UInt8.ofNat (p * 4 + q / 16)).toNat = p * 4 + q / 16 :=
      UInt8.toNat_ofNat_of_lt' (show _ < 256 by omega)
    simp only [Base64.sextets, byte, List.cons.injEq, and_true]
    omega
  | case4 => cases read
  | case5 p q r spare =>
    cases read
    have p64 : p < 64 := small p (by simp)
    have q64 : q < 64 := small q (by simp)
    have r64 : r < 64 := small r (by simp)
    have first : (UInt8.ofNat (p * 4 + q / 16)).toNat = p * 4 + q / 16 :=
      UInt8.toNat_ofNat_of_lt' (show _ < 256 by omega)
    have second : (UInt8.ofNat (q % 16 * 16 + r / 4)).toNat = q % 16 * 16 + r / 4 :=
      UInt8.toNat_ofNat_of_lt' (show _ < 256 by omega)
    simp only [Base64.sextets, first, second, List.cons.injEq, and_true]
    omega
  | case6 => cases read
  | case7 p q r s rest ih =>
    obtain ⟨others, later, same⟩ := Option.map_eq_some_iff.mp read
    subst same
    have p64 : p < 64 := small p (by simp)
    have q64 : q < 64 := small q (by simp)
    have r64 : r < 64 := small r (by simp)
    have s64 : s < 64 := small s (by simp)
    have first : (UInt8.ofNat (p * 4 + q / 16)).toNat = p * 4 + q / 16 :=
      UInt8.toNat_ofNat_of_lt' (show _ < 256 by omega)
    have second : (UInt8.ofNat (q % 16 * 16 + r / 4)).toNat = q % 16 * 16 + r / 4 :=
      UInt8.toNat_ofNat_of_lt' (show _ < 256 by omega)
    have third : (UInt8.ofNat (r % 4 * 64 + s)).toNat = r % 4 * 64 + s :=
      UInt8.toNat_ofNat_of_lt' (show _ < 256 by omega)
    have inner := ih (fun n member => small n (by simp [member])) later
    simp only [Base64.sextets, first, second, third, inner, List.cons.injEq, and_true]
    omega

/-- The written form is the letters and all of the `=` that there is room for. -/
theorem Base64.unpadded_encode (bytes : List UInt8) :
    Base64.unpadded (Base64.encode bytes) = Base64.bare bytes ∧
      Base64.fill (Base64.encode bytes) = Base64.padding (Base64.bare bytes).length :=
  Base64.unpadded_letters (Base64.of_mem_bare (p := (· == '=')) Base64.letter_ne_fill bytes) _

/-- What is read as bytes is their written form, but for white space and for `=` missing at its end. -/
theorem Base64.decode?_eq_some_iff {text : List Char} {bytes : List UInt8} :
    Base64.decode? text = some bytes ↔ ∃ fill ≤ Base64.fill (Base64.encode bytes),
      Base64.compact text = Base64.unpadded (Base64.encode bytes) ++ List.replicate fill '=' := by
  obtain ⟨bare, room⟩ := Base64.unpadded_encode bytes
  rw [bare, room]
  constructor
  · intro read
    rw [Base64.decode?_eq] at read
    split at read
    · rename_i fits
      obtain ⟨ns, letters, read⟩ := Option.bind_eq_some_iff.mp read
      obtain ⟨small, letters⟩ := Base64.mapM_sextet?_eq_some letters
      have same : Base64.unpadded (Base64.compact text) = Base64.bare bytes := by
        rw [Base64.bare, Base64.sextets_of_bytes? small read, letters]
      exact ⟨Base64.fill (Base64.compact text), same ▸ fits, same ▸ (Base64.unpadded_append_fill _).symm⟩
    · cases read
  · rintro ⟨fill, fits, form⟩
    exact Base64.decode?_letters fits form

/-- What ends every line but the last. -/
def Base64.lineBreak : List Char :=
  ['\r', '\n']

/-- A text cut into lines: all but the last are full, and the last is not empty. The empty text has no lines. -/
inductive Base64.Cut : List Char → List (List Char) → Prop
  | empty : Base64.Cut [] []
  | last {line : List Char} : line ≠ [] → line.length ≤ 76 → Base64.Cut line [line]
  | full {line rest : List Char} {lines : List (List Char)} : line.length = 76 → rest ≠ [] → Base64.Cut rest lines →
      Base64.Cut (line ++ rest) (line :: lines)

theorem Base64.Cut.ne_nil {text : List Char} {lines : List (List Char)} (cut : Base64.Cut text lines)
    (some : text ≠ []) : lines ≠ [] := by
  cases cut with
  | empty => exact absurd rfl some
  | last | full => exact List.cons_ne_nil _ _

theorem Base64.wrap_eq (room : Nat) (cs : List Char) :
    Base64.wrap room cs =
      cs.take room ++ if cs.length ≤ room then [] else Base64.lineBreak ++ Base64.wrap 76 (cs.drop room) := by
  fun_induction Base64.wrap room cs with
  | case1 => simp
  | case2 c cs ih =>
    simp [Base64.wrap, Base64.lineBreak]
  | case3 c cs room ih =>
    rw [ih]
    simp

theorem Base64.exists_cut (cs : List Char) :
    ∃ lines, Base64.Cut cs lines ∧ Base64.wrap 76 cs = Base64.lineBreak.intercalate lines := by
  induction length : cs.length using Nat.strongRecOn generalizing cs with
  | ind n ih =>
    by_cases short : cs.length ≤ 76
    · rw [Base64.wrap_eq, if_pos short, List.append_nil, List.take_of_length_le short]
      by_cases nothing : cs = []
      · subst nothing
        exact ⟨[], .empty, rfl⟩
      · exact ⟨[cs], .last nothing short, List.intercalate_singleton.symm⟩
    · have rest : cs.drop 76 ≠ [] := by simpa using short
      obtain ⟨lines, cut, wrapped⟩ := ih (cs.drop 76).length (by rw [List.length_drop]; omega) (cs.drop 76) rfl
      have full : (cs.take 76).length = 76 := List.length_take_of_le (by omega)
      refine ⟨cs.take 76 :: lines, ?_, ?_⟩
      · have whole := Base64.Cut.full full rest cut
        rwa [List.take_append_drop] at whole
      · rw [Base64.wrap_eq, if_neg short, wrapped, List.intercalate_cons_of_ne_nil (cut.ne_nil rest), List.append_assoc]

theorem Base64.head?_wrap (room : Nat) (cs : List Char) : (Base64.wrap (room + 1) cs).head? = cs.head? := by
  cases cs <;> rfl

/-- No line break is written at the start or at the end. -/
theorem Base64.lineBreak_inside {cs : List Char} (plain : ∀ c ∈ cs, c ∉ Base64.lineBreak) :
    ¬Base64.lineBreak <+: Base64.wrap 76 cs ∧ ¬Base64.lineBreak <:+ Base64.wrap 76 cs := by
  refine ⟨?_, ?_⟩
  · rintro ⟨rest, whole⟩
    have first : cs.head? = some '\r' := by
      rw [← Base64.head?_wrap 75, ← whole]
      rfl
    exact plain _ (List.mem_of_mem_head? first) (by decide)
  · rintro ⟨rest, whole⟩
    have last : cs.getLast? = some '\n' := by
      rw [← Base64.getLast?_wrap 76, ← whole, Base64.lineBreak, List.getLast?_append]
      rfl
    exact plain _ (List.mem_of_mem_getLast? last) (by decide)

/-- A text is read as bytes exactly if it is their written form, white space apart, with some or all of the `=` at the
end. So the written form is read as its bytes, on one line or on many, and texts that are read as the same bytes are
the same but for white space and `=`. Lines are full but for the last, and there is no line break at either end. -/
theorem Base64.accepts_written_form (bytes : List UInt8) :
    (∀ text, Base64.decode? text = some bytes ↔ ∃ fill ≤ Base64.fill (Base64.encode bytes),
      Base64.compact text = Base64.unpadded (Base64.encode bytes) ++ List.replicate fill '=') ∧
    Base64.decode? (Base64.encode bytes) = some bytes ∧ Base64.decode? (Base64.encodeLines bytes) = some bytes ∧
    (∀ s t, Base64.decode? s = some bytes → Base64.decode? t = some bytes →
      Base64.unpadded (Base64.compact s) = Base64.unpadded (Base64.compact t)) ∧
    (∃ lines, Base64.Cut (Base64.encode bytes) lines ∧
      Base64.encodeLines bytes = Base64.lineBreak.intercalate lines) ∧
    (∀ c ∈ Base64.encode bytes, c ∉ Base64.lineBreak) ∧
    ¬Base64.lineBreak <+: Base64.encodeLines bytes ∧ ¬Base64.lineBreak <:+ Base64.encodeLines bytes := by
  have noFill := Base64.of_mem_bare (p := (· == '=')) Base64.letter_ne_fill bytes
  have letters {text : List Char} (read : Base64.decode? text = some bytes) :
      Base64.unpadded (Base64.compact text) = Base64.bare bytes := by
    obtain ⟨fill, -, form⟩ := Base64.decode?_eq_some_iff.mp read
    rw [form, (Base64.unpadded_encode bytes).1, (Base64.unpadded_letters noFill fill).1]
  have plain : ∀ c ∈ Base64.encode bytes, c ∉ Base64.lineBreak := fun c member =>
    of_decide_eq_false
      (Base64.of_mem_encode (p := (decide <| · ∈ Base64.lineBreak)) (by decide) (by decide) bytes c member)
  exact ⟨fun text => Base64.decode?_eq_some_iff, Base64.decode?_encode bytes, Base64.decode?_encodeLines bytes,
    fun s t first second => (letters first).trans (letters second).symm, Base64.exists_cut _, plain,
    Base64.lineBreak_inside plain⟩

/-- White space stands anywhere, and one of two `=` is missing. -/
theorem Base64.accepts_written_form_partly_filled :
    Base64.decode? " Zm9v\r\nYg\t= ".toList = some [102, 111, 111, 98] ∧
    Base64.unpadded (Base64.compact " Zm9v\r\nYg\t= ".toList) =
      Base64.unpadded (Base64.compact (Base64.encode [102, 111, 111, 98])) := by
  obtain ⟨accepted, encoded, -, same, -⟩ := Base64.accepts_written_form [102, 111, 111, 98]
  have read := (accepted " Zm9v\r\nYg\t= ".toList).mpr ⟨1, by decide, by decide⟩
  exact ⟨read, same _ _ read encoded⟩

end RemoteCall
