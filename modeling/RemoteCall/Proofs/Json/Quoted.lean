import RemoteCall.Proofs.Json.Number

namespace RemoteCall

theorem Json.unit?_control : ∀ n < 32, ∀ rest : List Char,
    Json.unit? ('0' :: '0' :: Nat.digitChar (n / 16) :: Nat.digitChar (n % 16) :: rest) = some (n, rest) := by
  have digits : ∀ n < 32, Digits.hex? ['0', '0', Nat.digitChar (n / 16), Nat.digitChar (n % 16)] = some n := by
    decide
  intro n small rest
  rw [Json.unit?, digits n small, Option.map_some]

/-- Each character is read from its escape. -/
theorem Json.char?_escapeChar (c : Char) (rest : List Char) :
    Json.char? (Json.escapeChar c ++ rest) = some (c, rest) := by
  unfold Json.escapeChar
  split
  · rfl
  · rfl
  · rfl
  · rfl
  · rfl
  · rfl
  · rfl
  · rename_i noQuote noBackslash _ _ _ _ _
    split
    · rename_i control
      simp only [List.cons_append, List.nil_append, Json.char?, Json.numbered?, Json.unit?_control _ control]
      rw [if_pos (Or.inl (by omega)), Char.ofNat_toNat]
    · rename_i plain
      have form : Json.char? (c :: rest) =
          if c.toNat < 0x20 ∨ c = '\\' then none else some (c, rest) := by
        unfold Json.char?
        split
        · rename_i same
          cases same
        · rename_i same
          exact absurd (List.cons.inj same).1 noBackslash
        · rename_i same
          exact absurd (List.cons.inj same).1 noBackslash
        · rename_i same
          cases same
          rfl
      rw [List.singleton_append, form, if_neg (not_or.mpr ⟨plain, noBackslash⟩)]

/-- No escape begins with a quote, which would end the string. -/
theorem Json.escapeChar_eq_cons (c : Char) : ∃ d ds, Json.escapeChar c = d :: ds ∧ d ≠ '"' := by
  unfold Json.escapeChar
  split
  · exact ⟨_, _, rfl, by decide⟩
  · exact ⟨_, _, rfl, by decide⟩
  · exact ⟨_, _, rfl, by decide⟩
  · exact ⟨_, _, rfl, by decide⟩
  · exact ⟨_, _, rfl, by decide⟩
  · exact ⟨_, _, rfl, by decide⟩
  · exact ⟨_, _, rfl, by decide⟩
  · rename_i noQuote _ _ _ _ _ _
    split
    · exact ⟨_, _, rfl, by decide⟩
    · exact ⟨c, [], rfl, noQuote⟩

theorem Json.stringFrom_of_char? {cs rest done : List Char} {c : Char} (noQuote : ∀ d ∈ cs.head?, d ≠ '"')
    (found : Json.char? cs = some (c, rest)) : Json.stringFrom done cs = Json.stringFrom (c :: done) rest := by
  cases cs with
  | nil => cases found
  | cons d cs =>
    rw [Json.stringFrom, if_neg (noQuote d rfl)]
    split
    · rename_i none
      rw [none] at found
      cases found
    · rename_i other
      rw [other] at found
      cases found
      rfl

theorem Json.stringFrom_escape (done cs rest : List Char) :
    Json.stringFrom done (cs.flatMap Json.escapeChar ++ '"' :: rest) =
      some (String.ofList (done.reverse ++ cs), rest) := by
  induction cs generalizing done with
  | nil => rw [List.flatMap_nil, List.nil_append, Json.stringFrom, if_pos rfl, List.append_nil]
  | cons c cs ih =>
    obtain ⟨d, ds, form, noQuote⟩ := Json.escapeChar_eq_cons c
    rw [List.flatMap_cons, List.append_assoc, Json.stringFrom_of_char? ?_ (Json.char?_escapeChar c _), ih,
      List.reverse_cons, List.append_assoc, List.singleton_append]
    intro e head
    rw [form] at head
    cases head
    exact noQuote

theorem Json.quote_append (s : String) (rest : List Char) :
    Json.quote s ++ rest = '"' :: (s.toList.flatMap Json.escapeChar ++ '"' :: rest) := by
  rw [Json.quote, List.cons_append, List.cons_append, List.append_assoc, List.singleton_append]

theorem Json.stringFrom_quote (s : String) (rest : List Char) :
    Json.stringFrom [] (s.toList.flatMap Json.escapeChar ++ '"' :: rest) = some (s, rest) := by
  rw [Json.stringFrom_escape, List.reverse_nil, List.nil_append, String.ofList_toList]

/-- Every string is read from its quoted form. -/
theorem Json.quoted?_quote (s : String) (rest : List Char) : Json.quoted? (Json.quote s ++ rest) = some (s, rest) := by
  rw [Json.quote_append, Json.quoted?, Json.skipSpace_cons (by decide)]
  exact Json.stringFrom_quote s rest

end RemoteCall
