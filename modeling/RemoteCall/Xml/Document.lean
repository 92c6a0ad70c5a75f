import RemoteCall.Xml.Element

namespace RemoteCall

theorem Xml.tagFrom_length {quote : Option Char} {passed cs inside rest : List Char}
    (found : Xml.tagFrom quote passed cs = some (inside, rest)) : rest.length ≤ cs.length := by
  induction cs generalizing quote passed with
  | nil => cases quote <;> simp [Xml.tagFrom] at found
  | cons c cs ih =>
    cases quote with
    | none =>
      rw [Xml.tagFrom] at found
      split at found
      · simp only [Option.some.injEq, Prod.mk.injEq] at found
        simp [← found.2]
      · exact Nat.le_succ_of_le (ih found)
    | some q =>
      rw [Xml.tagFrom] at found
      exact Nat.le_succ_of_le (ih found)

theorem Xml.docTypeFrom_length {depth : Nat} {passed cs inside rest : List Char}
    (found : Xml.docTypeFrom depth passed cs = some (inside, rest)) : rest.length ≤ cs.length := by
  induction cs generalizing depth passed with
  | nil => simp [Xml.docTypeFrom] at found
  | cons c cs ih =>
    rw [Xml.docTypeFrom] at found
    split at found
    · exact Nat.le_succ_of_le (ih found)
    · split at found
      · split at found
        · simp only [Option.some.injEq, Prod.mk.injEq] at found
          simp [← found.2]
        · exact Nat.le_succ_of_le (ih found)
      · exact Nat.le_succ_of_le (ih found)

theorem Xml.Event.declaration_length {cs rest : List Char} {event : Xml.Event}
    (found : Xml.Event.declaration? cs = some (event, rest)) : rest.length ≤ cs.length := by
  unfold Xml.Event.declaration? at found
  split at found
  · obtain ⟨⟨before, after⟩, cut, same⟩ := Option.map_eq_some_iff.mp found
    simp only [Prod.mk.injEq] at same
    have := splitFrom_length cut
    simp only [← same.2, List.length_cons]
    omega
  · obtain ⟨⟨before, after⟩, cut, same⟩ := Option.map_eq_some_iff.mp found
    simp only [Prod.mk.injEq] at same
    have := splitFrom_length cut
    simp only [← same.2, List.length_cons]
    omega
  · split at found
    · split at found
      · rename_i inside after cut
        have := Xml.docTypeFrom_length cut
        split at found
        · simp at found
        · simp only [Option.some.injEq, Prod.mk.injEq] at found
          simp only [← found.2]
          simp only [List.length_drop] at this
          omega
      · simp at found
    · simp at found

theorem Xml.Event.instruction_length {cs rest : List Char} {event : Xml.Event}
    (found : Xml.Event.instruction? cs = some (event, rest)) : rest.length ≤ cs.length := by
  unfold Xml.Event.instruction? at found
  split at found
  · simp at found
  · obtain ⟨⟨before, after⟩, cut, same⟩ := Option.map_eq_some_iff.mp found
    simp only [Prod.mk.injEq] at same
    exact same.2 ▸ splitFrom_length cut

/-- Every piece takes up a character at least. -/
theorem Xml.Event.next_length {c : Char} {cs rest : List Char} {event : Xml.Event}
    (found : Xml.Event.next? (c :: cs) = some (event, rest)) : rest.length < (c :: cs).length := by
  unfold Xml.Event.next? at found
  split at found
  · rename_i more same
    have := Xml.Event.declaration_length found
    simp only [same, List.length_cons]
    omega
  · rename_i more same
    have := Xml.Event.instruction_length found
    simp only [same, List.length_cons]
    omega
  · rename_i more same
    obtain ⟨⟨inside, after⟩, cut, pair⟩ := Option.map_eq_some_iff.mp found
    simp only [Prod.mk.injEq] at pair
    have := Xml.tagFrom_length cut
    simp only [same, ← pair.2, List.length_cons]
    omega
  · rename_i more _ _ _ same
    obtain ⟨⟨inside, after⟩, cut, pair⟩ := Option.map_eq_some_iff.mp found
    simp only [Prod.mk.injEq] at pair
    have := Xml.tagFrom_length cut
    simp only [same, ← pair.2, List.length_cons]
    omega
  · rename_i noTag
    have plain : c ≠ '<' := fun h => noTag cs (by rw [h])
    obtain ⟨content, _, pair⟩ := Option.map_eq_some_iff.mp found
    simp only [Prod.mk.injEq] at pair
    have shorter := (List.dropWhile_sublist (l := cs) (· != '<')).length_le
    simp only [← pair.2, List.dropWhile_cons, List.length_cons]
    simp only [bne_iff_ne, ne_eq, plain, not_false_eq_true, ↓reduceIte]
    omega

/-- Reads what is left of a document. The first problem on the way ends the reading. -/
def Xml.Partial.run (p : Xml.Partial) : List Char → Except Xml.Problem Xml.Element
  | [] => p.finish
  | c :: cs =>
    match _found : Xml.Event.next? (c :: cs) with
    | none => .error .notWellFormed
    | some (event, rest) =>
      match p.step event with
      | .error problem => .error problem
      | .ok next => next.run rest
termination_by cs => cs.length
decreasing_by exact Xml.Event.next_length _found

/-- The outermost element of a document. A byte order mark in front of it is skipped. -/
def Xml.Element.ofDocument : List Char → Except Xml.Problem Xml.Element
  | '\ufeff' :: cs => Xml.Partial.run {} cs
  | cs => Xml.Partial.run {} cs

end RemoteCall
