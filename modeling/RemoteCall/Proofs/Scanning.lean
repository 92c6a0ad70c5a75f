import Mathlib.Data.List.DropRight
import Mathlib.Data.List.TakeWhile
import RemoteCall.Text.Split

namespace RemoteCall

variable {α : Type} {p : α → Bool} {front rest : List α}

theorem not_first (stop : ∀ a ∈ rest.head?, p a = false) (inside : 0 < rest.length) : ¬p rest[0] :=
  Bool.not_eq_true _ ▸ stop rest[0] (List.head?_eq_getElem? ▸ List.getElem?_eq_getElem inside)

/-- A scan takes all in front that passes, if what follows begins with something that does not. -/
theorem takeWhile_front (inside : ∀ a ∈ front, p a = true) (stop : ∀ a ∈ rest.head?, p a = false) :
    (front ++ rest).takeWhile p = front := by
  rw [List.takeWhile_append_of_pos inside, List.takeWhile_eq_nil_iff.mpr (not_first stop), List.append_nil]

theorem dropWhile_front (inside : ∀ a ∈ front, p a = true) (stop : ∀ a ∈ rest.head?, p a = false) :
    (front ++ rest).dropWhile p = rest := by
  rw [List.dropWhile_append_of_pos inside, List.dropWhile_eq_self_iff.mpr (not_first stop)]

/-- What is stripped from the two ends of a list. -/
theorem exists_stripped (p : α → Bool) (as : List α) :
    ∃ front back, as = front ++ (((as.dropWhile p).reverse.dropWhile p).reverse ++ back) ∧
      (∀ a ∈ front, p a = true) ∧ ∀ a ∈ back, p a = true := by
  have inner : ((as.dropWhile p).reverse.dropWhile p).reverse ++ (as.dropWhile p).rtakeWhile p = as.dropWhile p :=
    List.rdropWhile_append_rtakeWhile
  refine ⟨as.takeWhile p, (as.dropWhile p).rtakeWhile p, ?_, fun a member => List.mem_takeWhile_imp member,
    fun a member => List.mem_rtakeWhile_imp member⟩
  rw [inner, List.takeWhile_append_dropWhile]

/-- Cutting a text into pieces makes no characters. -/
theorem mem_of_mem_pieces {separates : Char → Bool} {cs part : List Char} {c : Char}
    (inPart : part ∈ pieces separates cs) (member : c ∈ part) : c ∈ cs := by
  induction cs generalizing part with
  | nil =>
    rw [List.mem_singleton.mp inPart] at member
    cases member
  | cons d cs ih =>
    rw [pieces, List.foldr_cons, ← pieces] at inPart
    split at inPart
    · rcases List.mem_cons.mp inPart with rfl | later
      · cases member
      · exact List.mem_cons_of_mem d (ih later member)
    · split at inPart
      · rw [List.mem_singleton.mp inPart, List.mem_singleton] at member
        exact member ▸ List.mem_cons_self ..
      · rename_i first rest same
        rcases List.mem_cons.mp inPart with rfl | later
        · rcases List.mem_cons.mp member with rfl | inFirst
          · exact List.mem_cons_self ..
          · exact List.mem_cons_of_mem d (ih (same ▸ List.mem_cons_self ..) inFirst)
        · exact List.mem_cons_of_mem d (ih (same ▸ List.mem_cons_of_mem first later) member)

/-- Parts put together have the characters of the parts and of what stands between them. -/
theorem mem_of_mem_intercalate {between : List α} {parts : List (List α)} {a : α}
    (member : a ∈ between.intercalate parts) : a ∈ between ∨ ∃ part ∈ parts, a ∈ part := by
  induction parts with
  | nil => cases member
  | cons first parts ih =>
    cases parts with
    | nil =>
      rw [List.intercalate_singleton] at member
      exact Or.inr ⟨first, List.mem_singleton_self first, member⟩
    | cons second parts =>
      rw [List.intercalate_cons_cons, List.mem_append, List.mem_append] at member
      obtain (inFirst | inBetween) | inRest := member
      · exact Or.inr ⟨first, List.mem_cons_self .., inFirst⟩
      · exact Or.inl inBetween
      · obtain inBetween | ⟨part, inParts, inside⟩ := ih inRest
        · exact Or.inl inBetween
        · exact Or.inr ⟨part, List.mem_cons_of_mem first inParts, inside⟩

end RemoteCall
