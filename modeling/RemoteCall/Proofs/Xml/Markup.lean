import RemoteCall.Proofs.Xml.Escape
import RemoteCall.Xml.Document

namespace RemoteCall

mutual

/-- An element written out: its text comes before its children, and no tag is abbreviated. -/
def Xml.Element.markup : Xml.Element → List Char
  | ⟨name, text, children⟩ =>
    '<' :: name.toList ++ '>' :: (Xml.escape text.toList ++ (Xml.Element.markupAll children ++
      '<' :: '/' :: name.toList ++ ['>']))

def Xml.Element.markupAll : List Xml.Element → List Char
  | [] => []
  | e :: rest => e.markup ++ Xml.Element.markupAll rest

end

mutual

/-- How many elements are open at a time while the element is read. -/
def Xml.Element.depth : Xml.Element → Nat
  | ⟨_, _, children⟩ => Xml.Element.depthOfAll children + 1

def Xml.Element.depthOfAll : List Xml.Element → Nat
  | [] => 0
  | e :: rest => max e.depth (Xml.Element.depthOfAll rest)

end

mutual

/-- All names in the element are plain. -/
def Xml.Element.Plain : Xml.Element → Prop
  | ⟨name, _, children⟩ => Xml.isPlainName name.toList = true ∧ Xml.Element.PlainAll children

def Xml.Element.PlainAll : List Xml.Element → Prop
  | [] => True
  | e :: rest => e.Plain ∧ Xml.Element.PlainAll rest

end

/-- The state of a reading after one more complete element. -/
def Xml.Partial.place (stack : List Xml.Element) (e : Xml.Element) : Xml.Partial :=
  match stack with
  | [] => { root := some e }
  | parent :: outer => { stack := { parent with children := e :: parent.children } :: outer }

theorem isBlank_of_isSpace {c : Char} (space : Xml.isSpace c = true) : isBlank c = true := by
  rcases Xml.isSpace_iff.mp space with rfl | rfl | rfl | rfl <;> decide

theorem Xml.Partial.run_of_next {p q : Xml.Partial} {c : Char} {cs rest : List Char} {event : Xml.Event}
    (next : Xml.Event.next? (c :: cs) = some (event, rest)) (step : p.step event = .ok q) :
    p.run (c :: cs) = q.run rest := by
  rw [Xml.Partial.run]
  split
  · rename_i none
    rw [next] at none
    cases none
  · rename_i event' rest' some
    rw [next] at some
    cases some
    simp only [step]

theorem Xml.Partial.run_startTag {stack : List Xml.Element} {name : String} {rest : List Char}
    (plain : Xml.isPlainName name.toList = true) (room : stack.length < Xml.maxDepth) :
    Xml.Partial.run { stack } ('<' :: name.toList ++ '>' :: rest) =
      Xml.Partial.run { stack := ⟨name, "", []⟩ :: stack } rest := by
  refine Xml.Partial.run_of_next (Xml.Event.next?_startTag plain) ?_
  rw [Xml.Partial.step, Option.isSome_none, if_neg Bool.false_ne_true, if_neg (Nat.not_le.mpr room),
    String.ofList_toList]
  rfl

theorem Xml.Partial.run_text {e : Xml.Element} {outer : List Xml.Element} {cs rest : List Char} :
    Xml.Partial.run { stack := e :: outer } (Xml.escape cs ++ '<' :: rest) =
      Xml.Partial.run { stack := { e with text := e.text ++ String.ofList cs } :: outer } ('<' :: rest) := by
  by_cases empty : cs = []
  · rw [empty, String.ofList_nil, String.append_empty, Xml.escape, List.flatMap_nil, List.nil_append]
    cases e
    rfl
  · have next := Xml.Event.next?_text empty rest
    have some : Xml.escape cs ≠ [] := fun none => empty (Xml.escape_eq_nil_iff.mp none)
    obtain ⟨c, more, form⟩ := List.exists_cons_of_ne_nil some
    rw [form] at next ⊢
    exact Xml.Partial.run_of_next next rfl

theorem Xml.Partial.run_endTag (e : Xml.Element) (outer : List Xml.Element) (rest : List Char)
    (plain : Xml.isPlainName e.name.toList = true) :
    Xml.Partial.run { stack := e :: outer } ('<' :: '/' :: e.name.toList ++ '>' :: rest) =
      (Xml.Partial.place outer { e with children := e.children.reverse }).run rest := by
  refine Xml.Partial.run_of_next (Xml.Event.next?_endTag plain) ?_
  simp only [Xml.Partial.step, String.ofList_toList, if_true, Xml.Partial.close]
  cases outer with
  | nil => rfl
  | cons parent rest => rfl

theorem Xml.Element.exists_markupAll_append (es : List Xml.Element) (rest : List Char) :
    ∃ more, Xml.Element.markupAll es ++ '<' :: rest = '<' :: more := by
  cases es with
  | nil => exact ⟨rest, rfl⟩
  | cons e es =>
    obtain ⟨name, text, children⟩ := e
    exact ⟨_, by rw [Xml.Element.markupAll, Xml.Element.markup, List.cons_append, List.cons_append]; rfl⟩

mutual

/-- Reading a written element puts it where the reading has come to, whatever follows it. -/
theorem Xml.Partial.run_markup : ∀ (e : Xml.Element) {stack : List Xml.Element} {rest : List Char}, e.Plain →
    stack.length + e.depth ≤ Xml.maxDepth →
    Xml.Partial.run { stack } (e.markup ++ rest) = (Xml.Partial.place stack e).run rest
  | ⟨name, text, children⟩, stack, rest, plain, room => by
    obtain ⟨plainName, plainChildren⟩ := plain
    rw [Xml.Element.depth] at room
    have shape : (Xml.Element.mk name text children).markup ++ rest =
        '<' :: name.toList ++ '>' :: (Xml.escape text.toList ++ (Xml.Element.markupAll children ++
          '<' :: '/' :: name.toList ++ '>' :: rest)) := by
      simp only [Xml.Element.markup, List.append_assoc, List.cons_append, List.nil_append]
    obtain ⟨more, tag⟩ := Xml.Element.exists_markupAll_append children ('/' :: name.toList ++ '>' :: rest)
    calc Xml.Partial.run { stack } ((Xml.Element.mk name text children).markup ++ rest)
        = Xml.Partial.run { stack := ⟨name, "", []⟩ :: stack } (Xml.escape text.toList ++ '<' :: more) := by
          rw [shape, Xml.Partial.run_startTag plainName (by omega), ← tag]
          simp only [List.cons_append, List.append_assoc]
      _ = Xml.Partial.run { stack := ⟨name, text, []⟩ :: stack } ('<' :: more) := by
          rw [Xml.Partial.run_text, String.empty_append, String.ofList_toList]
      _ = Xml.Partial.run { stack := ⟨name, text, children.reverse⟩ :: stack }
            ('<' :: '/' :: name.toList ++ '>' :: rest) := by
          rw [← tag, Xml.Partial.run_markupAll children plainChildren (by omega), List.append_nil]
          rfl
      _ = (Xml.Partial.place stack ⟨name, text, children⟩).run rest := by
          rw [Xml.Partial.run_endTag ⟨name, text, children.reverse⟩ stack rest plainName, List.reverse_reverse]

/-- Elements that are read one after the other are children of the element that is open. -/
theorem Xml.Partial.run_markupAll : ∀ (es : List Xml.Element) {parent : Xml.Element}
    {outer : List Xml.Element} {rest : List Char}, Xml.Element.PlainAll es →
    outer.length + 1 + Xml.Element.depthOfAll es ≤ Xml.maxDepth →
    Xml.Partial.run { stack := parent :: outer } (Xml.Element.markupAll es ++ rest) =
      Xml.Partial.run { stack := { parent with children := es.reverse ++ parent.children } :: outer } rest
  | [], parent, outer, rest, _, _ => by
    rw [Xml.Element.markupAll, List.nil_append, List.reverse_nil, List.nil_append]
    cases parent
    rfl
  | e :: es, parent, outer, rest, plain, room => by
    rw [Xml.Element.depthOfAll] at room
    have first : (parent :: outer).length + e.depth ≤ Xml.maxDepth := by
      rw [List.length_cons]
      omega
    have others : outer.length + 1 + Xml.Element.depthOfAll es ≤ Xml.maxDepth := by omega
    rw [Xml.Element.markupAll, List.append_assoc, Xml.Partial.run_markup e plain.1 first]
    simp only [Xml.Partial.place]
    rw [Xml.Partial.run_markupAll es plain.2 others, List.reverse_cons, List.append_assoc, List.singleton_append]

end

/-- What stands in front of a document. -/
def Xml.declaration : List Char := "<?xml version=\"1.0\" encoding=\"UTF-8\"?>".toList

theorem Xml.Event.next?_declaration (rest : List Char) :
    Xml.Event.next? (Xml.declaration ++ rest) = some (.ignored, rest) :=
  rfl

theorem Xml.Partial.run_document {e : Xml.Element} (plain : e.Plain) (depth : e.depth ≤ Xml.maxDepth) :
    Xml.Partial.run {} e.markup = .ok e := by
  have room : ([] : List Xml.Element).length + e.depth ≤ Xml.maxDepth := by simpa using depth
  have read : Xml.Partial.run {} (e.markup ++ []) = (Xml.Partial.place [] e).run [] :=
    Xml.Partial.run_markup e plain room
  rw [List.append_nil] at read
  rw [read, Xml.Partial.place, Xml.Partial.run]
  rfl

/-- A written element is the outermost element of its document, with a declaration or without. -/
theorem Xml.Element.ofDocument_markup {e : Xml.Element} (plain : e.Plain) (depth : e.depth ≤ Xml.maxDepth) :
    Xml.Element.ofDocument e.markup = .ok e ∧
      Xml.Element.ofDocument (Xml.declaration ++ e.markup) = .ok e := by
  have bare := Xml.Partial.run_document plain depth
  constructor
  · obtain ⟨name, text, children⟩ := e
    exact bare
  · have skipped : Xml.Partial.run {} (Xml.declaration ++ e.markup) = Xml.Partial.run {} e.markup :=
      Xml.Partial.run_of_next (Xml.Event.next?_declaration e.markup) rfl
    exact skipped.trans bare

end RemoteCall
