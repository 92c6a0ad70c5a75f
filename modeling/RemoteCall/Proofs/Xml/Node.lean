import RemoteCall.Proofs.Xml.Markup

namespace RemoteCall

/-- A mark whose last character is in no other place of it does not reach into another one. -/
theorem prefix_of_prefix_append {start body rest : List Char} {last : Char} (once : last ∉ start) (nonempty : body ≠ [])
    (front : start ++ [last] <+: body ++ (start ++ [last] ++ rest)) : start ++ [last] <+: body := by
  rcases List.prefix_or_prefix_of_prefix front (List.prefix_append body _) with inside | ⟨t, whole⟩
  · exact inside
  · have front : body ++ t <+: body ++ (start ++ [last] ++ rest) := by rwa [whole]
    rcases List.eq_nil_or_concat t with rfl | ⟨t', x, rfl⟩
    · exact ⟨[], by rw [List.append_nil, ← whole, List.append_nil]⟩
    · rw [List.concat_eq_append] at whole front
      rw [← List.append_assoc] at whole
      obtain ⟨same, ends⟩ := List.append_inj' whole rfl
      have short : (t' ++ [x]).length ≤ start.length := by
        have := List.length_pos_iff.mpr nonempty
        simp only [← same, List.length_append, List.length_singleton]
        omega
      rw [List.prefix_append_right_inj, List.append_assoc] at front
      have inStart := List.prefix_of_prefix_length_le front (List.prefix_append _ _) short
      have member : x ∈ start := inStart.subset (by simp)
      exact absurd (List.head_eq_of_cons_eq ends ▸ member) once

/-- The first occurrence of a mark is where it was put, if it does not stand in the text before it and its last
character is in no other place of it. -/
theorem splitFrom_mark {start : List Char} {last : Char} (once : last ∉ start) {body : List Char}
    (absent : ¬start ++ [last] <:+: body) (passed rest : List Char) :
    splitFrom (start ++ [last]) passed (body ++ (start ++ [last] ++ rest)) = some (passed.reverse ++ body, rest) := by
  induction body generalizing passed with
  | nil =>
    have some : start ++ [last] ≠ [] := by simp
    obtain ⟨c, cs, form⟩ := List.exists_cons_of_ne_nil some
    have here : (start ++ [last]).isPrefixOf (start ++ [last] ++ rest) = true :=
      List.isPrefixOf_iff_prefix.mpr (List.prefix_append _ _)
    rw [List.nil_append, List.append_nil]
    rw [form, List.cons_append] at here ⊢
    rw [splitFrom, if_pos here, ← List.cons_append, List.drop_left]
  | cons c body ih =>
    have later : ¬(start ++ [last]).isPrefixOf (c :: body ++ (start ++ [last] ++ rest)) = true := fun found =>
      absent (prefix_of_prefix_append once (List.cons_ne_nil c body) (List.isPrefixOf_iff_prefix.mp found)).isInfix
    rw [List.cons_append] at later ⊢
    rw [splitFrom, if_neg later, ih (fun inside => absent (inside.trans (List.suffix_cons c body).isInfix)),
      List.reverse_cons, List.append_assoc, List.singleton_append]

/-- A piece of what stands between two tags: text in its escaped form, text between the marks of a run of plain
characters, or a comment, which is no text at all. -/
inductive Xml.Piece where
  | escaped (cs : List Char)
  | characters (cs : List Char)
  | comment (body : List Char)

def Xml.Piece.markup : Xml.Piece → List Char
  | .escaped cs => Xml.escape cs
  | .characters cs => '<' :: '!' :: '[' :: 'C' :: 'D' :: 'A' :: 'T' :: 'A' :: '[' :: (cs ++ [']', ']', '>'])
  | .comment body => '<' :: '!' :: '-' :: '-' :: (body ++ ['-', '-', '>'])

def Xml.Piece.content : Xml.Piece → List Char
  | .escaped cs => cs
  | .characters cs => cs
  | .comment _ => []

/-- The mark at the end of a piece does not stand inside it. -/
def Xml.Piece.Sound : Xml.Piece → Prop
  | .escaped _ => True
  | .characters cs => ¬[']', ']', '>'] <:+: cs
  | .comment body => ¬['-', '-', '>'] <:+: body

/-- A part of a document. An element with nothing in it may be written as one tag, with white space behind the name. -/
inductive Xml.Node where
  | piece (p : Xml.Piece)
  | empty (name : String) (space : List Char)
  | element (name : String) (content : List Xml.Node)

mutual

def Xml.Node.markup : Xml.Node → List Char
  | .piece p => p.markup
  | .empty name space => '<' :: name.toList ++ (space ++ ['/', '>'])
  | .element name content =>
    '<' :: name.toList ++ '>' :: (Xml.Node.markupAll content ++ '<' :: '/' :: name.toList ++ ['>'])

def Xml.Node.markupAll : List Xml.Node → List Char
  | [] => []
  | node :: rest => node.markup ++ Xml.Node.markupAll rest

end

/-- The text directly in parts of a document. -/
def Xml.Node.textAll : List Xml.Node → List Char
  | [] => []
  | .piece p :: rest => p.content ++ Xml.Node.textAll rest
  | _ :: rest => Xml.Node.textAll rest

mutual

/-- The element that a part of a document is, if it is one. -/
def Xml.Node.elements : Xml.Node → List Xml.Element
  | .piece _ => []
  | .empty name _ => [⟨name, "", []⟩]
  | .element name content => [⟨name, String.ofList (Xml.Node.textAll content), Xml.Node.elementsAll content⟩]

def Xml.Node.elementsAll : List Xml.Node → List Xml.Element
  | [] => []
  | node :: rest => node.elements ++ Xml.Node.elementsAll rest

end

mutual

/-- All pieces in a part of a document are sound, and nothing but white space is behind the names of empty elements. -/
def Xml.Node.Sound : Xml.Node → Prop
  | .piece p => p.Sound
  | .empty _ space => ∀ c ∈ space, Xml.isSpace c = true
  | .element _ content => Xml.Node.SoundAll content

def Xml.Node.SoundAll : List Xml.Node → Prop
  | [] => True
  | node :: rest => node.Sound ∧ Xml.Node.SoundAll rest

end

instance : DecidablePred Xml.Piece.Sound
  | .escaped _ => isTrue trivial
  | .characters cs => inferInstanceAs (Decidable ¬[']', ']', '>'] <:+: cs)
  | .comment body => inferInstanceAs (Decidable ¬['-', '-', '>'] <:+: body)

mutual

def Xml.Node.decideSound : (node : Xml.Node) → Decidable node.Sound
  | .piece p => inferInstanceAs (Decidable p.Sound)
  | .empty _ space => List.decidableBAll (fun c => Xml.isSpace c = true) space
  | .element _ content => Xml.Node.decideSoundAll content

def Xml.Node.decideSoundAll : (nodes : List Xml.Node) → Decidable (Xml.Node.SoundAll nodes)
  | [] => isTrue trivial
  | node :: rest => @instDecidableAnd _ _ node.decideSound (Xml.Node.decideSoundAll rest)

end

instance : DecidablePred Xml.Node.Sound :=
  Xml.Node.decideSound

theorem Xml.Event.next?_comment {body : List Char} (sound : (Xml.Piece.comment body).Sound) (rest : List Char) :
    Xml.Event.next? ((Xml.Piece.comment body).markup ++ rest) = some (.ignored, rest) := by
  have once : '>' ∉ ['-', '-'] := by decide
  have split := splitFrom_mark once sound [] rest
  have mark : "-->".toList = ['-', '-'] ++ ['>'] := by decide
  simp only [Xml.Piece.markup, List.cons_append, List.append_assoc, Xml.Event.next?, Xml.Event.declaration?, splitAt?,
    mark]
  simp only [List.cons_append, List.nil_append] at split ⊢
  rw [split, Option.map_some]

theorem Xml.Event.next?_characters {cs : List Char} (sound : (Xml.Piece.characters cs).Sound) (rest : List Char) :
    Xml.Event.next? ((Xml.Piece.characters cs).markup ++ rest) = some (.characters cs, rest) := by
  have once : '>' ∉ [']', ']'] := by decide
  have split := splitFrom_mark once sound [] rest
  have mark : "]]>".toList = [']', ']'] ++ ['>'] := by decide
  simp only [Xml.Piece.markup, List.cons_append, List.append_assoc, Xml.Event.next?, Xml.Event.declaration?, splitAt?,
    mark]
  simp only [List.cons_append, List.nil_append] at split ⊢
  rw [split, Option.map_some, List.reverse_nil, List.nil_append]

theorem Xml.Event.ofStartTag_empty {name space : List Char} (plain : Xml.isPlainName name = true)
    (blank : ∀ c ∈ space, Xml.isSpace c = true) :
    Xml.Event.ofStartTag (name ++ (space ++ ['/'])) = .start (String.ofList name) true := by
  obtain ⟨_, letters⟩ := Xml.isPlainName_iff.mp plain
  have visible : ∀ c ∈ name, (!Xml.isSpace c) = true := fun c member => by
    rw [Xml.isSpace_of_plain (letters c member), Bool.not_false]
  have stop : ∀ c ∈ space.head?, (!Xml.isSpace c) = false := fun c head => by
    rw [blank c (List.mem_of_mem_head? head), Bool.not_true]
  have all := takeWhile_front visible stop
  have shape : (name ++ (space ++ ['/'])).reverse = '/' :: (name ++ space).reverse := by
    rw [← List.append_assoc, List.reverse_append, List.reverse_singleton, List.singleton_append]
  simp only [Xml.Event.ofStartTag, shape, List.reverse_reverse, all]

theorem Xml.Event.next?_emptyTag {name space : List Char} (plain : Xml.isPlainName name = true)
    (blank : ∀ c ∈ space, Xml.isSpace c = true) (rest : List Char) :
    Xml.Event.next? ('<' :: name ++ (space ++ '/' :: '>' :: rest)) = some (.start (String.ofList name) true, rest) := by
  obtain ⟨nonempty, letters⟩ := Xml.isPlainName_iff.mp plain
  obtain ⟨c, cs, form⟩ := List.exists_cons_of_ne_nil nonempty
  have first : (c.isAlphanum || c == '.') = true := letters c (by simp [form])
  have inside : ∀ d ∈ name ++ (space ++ ['/']), d ≠ '>' ∧ d ≠ '\'' ∧ d ≠ '"' := by
    intro d member
    rcases List.mem_append.mp member with letter | behind
    · have plainLetter := letters d letter
      exact ⟨Xml.plain_ne plainLetter (by decide), Xml.plain_ne plainLetter (by decide),
        Xml.plain_ne plainLetter (by decide)⟩
    · rcases List.mem_append.mp behind with white | slash
      · rcases Xml.isSpace_iff.mp (blank d white) with rfl | rfl | rfl | rfl <;> decide
      · rw [List.mem_singleton.mp slash]
        decide
  have read : Xml.tagFrom none [] (name ++ (space ++ '/' :: '>' :: rest)) = some (name ++ (space ++ ['/']), rest) := by
    have whole : Xml.tagFrom none [] (name ++ (space ++ ['/']) ++ '>' :: rest) =
      some ([].reverse ++ (name ++ (space ++ ['/'])), rest) := Xml.tagFrom_plain inside
    rwa [List.append_assoc, List.append_assoc, List.singleton_append, List.reverse_nil, List.nil_append] at whole
  have event := Xml.Event.ofStartTag_empty plain blank
  rw [form, List.cons_append] at read
  rw [List.cons_append, form, List.cons_append, Xml.Event.next?]
  · rw [read, ← form, ← event]
    rfl
  · rintro cs ⟨rfl, _⟩
    cases first
  · rintro cs ⟨rfl, _⟩
    cases first
  · rintro cs ⟨rfl, _⟩
    cases first

theorem Xml.Partial.run_emptyTag {stack : List Xml.Element} {name : String} {space rest : List Char}
    (plain : Xml.isPlainName name.toList = true) (blank : ∀ c ∈ space, Xml.isSpace c = true)
    (room : stack.length < Xml.maxDepth) :
    Xml.Partial.run { stack } ('<' :: name.toList ++ (space ++ '/' :: '>' :: rest)) =
      (Xml.Partial.place stack ⟨name, "", []⟩).run rest := by
  refine Xml.Partial.run_of_next (Xml.Event.next?_emptyTag plain blank rest) ?_
  rw [Xml.Partial.step, Option.isSome_none, if_neg Bool.false_ne_true, if_neg (Nat.not_le.mpr room),
    String.ofList_toList]
  cases stack with
  | nil => rfl
  | cons parent outer => rfl

/-- Text and plain characters are joined to what the open element has, and comments leave it as it is. -/
theorem Xml.Partial.run_piece {p : Xml.Piece} (sound : p.Sound) {e : Xml.Element} {outer : List Xml.Element}
    {rest : List Char} (marked : ∀ cs, p ≠ .escaped cs) :
    Xml.Partial.run { stack := e :: outer } (p.markup ++ rest) =
      Xml.Partial.run { stack := { e with text := e.text ++ String.ofList p.content } :: outer } rest := by
  cases p with
  | escaped cs => exact absurd rfl (marked cs)
  | characters cs => exact Xml.Partial.run_of_next (Xml.Event.next?_characters sound rest) rfl
  | comment body =>
    have same : { e with text := e.text ++ String.ofList (Xml.Piece.comment body).content } = e := by
      rw [Xml.Piece.content, String.ofList_nil, String.append_empty]
      cases e
      rfl
    rw [same]
    exact Xml.Partial.run_of_next (Xml.Event.next?_comment sound rest) rfl

theorem Xml.escape_append (cs ds : List Char) : Xml.escape (cs ++ ds) = Xml.escape cs ++ Xml.escape ds :=
  List.flatMap_append

/-- The text in front of a tag, where text has been read up to here. -/
theorem Xml.Partial.run_before {e : Xml.Element} {outer : List Xml.Element} {cs tag : List Char}
    (opens : tag.head? = some '<') :
    Xml.Partial.run { stack := e :: outer } (Xml.escape cs ++ tag) =
      Xml.Partial.run { stack := { e with text := e.text ++ String.ofList cs } :: outer } tag := by
  cases tag with
  | nil => cases opens
  | cons c rest =>
    cases opens
    exact Xml.Partial.run_text

theorem Xml.Node.head?_markup {node : Xml.Node} {e : Xml.Element} (one : node.elements = [e]) (rest : List Char) :
    (node.markup ++ rest).head? = some '<' := by
  cases node with
  | piece p => cases one
  | empty name space => rfl
  | element name content => rfl

theorem Xml.Piece.head?_markup {p : Xml.Piece} (marked : ∀ cs, p ≠ .escaped cs) (rest : List Char) :
    (p.markup ++ rest).head? = some '<' := by
  cases p with
  | escaped cs => exact absurd rfl (marked cs)
  | characters cs => rfl
  | comment body => rfl

/-- A part of a document is text of some kind or an element. -/
theorem Xml.Node.piece_or_element (node : Xml.Node) :
    (∃ p, node = .piece p) ∨
      ∃ e, node.elements = [e] ∧ ∀ rest, Xml.Node.textAll (node :: rest) = Xml.Node.textAll rest := by
  cases node with
  | piece p => exact Or.inl ⟨p, rfl⟩
  | empty name space => exact Or.inr ⟨_, rfl, fun _ => rfl⟩
  | element name content => exact Or.inr ⟨_, rfl, fun _ => rfl⟩

theorem Xml.Piece.escaped_or_marked (p : Xml.Piece) : (∃ cs, p = .escaped cs) ∨ ∀ cs, p ≠ .escaped cs := by
  cases p with
  | escaped cs => exact Or.inl ⟨cs, rfl⟩
  | characters cs => exact Or.inr nofun
  | comment body => exact Or.inr nofun

mutual

/-- Reading an element in any of its forms puts it where the reading has come to, whatever follows it. -/
theorem Xml.Partial.run_node : ∀ (node : Xml.Node) {e : Xml.Element} {stack : List Xml.Element} {rest : List Char},
    node.elements = [e] → node.Sound → e.Plain → stack.length + e.depth ≤ Xml.maxDepth →
    Xml.Partial.run { stack } (node.markup ++ rest) = (Xml.Partial.place stack e).run rest
  | .piece p, e, stack, rest, one, _, _, _ => by cases one
  | .empty name space, e, stack, rest, one, blank, plain, room => by
    cases one
    have open' : stack.length < Xml.maxDepth := by
      simp only [Xml.Element.depth] at room
      omega
    have read : Xml.Partial.run { stack } ('<' :: name.toList ++ (space ++ '/' :: '>' :: rest)) =
      (Xml.Partial.place stack ⟨name, "", []⟩).run rest := Xml.Partial.run_emptyTag plain.1 blank open'
    rw [Xml.Node.markup, List.append_assoc, List.append_assoc]
    exact read
  | .element name content, e, stack, rest, one, sound, plain, room => by
    cases one
    rw [Xml.Element.depth] at room
    have inside := Xml.Partial.run_nodes content [] ⟨name, "", []⟩ stack ('<' :: '/' :: name.toList ++ '>' :: rest)
      sound plain.2 (by omega) rfl
    have shape : (Xml.Node.element name content).markup ++ rest = '<' :: name.toList ++ '>' ::
        (Xml.escape [] ++ (Xml.Node.markupAll content ++ '<' :: '/' :: name.toList ++ '>' :: rest)) := by
      simp only [Xml.Node.markup, Xml.escape, List.flatMap_nil, List.append_assoc, List.cons_append, List.nil_append]
    calc Xml.Partial.run { stack } ((Xml.Node.element name content).markup ++ rest)
        = Xml.Partial.run { stack := ⟨name, "", []⟩ :: stack }
            (Xml.escape [] ++ (Xml.Node.markupAll content ++ '<' :: '/' :: name.toList ++ '>' :: rest)) := by
          rw [shape, Xml.Partial.run_startTag plain.1 (by omega)]
      _ = Xml.Partial.run
            { stack :=
                ⟨name, String.ofList (Xml.Node.textAll content), (Xml.Node.elementsAll content).reverse⟩ :: stack }
            ('<' :: '/' :: name.toList ++ '>' :: rest) := by
          simp only [List.append_assoc] at inside ⊢
          rw [inside, String.empty_append, List.append_nil, List.nil_append]
      _ = (Xml.Partial.place stack
            ⟨name, String.ofList (Xml.Node.textAll content), Xml.Node.elementsAll content⟩).run rest := by
          rw [Xml.Partial.run_endTag ⟨name, _, (Xml.Node.elementsAll content).reverse⟩ stack rest plain.1,
            List.reverse_reverse]

/-- What stands between the tags of the open element adds its text and its children to it. The text that has been
passed and has not met a tag yet is carried along, since pieces of it that stand side by side are read as one. -/
theorem Xml.Partial.run_nodes : ∀ (nodes : List Xml.Node) (before : List Char) (e : Xml.Element)
    (outer : List Xml.Element) (tag : List Char), Xml.Node.SoundAll nodes →
    Xml.Element.PlainAll (Xml.Node.elementsAll nodes) →
    outer.length + 1 + Xml.Element.depthOfAll (Xml.Node.elementsAll nodes) ≤ Xml.maxDepth → tag.head? = some '<' →
    Xml.Partial.run { stack := e :: outer } (Xml.escape before ++ (Xml.Node.markupAll nodes ++ tag)) =
      Xml.Partial.run
        { stack := ⟨e.name, e.text ++ String.ofList (before ++ Xml.Node.textAll nodes),
            (Xml.Node.elementsAll nodes).reverse ++ e.children⟩ :: outer } tag
  | [], before, e, outer, tag, _, _, _, opens => by
    rw [Xml.Node.markupAll, List.nil_append, Xml.Partial.run_before opens, Xml.Node.textAll, List.append_nil]
    rfl
  | node :: rest, before, e, outer, tag, sound, plain, room, opens => by
    rcases node.piece_or_element with ⟨p, rfl⟩ | ⟨child, one, text⟩
    · rcases p.escaped_or_marked with ⟨cs, rfl⟩ | marked
      · have joined : Xml.escape before ++ (Xml.Node.markupAll (.piece (.escaped cs) :: rest) ++ tag) =
            Xml.escape (before ++ cs) ++ (Xml.Node.markupAll rest ++ tag) := by
          rw [Xml.Node.markupAll, Xml.Node.markup, Xml.Piece.markup, Xml.escape_append, List.append_assoc,
            List.append_assoc]
        rw [joined, Xml.Partial.run_nodes rest _ e outer tag sound.2 plain room opens, Xml.Node.textAll,
          Xml.Piece.content, List.append_assoc]
        rfl
      · have later := Xml.Partial.run_nodes rest [] ⟨e.name, e.text ++ String.ofList before ++ String.ofList p.content,
          e.children⟩ outer tag sound.2 plain room opens
        rw [Xml.Node.markupAll, Xml.Node.markup, List.append_assoc,
          Xml.Partial.run_before (Xml.Piece.head?_markup marked _), Xml.Partial.run_piece sound.1 marked,
          Xml.Node.textAll, String.ofList_append, String.ofList_append, ← String.append_assoc, ← String.append_assoc]
        exact later
    · have parts : Xml.Node.elementsAll (node :: rest) = child :: Xml.Node.elementsAll rest := by
        rw [Xml.Node.elementsAll, one, List.singleton_append]
      rw [parts] at plain room ⊢
      rw [Xml.Element.depthOfAll] at room
      have first : (⟨e.name, e.text ++ String.ofList before, e.children⟩ :: outer : List Xml.Element).length +
          child.depth ≤ Xml.maxDepth := by
        rw [List.length_cons]
        omega
      have later := Xml.Partial.run_nodes rest [] ⟨e.name, e.text ++ String.ofList before, child :: e.children⟩ outer
        tag sound.2 plain.2 (by omega) opens
      rw [Xml.Node.markupAll, List.append_assoc, Xml.Partial.run_before (Xml.Node.head?_markup one _),
        Xml.Partial.run_node node one sound.1 plain.1 first, text, List.reverse_cons, List.append_assoc,
        List.singleton_append, String.ofList_append, ← String.append_assoc]
      exact later

end

end RemoteCall
