import Mathlib.Data.List.Forall2
import RemoteCall.Proofs.Xml.RoundTrip
import RemoteCall.Proofs.Xml.Spelling

namespace RemoteCall

/-- What may stand in front of the outermost element and behind it: white space and comments. -/
def Xml.Piece.Outside : Xml.Piece → Prop
  | .escaped cs => ∀ c ∈ cs, Xml.isSpace c = true
  | .characters _ => False
  | .comment body => (Xml.Piece.comment body).Sound

/-- A document: what stands in front of the declaration and behind it, the outermost element, and what follows. The
declaration may be left out. -/
structure Xml.Layout where
  first : List Xml.Piece
  declared : Bool
  second : List Xml.Piece
  root : Xml.Node
  last : List Xml.Piece

def Xml.Layout.markup (d : Xml.Layout) : List Char :=
  d.first.flatMap Xml.Piece.markup ++ ((if d.declared then Xml.declaration else []) ++
    (d.second.flatMap Xml.Piece.markup ++ (d.root.markup ++ d.last.flatMap Xml.Piece.markup)))

structure Xml.Layout.Sound (d : Xml.Layout) : Prop where
  first : ∀ p ∈ d.first, p.Outside
  second : ∀ p ∈ d.second, p.Outside
  root : d.root.Sound
  last : ∀ p ∈ d.last, p.Outside

instance : DecidablePred Xml.Piece.Outside
  | .escaped cs => List.decidableBAll (fun c => Xml.isSpace c = true) cs
  | .characters _ => isFalse id
  | .comment body => inferInstanceAs (Decidable (Xml.Piece.comment body).Sound)

instance : DecidablePred Xml.Layout.Sound := fun d =>
  decidable_of_iff ((∀ p ∈ d.first, p.Outside) ∧ (∀ p ∈ d.second, p.Outside) ∧ d.root.Sound ∧ ∀ p ∈ d.last, p.Outside)
    ⟨fun ⟨first, second, root, last⟩ => ⟨first, second, root, last⟩,
      fun sound => ⟨sound.first, sound.second, sound.root, sound.last⟩⟩

theorem Xml.escape_of_isSpace {cs : List Char} (space : ∀ c ∈ cs, Xml.isSpace c = true) : Xml.escape cs = cs := by
  induction cs with
  | nil => rfl
  | cons c cs ih =>
    have first : Xml.escapeChar c = [c] := by
      rcases Xml.isSpace_iff.mp (space c (List.mem_cons_self ..)) with rfl | rfl | rfl | rfl <;> rfl
    have step : Xml.escape (c :: cs) = Xml.escapeChar c ++ Xml.escape cs := List.flatMap_cons
    rw [step, first, ih fun d member => space d (List.mem_cons_of_mem _ member), List.singleton_append]

/-- White space in front of the outermost element and behind it is passed over. -/
theorem Xml.Partial.run_space {root : Option Xml.Element} {cs rest : List Char}
    (space : ∀ c ∈ cs, Xml.isSpace c = true) (ends : ∀ c ∈ rest.head?, c = '<') :
    Xml.Partial.run { root } (cs ++ rest) = Xml.Partial.run { root } rest := by
  cases cs with
  | nil => rfl
  | cons c cs =>
    have next := Xml.Event.next?_text_of_ends (List.cons_ne_nil c cs) ends
    rw [Xml.escape_of_isSpace space, List.cons_append] at next
    have blank : (c :: cs).all isBlank = true :=
      List.all_eq_true.mpr fun d member => isBlank_of_isSpace (space d member)
    refine Xml.Partial.run_of_next next ?_
    simp only [Xml.Partial.step, Xml.Partial.addText, blank, if_true]

theorem Xml.Partial.run_outside {root : Option Xml.Element} {gap : List Xml.Piece} (outside : ∀ p ∈ gap, p.Outside)
    {before rest : List Char} (space : ∀ c ∈ before, Xml.isSpace c = true) (ends : ∀ c ∈ rest.head?, c = '<') :
    Xml.Partial.run { root } (before ++ (gap.flatMap Xml.Piece.markup ++ rest)) = Xml.Partial.run { root } rest := by
  induction gap generalizing before with
  | nil => exact Xml.Partial.run_space space ends
  | cons p gap ih =>
    obtain ⟨here, later⟩ := List.forall_mem_cons.mp outside
    rw [List.flatMap_cons, List.append_assoc]
    cases p with
    | escaped cs =>
      have longer : ∀ c ∈ before ++ cs, Xml.isSpace c = true := fun c member =>
        (List.mem_append.mp member).elim (space c) (here c)
      rw [Xml.Piece.markup, Xml.escape_of_isSpace here, ← List.append_assoc]
      exact ih later longer
    | characters cs => exact here.elim
    | comment body =>
      have tag : ∀ c ∈ ((Xml.Piece.comment body).markup ++ (gap.flatMap Xml.Piece.markup ++ rest)).head?, c = '<' :=
        fun c head => (Option.some.inj head).symm
      have passed :
          Xml.Partial.run { root } ((Xml.Piece.comment body).markup ++ (gap.flatMap Xml.Piece.markup ++ rest)) =
            Xml.Partial.run { root } (gap.flatMap Xml.Piece.markup ++ rest) :=
        Xml.Partial.run_of_next (Xml.Event.next?_comment here _) rfl
      rw [Xml.Partial.run_space space tag, passed]
      exact ih later (List.forall_mem_nil _)

theorem Xml.Partial.run_gap {root : Option Xml.Element} {gap : List Xml.Piece} (outside : ∀ p ∈ gap, p.Outside)
    {rest : List Char} (ends : ∀ c ∈ rest.head?, c = '<') :
    Xml.Partial.run { root } (gap.flatMap Xml.Piece.markup ++ rest) = Xml.Partial.run { root } rest :=
  Xml.Partial.run_outside outside (List.forall_mem_nil _) ends

theorem Xml.Piece.head?_outside {gap : List Xml.Piece} (outside : ∀ p ∈ gap, p.Outside) {rest : List Char}
    (ends : ∀ c ∈ rest.head?, c = '<') :
    ∀ c ∈ (gap.flatMap Xml.Piece.markup ++ rest).head?, c = '<' ∨ Xml.isSpace c = true := by
  induction gap with
  | nil => exact fun c head => Or.inl (ends c head)
  | cons p gap ih =>
    obtain ⟨here, later⟩ := List.forall_mem_cons.mp outside
    rw [List.flatMap_cons, List.append_assoc]
    intro c head
    cases p with
    | escaped cs =>
      rw [Xml.Piece.markup, Xml.escape_of_isSpace here] at head
      cases cs with
      | nil => exact ih later c head
      | cons d cs =>
        cases head
        exact Or.inr (here _ (List.mem_cons_self ..))
    | characters cs => exact here.elim
    | comment body => exact Or.inl (Option.some.inj head).symm

theorem Xml.Element.ofDocument_eq_run {cs : List Char} (head : ∀ c ∈ cs.head?, c = '<' ∨ Xml.isSpace c = true) :
    Xml.Element.ofDocument cs = Xml.Partial.run {} cs := by
  unfold Xml.Element.ofDocument
  split
  · exact absurd (head '﻿' rfl) (by decide)
  · rfl

/-- A document is read as its outermost element, whatever its layout. -/
theorem Xml.Layout.ofDocument_markup {d : Xml.Layout} {e : Xml.Element} (sound : d.Sound) (root : d.root.elements = [e])
    (plain : e.Plain) (depth : e.depth ≤ Xml.maxDepth) : Xml.Element.ofDocument d.markup = .ok e := by
  have opens : ∀ c ∈ (d.root.markup ++ d.last.flatMap Xml.Piece.markup).head?, c = '<' := fun c head => by
    rw [Xml.Node.head?_markup root] at head
    exact (Option.some.inj head).symm
  have room : ([] : List Xml.Element).length + e.depth ≤ Xml.maxDepth := by simpa using depth
  have last : Xml.Partial.run { root := some e } (d.last.flatMap Xml.Piece.markup) = .ok e := by
    have passed : Xml.Partial.run { root := some e } (d.last.flatMap Xml.Piece.markup ++ []) =
      Xml.Partial.run { root := some e } [] := Xml.Partial.run_gap sound.last nofun
    rw [← List.append_nil (d.last.flatMap _), passed, Xml.Partial.run]
    rfl
  have body : Xml.Partial.run {} (d.root.markup ++ d.last.flatMap Xml.Piece.markup) = .ok e := by
    have read : Xml.Partial.run {} (d.root.markup ++ d.last.flatMap Xml.Piece.markup) =
      (Xml.Partial.place [] e).run (d.last.flatMap Xml.Piece.markup) :=
        Xml.Partial.run_node d.root root sound.root plain room
    rw [read, Xml.Partial.place, last]
  cases declared : d.declared with
  | true =>
    have declaration : ∀ c ∈ (Xml.declaration ++ (d.second.flatMap Xml.Piece.markup ++
        (d.root.markup ++ d.last.flatMap Xml.Piece.markup))).head?, c = '<' := fun c head => (Option.some.inj head).symm
    have skipped : Xml.Partial.run {} (Xml.declaration ++ (d.second.flatMap Xml.Piece.markup ++
        (d.root.markup ++ d.last.flatMap Xml.Piece.markup))) = Xml.Partial.run {} (d.second.flatMap Xml.Piece.markup ++
        (d.root.markup ++ d.last.flatMap Xml.Piece.markup)) :=
      Xml.Partial.run_of_next (Xml.Event.next?_declaration _) rfl
    rw [Xml.Layout.markup, declared, if_pos rfl,
      Xml.Element.ofDocument_eq_run (Xml.Piece.head?_outside sound.first declaration),
      Xml.Partial.run_gap sound.first declaration, skipped, Xml.Partial.run_gap sound.second opens, body]
  | false =>
    have both : ∀ p ∈ d.first ++ d.second, p.Outside := fun p member =>
      (List.mem_append.mp member).elim (sound.first p) (sound.second p)
    rw [Xml.Layout.markup, declared, if_neg Bool.false_ne_true, List.nil_append, ← List.append_assoc,
      ← List.flatMap_append, Xml.Element.ofDocument_eq_run (Xml.Piece.head?_outside both opens),
      Xml.Partial.run_gap both opens, body]

mutual

/-- An element as a part of a document: its text in front of its children, all in its escaped form. -/
def Xml.Element.toNode : Xml.Element → Xml.Node
  | ⟨name, text, children⟩ => .element name (.piece (.escaped text.toList) :: Xml.Element.toNodes children)

def Xml.Element.toNodes : List Xml.Element → List Xml.Node
  | [] => []
  | e :: rest => e.toNode :: Xml.Element.toNodes rest

end

theorem Xml.Node.textAll_toNodes (es : List Xml.Element) : Xml.Node.textAll (Xml.Element.toNodes es) = [] := by
  induction es with
  | nil => rfl
  | cons e rest ih =>
    cases e
    rw [Xml.Element.toNodes, Xml.Element.toNode, Xml.Node.textAll, ih]
    exact nofun

mutual

theorem Xml.Element.markup_toNode : ∀ e : Xml.Element, e.toNode.markup = e.markup
  | ⟨name, text, children⟩ => by
    rw [Xml.Element.toNode, Xml.Node.markup, Xml.Node.markupAll, Xml.Element.markupAll_toNodes children,
      Xml.Node.markup, Xml.Piece.markup, Xml.Element.markup]
    simp only [List.append_assoc, List.cons_append]

theorem Xml.Element.markupAll_toNodes : ∀ es : List Xml.Element,
    Xml.Node.markupAll (Xml.Element.toNodes es) = Xml.Element.markupAll es
  | [] => rfl
  | e :: rest => by
    rw [Xml.Element.toNodes, Xml.Node.markupAll, e.markup_toNode, Xml.Element.markupAll_toNodes rest,
      Xml.Element.markupAll]

end

mutual

theorem Xml.Element.elements_toNode : ∀ e : Xml.Element, e.toNode.elements = [e]
  | ⟨name, text, children⟩ => by
    rw [Xml.Element.toNode, Xml.Node.elements, Xml.Node.elementsAll, Xml.Element.elementsAll_toNodes children,
      Xml.Node.textAll, Xml.Node.textAll_toNodes, Xml.Piece.content, List.append_nil, String.ofList_toList]
    rfl

theorem Xml.Element.elementsAll_toNodes : ∀ es : List Xml.Element,
    Xml.Node.elementsAll (Xml.Element.toNodes es) = es
  | [] => rfl
  | e :: rest => by
    rw [Xml.Element.toNodes, Xml.Node.elementsAll, e.elements_toNode, Xml.Element.elementsAll_toNodes rest,
      List.singleton_append]

end

mutual

theorem Xml.Element.sound_toNode : ∀ e : Xml.Element, e.toNode.Sound
  | ⟨_, _, children⟩ => ⟨trivial, Xml.Element.soundAll_toNodes children⟩

theorem Xml.Element.soundAll_toNodes : ∀ es : List Xml.Element, Xml.Node.SoundAll (Xml.Element.toNodes es)
  | [] => trivial
  | e :: rest => ⟨e.sound_toNode, Xml.Element.soundAll_toNodes rest⟩

end

/-- The layout of what is written: a declaration, and nothing between the tags that does not count. -/
def Xml.Layout.compact (e : Xml.Element) : Xml.Layout where
  first := []
  declared := true
  second := []
  root := e.toNode
  last := []

theorem Xml.Layout.Sound.compact (e : Xml.Element) : (Xml.Layout.compact e).Sound where
  first := List.forall_mem_nil _
  second := List.forall_mem_nil _
  root := e.sound_toNode
  last := List.forall_mem_nil _

theorem Xml.Layout.root_compact (e : Xml.Element) : (Xml.Layout.compact e).root.elements = [e] :=
  e.elements_toNode

theorem Xml.Layout.markup_compact (e : Xml.Element) : (Xml.Layout.compact e).markup = Xml.declaration ++ e.markup := by
  rw [Xml.Layout.markup, Xml.Layout.compact, if_pos rfl, List.flatMap_nil, List.nil_append, List.nil_append,
    List.append_nil, e.markup_toNode]

/-- The element `param` of a value, in any spelling of the value. -/
inductive Value.SpelledParameter (v : Value) : Xml.Element → Prop
  | intro {e : Xml.Element} {text : String} : v.Spelled e → SpelledParameter v ⟨"param", text, [e]⟩

/-- The elements that a call can be written as. -/
inductive Request.Spelled (r : Request) : Xml.Element → Prop
  | intro {text method inner : String} {es : List Xml.Element} : Xml.Padded r.method.toList method →
      List.Forall₂ Value.SpelledParameter r.params es →
      Spelled r ⟨"methodCall", text, [⟨"methodName", method, []⟩, ⟨"params", inner, es⟩]⟩

/-- The elements that an answer can be written as. -/
inductive Response.Spelled (r : Response) : Xml.Element → Prop
  | ok {v : Value} {e : Xml.Element} {text inner : String} : r.result = .ok v → v.SpelledParameter e →
      Spelled r ⟨"methodResponse", text, [⟨"params", inner, [e]⟩]⟩
  | error {f : Fault} {e : Xml.Element} {text inner : String} : r.result = .error f → f.toValue.Spelled e →
      Spelled r ⟨"methodResponse", text, [⟨"fault", inner, [e]⟩]⟩

theorem Value.spelledParameters_toXml (params : List Value) :
    List.Forall₂ Value.SpelledParameter params (params.map fun v => .node "param" [v.toXml]) := by
  induction params with
  | nil => exact .nil
  | cons v rest ih => exact .cons (.intro v.spelled_toXml) ih

theorem Request.spelled_toXml (r : Request) : r.Spelled r.toXml :=
  .intro (.refl _) (Value.spelledParameters_toXml r.params)

theorem Response.spelled_toXml (r : Response) : r.Spelled r.toXml := by
  obtain ⟨result, id⟩ := r
  cases result with
  | ok v => exact .ok rfl (.intro v.spelled_toXml)
  | error f => exact .error rfl f.toValue.spelled_toXml

theorem Value.SpelledParameter.innerValue_eq {v : Value} {e : Xml.Element} (spelled : v.SpelledParameter e)
    (ordered : v.Ordered) : e.innerValue = v.toXml.value := by
  cases spelled with
  | intro inside => exact inside.value_eq ordered

theorem Value.filter_spelledParameters {params : List Value} {es : List Xml.Element}
    (spelled : List.Forall₂ Value.SpelledParameter params es) :
    (es.filter fun child => child.name == "param") = es := by
  induction spelled with
  | nil => rfl
  | cons first others ih =>
    cases first
    rw [List.filter_cons_of_pos rfl, ih]

theorem Xml.Element.parameters_spelled {params : List Value} {es : List Xml.Element}
    (spelled : List.Forall₂ Value.SpelledParameter params es) (ordered : ∀ v ∈ params, v.Ordered) (inner : String) :
    (Xml.Element.mk "params" inner es).parameters = params.mapM fun v => v.toXml.value := by
  rw [Xml.Element.parameters, Value.filter_spelledParameters spelled]
  induction spelled with
  | nil => rfl
  | cons first others ih =>
    obtain ⟨here, later⟩ := List.forall_mem_cons.mp ordered
    rw [List.mapM_cons, List.mapM_cons, first.innerValue_eq here, ih later]

theorem Value.plainAll_spelledParameters {params : List Value} {es : List Xml.Element}
    (spelled : List.Forall₂ Value.SpelledParameter params es) : Xml.Element.PlainAll es := by
  induction spelled with
  | nil => trivial
  | cons first others ih =>
    cases first with
    | intro inside => exact ⟨⟨by decide, inside.plain, trivial⟩, ih⟩

theorem Value.depthOfAll_spelledParameters {params : List Value} {es : List Xml.Element}
    (spelled : List.Forall₂ Value.SpelledParameter params es) :
    Xml.Element.depthOfAll es ≤ Xml.Element.depthOfAll (params.map fun v => .node "param" [v.toXml]) := by
  induction spelled with
  | nil => exact Nat.le_refl 0
  | cons first others ih =>
    cases first with
    | intro inside =>
      have here := inside.depth_le
      simp only [List.map_cons, Xml.Element.node, Xml.Element.depthOfAll, Xml.Element.depth] at ih ⊢
      omega

theorem Request.Spelled.plain {r : Request} {e : Xml.Element} (spelled : r.Spelled e) : e.Plain := by
  cases spelled with
  | intro method params =>
    exact ⟨by decide, ⟨by decide, trivial⟩, ⟨by decide, Value.plainAll_spelledParameters params⟩, trivial⟩

theorem Request.Spelled.depth_le {r : Request} {e : Xml.Element} (spelled : r.Spelled e) :
    e.depth ≤ r.toXml.depth := by
  cases spelled with
  | intro method params =>
    have inside := Value.depthOfAll_spelledParameters params
    simp only [Request.toXml, Xml.Element.node, Xml.Element.leaf, Xml.Element.depthOfAll, Xml.Element.depth] at inside ⊢
    omega

/-- What is read for a call does not depend on how the call is spelled. -/
theorem Request.Spelled.request_eq {r : Request} {e : Xml.Element} (spelled : r.Spelled e)
    (ordered : ∀ v ∈ r.params, v.Ordered) :
    e.request = if (trimmed r.method.toList).isEmpty then .error .missingMethodName
      else (r.params.mapM fun v : Value => v.toXml.value).map fun params =>
        { method := String.ofList (trimmed r.method.toList), params } := by
  cases spelled with
  | @intro text method inner es padded params =>
    have read : (Xml.Element.mk "methodCall" text [⟨"methodName", method, []⟩, ⟨"params", inner, es⟩]).request =
        if (trimmed method.toList).isEmpty then .error .missingMethodName
        else (Xml.Element.mk "params" inner es).parameters.map fun params =>
          { method := String.ofList (trimmed method.toList), params } := rfl
    rw [read, padded.trimmed, Xml.Element.parameters_spelled params ordered]

theorem Response.Spelled.plain {r : Response} {e : Xml.Element} (spelled : r.Spelled e) : e.Plain := by
  cases spelled with
  | ok result param =>
    cases param with
    | intro inside => exact ⟨by decide, ⟨by decide, ⟨by decide, inside.plain, trivial⟩, trivial⟩, trivial⟩
  | error result fault => exact ⟨by decide, ⟨by decide, fault.plain, trivial⟩, trivial⟩

theorem Response.Spelled.depth_le {r : Response} {e : Xml.Element} (spelled : r.Spelled e) :
    e.depth ≤ r.toXml.depth := by
  obtain ⟨result, id⟩ := r
  cases spelled with
  | ok same param =>
    cases same
    cases param with
    | intro inside =>
      have here := inside.depth_le
      simp only [Response.toXml, Xml.Element.node, Xml.Element.depthOfAll, Xml.Element.depth]
      omega
  | error same fault =>
    cases same
    have here := fault.depth_le
    simp only [Response.toXml, Xml.Element.node, Xml.Element.depthOfAll, Xml.Element.depth]
    omega

/-- What is read for an answer does not depend on how the answer is spelled. -/
theorem Response.Spelled.response_eq {r : Response} {e : Xml.Element} (spelled : r.Spelled e)
    (ordered : ∀ v, r.result = .ok v → v.Ordered) :
    e.response = match r.result with
      | .ok v => v.toXml.value.map fun v => { result := .ok v }
      | .error f => (f.toValue.toXml.value.bind Xml.faultOf).map fun f => { result := .error f } := by
  obtain ⟨result, id⟩ := r
  cases spelled with
  | @ok v param text inner same spelled =>
    cases same
    have read : (Xml.Element.mk "methodResponse" text [⟨"params", inner, [param]⟩]).response =
        param.innerValue.map fun v => { result := .ok v } := by
      cases spelled
      rfl
    rw [read, spelled.innerValue_eq (ordered v rfl)]
  | @error f inside text inner same spelled =>
    cases same
    have read : (Xml.Element.mk "methodResponse" text [⟨"fault", inner, [inside]⟩]).response =
      (inside.value.bind Xml.faultOf).map fun f => { result := .error f } := rfl
    rw [read, spelled.value_eq f.ordered_toValue]

theorem Xml.Layout.read_markup {d : Xml.Layout} {e : Xml.Element} (sound : d.Sound) (root : d.root.elements = [e])
    (plain : e.Plain) (depth : e.depth ≤ Xml.maxDepth) :
    Document.read .xml (String.ofList d.markup).toUTF8 = .ok (.xml e) := by
  refine Document.read_xml ?_
  rw [String.toList_ofList]
  exact Xml.Layout.ofDocument_markup sound root plain depth

section

variable {d : Xml.Layout} {e : Xml.Element} (sound : d.Sound) (root : d.root.elements = [e])

include sound root

theorem Xml.Layout.read_value {v : Value} (ordered : v.Ordered) (depth : v.toXml.depth ≤ Xml.maxDepth)
    (spelled : v.Spelled e) : (Document.read .xml (String.ofList d.markup).toUTF8).bind Document.value =
      v.toXml.value.mapError Xml.Problem.fault := by
  rw [Xml.Layout.read_markup sound root spelled.plain (Nat.le_trans spelled.depth_le depth)]
  simp only [Except.bind, Document.value, spelled.value_eq ordered]

theorem Xml.Layout.read_request {r : Request} (ordered : ∀ v ∈ r.params, v.Ordered)
    (depth : r.toXml.depth ≤ Xml.maxDepth) (spelled : r.Spelled e) :
    (Document.read .xml (String.ofList d.markup).toUTF8).bind Document.request =
      r.toXml.request.mapError Xml.Problem.fault := by
  have same : e.request = r.toXml.request :=
    (spelled.request_eq ordered).trans (r.spelled_toXml.request_eq ordered).symm
  rw [Xml.Layout.read_markup sound root spelled.plain (Nat.le_trans spelled.depth_le depth)]
  simp only [Except.bind, Document.request, same]

theorem Xml.Layout.read_response {r : Response} (ordered : ∀ v, r.result = .ok v → v.Ordered)
    (depth : r.toXml.depth ≤ Xml.maxDepth) (spelled : r.Spelled e) :
    (Document.read .xml (String.ofList d.markup).toUTF8).bind Document.response =
      r.toXml.response.mapError Xml.Problem.fault := by
  have same : e.response = r.toXml.response :=
    (spelled.response_eq ordered).trans (r.spelled_toXml.response_eq ordered).symm
  rw [Xml.Layout.read_markup sound root spelled.plain (Nat.le_trans spelled.depth_le depth)]
  simp only [Except.bind, Document.response, same]

end

theorem Xml.Layout.eq_compact {text : String} {e : Xml.Element} (written : text.toList = Xml.declaration ++ e.markup) :
    text = String.ofList (Xml.Layout.compact e).markup := by
  rw [Xml.Layout.markup_compact, ← written, String.ofList_toList]

/-- Values, calls and answers are read alike in all their spellings and layouts: white space around tags, comments,
text between the marks of plain characters, empty elements as one tag, other words for a truth value, the other name of
an integer type, strings without a type, members in any order, and no declaration. What is read is what was written, but
for the fractions of seconds and the id, wherever the texts of the atoms read back. -/
theorem Xml.layout_independent :
    (∀ (v : Value) (d : Xml.Layout) (e : Xml.Element), v.Ordered → v.toXml.depth ≤ Xml.maxDepth → v.Spelled e →
      d.Sound → d.root.elements = [e] →
      (Document.read .xml (String.ofList d.markup).toUTF8).bind Document.value =
        (Document.read .xml (Format.writeValue .xml v).toUTF8).bind Document.value ∧
      ((∀ a ∈ v.atoms, a.XmlReadable) →
        (Document.read .xml (String.ofList d.markup).toUTF8).bind Document.value = .ok v.wholeSeconds)) ∧
    (∀ (r : Request) (d : Xml.Layout) (e : Xml.Element), (∀ v ∈ r.params, v.Ordered) →
      r.toXml.depth ≤ Xml.maxDepth → r.Spelled e → d.Sound → d.root.elements = [e] →
      (Document.read .xml (String.ofList d.markup).toUTF8).bind Document.request =
        (Document.read .xml (Format.writeRequest .xml r).toUTF8).bind Document.request ∧
      (r.method ≠ "" → trim r.method = r.method → (∀ v ∈ r.params, ∀ a ∈ v.atoms, a.XmlReadable) →
        (Document.read .xml (String.ofList d.markup).toUTF8).bind Document.request =
          .ok { method := r.method, params := r.params.map Value.wholeSeconds })) ∧
    (∀ (r : Response) (d : Xml.Layout) (e : Xml.Element), (∀ v, r.result = .ok v → v.Ordered) →
      r.toXml.depth ≤ Xml.maxDepth → r.Spelled e → d.Sound → d.root.elements = [e] →
      (Document.read .xml (String.ofList d.markup).toUTF8).bind Document.response =
        (Document.read .xml (Format.writeResponse .xml r).toUTF8).bind Document.response ∧
      ((∀ v, r.result = .ok v → ∀ a ∈ v.atoms, a.XmlReadable) →
        (Document.read .xml (String.ofList d.markup).toUTF8).bind Document.response =
          .ok { result := r.result.map Value.wholeSeconds })) := by
  refine ⟨fun v d e ordered depth spelled sound root => ⟨?same, fun readable => ?read⟩,
    fun r d e ordered depth spelled sound root => ⟨?sameCall, fun named trimmed readable => ?readCall⟩,
    fun r d e ordered depth spelled sound root => ⟨?sameAnswer, fun readable => ?readAnswer⟩⟩
  -- what is written is the compact layout of a spelling too
  case same =>
    rw [Xml.Layout.eq_compact (Format.toList_writeValue_xml v), Xml.Layout.read_value sound root ordered depth spelled,
      Xml.Layout.read_value (.compact _) (Xml.Layout.root_compact v.toXml) ordered depth v.spelled_toXml]
  case sameCall =>
    rw [Xml.Layout.eq_compact (Format.toList_writeRequest_xml r),
      Xml.Layout.read_request sound root ordered depth spelled,
      Xml.Layout.read_request (.compact _) (Xml.Layout.root_compact r.toXml) ordered depth r.spelled_toXml]
  case sameAnswer =>
    rw [Xml.Layout.eq_compact (Format.toList_writeResponse_xml r),
      Xml.Layout.read_response sound root ordered depth spelled,
      Xml.Layout.read_response (.compact _) (Xml.Layout.root_compact r.toXml) ordered depth r.spelled_toXml]
  case read =>
    rw [Xml.Layout.read_value sound root ordered depth spelled, v.read_toXml readable]
    rfl
  case readCall =>
    rw [Xml.Layout.read_request sound root ordered depth spelled, Request.read_toXml named trimmed readable]
    rfl
  case readAnswer =>
    rw [Xml.Layout.read_response sound root ordered depth spelled, Response.read_toXml readable]
    rfl

/-- An element with nothing but text in it. -/
def Xml.Node.ofText (name text : String) : Xml.Node :=
  .element name [.piece (.escaped text.toList)]

/-- Two members, the first an atom and the second an array of four. -/
def Xml.sampleStruct : Value :=
  .struct [("a", .boolean true), ("b", .array [.string "x<y", .base64 [77, 97], .nil, .int32 7])]

/-- The sample with its members the other way round, and almost nothing as it is written. -/
def Xml.sampleLayout : Xml.Layout where
  first := [.escaped ['\n'], .comment ['a', '>', 'b']]
  declared := false
  second := []
  root := .element "value" [.element "struct" [.piece (.escaped ['\n']),
    .element "member" [.ofText "name" "b",
      .element "value" [.element "array" [.element "data" [
        .element "value" [.piece (.characters ['x', '<']), .piece (.comment []), .piece (.escaped ['y'])],
        .element "value" [.ofText "base64" "\tTW\nE="], .piece (.escaped [' ']),
        .element "value" [.empty "nil" []],
        .element "value" [.ofText "int" " 7"]]]]],
    .element "member" [.ofText "name" "a", .element "value" [.ofText "boolean" "true\r"]]]]
  last := [.escaped ['\n']]

/-- A call with white space around the name of its method. -/
def Xml.sampleCallLayout : Xml.Layout where
  first := []
  declared := true
  second := [.escaped [' ']]
  root := .element "methodCall" [.ofText "methodName" " add\n",
    .element "params" [.element "param" [.element "value" [.ofText "int" "2"], .piece (.escaped [' '])]]]
  last := []

/-- A fault with its members the other way round. -/
def Xml.sampleFaultLayout : Xml.Layout where
  first := []
  declared := false
  second := []
  root := .element "methodResponse" [.piece (.escaped ['\t']), .element "fault" [.element "value" [.element "struct" [
    .element "member" [.ofText "name" "faultString", .empty "value" [' ']],
    .element "member" [.ofText "name" "faultCode", .element "value" [.ofText "i4" "-3"]]]]]]
  last := []

theorem Xml.layout_independent_samples :
    ((Document.read .xml (String.ofList Xml.sampleLayout.markup).toUTF8).bind Document.value = .ok Xml.sampleStruct ∧
      (Document.read .xml (Format.writeValue .xml Xml.sampleStruct).toUTF8).bind Document.value =
        .ok Xml.sampleStruct) ∧
    ((Document.read .xml (String.ofList Xml.sampleCallLayout.markup).toUTF8).bind Document.request =
        .ok ⟨"add", [.int32 2], .nil⟩ ∧
      (Document.read .xml (Format.writeRequest .xml ⟨"add", [.int32 2], .nil⟩).toUTF8).bind Document.request =
        .ok ⟨"add", [.int32 2], .nil⟩) ∧
    ((Document.read .xml (String.ofList Xml.sampleFaultLayout.markup).toUTF8).bind Document.response =
        .ok ⟨.error ⟨-3, ""⟩, .nil⟩ ∧
      (Document.read .xml (Format.writeResponse .xml ⟨.error ⟨-3, ""⟩, .nil⟩).toUTF8).bind Document.response =
        .ok ⟨.error ⟨-3, ""⟩, .nil⟩) := by
  have value : Xml.sampleStruct.Spelled (.mk "value" "" [.mk "struct" "\n" [
      .mk "member" "" [.mk "name" "b" [], .mk "value" "" [.mk "array" "" [.mk "data" " " [
        .mk "value" "x<y" [], .mk "value" "" [.mk "base64" "\tTW\nE=" []], .mk "value" "" [.mk "nil" "" []],
        .mk "value" "" [.mk "int" " 7" []]]]]],
      .mk "member" "" [.mk "name" "a" [], .mk "value" "" [.mk "boolean" "true\r" []]]]]) := by
    have word : "true".toList ∈ Xml.booleanWords true := by decide
    refine .struct (.swap ..) (.cons (.array (.cons .untyped (.cons (.atom (.base64 (by decide))) (.cons (.atom .nil)
      (.cons (.atom (.int32 (Or.inr rfl) ?_)) .nil))))) (.cons (.atom (.boolean word ?_)) .nil))
    · exact ⟨[' '], [], List.forall_mem_singleton.mpr rfl, List.forall_mem_nil _, by decide⟩
    · exact ⟨[], ['\r'], List.forall_mem_nil _, List.forall_mem_singleton.mpr rfl, by decide⟩
  have call : Request.Spelled ⟨"add", [.int32 2], .nil⟩ (.mk "methodCall" "" [.mk "methodName" " add\n" [],
      .mk "params" "" [.mk "param" " " [.mk "value" "" [.mk "int" "2" []]]]]) := by
    have method : Xml.Padded "add".toList " add\n" :=
      ⟨[' '], ['\n'], List.forall_mem_singleton.mpr rfl, List.forall_mem_singleton.mpr rfl, by decide⟩
    exact .intro method (.cons (.intro (.atom (.int32 (Or.inr rfl) (.refl _)))) .nil)
  have fault : Response.Spelled ⟨.error ⟨-3, ""⟩, .nil⟩ (.mk "methodResponse" "\t" [.mk "fault" "" [
      .mk "value" "" [.mk "struct" "" [.mk "member" "" [.mk "name" "faultString" [], .mk "value" "" []],
        .mk "member" "" [.mk "name" "faultCode" [], .mk "value" "" [.mk "i4" "-3" []]]]]]]) := by
    exact .error rfl (.struct (.swap ..) (.cons .untyped (.cons (.atom (.int32 (Or.inl rfl) (.refl _))) .nil)))
  have inOrder : Xml.sampleStruct.Ordered :=
    ⟨List.pairwise_pair.mpr (by decide), trivial, ⟨trivial, trivial, trivial, trivial, trivial⟩, trivial⟩
  have atoms : Xml.sampleStruct.atoms = [.boolean true, .string "x<y", .base64 [77, 97], .nil, .int32 7] := rfl
  have readable : ∀ a ∈ Xml.sampleStruct.atoms, a.XmlReadable := by
    rw [atoms]
    simp [Atom.XmlReadable]
  have number : ∀ v ∈ [Value.int32 2], v.Ordered ∧ ∀ a ∈ v.atoms, a.XmlReadable := by
    simp [Value.Ordered, Value.atoms, Atom.XmlReadable]
  obtain ⟨sameValue, readValue⟩ := Xml.layout_independent.1 _ Xml.sampleLayout _ inOrder (by decide) value (by decide)
    rfl
  obtain ⟨sameCall, readCall⟩ := Xml.layout_independent.2.1 _ Xml.sampleCallLayout _
    (fun v member => (number v member).1) (by decide) call (by decide) rfl
  obtain ⟨sameFault, readFault⟩ := Xml.layout_independent.2.2 ⟨.error ⟨-3, ""⟩, .nil⟩ Xml.sampleFaultLayout _
    (fun v same => by cases same) (by decide) fault (by decide) rfl
  have valueRead := readValue readable
  have callRead := readCall (by decide) (by decide) fun v member => (number v member).2
  have faultRead := readFault fun v same => by cases same
  exact ⟨⟨valueRead, sameValue.symm.trans valueRead⟩, ⟨callRead, sameCall.symm.trans callRead⟩,
    ⟨faultRead, sameFault.symm.trans faultRead⟩⟩

end RemoteCall
