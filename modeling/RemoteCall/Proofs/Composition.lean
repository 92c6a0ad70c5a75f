import RemoteCall.Proofs.Json.Writing
import RemoteCall.Proofs.Writer
import RemoteCall.Proofs.Xml.Message

namespace RemoteCall

theorem Xml.Writer.text_put (s : String) (w : Xml.Writer) :
    (w.put s).text = w.text ++ (({} : Xml.Writer).put s).text := by
  rw [Xml.Writer.put, Xml.Writer.put, String.empty_append]

/-- What a step adds to the text of a writer of XML depends on the step alone. -/
theorem Writer.Step.text_perform (step : Writer.Step) (w : Xml.Writer) :
    (step.perform w).text = w.text ++ (step.perform ({} : Xml.Writer)).text := by
  apply String.toList_inj.mp
  cases step with
  | startRequest method id => simp [Writer.Step.perform, Writer.startRequest]
  | startMember name => simp [Writer.Step.perform, Writer.startMember, Xml.Writer.startMember]
  | atom a => simp [Writer.Step.perform, Writer.atom, Xml.Writer.atom_eq, Xml.Writer.typed_eq]
  | fault f => simp [Writer.Step.perform, Writer.fault, Xml.Writer.fault_eq_putAll]
  | endDocument => simp [Writer.Step.perform, Writer.endDocument]
  -- all other steps put a text that is the same each time
  | _ => exact congrArg String.toList (Xml.Writer.text_put _ w)

theorem Writer.text_performAll (steps : List Writer.Step) (w : Xml.Writer) :
    (Writer.performAll steps w).text = w.text ++ (Writer.performAll steps ({} : Xml.Writer)).text := by
  induction steps generalizing w with
  | nil => exact String.append_empty.symm
  | cons step rest ih =>
    calc (Writer.performAll rest (step.perform w)).text
        = (step.perform w).text ++ (Writer.performAll rest ({} : Xml.Writer)).text := ih _
      _ = w.text ++ ((step.perform ({} : Xml.Writer)).text ++ (Writer.performAll rest ({} : Xml.Writer)).text) := by
        rw [step.text_perform, String.append_assoc]
      _ = w.text ++ (Writer.performAll rest (step.perform ({} : Xml.Writer))).text := by
        rw [ih (step.perform ({} : Xml.Writer))]

def Json.Frame.Ordered : Json.Frame → Prop
  | .array _ => True
  | .object members _ => Members.Ordered members

/-- In every object that is open, the members so far come in the order of their names. -/
def Json.Writer.Ordered (w : Json.Writer) : Prop :=
  ∀ frame ∈ w.frames, frame.Ordered

theorem Json.Writer.Ordered.enter {w : Json.Writer} (ordered : w.Ordered) {frame : Json.Frame}
    (inner : frame.Ordered) : (w.enter frame).Ordered :=
  List.forall_mem_cons.mpr ⟨inner, ordered⟩

theorem Json.Writer.Ordered.emit {w : Json.Writer} (ordered : w.Ordered) (j : Json) : (w.emit j).Ordered := by
  obtain ⟨frames, root, text⟩ := w
  match frames with
  | [] => exact ordered
  | .array items :: outer => exact List.forall_mem_cons.mpr ⟨trivial, (List.forall_mem_cons.mp ordered).2⟩
  | .object members (some name) :: outer =>
    obtain ⟨inner, others⟩ := List.forall_mem_cons.mp ordered
    exact List.forall_mem_cons.mpr ⟨Members.Ordered.insert inner name j, others⟩
  | .object members none :: outer => exact ordered

theorem Json.Writer.Ordered.leave {w : Json.Writer} (ordered : w.Ordered) : w.leave.Ordered := by
  obtain ⟨frames, root, text⟩ := w
  cases frames with
  | nil => exact ordered
  | cons frame outer =>
    have others : (⟨outer, root, text⟩ : Json.Writer).Ordered := (List.forall_mem_cons.mp ordered).2
    exact others.emit frame.close

theorem Json.Writer.Ordered.startMember {w : Json.Writer} (ordered : w.Ordered) (name : String) :
    (w.startMember name).Ordered := by
  obtain ⟨frames, root, text⟩ := w
  match frames with
  | [] => exact ordered
  | .array items :: outer => exact ordered
  | .object members next :: outer =>
    obtain ⟨inner, others⟩ := List.forall_mem_cons.mp ordered
    exact List.forall_mem_cons.mpr ⟨inner, others⟩

theorem Json.Writer.frames_endDocument (w : Json.Writer) : w.endDocument.frames = w.frames := by
  unfold Json.Writer.endDocument
  split <;> rfl

theorem Json.Writer.Ordered.perform {w : Json.Writer} (ordered : w.Ordered) (step : Writer.Step) :
    (step.perform w).Ordered := by
  have answer (id : Value) (name : String) : (Json.Frame.object (Json.answerMembers id) (some name)).Ordered :=
    Members.ordered_ofList _
  cases step with
  | startDocument => exact List.forall_mem_nil _
  | endDocument => exact fun frame member => ordered frame (w.frames_endDocument ▸ member)
  | startRequest method id =>
    have call : (Json.Frame.object (Json.callMembers method id) (some "params")).Ordered := Members.ordered_ofList _
    exact (ordered.enter call).enter trivial
  | endRequest => exact ordered.leave.leave
  | startParameter | endParameter | endMember => exact ordered
  | startResponse id | startFault id => exact ordered.enter (answer id _)
  | endResponse | endFault | endArray | endStruct => exact ordered.leave
  | fault f => exact ordered.emit f.toJson
  | startArray => exact ordered.enter trivial
  | startStruct => exact ordered.enter List.Pairwise.nil
  | startMember name => exact ordered.startMember name
  | atom a => exact ordered.emit a.toJson

theorem Json.Writer.Ordered.performAll {w : Json.Writer} (ordered : w.Ordered) (steps : List Writer.Step) :
    (Writer.performAll steps w).Ordered := by
  induction steps generalizing w with
  | nil => exact ordered
  | cons step rest ih => exact ih (ordered.perform step)

/-- The writer of JSON behind these steps, where nothing has been written before them. -/
def Json.Writer.after (steps : List Writer.Step) : Json.Writer :=
  Writer.performAll steps {}

theorem Json.Writer.ordered_after (steps : List Writer.Step) : (Json.Writer.after steps).Ordered := by
  have fresh : ({} : Json.Writer).Ordered := List.forall_mem_nil _
  exact fresh.performAll steps

/-- A writer takes one document in: as the whole document where nothing is open, as one more item of an open array,
or as the member of an open object that is expected, which is expected no more. Where none is expected, the document
is lost. All other frames stay as they are, and so does the text. -/
inductive Json.Writer.Takes (j : Json) : Json.Writer → Json.Writer → Prop where
  | root {root : Option Json} {text : String} : Takes j ⟨[], root, text⟩ ⟨[], some j, text⟩
  | item {items : List Json} {outer : List Json.Frame} {root : Option Json} {text : String} :
      Takes j ⟨.array items :: outer, root, text⟩ ⟨.array (j :: items) :: outer, root, text⟩
  | member {members more : List (String × Json)} {name : String} {outer : List Json.Frame} {root : Option Json}
      {text : String} (ordered : Members.Ordered more) (there : Members.find? name more = some j)
      (others : ∀ other, name ≠ other → Members.find? other more = Members.find? other members) :
      Takes j ⟨.object members (some name) :: outer, root, text⟩ ⟨.object more none :: outer, root, text⟩
  | lost {members : List (String × Json)} {outer : List Json.Frame} {root : Option Json} {text : String} :
      Takes j ⟨.object members none :: outer, root, text⟩ ⟨.object members none :: outer, root, text⟩

theorem Json.Writer.Ordered.takes_emit {w : Json.Writer} (ordered : w.Ordered) (j : Json) :
    Json.Writer.Takes j w (w.emit j) := by
  obtain ⟨frames, root, text⟩ := w
  match frames with
  | [] => exact .root
  | .array items :: outer => exact .item
  | .object members (some name) :: outer =>
    have inner : Members.Ordered members := (List.forall_mem_cons.mp ordered).1
    refine .member (inner.insert name j) ?_ fun other differ => ?_
    · rw [Members.find?_insert, if_pos rfl]
    · rw [Members.find?_insert, if_neg differ]
  | .object members none :: outer => exact .lost

/-- What a writer becomes that takes a document in is settled by the document. -/
theorem Json.Writer.Ordered.takes_iff {w z : Json.Writer} (ordered : w.Ordered) {j : Json} :
    Json.Writer.Takes j w z ↔ z = w.emit j := by
  constructor
  · intro takes
    cases takes with
    | root | item | lost => rfl
    | @member members more name outer root text inOrder there others =>
      have inner : Members.Ordered members := (List.forall_mem_cons.mp ordered).1
      -- members in order are known by what is found under each name, so no other list will do
      have same : more = Members.insert name j members := by
        refine inOrder.ext (inner.insert name j) fun other => ?_
        rw [Members.find?_insert]
        by_cases here : name = other
        · rw [if_pos here, ← here, there]
        · rw [if_neg here, others other here]
      rw [same]
      rfl
  · rintro rfl
    exact ordered.takes_emit j

/-- Writing is compositional, whatever steps have been performed before and whether or not they make up documents.
In JSON a value goes as one document to the place that has been reached, and every message is one on its own that
leaves nothing open. In XML whatever is written goes behind the text so far, as it goes into a text of its own. -/
theorem Writer.compositional_in_any_state :
    (∀ (steps : List Writer.Step) (v : Value),
      (v.write ({} : Json.Writer)).root = some v.toJson ∧
      v.write (Json.Writer.after steps) = (Json.Writer.after steps).emit v.toJson ∧
      ∀ z, Json.Writer.Takes v.toJson (Json.Writer.after steps) z ↔ z = v.write (Json.Writer.after steps)) ∧
    (∀ (steps : List Writer.Step) (r : Request),
      r.write (Json.Writer.after steps) = { text := (r.write ({} : Json.Writer)).text }) ∧
    (∀ (steps : List Writer.Step) (r : Response),
      r.write (Json.Writer.after steps) = { text := (r.write ({} : Json.Writer)).text }) ∧
    (∀ w : Xml.Writer,
      (∀ v : Value, (v.write w).text = w.text ++ (v.write ({} : Xml.Writer)).text) ∧
      (∀ r : Request, (r.write w).text = w.text ++ (r.write ({} : Xml.Writer)).text) ∧
      (∀ r : Response, (r.write w).text = w.text ++ (r.write ({} : Xml.Writer)).text)) := by
  refine ⟨fun steps v => ⟨?_, v.write_eq_emit _, fun z => ?_⟩, fun steps r => ?_, fun steps r => ?_,
    fun w => ⟨fun v => ?_, fun r => ?_, fun r => ?_⟩⟩
  · rw [v.write_eq_emit]
    rfl
  · rw [v.write_eq_emit]
    exact (Json.Writer.ordered_after steps).takes_iff
  · rw [r.text_write, r.write_eq_render]
  · rw [r.text_write, r.write_eq_render]
  · rw [v.write_eq_performAll, v.write_eq_performAll, Writer.text_performAll]
  · rw [r.write_eq_performAll, r.write_eq_performAll, Writer.text_performAll]
  · rw [r.write_eq_performAll, r.write_eq_performAll, Writer.text_performAll]

/-- The last name given in an open object is the one that counts, and it is used up. -/
example : (Value.array [.struct [("a", .nil)], .boolean true]).write
    (Json.Writer.after [.endArray, .startStruct, .startMember "k", .startParameter, .startMember "m"]) =
      { frames := [.object [("m", .array [.object [("a", .null)], .boolean true])] none] } :=
  rfl

end RemoteCall
