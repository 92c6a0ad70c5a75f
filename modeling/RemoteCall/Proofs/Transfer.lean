import RemoteCall.Proofs.Answer
import RemoteCall.Proofs.Json.Accepted
import RemoteCall.Proofs.Xml.Accepted

namespace RemoteCall

/-- The text of a number in a format is read as this number. -/
def Format.ReadsNumber : Format → Double → Prop
  | .xml, x => Double.ofText? (x.text .display) = some x
  | .json, x => x.ReadsBack

/-- JSON has no text for what is not finite. -/
theorem Double.ReadsBack.finite {x : Double} (back : x.ReadsBack) : x.isFinite = true := by
  unfold Double.ReadsBack Double.text at back
  unfold Double.isFinite
  split at back
  · cases back
  · split at back <;> cases back
  · rename_i parts
    rw [parts]

/-- What is read from XML is in order and shows all of its date/times, and writing it takes no more elements than the
reader allows. -/
theorem Document.of_value_xml {body : ByteArray} {v : Value}
    (accepted : (Document.read .xml body).bind Document.value = .ok v) :
    v.Ordered ∧ (∀ a ∈ v.atoms, a.Shown) ∧ v.toXml.depth ≤ Xml.maxDepth := by
  obtain ⟨d, read, decoded⟩ := Except.exists_of_bind accepted
  obtain ⟨_, e, _, whole, rfl⟩ := Document.read_xml_eq_ok read
  have depth := Xml.Element.depth_of_ofDocument whole
  have value := Except.mapError_eq_ok_iff.mp decoded
  -- the limit is three elements for each of 128 levels
  have levels : Xml.maxDepth = 3 * 128 := rfl
  exact ⟨Xml.Element.ordered_of_value value, Xml.Element.shown_of_value value,
    Xml.Element.depth_toXml_of_value value (levels ▸ depth)⟩

theorem Value.depth_toXml_le (v : Value) : v.toXml.depth ≤ 3 * v.depth + 2 := by
  induction v using Value.induct with
  | atom a => exact Nat.le_refl 2
  | array items ih =>
    have parts : ∀ v ∈ items, v.toXml.depth ≤ 3 * Value.depthOfItems items + 2 := fun v member => by
      have inner := ih v member
      have below := Value.depthOfItems_le.mp (Nat.le_refl _) v member
      omega
    have whole := Value.depth_toXml_array_le parts
    rw [Value.depth]
    omega
  | struct members ih =>
    have parts : ∀ entry ∈ members, entry.2.toXml.depth ≤ 3 * Value.depthOfMembers members + 2 :=
      fun entry member => by
        have inner := ih entry member
        have below := Value.depthOfMembers_le.mp (Nat.le_refl _) entry member
        omega
    have whole := Value.depth_toXml_struct_le parts
    rw [Value.depth]
    omega

theorem Document.of_value_json {body : ByteArray} {v : Value}
    (accepted : (Document.read .json body).bind Document.value = .ok v) :
    v.Ordered ∧ v.depth ≤ Json.maxDepth ∧ ∀ a ∈ v.atoms, a.JsonNative := by
  obtain ⟨d, read, decoded⟩ := Except.exists_of_bind accepted
  obtain ⟨_, j, _, whole, rfl⟩ := Document.read_json_eq_ok read
  cases decoded
  have within := Json.within_of_parse? whole
  exact ⟨within.1, within.2, j.native_toValue⟩

/-- The element of a value is read only if all years of its date/times have four digits. -/
theorem Value.years_of_toXml {v w : Value} (read : v.toXml.value = .ok w) :
    ∀ t, .dateTime t ∈ v.atoms → 0 ≤ t.year ∧ t.year ≤ 9999 := by
  induction v using Value.induct generalizing w with
  | atom a =>
    intro t inside
    cases List.mem_singleton.mp inside
    refine Decidable.byContradiction fun year => ?_
    have typed : (Xml.Element.leaf "dateTime.iso8601" t.text).atom =
      .dateTime <$> Xml.Problem.notDateTime.unless
        (DateTime.ofText? (Xml.Element.leaf "dateTime.iso8601" t.text).content) := rfl
    rw [Xml.Element.content_leaf, t.trimmed_text, DateTime.ofText?_text_eq_none year] at typed
    have names := (Atom.dateTime t).name_ne
    rw [Value.toXml, Xml.Element.value_leaf names.1 names.2, Atom.xmlText, Atom.kind, Kind.name, typed] at read
    cases read
  | array items ih =>
    intro t inside
    obtain ⟨v, member, deep⟩ := Value.mem_atoms_array.mp inside
    rw [Value.toXml, Xml.Element.value_array, Value.toXmlOfItems_eq_map, Xml.Element.values_eq_mapM] at read
    obtain ⟨_, inner, _⟩ := Except.exists_of_map read
    obtain ⟨_, value⟩ := Except.exists_of_mapM inner (List.mem_map_of_mem member)
    exact ih v member value t deep
  | struct members ih =>
    intro t inside
    obtain ⟨entry, member, deep⟩ := Value.mem_atoms_struct.mp inside
    rw [Value.toXml, Xml.Element.value_struct, Value.members_toXmlOfMembers] at read
    obtain ⟨_, inner, _⟩ := Except.exists_of_map read
    obtain ⟨_, one⟩ := Except.exists_of_mapM inner member
    exact ih entry member (Value.readMember_eq_ok one).1 t deep

/-- In XML, date/times that show all of themselves come back exactly if their years have four digits. -/
theorem Value.read_xml_iff {v : Value} (ordered : v.Ordered) (shown : ∀ a ∈ v.atoms, a.Shown)
    (depth : v.toXml.depth ≤ Xml.maxDepth)
    (numbers : ∀ x, .double x ∈ v.atoms → Double.ofText? (x.text .display) = some x) :
    (Document.read .xml (Format.writeValue .xml v).toUTF8).bind Document.value = .ok v ↔
      ∀ t, .dateTime t ∈ v.atoms → 0 ≤ t.year ∧ t.year ≤ 9999 := by
  constructor
  · intro back
    rw [Xml.Element.read_document v.plain_toXml depth (Format.toList_writeValue_xml v)] at back
    exact Value.years_of_toXml (Except.mapError_eq_ok_iff.mp back)
  · intro years
    have readable : ∀ a ∈ v.atoms, a.XmlReadable := by
      intro a member
      cases a with
      | dateTime t => exact ⟨(DateTime.shown_eq_self_iff.mp (shown _ member)).2, years t member⟩
      | double x => exact numbers x member
      | _ => trivial
    rw [Value.read_writeValue_xml depth readable,
      Value.wholeSeconds_eq_self ordered fun a member => (shown a member).whole]

/-- In JSON, what was read from JSON comes back exactly if its years have four digits. -/
theorem Value.read_json_iff {v : Value} (ordered : v.Ordered) (depth : v.depth ≤ Json.maxDepth)
    (native : ∀ a ∈ v.atoms, a.JsonNative) (numbers : ∀ x, .double x ∈ v.atoms → x.ReadsBack) :
    (Document.read .json (Format.writeValue .json v).toUTF8).bind Document.value = .ok v ↔
      ∀ t, .dateTime t ∈ v.atoms → 0 ≤ t.year ∧ t.year ≤ 9999 := by
  have readable : ∀ a ∈ v.atoms, a.JsonReadable := by
    intro a member
    cases a with
    | double x => exact fun _ => numbers x member
    | _ => trivial
  have kept (a : Atom) (member : a ∈ v.atoms) : ¬a.Lossy ↔ ∀ t, a = .dateTime t → 0 ≤ t.year ∧ t.year ≤ 9999 :=
    (native a member).lossy_iff fun x same => (numbers x (same ▸ member)).finite
  rw [Value.read_writeValue_json depth readable, Except.ok.injEq, Value.toValue_toJson_iff ordered]
  constructor
  · exact fun same t member => (kept _ member).mp (same _ member) t rfl
  · exact fun years a member => (kept a member).mpr fun t same => years t (same ▸ member)

/-- What one format reads, another can pass on: written again, it is read as the same value, exactly if all of its
date/times have years of four digits. No document is too deep for that, and no spelling of a number, a string or
bytes is in the way. -/
theorem Format.passed_on_iff {source target : Format} (pair : source = .json ∨ target = .xml) {body : ByteArray}
    {v : Value} (accepted : (Document.read source body).bind Document.value = .ok v)
    (numbers : ∀ x, .double x ∈ v.atoms → target.ReadsNumber x) :
    (Document.read target (target.writeValue v).toUTF8).bind Document.value = .ok v ↔
      ∀ t, .dateTime t ∈ v.atoms → 0 ≤ t.year ∧ t.year ≤ 9999 := by
  cases source with
  | xml =>
    obtain rfl : target = .xml := pair.resolve_left nofun
    obtain ⟨ordered, shown, depth⟩ := Document.of_value_xml accepted
    exact Value.read_xml_iff ordered shown depth numbers
  | json =>
    obtain ⟨ordered, levels, native⟩ := Document.of_value_json accepted
    cases target with
    | xml =>
      have depth : v.toXml.depth ≤ Xml.maxDepth := by
        have elements := v.depth_toXml_le
        have limits : Json.maxDepth = 127 ∧ Xml.maxDepth = 384 := ⟨rfl, rfl⟩
        omega
      exact Value.read_xml_iff ordered (fun a member => (native a member).shown) depth numbers
    | json => exact Value.read_json_iff ordered levels native numbers

/-- A date/time with a blank behind the sign's digits is read, and what is written for it is a string. -/
theorem Format.passed_on_signed_year :
    ∃ v, (Document.read .json (Json.string "+10000 0101T00:00:00").render.toUTF8).bind Document.value = .ok v ∧
      (Document.read .json (Format.writeValue .json v).toUTF8).bind Document.value ≠ .ok v := by
  have shown : (DateTime.ofText? "+10000 0101T00:00:00".toList).map DateTime.year = some 10000 := by
    decide +kernel
  obtain ⟨t, atText, year⟩ := Option.map_eq_some_iff.mp shown
  have bare : trim "+10000 0101T00:00:00" = "+10000 0101T00:00:00" := by decide +kernel
  have taken : (Json.string "+10000 0101T00:00:00").toValue = .dateTime t := by
    simp only [Json.toValue, Atom.ofText, atText, bare, if_true]
  have accepted : (Document.read .json (Json.string "+10000 0101T00:00:00").render.toUTF8).bind Document.value =
      .ok (.dateTime t) := by
    have readable : (Json.string "+10000 0101T00:00:00").Readable := trivial
    rw [Json.read_document readable (by decide), ← taken]
    rfl
  have pair : Format.json = .json ∨ Format.json = .xml := Or.inl rfl
  have passed := Format.passed_on_iff pair accepted fun x member => by cases List.mem_singleton.mp member
  refine ⟨_, accepted, fun back => ?_⟩
  have bounds := passed.mp back t (List.mem_singleton_self _)
  omega

end RemoteCall
