import RemoteCall.Format

namespace RemoteCall

theorem fromUTF8?_toUTF8 (s : String) : String.fromUTF8? s.toUTF8 = some s := by
  have valid : s.toUTF8.IsValidUTF8 := s.isValidUTF8
  rw [String.fromUTF8?, dif_pos valid]
  rfl

theorem Document.read_xml {text : String} {root : Xml.Element}
    (read : Xml.Element.ofDocument text.toList = .ok root) : Document.read .xml text.toUTF8 = .ok (.xml root) := by
  rw [Document.read, fromUTF8?_toUTF8]
  simp only [read]
  rfl

theorem Document.read_json {text : String} {j : Json} (read : Json.parse? text.toList = some j) :
    Document.read .json text.toUTF8 = .ok (.json j) := by
  rw [Document.read, fromUTF8?_toUTF8]
  simp only [read]

theorem Document.read_xml_eq_ok {body : ByteArray} {d : Document} (read : Document.read .xml body = .ok d) :
    ∃ text root, String.fromUTF8? body = some text ∧ Xml.Element.ofDocument text.toList = .ok root ∧ d = .xml root := by
  unfold Document.read at read
  split at read
  · cases read
  · rename_i text decoded
    cases whole : Xml.Element.ofDocument text.toList with
    | error problem =>
      simp only [whole] at read
      cases read
    | ok root =>
      simp only [whole] at read
      cases read
      exact ⟨text, root, decoded, whole, rfl⟩

theorem Document.read_json_eq_ok {body : ByteArray} {d : Document} (read : Document.read .json body = .ok d) :
    ∃ text j, String.fromUTF8? body = some text ∧ Json.parse? text.toList = some j ∧ d = .json j := by
  unfold Document.read at read
  split at read
  · cases read
  · rename_i text decoded
    cases whole : Json.parse? text.toList with
    | none =>
      simp only [whole] at read
      cases read
    | some j =>
      simp only [whole] at read
      cases read
      exact ⟨text, j, decoded, whole, rfl⟩

theorem Except.mapError_eq_ok_iff {ε ε' α : Type} {f : ε → ε'} {x : Except ε α} {a : α} :
    x.mapError f = .ok a ↔ x = .ok a := by
  cases x with
  | error problem => exact iff_of_false nofun nofun
  | ok b =>
    exact ⟨fun same => congrArg Except.ok (Except.ok.inj same), fun same => congrArg Except.ok (Except.ok.inj same)⟩

theorem map_result_eq_self {f : Value → Value} {result : Except Fault Value}
    (fixed : ∀ v, result = .ok v → f v = v) : result.map f = result := by
  cases result with
  | ok v => exact congrArg Except.ok (fixed v rfl)
  | error fault => rfl

end RemoteCall
