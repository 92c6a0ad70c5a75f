import RemoteCall.Json.Coding
import RemoteCall.Proofs.DateTime
import RemoteCall.Proofs.Json.Text
import RemoteCall.Proofs.Value

namespace RemoteCall

theorem Value.toJsonItems_eq_map (items : List Value) : Value.toJsonItems items = items.map Value.toJson := by
  induction items with
  | nil => rfl
  | cons v rest ih => rw [Value.toJsonItems, ih, List.map_cons]

theorem Value.toJsonMembers_eq_map (members : List (String × Value)) :
    Value.toJsonMembers members = members.map fun entry => (entry.1, entry.2.toJson) := by
  induction members with
  | nil => rfl
  | cons entry rest ih => rw [Value.toJsonMembers, ih, List.map_cons]

theorem Json.toValues_eq_map (items : List Json) : Json.toValues items = items.map Json.toValue := by
  induction items with
  | nil => rfl
  | cons j rest ih => rw [Json.toValues, ih, List.map_cons]

theorem Json.toMembers_eq_map (members : List (String × Json)) :
    Json.toMembers members = members.map fun entry => (entry.1, entry.2.toValue) := by
  induction members with
  | nil => rfl
  | cons entry rest ih => rw [Json.toMembers, ih, List.map_cons]

theorem Json.toValues_toJsonItems (items : List Value) :
    Json.toValues (Value.toJsonItems items) = items.map fun v => v.toJson.toValue := by
  rw [Json.toValues_eq_map, Value.toJsonItems_eq_map, List.map_map]
  rfl

/-- A struct whose members are in order becomes an object with the same names in the same places. -/
theorem Value.toJson_struct {members : List (String × Value)} (ordered : Members.Ordered members) :
    (Value.struct members).toJson = .object (members.map fun entry => (entry.1, entry.2.toJson)) := by
  rw [Value.toJson, Value.toJsonMembers_eq_map, Members.ofList_of_ordered (Members.ordered_map.mpr ordered)]

theorem Digits.fit32?_eq_none_iff {n : Int} : fit32? n = none ↔ ¬(-2147483648 ≤ n ∧ n ≤ 2147483647) := by
  rw [fit32?]
  split
  · rename_i fits
    simp [fits]
  · rename_i outside
    simp only [outside, not_false_eq_true]

theorem Json.Number.toAtom_int32 (n : Int32) : (Json.Number.whole n.toInt).toAtom = .int32 n := by
  rw [Json.Number.toAtom, Digits.fit32?_toInt]

theorem Json.Number.toAtom_int64 {n : Int64} (wide : ¬(-2147483648 ≤ n.toInt ∧ n.toInt ≤ 2147483647)) :
    (Json.Number.whole n.toInt).toAtom = .int64 n := by
  simp only [Json.Number.toAtom, Digits.fit32?_eq_none_iff.mpr wide, Digits.fit64?_toInt]

theorem Atom.ofText_text {t : DateTime} (year : 0 ≤ t.year ∧ t.year ≤ 9999) :
    Atom.ofText (String.ofList t.text) = .dateTime t.shown := by
  have trimmed : trim (String.ofList t.text) = String.ofList t.text := by
    rw [trim_eq_self_iff, String.toList_ofList, t.trimmed_text]
  simp only [Atom.ofText, String.toList_ofList, DateTime.ofText?_text year, trimmed, if_true]

theorem Atom.ofText_text_outside {t : DateTime} (year : ¬(0 ≤ t.year ∧ t.year ≤ 9999)) :
    Atom.ofText (String.ofList t.text) = .string (String.ofList t.text) := by
  simp only [Atom.ofText, String.toList_ofList, DateTime.ofText?_text_eq_none year]

/-- A string stays a string exactly if it is not, as it stands, the text of a date/time. -/
theorem Atom.ofText_eq_string_iff {s : String} :
    Atom.ofText s = .string s ↔ ¬(trim s = s ∧ (DateTime.ofText? s.toList).isSome = true) := by
  cases read : DateTime.ofText? s.toList with
  | none => simp [Atom.ofText, read]
  | some t =>
    by_cases bare : trim s = s
    · simp [Atom.ofText, read, bare]
    · simp [Atom.ofText, read, bare]

/-- What does not come back from JSON as it was. A leap second other than at second 59 comes back as the second behind
it. -/
def Atom.Lossy : Atom → Prop
  | .base64 _ => True
  | .int64 n => -2147483648 ≤ n.toInt ∧ n.toInt ≤ 2147483647
  | .double x => x.isFinite = false
  | .dateTime t => ¬(t.nanosecond = 0 ∨ t.nanosecond = 1000000000) ∨ ¬(0 ≤ t.year ∧ t.year ≤ 9999) ∨ ¬t.LeapAt59
  | .string s => trim s = s ∧ (DateTime.ofText? s.toList).isSome = true
  | _ => False

instance : DecidablePred Atom.Lossy
  | .base64 _ => inferInstanceAs (Decidable True)
  | .int64 n => inferInstanceAs (Decidable (-2147483648 ≤ n.toInt ∧ n.toInt ≤ 2147483647))
  | .double x => inferInstanceAs (Decidable (x.isFinite = false))
  | .dateTime t => inferInstanceAs (Decidable
      (¬(t.nanosecond = 0 ∨ t.nanosecond = 1000000000) ∨ ¬(0 ≤ t.year ∧ t.year ≤ 9999) ∨ ¬t.LeapAt59))
  | .string s => inferInstanceAs (Decidable (trim s = s ∧ (DateTime.ofText? s.toList).isSome = true))
  | .boolean _ | .int32 _ | .nil => inferInstanceAs (Decidable False)

theorem Atom.ofText_ne_base64 (s : String) (bytes : List UInt8) : Atom.ofText s ≠ .base64 bytes := by
  unfold Atom.ofText
  split
  · split <;> nofun
  · nofun

theorem Atom.toValue_toJson_iff (a : Atom) : a.toJson.toValue = .atom a ↔ ¬a.Lossy := by
  cases a with
  | base64 bytes =>
    have other := Atom.ofText_ne_base64 (String.ofList (Base64.encode bytes)) bytes
    simp only [Atom.toJson, Json.toValue, Value.atom.injEq, other, Atom.Lossy, not_true_eq_false]
  | boolean b => simp [Atom.toJson, Json.toValue, Atom.Lossy]
  | dateTime t =>
    by_cases year : 0 ≤ t.year ∧ t.year ≤ 9999
    · simp only [Atom.toJson, Json.toValue, Atom.ofText_text year, Value.atom.injEq, Atom.dateTime.injEq,
        DateTime.shown_eq_self_iff, Atom.Lossy, year, and_self, not_true_eq_false, false_or,
        ← Decidable.not_and_iff_not_or_not, Decidable.not_not]
    · simp [Atom.toJson, Json.toValue, Atom.ofText_text_outside year, Atom.Lossy, year]
  | double x =>
    cases finite : x.isFinite with
    | true => simp [Atom.toJson, Json.toValue, Json.Number.toAtom, Atom.Lossy, finite]
    | false => simp [Atom.toJson, Json.toValue, Atom.Lossy, finite]
  | int32 n => simp only [Atom.toJson, Json.toValue, Json.Number.toAtom_int32, Atom.Lossy, not_false_eq_true]
  | int64 n =>
    by_cases narrow : -2147483648 ≤ n.toInt ∧ n.toInt ≤ 2147483647
    · simp [Atom.toJson, Json.toValue, Json.Number.toAtom, Digits.fit32?, narrow, Atom.Lossy]
    · simp only [Atom.toJson, Json.toValue, Json.Number.toAtom_int64 narrow, Atom.Lossy, narrow, not_false_eq_true]
  | nil => simp [Atom.toJson, Json.toValue, Atom.Lossy]
  | string s => simp only [Atom.toJson, Json.toValue, Value.atom.injEq, Atom.ofText_eq_string_iff, Atom.Lossy]

/-- The loss is that of the parts: containers come back as they are. -/
theorem Value.toValue_toJson_iff {v : Value} (ordered : v.Ordered) :
    v.toJson.toValue = v ↔ ∀ a ∈ v.atoms, ¬a.Lossy := by
  induction v using Value.induct with
  | atom a => simp only [Value.toJson, Atom.toValue_toJson_iff, Value.atoms, List.mem_singleton, forall_eq]
  | array items ih =>
    have parts := Value.ordered_array_iff.mp ordered
    rw [Value.toJson, Json.toValue, Json.toValues_toJsonItems, Value.array.injEq, map_eq_self_iff]
    simp only [Value.mem_atoms_array]
    constructor
    · rintro same a ⟨v, member, inside⟩
      exact (ih v member (parts v member)).mp (same v member) a inside
    · intro kept v member
      exact (ih v member (parts v member)).mpr fun a inside => kept a ⟨v, member, inside⟩
  | struct members ih =>
    obtain ⟨inOrder, parts⟩ := Value.ordered_struct_iff.mp ordered
    rw [Value.toJson_struct inOrder, Json.toValue, Json.toMembers_eq_map, List.map_map, Value.struct.injEq,
      map_eq_self_iff]
    simp only [Value.mem_atoms_struct]
    constructor
    · rintro same a ⟨entry, member, inside⟩
      exact (ih entry member (parts entry member)).mp (congrArg Prod.snd (same entry member)) a inside
    · intro kept entry member
      exact congrArg (Prod.mk entry.1) ((ih entry member (parts entry member)).mpr fun a inside =>
        kept a ⟨entry, member, inside⟩)

/-- Finite numbers are read from their texts. -/
def Atom.JsonReadable : Atom → Prop
  | .double x => x.isFinite = true → x.ReadsBack
  | _ => True

theorem Atom.readable_toJson {a : Atom} (readable : a.JsonReadable) : a.toJson.Readable := by
  cases a with
  | double x =>
    cases finite : x.isFinite with
    | true =>
      rw [Atom.toJson, if_pos finite]
      exact Json.Number.reads_double finite (readable finite)
    | false =>
      rw [Atom.toJson, if_neg (by simp [finite])]
      trivial
  | int32 n => exact Json.Number.reads_int32 n
  | int64 n => exact Json.Number.reads_int64 n
  | _ => trivial

theorem Value.readable_toJson {v : Value} (readable : ∀ a ∈ v.atoms, a.JsonReadable) : v.toJson.Readable := by
  induction v using Value.induct with
  | atom a => exact Atom.readable_toJson (readable a (by simp [Value.atoms]))
  | array items ih =>
    rw [Value.toJson, Json.readable_array_iff, Value.toJsonItems_eq_map]
    intro j member
    obtain ⟨v, inside, rfl⟩ := List.mem_map.mp member
    exact ih v inside fun a deep => readable a (Value.mem_atoms_array.mpr ⟨v, inside, deep⟩)
  | struct members ih =>
    rw [Value.toJson, Json.readable_object_iff, Value.toJsonMembers_eq_map]
    refine ⟨Members.ordered_ofList _, fun entry member => ?_⟩
    obtain ⟨source, inside, rfl⟩ := List.mem_map.mp (Members.mem_ofList member)
    exact ih source inside fun a deep => readable a (Value.mem_atoms_struct.mpr ⟨source, inside, deep⟩)

theorem Atom.depth_toJson (a : Atom) : a.toJson.depth = 0 := by
  cases a with
  | double x =>
    rw [Atom.toJson]
    split <;> rfl
  | _ => rfl

theorem Value.depth_toJson_le (v : Value) : v.toJson.depth ≤ v.depth := by
  induction v using Value.induct with
  | atom a => exact Nat.le_of_eq a.depth_toJson
  | array items ih =>
    rw [Value.toJson, Json.depth, Value.toJsonItems_eq_map]
    refine Nat.lt_of_le_of_lt (Json.depthOfItems_le.mpr fun j member => ?_) (Nat.lt_succ_self _)
    obtain ⟨v, inside, rfl⟩ := List.mem_map.mp member
    exact Nat.le_trans (ih v inside) (Nat.le_of_lt_succ (Value.depth_lt_array inside))
  | struct members ih =>
    rw [Value.toJson, Json.depth, Value.toJsonMembers_eq_map]
    refine Nat.lt_of_le_of_lt (Json.depthOfMembers_le.mpr fun entry member => ?_) (Nat.lt_succ_self _)
    obtain ⟨source, inside, rfl⟩ := List.mem_map.mp (Members.mem_ofList member)
    exact Nat.le_trans (ih source inside) (Nat.le_of_lt_succ (Value.depth_lt_struct inside))

end RemoteCall
