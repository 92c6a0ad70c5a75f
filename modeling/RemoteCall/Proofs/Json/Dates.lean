import RemoteCall.Proofs.DateTime.Spelling
import RemoteCall.Proofs.Json.Coding

namespace RemoteCall

theorem DateTime.Spelling.trimmed_text (sp : DateTime.Spelling) : trimmed sp.text = sp.text := by
  refine trimmed_eq_self sp.head?_text fun c last => ?_
  obtain ⟨d, ds, form, digit⟩ := sp.second.exists_digits_eq_cons
  have inDigits : c ∈ sp.second.digits := by
    refine List.mem_of_mem_getLast? ?_
    simpa [DateTime.Spelling.text, DateTime.Field.text, form, List.getLast?_append, List.getLast?_cons] using last
  exact isBlank_of_isDigit (sp.second.decimal c inDigits)

/-- A string is taken for a date/time exactly if it is a spelling of it as it stands. -/
theorem Atom.ofText_eq_dateTime_iff {s : String} {t : DateTime} :
    Atom.ofText s = .dateTime t ↔ ∃ sp : DateTime.Spelling, sp.text = s.toList ∧ sp.Denotes t := by
  constructor
  · intro taken
    unfold Atom.ofText at taken
    split at taken
    · rename_i other read
      split at taken
      · rename_i bare
        cases taken
        obtain ⟨sp, text, denotes⟩ := DateTime.ofText?_eq_some_iff.mp read
        exact ⟨sp, text.trans (trim_eq_self_iff.mp bare), denotes⟩
      · cases taken
    · cases taken
  · rintro ⟨sp, text, denotes⟩
    have bare : trimmed s.toList = s.toList := text ▸ sp.trimmed_text
    have read := DateTime.ofText?_eq_some_iff.mpr ⟨sp, text.trans bare.symm, denotes⟩
    simp only [Atom.ofText, read, trim_eq_self_iff.mpr bare, if_true]

theorem Atom.ofText_cases (s : String) : (∃ t, Atom.ofText s = .dateTime t) ∨ Atom.ofText s = .string s := by
  unfold Atom.ofText
  split
  · rename_i t read
    by_cases bare : trim s = s
    · exact Or.inl ⟨t, if_pos bare⟩
    · exact Or.inr (if_neg bare)
  · exact Or.inr rfl

/-- A string is written back as it was unless it is a date/time in a spelling that is not the one that is written. -/
theorem Atom.toJson_ofText_eq_iff {s : String} :
    (Atom.ofText s).toJson = .string s ↔
      ∀ (sp : DateTime.Spelling) (t : DateTime), sp.text = s.toList → sp.Denotes t → sp.Exact := by
  constructor
  · intro back sp t text denotes
    have taken := Atom.ofText_eq_dateTime_iff.mpr ⟨sp, text, denotes⟩
    rw [taken, Atom.toJson, Json.string.injEq] at back
    have same : t.text = s.toList := by rw [← back, String.toList_ofList]
    exact (DateTime.Spelling.text_eq_iff denotes).mp (text.trans same.symm)
  · intro exact
    obtain ⟨t, taken⟩ | kept := Atom.ofText_cases s
    · obtain ⟨sp, text, denotes⟩ := Atom.ofText_eq_dateTime_iff.mp taken
      have same := (exact sp t text denotes).text_eq denotes
      rw [taken, Atom.toJson, ← same, text, String.ofList_toList]
    · rw [kept, Atom.toJson]

/-- A JSON string becomes a date/time exactly if it is one of its spellings, and stays as it is otherwise. What is
written for a date/time of the four-digit years is among them, but a spelling that leaves out zeros, has blanks or a
sign becomes a date/time too, and these are the strings that are not written back as they were. -/
theorem Json.dates_of_strings (s : String) :
    (∀ t, (Json.string s).toValue = .dateTime t ↔ ∃ sp : DateTime.Spelling, sp.text = s.toList ∧ sp.Denotes t) ∧
    ((∃ t, (Json.string s).toValue = .dateTime t) ∨ (Json.string s).toValue = .string s) ∧
    (∀ (sp : DateTime.Spelling) (t : DateTime), sp.Denotes t → (sp.text = t.text ↔ sp.Exact)) ∧
    (∀ t : DateTime, 0 ≤ t.year ∧ t.year ≤ 9999 → t.wholeSecond = t → t.LeapAt59 → s = String.ofList t.text →
      (Json.string s).toValue = .dateTime t) ∧
    ((Json.string s).toValue.toJson = .string s ↔
      ∀ (sp : DateTime.Spelling) (t : DateTime), sp.text = s.toList → sp.Denotes t → sp.Exact) := by
  refine ⟨fun t => ?_, ?_, fun sp t denotes => DateTime.Spelling.text_eq_iff denotes, ?_, Atom.toJson_ofText_eq_iff⟩
  · rw [Json.toValue, Value.atom.injEq]
    exact Atom.ofText_eq_dateTime_iff
  · obtain ⟨t, taken⟩ | kept := Atom.ofText_cases s
    · exact Or.inl ⟨t, congrArg Value.atom taken⟩
    · exact Or.inr (congrArg Value.atom kept)
  · rintro t year whole placed rfl
    rw [Json.toValue, Atom.ofText_text year, placed.shown, whole]

/-- A time of day with one digit for each number. -/
def DateTime.Spelling.terse : DateTime.Spelling where
  year := .plain ['1', '9', '9', '8'] (List.all_eq_true.mp rfl) (by decide)
  month := ⟨[], ['0', '7'], nofun, List.all_eq_true.mp rfl, .inr rfl⟩
  day := ⟨[], ['1', '7'], nofun, List.all_eq_true.mp rfl, .inr rfl⟩
  hour := ⟨[], ['1'], nofun, List.all_eq_true.mp rfl, .inl rfl⟩
  minute := ⟨[], ['2'], nofun, List.all_eq_true.mp rfl, .inl rfl⟩
  second := ⟨[], ['3'], nofun, List.all_eq_true.mp rfl, .inl rfl⟩
  year_ends := Or.inl rfl
  month_ends := Or.inl rfl

/-- It is read as a date/time, and written with the zeros. -/
theorem Json.dates_of_strings_terse :
    (∃ t, (Json.string "19980717T1:2:3").toValue = .dateTime t ∧ DateTime.Spelling.terse.text ≠ t.text) ∧
      (Json.string "19980717T1:2:3").toValue.toJson ≠ .string "19980717T1:2:3" := by
  obtain ⟨taken, -, exact, -, back⟩ := Json.dates_of_strings "19980717T1:2:3"
  have text : DateTime.Spelling.terse.text = "19980717T1:2:3".toList := by decide
  have denotes : DateTime.Spelling.terse.Denotes ⟨1998, 7, 17, 1, 2, 3, 0, by decide, by decide, by decide, by decide,
      by decide, by decide, by decide⟩ := by
    constructor <;> decide +kernel
  have short : ¬DateTime.Spelling.terse.Exact := fun exact => absurd exact.hour.2 (by decide)
  exact ⟨⟨_, (taken _).mpr ⟨_, text, denotes⟩, fun same => short ((exact _ _ denotes).mp same)⟩,
    fun same => short (back.mp same _ _ text denotes)⟩

end RemoteCall
