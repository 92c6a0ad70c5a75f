import RemoteCall.Proofs.Scanning
import RemoteCall.Xml.Event

namespace RemoteCall

theorem Xml.unescapeFrom_escapeChar (c : Char) (done rest : List Char) :
    Xml.unescapeFrom none done (Xml.escapeChar c ++ rest) = Xml.unescapeFrom none (c :: done) rest := by
  unfold Xml.escapeChar
  split
  · rfl
  · rfl
  · rfl
  · rfl
  · rfl
  · rename_i noAmpersand _ _
    rw [List.singleton_append, Xml.unescapeFrom, if_neg noAmpersand]

theorem Xml.unescapeFrom_escape (cs done : List Char) :
    Xml.unescapeFrom none done (Xml.escape cs) = some (done.reverse ++ cs) := by
  induction cs generalizing done with
  | nil => rw [Xml.escape, List.flatMap_nil, Xml.unescapeFrom, List.append_nil]
  | cons c cs ih =>
    have step : Xml.escape (c :: cs) = Xml.escapeChar c ++ Xml.escape cs := List.flatMap_cons
    rw [step, Xml.unescapeFrom_escapeChar, ih, List.reverse_cons, List.append_assoc, List.singleton_append]

/-- Every text reads back from its escaped form, character for character. -/
theorem Xml.unescape?_escape (cs : List Char) : Xml.unescape? (Xml.escape cs) = some cs :=
  Xml.unescapeFrom_escape cs []

theorem Xml.escapeChar_ne_open (d : Char) : ∀ c ∈ Xml.escapeChar d, (c != '<') = true := by
  refine List.all_eq_true.mp ?_
  unfold Xml.escapeChar
  split
  case h_6 plain _ _ _ _ => simpa using plain
  all_goals decide

theorem Xml.escape_ne_open {cs : List Char} : ∀ c ∈ Xml.escape cs, (c != '<') = true := by
  intro c member
  obtain ⟨d, _, inside⟩ := List.mem_flatMap.mp member
  exact Xml.escapeChar_ne_open d c inside

theorem Xml.escape_eq_nil_iff {cs : List Char} : Xml.escape cs = [] ↔ cs = [] := by
  cases cs with
  | nil => simp [Xml.escape]
  | cons c cs =>
    have some : Xml.escapeChar c ≠ [] := by
      unfold Xml.escapeChar
      split <;> simp
    simp [Xml.escape, some]

/-- The inside of a tag without quotation marks ends at the next `>`. -/
theorem Xml.tagFrom_plain {inside passed rest : List Char}
    (plain : ∀ c ∈ inside, c ≠ '>' ∧ c ≠ '\'' ∧ c ≠ '"') :
    Xml.tagFrom none passed (inside ++ '>' :: rest) = some (passed.reverse ++ inside, rest) := by
  induction inside generalizing passed with
  | nil => rw [List.nil_append, Xml.tagFrom, if_pos rfl, List.append_nil]
  | cons c inside ih =>
    obtain ⟨noEnd, noQuote⟩ := plain c (List.mem_cons_self ..)
    rw [List.cons_append, Xml.tagFrom, if_neg noEnd, if_neg (not_or.mpr noQuote),
      ih fun d member => plain d (List.mem_cons_of_mem _ member), List.reverse_cons, List.append_assoc,
      List.singleton_append]

/-- A name that no tag can be mistaken about. -/
def Xml.isPlainName (name : List Char) : Bool :=
  !name.isEmpty && name.all fun c => c.isAlphanum || c == '.'

theorem Xml.isPlainName_iff {name : List Char} :
    Xml.isPlainName name = true ↔ name ≠ [] ∧ ∀ c ∈ name, (c.isAlphanum || c == '.') = true := by
  simp [Xml.isPlainName]

theorem Xml.plain_ne {c d : Char} (plain : (c.isAlphanum || c == '.') = true)
    (special : (d.isAlphanum || d == '.') = false) : c ≠ d := by
  rintro rfl
  rw [plain] at special
  cases special

theorem Xml.tagFrom_name {name : List Char} (plain : Xml.isPlainName name = true) (rest : List Char) :
    Xml.tagFrom none [] (name ++ '>' :: rest) = some (name, rest) :=
  Xml.tagFrom_plain fun c member =>
    have letter := (Xml.isPlainName_iff.mp plain).2 c member
    ⟨Xml.plain_ne letter (by decide), Xml.plain_ne letter (by decide), Xml.plain_ne letter (by decide)⟩

theorem Xml.isSpace_of_plain {c : Char} (plain : (c.isAlphanum || c == '.') = true) : Xml.isSpace c = false := by
  have apart {d : Char} (special : (d.isAlphanum || d == '.') = false) : (c == d) = false := by
    simpa using Xml.plain_ne plain special
  simp only [Xml.isSpace, Bool.or_eq_false_iff]
  exact ⟨⟨⟨apart (by decide), apart (by decide)⟩, apart (by decide)⟩, apart (by decide)⟩

theorem Xml.isSpace_iff {c : Char} : Xml.isSpace c = true ↔ c = ' ' ∨ c = '\t' ∨ c = '\r' ∨ c = '\n' := by
  simp [Xml.isSpace, or_assoc]

theorem Xml.Event.ofStartTag_name {name : List Char} (plain : Xml.isPlainName name = true) :
    Xml.Event.ofStartTag name = .start (String.ofList name) false := by
  obtain ⟨_, letters⟩ := Xml.isPlainName_iff.mp plain
  have all : name.takeWhile (fun c => !Xml.isSpace c) = name :=
    List.takeWhile_eq_self_iff.mpr fun c member => by rw [Xml.isSpace_of_plain (letters c member), Bool.not_false]
  unfold Xml.Event.ofStartTag
  split
  · rename_i body same
    have member : '/' ∈ name := List.mem_reverse.mp (by simp [same])
    exact absurd rfl (Xml.plain_ne (letters '/' member) (d := '/') (by decide))
  · rw [all]

theorem Xml.Event.ofEndTag_name {name : List Char} (plain : Xml.isPlainName name = true) :
    Xml.Event.ofEndTag name = .finish (String.ofList name) := by
  obtain ⟨nonempty, letters⟩ := Xml.isPlainName_iff.mp plain
  have visible : ∀ c ∈ name, Xml.isSpace c = false := fun c member => Xml.isSpace_of_plain (letters c member)
  obtain ⟨c, cs, form⟩ := List.exists_cons_of_ne_nil (List.reverse_ne_nil_iff.mpr nonempty)
  have last : Xml.isSpace c = false := visible c (List.mem_reverse.mp (by simp [form]))
  have kept : name.reverse.dropWhile Xml.isSpace = name.reverse := by
    rw [form, List.dropWhile_cons_of_neg (by simp [last])]
  rw [Xml.Event.ofEndTag, kept, List.reverse_reverse, ite_self]

theorem Xml.Event.next?_startTag {name rest : List Char} (plain : Xml.isPlainName name = true) :
    Xml.Event.next? ('<' :: name ++ '>' :: rest) = some (.start (String.ofList name) false, rest) := by
  obtain ⟨nonempty, letters⟩ := Xml.isPlainName_iff.mp plain
  obtain ⟨c, cs, form⟩ := List.exists_cons_of_ne_nil nonempty
  have first : (c.isAlphanum || c == '.') = true := letters c (by simp [form])
  have read := Xml.tagFrom_name plain rest
  have event := Xml.Event.ofStartTag_name plain
  rw [form, List.cons_append] at read
  rw [List.cons_append, form, List.cons_append, Xml.Event.next?]
  · rw [read, ← form, ← event]
    rfl
  · rintro cs ⟨rfl, _⟩
    cases first
  · rintro cs ⟨rfl, _⟩
    cases first
  · rintro cs ⟨rfl, _⟩
    cases first

theorem Xml.Event.next?_endTag {name rest : List Char} (plain : Xml.isPlainName name = true) :
    Xml.Event.next? ('<' :: '/' :: name ++ '>' :: rest) = some (.finish (String.ofList name), rest) := by
  rw [List.cons_append, List.cons_append, Xml.Event.next?, Xml.tagFrom_name plain,
    ← Xml.Event.ofEndTag_name plain]
  rfl

/-- Text runs to the next tag or to the end of the document. -/
theorem Xml.Event.next?_text_of_ends {cs : List Char} (nonempty : cs ≠ []) {rest : List Char}
    (ends : ∀ c ∈ rest.head?, c = '<') : Xml.Event.next? (Xml.escape cs ++ rest) = some (.text cs, rest) := by
  have some : Xml.escape cs ≠ [] := fun empty => nonempty (Xml.escape_eq_nil_iff.mp empty)
  obtain ⟨c, more, form⟩ := List.exists_cons_of_ne_nil some
  have inside : c ∈ Xml.escape cs := by simp [form]
  have first : c ≠ '<' := by simpa using Xml.escape_ne_open c inside
  have stop : ∀ d ∈ rest.head?, (d != '<') = false := fun d head => by rw [ends d head, bne_self_eq_false]
  have taken : (Xml.escape cs ++ rest).takeWhile (· != '<') = Xml.escape cs := takeWhile_front Xml.escape_ne_open stop
  have left : (Xml.escape cs ++ rest).dropWhile (· != '<') = rest := dropWhile_front Xml.escape_ne_open stop
  rw [form, List.cons_append] at taken left ⊢
  rw [Xml.Event.next?, taken, left, ← form, Xml.unescape?_escape, Option.map_some]
  all_goals exact fun _ same => first (List.cons.inj same).1

theorem Xml.Event.next?_text {cs : List Char} (nonempty : cs ≠ []) (rest : List Char) :
    Xml.Event.next? (Xml.escape cs ++ '<' :: rest) = some (.text cs, '<' :: rest) :=
  Xml.Event.next?_text_of_ends nonempty fun _ head => (Option.some.inj head).symm

end RemoteCall
