import RemoteCall.Proofs.Json.Quoted
import RemoteCall.Proofs.Members

namespace RemoteCall

/-- Induction over a document, where the parts of a container are the members of its list. -/
theorem Json.induct {P : Json → Prop} (null : P .null) (boolean : ∀ b, P (.boolean b)) (number : ∀ n, P (.number n))
    (string : ∀ s, P (.string s)) (array : ∀ items, (∀ j ∈ items, P j) → P (.array items))
    (object : ∀ members, (∀ entry ∈ members, P entry.2) → P (.object members)) (j : Json) : P j := by
  refine @Json.rec P (fun items => ∀ j ∈ items, P j) (fun members => ∀ entry ∈ members, P entry.2)
    (fun entry => P entry.2) null boolean number string array object ?_ ?_ ?_ ?_ ?_ j
  · simp
  · intro j items first rest other member
    rcases List.mem_cons.mp member with rfl | later
    · exact first
    · exact rest other later
  · simp
  · intro entry members first rest other member
    rcases List.mem_cons.mp member with rfl | later
    · exact first
    · exact rest other later
  · intro name j inner
    exact inner

mutual

/-- How many containers stand inside one another at most. -/
def Json.depth : Json → Nat
  | .array items => Json.depthOfItems items + 1
  | .object members => Json.depthOfMembers members + 1
  | _ => 0

def Json.depthOfItems : List Json → Nat
  | [] => 0
  | j :: rest => max j.depth (Json.depthOfItems rest)

def Json.depthOfMembers : List (String × Json) → Nat
  | [] => 0
  | (_, j) :: rest => max j.depth (Json.depthOfMembers rest)

end

mutual

/-- A document that its text stands for: its numbers are read from their texts, and the members of
its objects are in order. -/
def Json.Readable : Json → Prop
  | .number n => n.Reads
  | .array items => Json.ReadableItems items
  | .object members => Members.Ordered members ∧ Json.ReadableMembers members
  | _ => True

def Json.ReadableItems : List Json → Prop
  | [] => True
  | j :: rest => j.Readable ∧ Json.ReadableItems rest

def Json.ReadableMembers : List (String × Json) → Prop
  | [] => True
  | (_, j) :: rest => j.Readable ∧ Json.ReadableMembers rest

end

theorem Json.depthOfItems_le {n : Nat} {items : List Json} :
    Json.depthOfItems items ≤ n ↔ ∀ j ∈ items, j.depth ≤ n := by
  induction items with
  | nil => simp [Json.depthOfItems]
  | cons j rest ih => simp only [Json.depthOfItems, Nat.max_le, ih, List.mem_cons, forall_eq_or_imp]

theorem Json.depthOfMembers_le {n : Nat} {members : List (String × Json)} :
    Json.depthOfMembers members ≤ n ↔ ∀ entry ∈ members, entry.2.depth ≤ n := by
  induction members with
  | nil => simp [Json.depthOfMembers]
  | cons entry rest ih => simp only [Json.depthOfMembers, Nat.max_le, ih, List.mem_cons, forall_eq_or_imp]

theorem Json.readableItems_iff {items : List Json} : Json.ReadableItems items ↔ ∀ j ∈ items, j.Readable := by
  induction items with
  | nil => simp [Json.ReadableItems]
  | cons j rest ih => simp only [Json.ReadableItems, ih, List.mem_cons, forall_eq_or_imp]

theorem Json.readableMembers_iff {members : List (String × Json)} :
    Json.ReadableMembers members ↔ ∀ entry ∈ members, entry.2.Readable := by
  induction members with
  | nil => simp [Json.ReadableMembers]
  | cons entry rest ih => simp only [Json.ReadableMembers, ih, List.mem_cons, forall_eq_or_imp]

theorem Json.readable_array_iff {items : List Json} : (Json.array items).Readable ↔ ∀ j ∈ items, j.Readable := by
  rw [Json.Readable, Json.readableItems_iff]

theorem Json.readable_object_iff {members : List (String × Json)} :
    (Json.object members).Readable ↔ Members.Ordered members ∧ ∀ entry ∈ members, entry.2.Readable := by
  rw [Json.Readable, Json.readableMembers_iff]

theorem Json.length_itemsText (items : List Json) : items.length < (Json.itemsText items).length := by
  induction items with
  | nil => decide
  | cons j rest ih =>
    simp only [Json.itemsText, List.length_cons, List.length_append]
    omega

theorem Json.length_membersText (members : List (String × Json)) :
    members.length < (Json.membersText members).length := by
  induction members with
  | nil => decide
  | cons entry rest ih =>
    simp only [Json.membersText, List.length_cons, List.length_append]
    omega

theorem Json.length_text_le_items {j : Json} {items : List Json} (member : j ∈ items) :
    j.text.length ≤ (Json.itemsText items).length := by
  induction items with
  | nil => cases member
  | cons first rest ih =>
    simp only [Json.itemsText, List.length_cons, List.length_append]
    rcases List.mem_cons.mp member with rfl | later
    · omega
    · have := ih later
      omega

theorem Json.length_text_le_members {entry : String × Json} {members : List (String × Json)}
    (member : entry ∈ members) : entry.2.text.length ≤ (Json.membersText members).length := by
  induction members with
  | nil => cases member
  | cons first rest ih =>
    simp only [Json.membersText, List.length_cons, List.length_append]
    rcases List.mem_cons.mp member with rfl | later
    · omega
    · have := ih later
      omega

/-- What the text of a document begins with is no space and closes nothing. -/
theorem Json.text_eq_cons {j : Json} (readable : j.Readable) :
    ∃ c cs, j.text = c :: cs ∧ Json.isSpace c = false ∧ c ≠ ']' := by
  cases j with
  | null => exact ⟨_, _, rfl, by decide, by decide⟩
  | boolean b => cases b <;> exact ⟨_, _, rfl, by decide, by decide⟩
  | number n =>
    obtain ⟨c, cs, form, numeric⟩ := Json.Number.Reads.text_eq_cons readable
    refine ⟨c, cs, form, Json.isSpace_of_isNumeric numeric, ?_⟩
    rintro rfl
    exact absurd numeric (by decide)
  | string s => exact ⟨_, _, rfl, by decide, by decide⟩
  | array items => cases items <;> exact ⟨_, _, rfl, by decide, by decide⟩
  | object members => cases members <;> exact ⟨_, _, rfl, by decide, by decide⟩

section

variable {item : List Char → Option (Json × List Char)}

/-- The items of an array are read if each one is. -/
theorem Json.itemsFrom_text {first : Json} {items : List Json} {count : Nat}
    (reads : ∀ j ∈ first :: items, ∀ rest, Json.EndsNumber rest → item (j.text ++ rest) = some (j, rest))
    (enough : items.length < count) (done : List Json) (tail : List Char) :
    Json.itemsFrom item count done (first.text ++ (Json.itemsText items ++ tail)) =
      some (done.reverse ++ first :: items, tail) := by
  induction items generalizing first count done with
  | nil =>
    obtain ⟨count, rfl⟩ := Nat.exists_eq_add_of_lt enough
    have here := reads first (List.mem_cons_self ..) (']' :: tail) (.cons (by decide))
    simp only [Json.itemsText, List.cons_append, List.nil_append, Json.itemsFrom, here,
      Json.skipSpace_cons (show Json.isSpace ']' = false by decide), List.reverse_cons]
  | cons next items ih =>
    obtain ⟨count, rfl⟩ := Nat.exists_eq_add_of_lt enough
    have here := reads first (List.mem_cons_self ..) (',' :: (next.text ++ (Json.itemsText items ++ tail)))
      (.cons (by decide))
    have more : items.length < items.length + 1 + count := by omega
    have later := ih (fun j member => reads j (List.mem_cons_of_mem _ member)) more (first :: done)
    simp only [Json.itemsText, List.cons_append, List.append_assoc, List.length_cons, Json.itemsFrom, here,
      Json.skipSpace_cons (show Json.isSpace ',' = false by decide), later, List.reverse_cons, List.nil_append]

theorem Json.member?_text (name : String) {j : Json} {rest : List Char}
    (reads : item (j.text ++ rest) = some (j, rest)) :
    Json.member? item (Json.quote name ++ ':' :: (j.text ++ rest)) = some ((name, j), rest) := by
  simp only [Json.member?, Json.quoted?_quote, Json.skipSpace_cons (show Json.isSpace ':' = false by decide), reads,
    Option.map_some]

/-- The members of an object are read if each one is. -/
theorem Json.membersFrom_text {name : String} {first : Json} {members : List (String × Json)} {count : Nat}
    (reads : ∀ entry ∈ (name, first) :: members, ∀ rest, Json.EndsNumber rest →
      item (entry.2.text ++ rest) = some (entry.2, rest)) (enough : members.length < count)
    (done : List (String × Json)) (tail : List Char) :
    Json.membersFrom item count done
        (Json.quote name ++ ':' :: (first.text ++ (Json.membersText members ++ tail))) =
      some (done.reverse ++ (name, first) :: members, tail) := by
  induction members generalizing name first count done with
  | nil =>
    obtain ⟨count, rfl⟩ := Nat.exists_eq_add_of_lt enough
    have here := Json.member?_text name
      (reads (name, first) (List.mem_cons_self ..) ('\x7d' :: tail) (.cons (by decide)))
    simp only [Json.membersText, List.cons_append, List.nil_append, Json.membersFrom, here,
      Json.skipSpace_cons (show Json.isSpace '\x7d' = false by decide), List.reverse_cons]
  | cons entry members ih =>
    obtain ⟨other, next⟩ := entry
    obtain ⟨count, rfl⟩ := Nat.exists_eq_add_of_lt enough
    have here := Json.member?_text name (reads (name, first) (List.mem_cons_self ..)
      (',' :: (Json.quote other ++ ':' :: (next.text ++ (Json.membersText members ++ tail)))) (.cons (by decide)))
    have more : members.length < members.length + 1 + count := by omega
    have later := ih (fun entry member => reads entry (List.mem_cons_of_mem _ member)) more ((name, first) :: done)
    simp only [Json.membersText, List.cons_append, List.append_assoc, List.length_cons, Json.membersFrom, here,
      Json.skipSpace_cons (show Json.isSpace ',' = false by decide), later, List.reverse_cons, List.nil_append]

end

theorem Json.valueFrom_string (width depth : Nat) (s : String) (rest : List Char) :
    Json.valueFrom width depth (Json.quote s ++ rest) = some (.string s, rest) := by
  unfold Json.valueFrom
  rw [Json.quote_append, Json.skipSpace_cons (by decide)]
  simp only [Json.stringFrom_quote, Option.map_some]

theorem Json.valueFrom_array {width depth : Nat} {c : Char} {cs : List Char} (dark : Json.isSpace c = false)
    (opened : c ≠ ']') :
    Json.valueFrom width (depth + 1) ('[' :: c :: cs) =
      (Json.itemsFrom (Json.valueFrom width depth) width [] (c :: cs)).map fun (items, rest) =>
        (.array items, rest) := by
  rw [Json.valueFrom, Json.skipSpace_cons (by decide)]
  simp only [Json.skipSpace_cons dark]
  split
  · rename_i same
    exact absurd (List.cons.inj same).1 opened
  · rfl

theorem Json.valueFrom_object {width depth : Nat} {c : Char} {cs : List Char} (dark : Json.isSpace c = false)
    (opened : c ≠ '\x7d') :
    Json.valueFrom width (depth + 1) ('\x7b' :: c :: cs) =
      (Json.membersFrom (Json.valueFrom width depth) width [] (c :: cs)).map fun (members, rest) =>
        (.object (Members.ofList members), rest) := by
  rw [Json.valueFrom, Json.skipSpace_cons (by decide)]
  simp only [Json.skipSpace_cons dark]
  split
  · rename_i same
    exact absurd (List.cons.inj same).1 opened
  · rfl

/-- The text of a document is read as that document, whatever stands behind it. -/
theorem Json.valueFrom_text {j : Json} (readable : j.Readable) {width depth : Nat} {rest : List Char}
    (deep : j.depth ≤ depth) (wide : j.text.length ≤ width) (ends : Json.EndsNumber rest) :
    Json.valueFrom width depth (j.text ++ rest) = some (j, rest) := by
  induction j using Json.induct generalizing depth rest with
  | null =>
    unfold Json.valueFrom
    rfl
  | boolean b =>
    unfold Json.valueFrom
    cases b <;> rfl
  | number n =>
    obtain ⟨c, cs, form, numeric⟩ := Json.Number.Reads.text_eq_cons readable
    obtain ⟨_, numeral, read, number⟩ := readable
    have whole := Json.numeral?_append read ends
    rw [form, List.cons_append] at whole
    rw [Json.text, form, List.cons_append, Json.valueFrom_numeric numeric, whole, Option.bind_some]
    simp only [number, Option.map_some, List.nil_append]
  | string s => exact Json.valueFrom_string width depth s rest
  | array items ih =>
    have parts := Json.readable_array_iff.mp readable
    cases depth with
    | zero => exact absurd deep (Nat.not_succ_le_zero _)
    | succ depth =>
      have shallow := Json.depthOfItems_le.mp (Nat.le_of_succ_le_succ deep)
      cases items with
      | nil =>
        unfold Json.valueFrom
        rfl
      | cons first items =>
        obtain ⟨c, cs, form, dark, opened⟩ := Json.text_eq_cons (parts first (List.mem_cons_self ..))
        simp only [Json.text, List.length_cons, List.length_append] at wide
        have short : ∀ j ∈ first :: items, j.text.length ≤ width := by
          intro j member
          rcases List.mem_cons.mp member with rfl | later
          · omega
          · have := Json.length_text_le_items later
            omega
        have enough : items.length < width := by
          have := Json.length_itemsText items
          omega
        have all := Json.itemsFrom_text
          (fun j member rest ends => ih j member (parts j member) (shallow j member) (short j member) ends) enough
          [] rest
        rw [form, List.cons_append] at all
        rw [Json.text, List.cons_append, List.cons_append, List.append_assoc, form, List.cons_append,
          Json.valueFrom_array dark opened, all]
        rfl
  | object members ih =>
    obtain ⟨ordered, parts⟩ := Json.readable_object_iff.mp readable
    cases depth with
    | zero => exact absurd deep (Nat.not_succ_le_zero _)
    | succ depth =>
      have shallow := Json.depthOfMembers_le.mp (Nat.le_of_succ_le_succ deep)
      cases members with
      | nil =>
        unfold Json.valueFrom
        rfl
      | cons entry members =>
        obtain ⟨name, first⟩ := entry
        simp only [Json.text, List.length_cons, List.length_append] at wide
        have short : ∀ entry ∈ (name, first) :: members, entry.2.text.length ≤ width := by
          intro entry member
          rcases List.mem_cons.mp member with rfl | later
          · dsimp only
            omega
          · have := Json.length_text_le_members later
            omega
        have enough : members.length < width := by
          have := Json.length_membersText members
          omega
        have all := Json.membersFrom_text
          (fun entry member rest ends =>
            ih entry member (parts entry member) (shallow entry member) (short entry member) ends) enough [] rest
        rw [Json.quote_append] at all
        have form : (Json.object ((name, first) :: members)).text ++ rest =
            '\x7b' :: (Json.quote name ++ ':' :: (first.text ++ (Json.membersText members ++ rest))) := by
          simp only [Json.text, List.cons_append, List.append_assoc]
        rw [form, Json.quote_append, Json.valueFrom_object (by decide) (by decide), all, Option.map_some]
        simp only [List.reverse_nil, List.nil_append, Members.ofList_of_ordered ordered]

/-- The text of a document is read as that document, unless its containers stand too deep. -/
theorem Json.parse?_text {j : Json} (readable : j.Readable) (depth : j.depth ≤ Json.maxDepth) :
    Json.parse? j.text = some j := by
  have whole := Json.valueFrom_text readable depth (Nat.le_refl _) Json.EndsNumber.nil
  rw [List.append_nil] at whole
  rw [Json.parse?, whole]
  rfl

end RemoteCall
