import RemoteCall.Format
import RemoteCall.Http.Message
import RemoteCall.Proofs.Digits

namespace RemoteCall

/-- The media type of a content type is what stands in front of the parameters, without the white space around it. -/
def Http.MediaType (text media : List Char) : Prop :=
  ∃ front back rest, text = front ++ (media ++ (back ++ rest)) ∧ (∀ c ∈ front, isBlank c = true) ∧
    (∀ c ∈ back, isBlank c = true) ∧ (∀ c ∈ media.head?, isBlank c = false) ∧
    (∀ c ∈ media.getLast?, isBlank c = false) ∧ ';' ∉ front ++ (media ++ back) ∧ ∀ c ∈ rest.head?, c = ';'

/-- Tab and what is printable in ASCII. -/
def Http.IsHeaderChar (c : Char) : Prop :=
  c = '\t' ∨ 0x20 ≤ c.toNat ∧ c.toNat ≤ 0x7e

instance (c : Char) : Decidable (Http.IsHeaderChar c) :=
  inferInstanceAs (Decidable (c = '\t' ∨ _))

/-- The media type that a request names. Without a content type, or with one that has other characters, it is empty. -/
inductive Http.Request.Names (q : Http.Request) : List Char → Prop
  | missing : q.contentType = none → q.Names []
  | foreign {value : String} {c : Char} : q.contentType = some value → c ∈ value.toList → ¬Http.IsHeaderChar c →
      q.Names []
  | sent {value : String} {media : List Char} : q.contentType = some value →
      (∀ c ∈ value.toList, Http.IsHeaderChar c) → Http.MediaType value.toList media → q.Names media

/-- A content type has one media type. -/
theorem Http.mediaType_iff {text : String} {media : List Char} :
    Http.MediaType text.toList media ↔ media = Endpoint.mediaType text := by
  constructor
  · rintro ⟨front, back, rest, form, blankFront, blankBack, head, last, inside, stop⟩
    have before : ∀ c ∈ front ++ (media ++ back), (c != ';') = true := by
      intro c member
      rw [bne_iff_ne]
      rintro rfl
      exact inside member
    have passed := takeWhile_front before fun c head => by rw [stop c head, bne_self_eq_false]
    rw [List.append_assoc, List.append_assoc, ← form] at passed
    rw [Endpoint.mediaType, passed, trimmed_padded blankFront blankBack, trimmed_eq_self head last]
  · rintro rfl
    obtain ⟨front, back, form, blankFront, blankBack⟩ := exists_stripped isBlank (text.toList.takeWhile (· != ';'))
    rw [← trimmed] at form
    refine ⟨front, back, text.toList.dropWhile (· != ';'), ?_, blankFront, blankBack, head?_trimmed _,
      getLast?_trimmed _, ?_, ?_⟩
    · rw [← List.append_assoc, ← List.append_assoc, List.append_assoc front, Endpoint.mediaType, ← form,
        List.takeWhile_append_dropWhile]
    · rw [Endpoint.mediaType, ← form]
      intro member
      have passed := List.mem_takeWhile_imp member
      cases passed
    · intro c head
      have stop := List.head?_dropWhile_not (· != ';') text.toList
      rw [head] at stop
      simpa using stop

theorem Http.isHeaderSpace_iff {c : Char} : Http.isHeaderSpace c = true ↔ c = ' ' ∨ c = '\t' := by
  simp [Http.isHeaderSpace]

/-- White space around a header does not change its media type. -/
theorem Http.MediaType.padded {before text after media : List Char} (named : Http.MediaType text media)
    (spaceBefore : ∀ c ∈ before, Http.isHeaderSpace c = true) (spaceAfter : ∀ c ∈ after, Http.isHeaderSpace c = true) :
    Http.MediaType (before ++ (text ++ after)) media := by
  obtain ⟨front, back, rest, rfl, blankFront, blankBack, head, last, inside, stop⟩ := named
  have blank {cs : List Char} (space : ∀ c ∈ cs, Http.isHeaderSpace c = true) : ∀ c ∈ cs, isBlank c = true := by
    intro c member
    obtain rfl | rfl := Http.isHeaderSpace_iff.mp (space c member) <;> decide
  have noMark {cs : List Char} (space : ∀ c ∈ cs, Http.isHeaderSpace c = true) : ';' ∉ cs := by
    intro member
    have mark := space _ member
    revert mark
    decide
  have blanks : ∀ c ∈ before ++ front, isBlank c = true := List.forall_mem_append.mpr ⟨blank spaceBefore, blankFront⟩
  cases rest with
  | nil =>
    -- without parameters the white space at the end is a part of what is trimmed
    refine ⟨before ++ front, back ++ after, [], by simp, blanks,
      List.forall_mem_append.mpr ⟨blankBack, blank spaceAfter⟩, head, last, ?_, nofun⟩
    have apart := noMark spaceBefore
    have apart' := noMark spaceAfter
    simp only [List.mem_append, not_or] at inside ⊢
    exact ⟨⟨apart, inside.1⟩, inside.2.1, inside.2.2, apart'⟩
  | cons c rest =>
    refine ⟨before ++ front, back, c :: rest ++ after, by simp, blanks, blankBack, head, last, ?_, by simpa using stop⟩
    have apart := noMark spaceBefore
    simp only [List.mem_append, not_or] at inside ⊢
    exact ⟨⟨apart, inside.1⟩, inside.2⟩

/-- Only white space is stripped from a header, so that what is kept has a foreign character if all of it has. -/
theorem Http.all_stripped_iff {cs front kept back : List Char} (form : cs = front ++ (kept ++ back))
    (spaceFront : ∀ c ∈ front, Http.isHeaderSpace c = true) (spaceBack : ∀ c ∈ back, Http.isHeaderSpace c = true) :
    (kept.all fun c => c == '\t' || (0x20 ≤ c.toNat && c.toNat ≤ 0x7e)) = true ↔ ∀ c ∈ cs, Http.IsHeaderChar c := by
  have space {c : Char} (blank : Http.isHeaderSpace c = true) : Http.IsHeaderChar c := by
    obtain rfl | rfl := Http.isHeaderSpace_iff.mp blank <;> decide
  rw [form, List.all_eq_true]
  constructor
  · intro all c member
    rw [List.mem_append, List.mem_append] at member
    obtain before | inside | after := member
    · exact space (spaceFront c before)
    · simpa [Http.IsHeaderChar] using all c inside
    · exact space (spaceBack c after)
  · intro all c inside
    simpa [Http.IsHeaderChar] using all c (by simp [inside])

theorem Http.Request.mediaType_of_plain {q : Http.Request} {value : String} (sent : q.contentType = some value)
    (plain : ∀ c ∈ value.toList, Http.IsHeaderChar c) :
    Http.MediaType value.toList (Endpoint.mediaType q.contentTypeText) := by
  obtain ⟨front, back, form, spaceFront, spaceBack⟩ := exists_stripped Http.isHeaderSpace value.toList
  rw [Http.Request.contentTypeText, sent]
  simp only [if_pos ((Http.all_stripped_iff form spaceFront spaceBack).mpr plain)]
  generalize ((value.toList.dropWhile Http.isHeaderSpace).reverse.dropWhile Http.isHeaderSpace).reverse = kept at form ⊢
  have named : Http.MediaType (String.ofList kept).toList (Endpoint.mediaType (String.ofList kept)) :=
    Http.mediaType_iff.mpr rfl
  rw [String.toList_ofList] at named
  rw [form]
  exact named.padded spaceFront spaceBack

theorem Http.Request.contentTypeText_of_foreign {q : Http.Request} {value : String} (sent : q.contentType = some value)
    (foreign : ¬∀ c ∈ value.toList, Http.IsHeaderChar c) : q.contentTypeText = "" := by
  obtain ⟨front, back, form, spaceFront, spaceBack⟩ := exists_stripped Http.isHeaderSpace value.toList
  rw [← Http.all_stripped_iff form spaceFront spaceBack] at foreign
  rw [Http.Request.contentTypeText, sent]
  exact if_neg foreign

/-- A request names one media type. -/
theorem Http.Request.names_iff {q : Http.Request} {media : List Char} :
    q.Names media ↔ media = Endpoint.mediaType q.contentTypeText := by
  have nothing : Endpoint.mediaType "" = [] := by decide
  constructor
  · rintro (absent | ⟨sent, member, foreign⟩ | ⟨sent, plain, form⟩)
    · rw [Http.Request.contentTypeText, absent, nothing]
    · rw [Http.Request.contentTypeText_of_foreign sent fun plain => foreign (plain _ member), nothing]
    · have kept := Http.mediaType_iff.mp (Http.Request.mediaType_of_plain sent plain)
      rw [Http.mediaType_iff.mp form, kept]
  · rintro rfl
    cases sent : q.contentType with
    | none =>
      rw [Http.Request.contentTypeText, sent, nothing]
      exact .missing sent
    | some value =>
      by_cases plain : ∀ c ∈ value.toList, Http.IsHeaderChar c
      · exact .sent sent plain (Http.Request.mediaType_of_plain sent plain)
      · rw [Http.Request.contentTypeText_of_foreign sent plain, nothing]
        push Not at plain
        obtain ⟨c, member, foreign⟩ := plain
        exact .foreign sent member foreign

end RemoteCall
