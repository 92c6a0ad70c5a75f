import Mathlib.Data.Bool.AllAny
import RemoteCall.Http.Domain
import RemoteCall.Proofs.Digits
import RemoteCall.Proofs.Punycode
import RemoteCall.Proofs.Traversal

namespace RemoteCall

/-- What can stand in a domain: ASCII without controls, the blank, and the signs that part a location. -/
def Http.Domain.Allows (c : Char) : Prop :=
  c.toNat < 128 ∧ Http.Domain.isForbidden c = false

theorem isAlphanum_bounds {c : Char} (plain : c.isAlphanum = true) :
    (48 ≤ c.toNat ∧ c.toNat ≤ 57) ∨ (65 ≤ c.toNat ∧ c.toNat ≤ 90) ∨ (97 ≤ c.toNat ∧ c.toNat ≤ 122) := by
  have form : c.isAlphanum = ((decide (65 ≤ c.val ∧ c.val ≤ 90) || decide (97 ≤ c.val) && decide (c.val ≤ 122)) ||
    decide (48 ≤ c.val) && decide (c.val ≤ 57)) := rfl
  simp only [form, Bool.or_eq_true, Bool.and_eq_true, decide_eq_true_eq, UInt32.le_iff_toNat_le,
    UInt32.reduceToNat] at plain
  have value : c.toNat = c.val.toNat := rfl
  omega

theorem Http.Domain.Allows.of_isAlphanum {c : Char} (plain : c.isAlphanum = true) : Http.Domain.Allows c := by
  have bounds := isAlphanum_bounds plain
  have apart : "%#/:<>?@[\\]^|".toList.contains c = false := by
    rw [← Bool.not_eq_true, List.contains_iff_mem]
    intro member
    have marks : ∀ d ∈ "%#/:<>?@[\\]^|".toList, d.isAlphanum = false := List.all_iff_forall_prop.mp rfl
    rw [marks c member] at plain
    cases plain
  refine ⟨by omega, ?_⟩
  simp only [Http.Domain.isForbidden, apart, Bool.or_false, Bool.or_eq_false_iff, decide_eq_false_iff_not,
    beq_eq_false_iff_ne]
  omega

theorem Http.Domain.allows_codeMark : ∀ c ∈ Http.Domain.codeMark, Http.Domain.Allows c := by
  intro c member
  have plain : ∀ d ∈ Http.Domain.codeMark, d.toNat < 128 ∧ Http.Domain.isForbidden d = false :=
    List.all_iff_forall_prop.mp rfl
  exact plain c member

theorem Http.Domain.Label.allows_of_decoded {text : List Char} {label : Http.Domain.Label}
    (coded : Http.Domain.codeMark.isPrefixOf text = true) (read : Http.Domain.Label.decoded? text = some label)
    (clear : ∀ c ∈ text, Http.Domain.isForbidden c = false) : ∀ c ∈ label.ascii, Http.Domain.Allows c := by
  obtain ⟨rest, rfl⟩ := List.isPrefixOf_iff_prefix.mp coded
  rw [Http.Domain.Label.decoded?, List.drop_left] at read
  split at read
  · cases read
  next refused =>
    obtain ⟨decoded, -, settled⟩ := Option.bind_eq_some_iff.mp read
    split at settled
    · cases settled
      intro c member
      rcases List.mem_append.mp member with inMark | inRest
      · exact Http.Domain.allows_codeMark c inMark
      · simp only [Bool.or_eq_true, not_or, Bool.not_eq_true, Bool.not_eq_false'] at refused
        exact ⟨of_decide_eq_true (List.all_eq_true.mp refused.1.2 c inRest), clear c member⟩
    · cases settled

/-- What a label is in ASCII has only what is allowed in a domain, if nothing in the label is forbidden. -/
theorem Http.Domain.Label.allows {text : List Char} {label : Http.Domain.Label}
    (read : Http.Domain.Label.of? text = some label) (clear : ∀ c ∈ text, Http.Domain.isForbidden c = false) :
    ∀ c ∈ label.ascii, Http.Domain.Allows c := by
  rw [Http.Domain.Label.of?] at read
  split at read
  next coded => exact Http.Domain.Label.allows_of_decoded coded read clear
  next plain =>
    split at read
    next ascii =>
      cases read
      exact fun c member => ⟨of_decide_eq_true (List.all_eq_true.mp ascii c member), clear c member⟩
    next foreign =>
      split at read
      · cases read
      · cases read
        intro c member
        rcases List.mem_append.mp member with inMark | written
        · exact Http.Domain.allows_codeMark c inMark
        · obtain ⟨own, ascii⟩ | rfl | digit := Punycode.of_mem_encode written
          · exact ⟨ascii, clear c own⟩
          · exact ⟨by decide, by decide⟩
          · exact .of_isAlphanum digit

/-- A label beyond ASCII is the same one in ASCII, if that is not too long to be read. -/
theorem Http.Domain.Label.of?_ascii {text : List Char} {label : Http.Domain.Label}
    (read : Http.Domain.Label.of? text = some label) (settled : Http.Domain.isSettled text = true)
    (foreign : Http.Domain.isAscii text = false) (short : (Punycode.encode text).length ≤ 2000) :
    Http.Domain.Label.of? label.ascii = some label := by
  obtain ⟨c, member, beyond⟩ : ∃ c ∈ text, 128 ≤ c.toNat := by
    obtain ⟨c, member, beyond⟩ := List.all_eq_false.mp foreign
    exact ⟨c, member, Nat.not_lt.mp fun ascii => beyond (decide_eq_true ascii)⟩
  obtain ⟨last, ends, digit⟩ := Punycode.getLast?_encode member beyond
  have unmarked : Http.Domain.codeMark.isPrefixOf text = false := by
    rw [Http.Domain.isSettled, Bool.and_eq_true, Bool.not_eq_true'] at settled
    exact settled.2
  have ascii : Http.Domain.isAscii (Punycode.encode text) = true := by
    refine List.all_eq_true.mpr fun d inside => decide_eq_true ?_
    obtain ⟨-, low⟩ | rfl | plain := Punycode.of_mem_encode inside
    · exact low
    · decide
    · exact (Http.Domain.Allows.of_isAlphanum plain).1
  have filled : (Punycode.encode text).isEmpty = false :=
    List.isEmpty_eq_false_iff_exists_mem.mpr ⟨last, List.mem_of_getLast? ends⟩
  have noMark : (some last == some '-') = false := by
    rw [beq_eq_false_iff_ne]
    rintro same
    cases same
    cases digit
  have marked : Http.Domain.codeMark.isPrefixOf (Http.Domain.codeMark ++ Punycode.encode text) = true :=
    List.isPrefixOf_iff_prefix.mpr (List.prefix_append _ _)
  rw [Http.Domain.Label.of?, unmarked, foreign, if_neg Bool.false_ne_true, if_neg Bool.false_ne_true] at read
  split at read
  · cases read
  · cases read
    rw [Http.Domain.Label.of?, if_pos marked, Http.Domain.Label.decoded?, List.drop_left]
    simp only [filled, ends, noMark, ascii, decide_eq_false (Nat.not_lt.mpr short), Punycode.decode?_encode, settled,
      Bool.or_false, Bool.not_true, Bool.false_eq_true, if_false, if_true, Option.bind_eq_bind, Option.bind_some]

/-- A domain in ASCII has only what is allowed in one, whatever characters it was given in. -/
theorem Http.Domain.allows_of_ascii? {domain host : List Char} (read : Http.Domain.ascii? domain = some host) :
    ∀ c ∈ host, Http.Domain.Allows c := by
  obtain ⟨mapped, -, read⟩ := Option.bind_eq_some_iff.mp read
  obtain ⟨labels, cut, read⟩ := Option.bind_eq_some_iff.mp read
  simp only at read
  split at read
  · cases read
  next accepted =>
    cases read
    have clear : ∀ c ∈ Canonical.compose mapped.flatten, Http.Domain.isForbidden c = false := by
      intro c member
      simp only [Bool.or_eq_true, not_or, Bool.not_eq_true] at accepted
      exact eq_false_of_ne_true (List.any_eq_false.mp accepted.1.1 c member)
    intro c member
    obtain between | ⟨part, inParts, inside⟩ := mem_of_mem_intercalate member
    · exact List.mem_singleton.mp between ▸ ⟨by decide, by decide⟩
    · obtain ⟨label, inLabels, rfl⟩ := List.mem_map.mp inParts
      obtain ⟨text, inPieces, of⟩ := Option.mem_of_mapM cut inLabels
      exact Http.Domain.Label.allows of (fun d own => clear d (mem_of_mem_pieces inPieces own)) c inside

end RemoteCall
