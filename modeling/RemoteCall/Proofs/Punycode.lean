import Mathlib.Data.List.Sort
import Mathlib.Data.List.TakeWhile
import Mathlib.Tactic.Ring
import RemoteCall.Text.Punycode

namespace RemoteCall

theorem Punycode.digit?_digitChar {d : Nat} (fits : d < 36) : Punycode.digit? (Punycode.digitChar d) = some d := by
  have all : ∀ d < 36, Punycode.digit? (Punycode.digitChar d) = some d := by decide
  exact all d fits

theorem Punycode.isAlphanum_digitChar {d : Nat} (fits : d < 36) : (Punycode.digitChar d).isAlphanum = true := by
  have all : ∀ d < 36, (Punycode.digitChar d).isAlphanum = true := by decide
  exact all d fits

theorem Punycode.isAlphanum_of_mem_digits {bias place n : Nat} {c : Char} (member : c ∈ Punycode.digits bias place n) :
    c.isAlphanum = true := by
  induction place, n using Punycode.digits.induct bias with
  | case1 place n t last =>
    have bounds := Punycode.threshold_bounds bias place
    rw [Punycode.digits, if_pos last, List.mem_singleton] at member
    exact member ▸ Punycode.isAlphanum_digitChar (by omega)
  | case2 place n t more ih =>
    have bounds := Punycode.threshold_bounds bias place
    have digit := Nat.mod_lt (n - t) (show 0 < 36 - t by omega)
    rw [Punycode.digits, if_neg more] at member
    rcases List.mem_cons.mp member with rfl | later
    · exact Punycode.isAlphanum_digitChar (show t + (n - t) % (36 - t) < 36 by omega)
    · exact ih later

theorem Punycode.isAlphanum_of_mem_gaps {t : Punycode.Cursor} {insertions : List (Nat × Nat)} {c : Char}
    (member : c ∈ Punycode.gaps t insertions) : c.isAlphanum = true := by
  induction insertions generalizing t with
  | nil => cases member
  | cons insertion rest ih =>
    rw [Punycode.gaps, List.mem_append] at member
    exact member.elim Punycode.isAlphanum_of_mem_digits ih

/-- A text is written with its own ASCII characters, one hyphen, letters and digits. -/
theorem Punycode.of_mem_encode {cs : List Char} {c : Char} (member : c ∈ Punycode.encode cs) :
    (c ∈ cs ∧ c.toNat < 128) ∨ c = '-' ∨ c.isAlphanum = true := by
  simp only [Punycode.encode, List.mem_append, List.mem_filter, decide_eq_true_eq] at member
  obtain (own | mark) | gap := member
  · exact Or.inl own
  · split at mark
    · cases mark
    · exact Or.inr (Or.inl (List.mem_singleton.mp mark))
  · exact Or.inr (Or.inr (Punycode.isAlphanum_of_mem_gaps gap))

/-- A number is read from its digits, whatever follows them: the last digit is the one below the threshold. -/
theorem Punycode.number?_digits (bias place n weight sum : Nat) (rest : List Char) :
    Punycode.number? bias place weight sum (Punycode.digits bias place n ++ rest) = some (sum + n * weight, rest) := by
  induction place, n using Punycode.digits.induct bias generalizing weight sum with
  | case1 place n t last =>
    have bounds := Punycode.threshold_bounds bias place
    rw [Punycode.digits, if_pos last, List.singleton_append, Punycode.number?,
      Punycode.digit?_digitChar (show n < 36 by omega)]
    exact if_pos last
  | case2 place n t more ih =>
    have bounds := Punycode.threshold_bounds bias place
    have low := Nat.mod_lt (n - t) (show 0 < 36 - t by omega)
    have value : t + (n - t) % (36 - t) + (n - t) / (36 - t) * (36 - t) = n := by
      have split := Nat.mod_add_div' (n - t) (36 - t)
      omega
    rw [Punycode.digits, if_neg more, List.cons_append, Punycode.number?,
      Punycode.digit?_digitChar (show t + (n - t) % (36 - t) < 36 by omega)]
    refine (if_neg (show ¬t + (n - t) % (36 - t) < t by omega)).trans ?_
    rw [ih]
    congr 2
    calc sum + (t + (n - t) % (36 - t)) * weight + (n - t) / (36 - t) * (weight * (36 - t))
        = sum + (t + (n - t) % (36 - t) + (n - t) / (36 - t) * (36 - t)) * weight := by ring
      _ = sum + n * weight := by rw [value]

theorem Punycode.digits_ne_nil (bias place n : Nat) : Punycode.digits bias place n ≠ [] := by
  rw [Punycode.digits]
  split <;> exact List.cons_ne_nil _ _

/-- What is read for one insertion: the gap tells how far on in the order of codes and places it is. -/
theorem Punycode.insert_gap {t : Punycode.Cursor} {text rest : List Char} {code place : Nat} (within : t.place ≤ t.size)
    (inside : place ≤ t.size) (above : t.code ≤ code) (behind : t.code = code → t.place ≤ place)
    (valid : code.isValidChar) :
    Punycode.insert t text
        (Punycode.digits t.bias 36 ((code - t.code) * (t.size + 1) + place - t.place) ++ rest) =
      Punycode.insert (t.next code place ((code - t.code) * (t.size + 1) + place - t.place))
        (text.insertIdx place (Char.ofNat code)) rest := by
  have covered : t.place ≤ (code - t.code) * (t.size + 1) + place := by
    obtain same | more := above.eq_or_lt
    · exact (behind same).trans (Nat.le_add_left ..)
    · have round := Nat.le_mul_of_pos_left (t.size + 1) (Nat.sub_pos_of_lt more)
      omega
  generalize gapEq : (code - t.code) * (t.size + 1) + place - t.place = gap
  have reached : t.place + gap = place + (t.size + 1) * (code - t.code) := by
    rw [Nat.mul_comm]
    omega
  have codeEq : t.code + (t.place + gap) / (t.size + 1) = code := by
    rw [reached, Nat.add_mul_div_left _ _ (Nat.succ_pos _), Nat.div_eq_of_lt (Nat.lt_succ_of_le inside)]
    omega
  have placeEq : (t.place + gap) % (t.size + 1) = place := by
    rw [reached, Nat.add_mul_mod_self_left, Nat.mod_eq_of_lt (Nat.lt_succ_of_le inside)]
  have digits := Punycode.number?_digits t.bias 36 gap 1 0 rest
  obtain ⟨d, ds, written⟩ := List.exists_cons_of_ne_nil (Punycode.digits_ne_nil t.bias 36 gap)
  rw [written, List.cons_append] at digits ⊢
  rw [Punycode.insert]
  split
  next failed => cases digits.symm.trans failed
  next read =>
    cases digits.symm.trans read
    simp only [Nat.zero_add, Nat.mul_one, codeEq, placeEq]
    exact if_pos valid

/-- The characters beyond ASCII, each as its code with its place in the text, in the order in which they are put in. -/
def Punycode.order (cs : List Char) : List (Nat × Nat) :=
  ((cs.map Char.toNat).zipIdx.filter fun spot => decide (128 ≤ spot.1)).mergeSort fun a b => decide (a.1 ≤ b.1)

/-- Where a character is put in: behind all characters to its left that are there by then. -/
def Punycode.rank (cs : List Char) (spot : Nat × Nat) : Nat :=
  ((cs.map Char.toNat).take spot.2).countP (· ≤ spot.1)

theorem Punycode.insertions_eq (cs : List Char) :
    Punycode.insertions cs = (Punycode.order cs).map fun spot => (spot.1, Punycode.rank cs spot) := rfl

theorem Punycode.mem_order {cs : List Char} {spot : Nat × Nat} :
    spot ∈ Punycode.order cs ↔ (cs.map Char.toNat)[spot.2]? = some spot.1 ∧ 128 ≤ spot.1 := by
  rw [Punycode.order, (List.mergeSort_perm _ _).mem_iff, List.mem_filter, decide_eq_true_eq,
    List.mem_zipIdx_iff_getElem?]

theorem Punycode.mem_order_of_split {cs : List Char} {done rest : List (Nat × Nat)} {spot : Nat × Nat}
    (split : Punycode.order cs = done ++ spot :: rest) : spot ∈ Punycode.order cs :=
  split ▸ List.mem_append_right _ List.mem_cons_self

/-- Characters are put in by their codes, and those of one code from left to right, as the sort is stable. -/
theorem Punycode.pairwise_order (cs : List Char) :
    (Punycode.order cs).Pairwise fun a b => a.1 < b.1 ∨ (a.1 = b.1 ∧ a.2 < b.2) := by
  set spots := (cs.map Char.toNat).zipIdx.filter fun spot => decide (128 ≤ spot.1) with spotsEq
  have trans (a b c : Nat × Nat) (ab : decide (a.1 ≤ b.1) = true) (bc : decide (b.1 ≤ c.1) = true) :
      decide (a.1 ≤ c.1) = true :=
    decide_eq_true ((of_decide_eq_true ab).trans (of_decide_eq_true bc))
  have total (a b : Nat × Nat) : (decide (a.1 ≤ b.1) || decide (b.1 ≤ a.1)) = true := by
    rw [Bool.or_eq_true, decide_eq_true_eq, decide_eq_true_eq]
    exact Nat.le_total a.1 b.1
  have sorted := List.pairwise_mergeSort trans total spots
  have apart : spots.Pairwise fun a b => a.2 < b.2 := by
    have places := List.zipIdx_map_snd 0 (cs.map Char.toNat) ▸ List.pairwise_lt_range'
    exact (List.pairwise_map.mp places).filter _
  -- the sort keeps a sublist that is sorted already, and so leaves the spots of one code as they stand
  have kept (code : Nat) : spots.filter (·.1 == code) = (Punycode.order cs).filter (·.1 == code) := by
    have flat : (spots.filter (·.1 == code)).Pairwise fun a b => decide (a.1 ≤ b.1) = true := by
      refine List.pairwise_of_forall_mem_list fun a inLeft b inRight => decide_eq_true ?_
      rw [eq_of_beq (List.mem_filter.mp inLeft).2, eq_of_beq (List.mem_filter.mp inRight).2]
    have sublist := (List.sublist_mergeSort trans total flat List.filter_sublist).filter (·.1 == code)
    rw [List.filter_filter] at sublist
    simp only [Bool.and_self] at sublist
    exact sublist.eq_of_length ((List.mergeSort_perm _ _).filter _).length_eq.symm
  refine List.pairwise_iff_forall_sublist.mpr fun {a b} inOrder => ?_
  have least := of_decide_eq_true (List.pairwise_iff_forall_sublist.mp sorted inOrder)
  obtain less | same := Nat.lt_or_eq_of_le least
  · exact Or.inl less
  · have both := inOrder.filter (·.1 == a.1)
    have whole : [a, b].filter (·.1 == a.1) = [a, b] := by
      rw [same]
      simp only [List.filter, same, beq_self_eq_true]
    rw [← kept, whole] at both
    exact Or.inr ⟨same, List.pairwise_iff_forall_sublist.mp apart (both.trans List.filter_sublist)⟩

/-- Whether a character of a text is there once the given ones beyond ASCII have been put in. -/
def Punycode.isThere (spots : List (Nat × Nat)) (spot : Char × Nat) : Bool :=
  decide (spot.1.toNat < 128 ∨ (spot.1.toNat, spot.2) ∈ spots)

/-- What is there of a text once the given characters have been put in. -/
def Punycode.stage (cs : List Char) (spots : List (Nat × Nat)) : List Char :=
  (cs.zipIdx.filter (Punycode.isThere spots)).map Prod.fst

theorem Punycode.stage_nil (cs : List Char) : Punycode.stage cs [] = cs.filter fun c => c.toNat < 128 := by
  conv_rhs => rw [← List.zipIdx_map_fst 0 cs, List.filter_map]
  refine congrArg _ (List.filter_congr fun spot _ => ?_)
  simp only [Punycode.isThere, List.not_mem_nil, or_false, Function.comp_apply]

theorem Punycode.stage_order (cs : List Char) : Punycode.stage cs (Punycode.order cs) = cs := by
  have all : cs.zipIdx.filter (Punycode.isThere (Punycode.order cs)) = cs.zipIdx := by
    refine List.filter_eq_self.mpr fun spot member => decide_eq_true ?_
    obtain ascii | beyond := Nat.lt_or_ge spot.1.toNat 128
    · exact Or.inl ascii
    · refine Or.inr (Punycode.mem_order.mpr ⟨?_, beyond⟩)
      rw [List.getElem?_map, List.mem_zipIdx_iff_getElem?.mp member, Option.map_some]
  rw [Punycode.stage, all, List.zipIdx_map_fst]

theorem Punycode.exists_split {cs : List Char} {spot : Nat × Nat} (member : spot ∈ Punycode.order cs) :
    ∃ before c after, cs = before ++ c :: after ∧ before.length = spot.2 ∧ c.toNat = spot.1 := by
  have found := (Punycode.mem_order.mp member).1
  rw [List.getElem?_map, Option.map_eq_some_iff] at found
  obtain ⟨c, found, code⟩ := found
  obtain ⟨inside, rfl⟩ := List.getElem?_eq_some_iff.mp found
  refine ⟨cs.take spot.2, cs[spot.2], cs.drop (spot.2 + 1), ?_, List.length_take_of_le inside.le, code⟩
  rw [← List.drop_eq_getElem_cons inside, List.take_append_drop]

theorem Punycode.rank_append {before after : List Char} {spot : Nat × Nat} (place : before.length = spot.2) :
    Punycode.rank (before ++ after) spot = before.countP (·.toNat ≤ spot.1) := by
  rw [Punycode.rank, List.map_append, ← place, ← List.length_map, List.take_left, List.countP_map]
  rfl

/-- Behind a character, the next one of the same code has a place further on. -/
theorem Punycode.rank_lt {cs : List Char} {a b : Nat × Nat} (member : a ∈ Punycode.order cs) (same : a.1 = b.1)
    (left : a.2 < b.2) : Punycode.rank cs a < Punycode.rank cs b := by
  obtain ⟨before, c, after, rfl, place, code⟩ := Punycode.exists_split member
  obtain ⟨further, further_eq⟩ := Nat.exists_eq_add_of_lt left
  have own : decide (c.toNat ≤ b.1) = true := decide_eq_true (by omega)
  have longer : (before ++ c :: after).take b.2 = before ++ c :: after.take further := by
    rw [further_eq, ← place, Nat.add_assoc, List.take_length_add_append, List.take_succ_cons]
  rw [Punycode.rank_append place, Punycode.rank, ← List.map_take, longer, List.countP_map, List.countP_append,
    List.countP_cons, same]
  simp only [Function.comp_def, own, if_true]
  omega

/-- What has been put in before a character is what comes before it by code and place. -/
theorem Punycode.mem_done_iff {cs : List Char} {done rest : List (Nat × Nat)} {spot other : Nat × Nat}
    (split : Punycode.order cs = done ++ spot :: rest) (member : other ∈ Punycode.order cs) :
    other ∈ done ↔ other.1 < spot.1 ∨ (other.1 = spot.1 ∧ other.2 < spot.2) := by
  have ordered := Punycode.pairwise_order cs
  rw [split, List.pairwise_append, List.pairwise_cons] at ordered
  obtain ⟨-, ⟨behind, -⟩, ahead⟩ := ordered
  constructor
  · exact fun earlier => ahead other earlier spot List.mem_cons_self
  · intro before
    rw [split, List.mem_append, List.mem_cons] at member
    obtain earlier | rfl | later := member
    · exact earlier
    · omega
    · have after := behind other later
      omega

/-- To the left of a character that is put in next there is what has a code up to its own. -/
theorem Punycode.isThere_left {before after : List Char} {c : Char} {done rest : List (Nat × Nat)} {spot : Nat × Nat}
    (split : Punycode.order (before ++ c :: after) = done ++ spot :: rest) (place : before.length = spot.2) :
    before.zipIdx.countP (Punycode.isThere done) = Punycode.rank (before ++ c :: after) spot := by
  have member := Punycode.mem_order_of_split split
  have beyond := (Punycode.mem_order.mp member).2
  rw [Punycode.rank_append place]
  conv_rhs => rw [← List.zipIdx_map_fst 0 before, List.countP_map]
  refine List.countP_congr fun other inBefore => ?_
  have left := List.snd_lt_of_mem_zipIdx inBefore
  rw [Punycode.isThere, Function.comp_apply, decide_eq_true_eq, decide_eq_true_eq]
  obtain ascii | foreign := Nat.lt_or_ge other.1.toNat 128
  · omega
  · have found : (other.1.toNat, other.2) ∈ Punycode.order (before ++ c :: after) := by
      refine Punycode.mem_order.mpr ⟨?_, foreign⟩
      rw [List.getElem?_map, List.getElem?_append_left (by omega), List.mem_zipIdx_iff_getElem?.mp inBefore]
      rfl
    rw [Punycode.mem_done_iff split found]
    omega

theorem Punycode.insertIdx_append (before after : List Char) (c : Char) :
    (before ++ after).insertIdx before.length c = before ++ c :: after := by
  induction before with
  | nil => rfl
  | cons d before ih => rw [List.cons_append, List.length_cons, List.insertIdx_succ_cons, ih, List.cons_append]

/-- One more character is put in behind those that are there to its left. -/
theorem Punycode.filter_put {before after : List Char} {c : Char} {p q : Char × Nat → Bool}
    (elsewhere : ∀ spot, spot.2 ≠ before.length → q spot = p spot) (absent : p (c, before.length) = false)
    (present : q (c, before.length) = true) :
    ((before ++ c :: after).zipIdx.filter q).map Prod.fst =
      (((before ++ c :: after).zipIdx.filter p).map Prod.fst).insertIdx (before.zipIdx.countP p) c := by
  have left : before.zipIdx.filter q = before.zipIdx.filter p := by
    refine List.filter_congr fun spot inLeft => elsewhere spot ?_
    have bound := List.snd_lt_of_mem_zipIdx inLeft
    omega
  have right : (after.zipIdx (before.length + 1)).filter q = (after.zipIdx (before.length + 1)).filter p := by
    refine List.filter_congr fun spot inRight => elsewhere spot ?_
    have bound := List.le_snd_of_mem_zipIdx inRight
    omega
  rw [List.zipIdx_append, List.zipIdx_cons, Nat.zero_add, List.filter_append, List.filter_append,
    List.filter_cons_of_pos present, List.filter_cons_of_neg (by rw [absent]; exact Bool.false_ne_true), left, right,
    List.map_append, List.map_append, List.map_cons, List.countP_eq_length_filter,
    ← List.length_map Prod.fst, Punycode.insertIdx_append]

/-- The next character goes behind all characters to its left that are there already. -/
theorem Punycode.stage_snoc {cs : List Char} {done rest : List (Nat × Nat)} {spot : Nat × Nat}
    (split : Punycode.order cs = done ++ spot :: rest) :
    Punycode.stage cs (done ++ [spot]) =
      (Punycode.stage cs done).insertIdx (Punycode.rank cs spot) (Char.ofNat spot.1) := by
  have member := Punycode.mem_order_of_split split
  have beyond := (Punycode.mem_order.mp member).2
  have missing : spot ∉ done := by
    rw [Punycode.mem_done_iff split member]
    omega
  obtain ⟨before, c, after, rfl, place, code⟩ := Punycode.exists_split member
  have own : (c.toNat, before.length) = spot := Prod.ext code place
  rw [← Punycode.isThere_left split place, ← code, Char.ofNat_toNat]
  refine Punycode.filter_put (fun other apart => ?_) ?_ ?_
  · rw [Punycode.isThere, Punycode.isThere, decide_eq_decide, List.mem_append, List.mem_singleton]
    refine or_congr_right (or_iff_left ?_)
    rintro rfl
    exact apart place.symm
  · rw [Punycode.isThere, own, decide_eq_false_iff_not, not_or, code]
    exact ⟨Nat.not_lt.mpr beyond, missing⟩
  · rw [Punycode.isThere, own]
    exact decide_eq_true (Or.inr (List.mem_append_right _ List.mem_cons_self))

theorem Punycode.rank_le {cs : List Char} {done rest : List (Nat × Nat)} {spot : Nat × Nat}
    (split : Punycode.order cs = done ++ spot :: rest) : Punycode.rank cs spot ≤ (Punycode.stage cs done).length := by
  have member := Punycode.mem_order_of_split split
  obtain ⟨before, c, after, rfl, place, code⟩ := Punycode.exists_split member
  rw [← Punycode.isThere_left split place, Punycode.stage, List.length_map, ← List.countP_eq_length_filter,
    List.zipIdx_append]
  exact (List.sublist_append_left _ _).countP_le

/-- Where the cursor stands once some characters have been put in. -/
structure Punycode.Cursor.Behind (t : Punycode.Cursor) (cs : List Char) (done rest : List (Nat × Nat)) : Prop where
  size : t.size = (Punycode.stage cs done).length
  place : t.place ≤ t.size
  next : ∀ spot ∈ rest, t.code ≤ spot.1 ∧ (t.code = spot.1 → t.place ≤ Punycode.rank cs spot)

theorem Punycode.Cursor.Behind.step {t : Punycode.Cursor} {cs : List Char} {done rest : List (Nat × Nat)}
    {spot : Nat × Nat} (behind : t.Behind cs done (spot :: rest)) (split : Punycode.order cs = done ++ spot :: rest)
    (gap : Nat) : (t.next spot.1 (Punycode.rank cs spot) gap).Behind cs (done ++ [spot]) rest := by
  have inside := Punycode.rank_le split
  have size := behind.size
  refine ⟨?_, ?_, fun later member => ?_⟩
  · rw [Punycode.stage_snoc split, List.length_insertIdx_of_le_length inside, ← size]
    rfl
  · show Punycode.rank cs spot + 1 ≤ t.size + 1
    omega
  · have ordered := Punycode.pairwise_order cs
    rw [split, List.pairwise_append, List.pairwise_cons] at ordered
    have further := ordered.2.1.1 later member
    refine ⟨?_, fun same => ?_⟩
    · show spot.1 ≤ later.1
      omega
    · replace same : spot.1 = later.1 := same
      exact Punycode.rank_lt (Punycode.mem_order_of_split split) same (by omega)

/-- From any stage, the rest of the gaps puts in the rest of the characters: by induction on these. -/
theorem Punycode.insert_gaps {t : Punycode.Cursor} {cs : List Char} {done rest : List (Nat × Nat)}
    (split : Punycode.order cs = done ++ rest) (behind : t.Behind cs done rest) :
    Punycode.insert t (Punycode.stage cs done)
        (Punycode.gaps t (rest.map fun spot => (spot.1, Punycode.rank cs spot))) = some cs := by
  induction rest generalizing t done with
  | nil =>
    rw [List.append_nil] at split
    rw [List.map_nil, Punycode.gaps, Punycode.insert, ← split, Punycode.stage_order]
  | cons spot rest ih =>
    have member := Punycode.mem_order_of_split split
    obtain ⟨before, c, after, -, -, code⟩ := Punycode.exists_split member
    have next := behind.next spot List.mem_cons_self
    have valid : spot.1.isValidChar := code ▸ c.valid
    rw [List.map_cons, Punycode.gaps, Punycode.insert_gap behind.place (behind.size ▸ Punycode.rank_le split) next.1
      next.2 valid, ← Punycode.stage_snoc split]
    exact ih (by rw [split, List.append_assoc, List.singleton_append]) (behind.step split _)

/-- The last hyphen of a written text is the one that ends its own ASCII characters. -/
theorem Punycode.decode?_append {ascii gaps : List Char} (digits : ∀ c ∈ gaps, c.isAlphanum = true) :
    Punycode.decode? (ascii ++ (if ascii.isEmpty then [] else ['-']) ++ gaps) =
      Punycode.insert { size := ascii.length } ascii gaps := by
  have noMark : ∀ c ∈ gaps.reverse, (c != '-') = true := by
    intro c member
    refine bne_iff_ne.mpr ?_
    rintro rfl
    exact absurd (digits '-' (List.mem_reverse.mp member)) (by decide)
  cases ascii with
  | nil =>
    have all : gaps.reverse.takeWhile (· != '-') = gaps.reverse := List.takeWhile_eq_self_iff.mpr noMark
    simp only [Punycode.decode?, List.isEmpty_nil, if_true, List.nil_append, all, List.reverse_reverse, Nat.sub_self,
      Nat.zero_sub, List.take_zero, List.length_nil]
  | cons a ascii =>
    have cut : ((a :: ascii ++ ['-'] ++ gaps).reverse.takeWhile (· != '-')).reverse = gaps := by
      rw [List.reverse_append, List.takeWhile_append_of_pos noMark, List.reverse_concat,
        List.takeWhile_cons_of_neg (by decide), List.append_nil, List.reverse_reverse]
    have own : (a :: ascii ++ ['-'] ++ gaps).take ((a :: ascii ++ ['-'] ++ gaps).length - gaps.length - 1) =
        a :: ascii := by
      rw [List.append_assoc, List.length_append, List.length_append]
      exact List.take_left' (by simp only [List.length_singleton]; omega)
    simp only [Punycode.decode?, List.isEmpty_cons, Bool.false_eq_true, if_false, cut, own]

/-- Every text is read back from what is written for it in ASCII. -/
theorem Punycode.decode?_encode (cs : List Char) : Punycode.decode? (Punycode.encode cs) = some cs := by
  have start : Punycode.Cursor.Behind { size := (cs.filter fun c => c.toNat < 128).length } cs []
      (Punycode.order cs) := by
    refine ⟨?_, Nat.zero_le _, fun spot member => ⟨(Punycode.mem_order.mp member).2, fun _ => Nat.zero_le _⟩⟩
    rw [Punycode.stage_nil]
  rw [Punycode.encode, Punycode.decode?_append fun _ => Punycode.isAlphanum_of_mem_gaps, Punycode.insertions_eq,
    ← Punycode.stage_nil]
  rw [← Punycode.stage_nil] at start
  exact Punycode.insert_gaps (List.nil_append _).symm start

/-- A text that is not all ASCII is written with a letter or a digit at its end. -/
theorem Punycode.getLast?_encode {cs : List Char} {c : Char} (member : c ∈ cs) (beyond : 128 ≤ c.toNat) :
    ∃ d, (Punycode.encode cs).getLast? = some d ∧ d.isAlphanum = true := by
  obtain ⟨i, found⟩ := List.getElem?_of_mem member
  have inOrder : (c.toNat, i) ∈ Punycode.order cs :=
    Punycode.mem_order.mpr ⟨by rw [List.getElem?_map, found, Option.map_some], beyond⟩
  obtain ⟨spot, rest, order⟩ := List.exists_cons_of_ne_nil (List.ne_nil_of_mem inOrder)
  have written (t : Punycode.Cursor) : Punycode.gaps t (Punycode.insertions cs) ≠ [] := by
    rw [Punycode.insertions_eq, order, List.map_cons, Punycode.gaps]
    exact List.append_ne_nil_of_left_ne_nil (Punycode.digits_ne_nil _ _ _) _
  have last := written { size := (cs.filter fun c => c.toNat < 128).length }
  refine ⟨_, ?_, Punycode.isAlphanum_of_mem_gaps (List.getLast_mem last)⟩
  rw [Punycode.encode, List.getLast?_append_of_ne_nil _ last, List.getLast?_eq_some_getLast last]

end RemoteCall
