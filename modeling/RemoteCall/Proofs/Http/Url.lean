import RemoteCall.Http.Message
import RemoteCall.Http.Url
import RemoteCall.Proofs.Http.Domain

namespace RemoteCall

/-- What can stand between the blanks on the first line of a request: printable ASCII. -/
def Http.IsPlain (c : Char) : Prop :=
  0x20 < c.toNat ∧ c.toNat < 0x7f

instance : DecidablePred Http.IsPlain := fun _ => instDecidableAnd

theorem Http.IsPlain.of_isAlphanum {c : Char} (plain : c.isAlphanum = true) : Http.IsPlain c := by
  have bounds := isAlphanum_bounds plain
  constructor <;> omega

theorem Http.Domain.Allows.isPlain {c : Char} (allows : Http.Domain.Allows c) : Http.IsPlain c := by
  obtain ⟨ascii, clear⟩ := allows
  simp only [Http.Domain.isForbidden, Bool.or_eq_false_iff, decide_eq_false_iff_not, beq_eq_false_iff_ne] at clear
  constructor <;> omega

theorem Http.of_mem_percent {b : UInt8} {c : Char} (member : c ∈ Http.percent b) : c = '%' ∨ c.isAlphanum = true := by
  have digit : ∀ d < 16, (Nat.digitChar d).toUpper.isAlphanum = true := by decide
  have range := b.toNat_lt
  rcases List.mem_cons.mp member with mark | inDigits
  · exact Or.inl mark
  · obtain ⟨d, which, rfl⟩ := List.mem_map.mp inDigits
    obtain rfl | rfl : d = Nat.digitChar (b.toNat / 16) ∨ d = Nat.digitChar (b.toNat % 16) := by simpa using which
    · exact Or.inr (digit _ (by omega))
    · exact Or.inr (digit _ (by omega))

/-- What is written for a text is printable, and what is special does not show unless it writes the bytes itself. -/
theorem Http.of_mem_percentEncode {special cs : List Char} {c : Char} (member : c ∈ Http.percentEncode special cs) :
    Http.IsPlain c ∧ (c ∉ special ∨ c = '%' ∨ c.isAlphanum = true) := by
  obtain ⟨d, -, written⟩ := List.mem_flatMap.mp member
  split at written
  next kept =>
    rw [List.mem_singleton.mp written]
    exact ⟨⟨kept.1, kept.2.1⟩, Or.inl fun inside => by simp [inside] at kept⟩
  next escaped =>
    obtain ⟨b, -, inByte⟩ := List.mem_flatMap.mp written
    obtain rfl | plain := Http.of_mem_percent inByte
    · exact ⟨by decide, Or.inr (Or.inl rfl)⟩
    · exact ⟨.of_isAlphanum plain, Or.inr (Or.inr plain)⟩

theorem Http.ne_of_mem_percentEncode {special cs : List Char} {c mark : Char}
    (member : c ∈ Http.percentEncode special cs) (listed : mark ∈ special) (apart : mark ≠ '%')
    (sign : mark.isAlphanum = false) : c ≠ mark := by
  rintro rfl
  obtain ⟨-, outside | rfl | plain⟩ := Http.of_mem_percentEncode member
  · exact outside listed
  · exact apart rfl
  · rw [plain] at sign
    cases sign

theorem Http.isPlain_of_mem_percentEncode {special cs : List Char} :
    ∀ c ∈ Http.percentEncode special cs, Http.IsPlain c :=
  fun _ member => (Http.of_mem_percentEncode member).1

/-- A path in normal form is absolute and printable, and ends before a query. -/
theorem Http.of_mem_normalPath {cs : List Char} {c : Char} (member : c ∈ Http.normalPath cs) :
    Http.IsPlain c ∧ c ≠ '?' ∧ c ≠ '#' := by
  have slash : Http.IsPlain '/' ∧ '/' ≠ '?' ∧ '/' ≠ '#' := by decide
  rcases List.mem_cons.mp member with rfl | inParts
  · exact slash
  · obtain between | ⟨part, inside, own⟩ := mem_of_mem_intercalate inParts
    · exact List.mem_singleton.mp between ▸ slash
    · obtain ⟨raw, -, rfl⟩ := List.mem_map.mp inside
      exact ⟨Http.isPlain_of_mem_percentEncode c own,
        Http.ne_of_mem_percentEncode own (by decide) (by decide) (by decide),
        Http.ne_of_mem_percentEncode own (by decide) (by decide) (by decide)⟩

theorem Digits.isPlain_of_mem_ofNat {n : Nat} {c : Char} (member : c ∈ Digits.ofNat n) : Http.IsPlain c := by
  have bounds := Digits.digit_bounds (Digits.isDigit_of_mem_ofNat member)
  constructor <;> omega

theorem Digits.isAlphanum_of_mem_toDigits {n : Nat} {c : Char} (member : c ∈ Nat.toDigits 16 n) :
    c.isAlphanum = true := by
  have digit : ∀ d < 16, (Nat.digitChar d).isAlphanum = true := by decide
  induction n using Nat.strongRecOn with
  | _ n ih =>
    by_cases last : n < 16
    · rw [Nat.toDigits_of_lt_base last, List.mem_singleton] at member
      exact member ▸ digit n last
    · rw [Nat.toDigits_of_base_le (by decide) (by omega), List.mem_append, List.mem_singleton] at member
      obtain front | rfl := member
      · exact ih (n / 16) (by omega) front
      · exact digit _ (by omega)

theorem Http.isPlain_of_mem_dotted {bytes : List Nat} {c : Char} (member : c ∈ Http.dotted bytes) :
    Http.IsPlain c := by
  obtain between | ⟨part, inside, own⟩ := mem_of_mem_intercalate member
  · exact List.mem_singleton.mp between ▸ by decide
  · obtain ⟨n, -, rfl⟩ := List.mem_map.mp inside
    exact Digits.isPlain_of_mem_ofNat own

theorem Http.isPlain_of_mem_groupText {groups : List Nat} {c : Char} (member : c ∈ Http.groupText groups) :
    Http.IsPlain c := by
  obtain between | ⟨part, inside, own⟩ := mem_of_mem_intercalate member
  · exact List.mem_singleton.mp between ▸ by decide
  · obtain ⟨n, -, rfl⟩ := List.mem_map.mp inside
    exact .of_isAlphanum (Digits.isAlphanum_of_mem_toDigits own)

theorem Http.isPlain_of_mem_compressed {groups : List Nat} {c : Char} (member : c ∈ Http.compressed groups) :
    Http.IsPlain c := by
  have colons : ∀ c ∈ "::".toList, Http.IsPlain c := List.all_iff_forall_prop.mp rfl
  simp only [Http.compressed] at member
  split at member
  · exact Http.isPlain_of_mem_groupText member
  · rw [List.mem_append, List.mem_append] at member
    obtain (front | middle) | back := member
    · exact Http.isPlain_of_mem_groupText front
    · exact colons c middle
    · exact Http.isPlain_of_mem_groupText back

theorem Http.isPlain_of_bracketed {inside host : List Char} (read : Http.bracketed inside = .ok host) :
    ∀ c ∈ host, Http.IsPlain c := by
  rw [Http.bracketed] at read
  split at read
  · cases read
  · split at read
    · cases read
    · cases read
      intro c member
      rcases List.mem_cons.mp member with rfl | member
      · decide
      · rcases List.mem_append.mp member with inside | last
        · exact Http.isPlain_of_mem_compressed inside
        · exact List.mem_singleton.mp last ▸ by decide

/-- The one way of writing a host is printable, whatever it is read from. -/
theorem Http.isPlain_of_hostName {cs host : List Char} (read : Http.hostName cs = .ok host) :
    ∀ c ∈ host, Http.IsPlain c := by
  unfold Http.hostName at read
  split at read
  · exact Http.isPlain_of_bracketed read
  · split at read
    · cases read
    · cases read
    next domain _ found =>
      split at read
      · split at read
        · cases read
        · cases read
          exact fun c member => Http.isPlain_of_mem_dotted member
      · cases read
        obtain ⟨text, -, ascii⟩ := Option.bind_eq_some_iff.mp found
        exact fun c member => (Http.Domain.allows_of_ascii? ascii c member).isPlain

theorem Http.isPlain_of_opaqueHost {cs host : List Char} (read : Http.opaqueHost cs = .ok host) :
    ∀ c ∈ host, Http.IsPlain c := by
  unfold Http.opaqueHost at read
  split at read
  · exact Http.isPlain_of_bracketed read
  · split at read
    · cases read
    · cases read
      exact Http.isPlain_of_mem_percentEncode

/-- All that an authority tells is printable. -/
structure Http.Authority.Normal (a : Http.Authority) : Prop where
  user : ∀ c ∈ a.user.toList, Http.IsPlain c
  password : ∀ c ∈ a.password.toList, Http.IsPlain c
  host : ∀ c ∈ a.host.toList, Http.IsPlain c

theorem Http.Authority.Normal.of_ofHost {scheme : String} {user password cs : List Char} {a : Http.Authority}
    (read : Http.Authority.ofHost scheme user password cs = .ok a) (plainUser : ∀ c ∈ user, Http.IsPlain c)
    (plainPassword : ∀ c ∈ password, Http.IsPlain c) : a.Normal := by
  rw [Http.Authority.ofHost] at read
  simp only at read
  split at read
  · cases read
  · split at read
    all_goals
      obtain ⟨host, named, read⟩ := Except.exists_of_bind read
      obtain ⟨port, -, read⟩ := Except.exists_of_bind read
      split at read
      · cases read
      · cases read
        refine ⟨by simpa using plainUser, by simpa using plainPassword, ?_⟩
        rw [String.toList_ofList]
        first
          | exact Http.isPlain_of_hostName named
          | exact Http.isPlain_of_opaqueHost named

theorem Http.Authority.Normal.of_read {scheme : String} {cs rest : List Char} {a : Http.Authority}
    (read : Http.Authority.read scheme cs = .ok (a, rest)) : a.Normal := by
  rw [Http.Authority.read] at read
  simp only at read
  split at read
  · cases read
  · obtain ⟨authority, inside, same⟩ := Except.exists_of_bind read
    cases same
    exact .of_ofHost inside Http.isPlain_of_mem_percentEncode Http.isPlain_of_mem_percentEncode

theorem Http.Authority.Normal.isPlain_text {a : Http.Authority} (normal : a.Normal) :
    ∀ c ∈ a.text.toList, Http.IsPlain c := by
  have colon : Http.IsPlain ':' := by decide
  have sign : Http.IsPlain '@' := by decide
  have password : ∀ c ∈ (if a.password.isEmpty then "" else ":" ++ a.password).toList, Http.IsPlain c := by
    split
    · exact List.forall_mem_nil _
    · simpa [colon] using normal.password
  rw [Http.Authority.text]
  generalize (if a.password.isEmpty then "" else ":" ++ a.password) = secret at password ⊢
  rw [String.toList_append, String.toList_append]
  refine List.forall_mem_append.mpr ⟨List.forall_mem_append.mpr ⟨?login, normal.host⟩, ?port⟩
  case login =>
    split
    · exact List.forall_mem_nil _
    · rw [String.toList_append, String.toList_append]
      exact List.forall_mem_append.mpr ⟨List.forall_mem_append.mpr ⟨normal.user, password⟩,
        List.forall_mem_singleton.mpr sign⟩
  case port =>
    split
    · rw [String.toList_ofList]
      exact List.forall_mem_cons.mpr ⟨colon, fun c member => Digits.isPlain_of_mem_ofNat member⟩
    · exact List.forall_mem_nil _

/-- A location as it is read: of one of the two schemes, printable, with an absolute path that ends before the
query, which ends before the fragment. -/
structure Http.Url.Normal (u : Http.Url) : Prop where
  scheme : u.scheme = "http" ∨ u.scheme = "https"
  authority : u.authority.Normal
  rooted : u.path.toList.head? = some '/'
  path : ∀ c ∈ u.path.toList, Http.IsPlain c ∧ c ≠ '?' ∧ c ≠ '#'
  query : ∀ q ∈ u.query, ∀ c ∈ q.toList, Http.IsPlain c ∧ c ≠ '#'
  fragment : ∀ f ∈ u.fragment, ∀ c ∈ f.toList, Http.IsPlain c

theorem Http.exists_of_optionalPart {special cs : List Char} {mark : Char} {part : String}
    (read : Http.optionalPart special mark cs = some part) :
    ∃ rest, part = String.ofList (Http.percentEncode special rest) := by
  unfold Http.optionalPart at read
  split at read
  · cases read
  · split at read
    · exact ⟨_, (Option.some.inj read).symm⟩
    · cases read

theorem Http.Url.Normal.of_ofNet {scheme : String} {cs : List Char} {u : Http.Url}
    (read : Http.Url.ofNet scheme cs = .ok u) (known : scheme = "http" ∨ scheme = "https") : u.Normal := by
  rw [Http.Url.ofNet] at read
  obtain ⟨⟨authority, rest⟩, inside, same⟩ := Except.exists_of_bind read
  cases same
  refine ⟨known, .of_read inside, by rw [String.toList_ofList]; rfl, fun c member => ?_, fun q found c member => ?_,
    fun f found c member => ?_⟩
  · rw [String.toList_ofList] at member
    exact Http.of_mem_normalPath member
  · obtain ⟨raw, rfl⟩ := Http.exists_of_optionalPart found
    rw [String.toList_ofList] at member
    exact ⟨Http.isPlain_of_mem_percentEncode c member,
      Http.ne_of_mem_percentEncode member (by decide) (by decide) (by decide)⟩
  · obtain ⟨raw, rfl⟩ := Http.exists_of_optionalPart found
    rw [String.toList_ofList] at member
    exact Http.isPlain_of_mem_percentEncode c member

theorem Http.Url.Normal.of_ofText {text : List Char} {u : Http.Url} (read : Http.Url.ofText text = .ok u) :
    u.Normal := by
  rw [Http.Url.ofText] at read
  split at read
  · cases read
  next scheme rest _ =>
    split at read
    · obtain ⟨url, net, read⟩ := Except.exists_of_bind read
      split at read
      next known =>
        cases read
        exact .of_ofNet net known
      · cases read
    · obtain ⟨_, -, failed⟩ := Except.exists_of_bind read
      cases failed
    · obtain ⟨_, -, failed⟩ := Except.exists_of_bind read
      cases failed

/-- What a redirection leads to is a location like any other. -/
theorem Http.Url.Normal.of_follow {u v : Http.Url} {location : List Char} (led : u.follow location = .ok v) :
    v.Normal := by
  rw [Http.Url.follow] at led
  simp only at led
  split at led
  · exact .of_ofText led
  · split at led
    · exact .of_ofText led
    · exact .of_ofText led

section

variable {u : Http.Url} (normal : u.Normal)

include normal

theorem Http.Url.Normal.isPlain_target : ∀ c ∈ u.target.toList, Http.IsPlain c := by
  rw [Http.Url.target, String.toList_append]
  refine List.forall_mem_append.mpr ⟨fun c member => (normal.path c member).1, ?_⟩
  split
  next q found =>
    rw [String.toList_append]
    exact List.forall_mem_append.mpr
      ⟨List.all_iff_forall_prop.mp rfl, fun c member => (normal.query q found c member).1⟩
  · exact List.forall_mem_nil _

/-- A location that is read is printable throughout, whatever it is read from: nothing in it ends a line or begins
another field of a request. -/
theorem Http.Url.Normal.isPlain_text : ∀ c ∈ u.text.toList, Http.IsPlain c := by
  have scheme : ∀ c ∈ (u.scheme ++ "://").toList, Http.IsPlain c := by
    rcases normal.scheme with same | same
    all_goals
      rw [same]
      exact List.all_iff_forall_prop.mp rfl
  rw [Http.Url.text, Http.Url.origin, String.toList_append, String.toList_append, String.toList_append]
  refine List.forall_mem_append.mpr ⟨List.forall_mem_append.mpr ⟨List.forall_mem_append.mpr
    ⟨scheme, normal.authority.isPlain_text⟩, normal.isPlain_target⟩, ?_⟩
  split
  next f found =>
    rw [String.toList_append]
    exact List.forall_mem_append.mpr ⟨List.all_iff_forall_prop.mp rfl, fun c member => normal.fragment f found c member⟩
  · exact List.forall_mem_nil _

/-- A server sees the path of the location, whatever its query is. -/
theorem Http.Url.Normal.pathOf_target : Http.pathOf u.target.toList = u.path.toList := by
  obtain ⟨rest, form⟩ : ∃ rest, u.path.toList = '/' :: rest := by
    have rooted := normal.rooted
    cases path : u.path.toList with
    | nil =>
      rw [path] at rooted
      cases rooted
    | cons c rest =>
      rw [path] at rooted
      cases rooted
      exact ⟨rest, rfl⟩
  obtain ⟨query, target, ends⟩ : ∃ query, u.target.toList = u.path.toList ++ query ∧
      ∀ c ∈ query.head?, (c != '?' && c != '#') = false := by
    rw [Http.Url.target, String.toList_append]
    refine ⟨_, rfl, fun c head => ?_⟩
    split at head
    · rw [String.toList_append] at head
      cases head
      rfl
    · cases head
  have inside : ∀ c ∈ u.path.toList, (c != '?' && c != '#') = true := by
    intro c member
    obtain ⟨-, noQuery, noFragment⟩ := normal.path c member
    simp [noQuery, noFragment]
  have located : Http.pathOf u.target.toList = u.target.toList.takeWhile fun c => c != '?' && c != '#' := by
    rw [target, form]
    rfl
  rw [located, target, takeWhile_front inside ends]

end

end RemoteCall
