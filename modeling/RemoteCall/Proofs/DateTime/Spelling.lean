import Mathlib.Data.List.TakeWhile
import RemoteCall.Proofs.DateTime

namespace RemoteCall

/-- A number as it may stand in a date/time: one or two digits behind blanks. -/
structure DateTime.Field where
  gap : List Char
  digits : List Char
  blank : ∀ c ∈ gap, isBlank c = true
  decimal : ∀ c ∈ digits, c.isDigit = true
  width : digits.length = 1 ∨ digits.length = 2

def DateTime.Field.text (f : DateTime.Field) : List Char :=
  f.gap ++ f.digits

def DateTime.Field.value (f : DateTime.Field) : Nat :=
  Digits.value f.digits

/-- The year as it may stand in front of a date/time: up to four digits, or a sign and any number of them. -/
inductive DateTime.YearSpelling
  | plain (digits : List Char) (decimal : ∀ c ∈ digits, c.isDigit = true)
      (width : digits ≠ [] ∧ digits.length ≤ 4)
  | signed (negative : Bool) (digits : List Char) (decimal : ∀ c ∈ digits, c.isDigit = true) (some : digits ≠ [])

def DateTime.YearSpelling.text : DateTime.YearSpelling → List Char
  | .plain digits _ _ => digits
  | .signed negative digits _ _ => (if negative then '-' else '+') :: digits

def DateTime.YearSpelling.value : DateTime.YearSpelling → Int
  | .plain digits _ _ => Digits.value digits
  | .signed negative digits _ _ => if negative then -(Digits.value digits : Int) else Digits.value digits

/-- No more digits could belong to the year. -/
def DateTime.YearSpelling.Full : DateTime.YearSpelling → Prop
  | .plain digits _ _ => digits.length = 4
  | .signed _ _ _ _ => False

/-- The ways to write a date/time that are read as one, without blanks around it. Every number takes in all digits
that it can, so where it could take in more, blanks have to follow it. -/
structure DateTime.Spelling where
  year : DateTime.YearSpelling
  month : DateTime.Field
  day : DateTime.Field
  hour : DateTime.Field
  minute : DateTime.Field
  second : DateTime.Field
  year_ends : year.Full ∨ month.gap ≠ []
  month_ends : month.digits.length = 2 ∨ day.gap ≠ []

def DateTime.Spelling.text (sp : DateTime.Spelling) : List Char :=
  sp.year.text ++ (sp.month.text ++ (sp.day.text ++
    'T' :: (sp.hour.text ++ ':' :: (sp.minute.text ++ ':' :: sp.second.text))))

/-- The date/time has the numbers that are written, and nothing that is not. A leap second, which then stands at second
59, is written as second 60. -/
structure DateTime.Spelling.Denotes (sp : DateTime.Spelling) (t : DateTime) : Prop where
  year : t.year = sp.year.value
  month : t.month = sp.month.value
  day : t.day = sp.day.value
  hour : t.hour = sp.hour.value
  minute : t.minute = sp.minute.value
  second : t.shownSecond = sp.second.value
  shown : t.shown = t

theorem DateTime.leadingDigits_spec (width : Nat) (cs : List Char) :
    (DateTime.leadingDigits width cs).1 ++ (DateTime.leadingDigits width cs).2 = cs ∧
      (∀ c ∈ (DateTime.leadingDigits width cs).1, c.isDigit = true) ∧
      (DateTime.leadingDigits width cs).1.length ≤ width ∧
      ((DateTime.leadingDigits width cs).1.length = width ∨
        ∀ c ∈ (DateTime.leadingDigits width cs).2.head?, c.isDigit = false) := by
  induction width generalizing cs with
  | zero => simp [DateTime.leadingDigits]
  | succ width ih =>
    cases cs with
    | nil => simp [DateTime.leadingDigits]
    | cons c cs =>
      by_cases digit : c.isDigit = true
      · obtain ⟨whole, digits, fits, stop⟩ := ih cs
        simp only [DateTime.leadingDigits, digit, if_true, List.cons_append, whole, List.length_cons, true_and]
        exact ⟨List.forall_mem_cons.mpr ⟨digit, digits⟩, by omega, stop.imp_left (congrArg (· + 1))⟩
      · simp [DateTime.leadingDigits, digit]

/-- A number takes in all digits in front, as far as its width allows. -/
theorem DateTime.number?_eq_some_iff {width n : Nat} {cs rest : List Char} :
    DateTime.number? width cs = some (n, rest) ↔
      ∃ ds, cs = ds ++ rest ∧ ds ≠ [] ∧ (∀ c ∈ ds, c.isDigit = true) ∧ ds.length ≤ width ∧
        (ds.length = width ∨ ∀ c ∈ rest.head?, c.isDigit = false) ∧ n = Digits.value ds := by
  constructor
  · intro read
    obtain ⟨whole, digits, fits, stop⟩ := DateTime.leadingDigits_spec width cs
    cases form : DateTime.leadingDigits width cs with
    | mk ds others =>
      simp only [form] at whole digits fits stop
      simp only [DateTime.number?, form, Option.map_eq_some_iff, Prod.mk.injEq] at read
      obtain ⟨m, value, rfl, rfl⟩ := read
      have nonempty : ds ≠ [] := by
        rintro rfl
        cases value
      rw [Digits.nat?_eq_some nonempty digits] at value
      exact ⟨ds, whole.symm, nonempty, digits, fits, stop, (Option.some.inj value).symm⟩
  · rintro ⟨ds, rfl, nonempty, digits, fits, stop, rfl⟩
    exact DateTime.number?_append nonempty digits fits stop

theorem DateTime.Field.exists_digits_eq_cons (f : DateTime.Field) :
    ∃ c cs, f.digits = c :: cs ∧ c.isDigit = true := by
  cases form : f.digits with
  | nil =>
    have width := f.width
    simp [form] at width
  | cons c cs => exact ⟨c, cs, rfl, f.decimal c (by simp [form])⟩

/-- The digits in front of a field end there exactly if it begins with blanks. -/
theorem DateTime.Field.gap_ne_nil_iff {f : DateTime.Field} {rest : List Char} :
    f.gap ≠ [] ↔ ∀ c ∈ (f.text ++ rest).head?, c.isDigit = false := by
  obtain ⟨c, cs, form, digit⟩ := f.exists_digits_eq_cons
  cases gap : f.gap with
  | nil => simp [DateTime.Field.text, gap, form, digit]
  | cons b bs =>
    have blank := f.blank b (by simp [gap])
    simp [DateTime.Field.text, gap, isDigit_of_isBlank blank]

theorem DateTime.field?_eq_some_iff {n : Nat} {cs rest : List Char} :
    DateTime.field? cs = some (n, rest) ↔
      ∃ f : DateTime.Field, cs = f.text ++ rest ∧ n = f.value ∧
        (f.digits.length = 2 ∨ ∀ c ∈ rest.head?, c.isDigit = false) := by
  rw [DateTime.field?, DateTime.number?_eq_some_iff]
  constructor
  · rintro ⟨ds, form, nonempty, digits, fits, stop, rfl⟩
    have some : 0 < ds.length := List.length_pos_iff.mpr nonempty
    refine ⟨⟨cs.takeWhile isBlank, ds, fun c member => List.mem_takeWhile_imp member, digits, by omega⟩, ?_, rfl, stop⟩
    rw [DateTime.Field.text, List.append_assoc, ← form, List.takeWhile_append_dropWhile]
  · rintro ⟨f, rfl, rfl, stop⟩
    obtain ⟨c, ds, form, digit⟩ := f.exists_digits_eq_cons
    have first : ∀ d ∈ (f.digits ++ rest).head?, isBlank d = false := by
      intro d head
      have same : c = d := by simpa [form] using head
      exact same ▸ isBlank_of_isDigit digit
    have width := f.width
    refine ⟨f.digits, ?_, by simp [form], f.decimal, by omega, stop, rfl⟩
    rw [DateTime.Field.text, List.append_assoc, List.dropWhile_append_of_pos f.blank,
      List.dropWhile_eq_self_iff.mpr (not_first first)]

theorem DateTime.mark?_eq_some_iff {mark : Char} {cs rest : List Char} :
    DateTime.mark? mark cs = some rest ↔ cs = mark :: rest := by
  cases cs with
  | nil => simp [DateTime.mark?]
  | cons c cs =>
    by_cases same : c = mark
    · simp [DateTime.mark?, same]
    · simp [DateTime.mark?, same]

theorem DateTime.YearSpelling.exists_text_eq_cons (y : DateTime.YearSpelling) :
    ∃ c cs, y.text = c :: cs ∧ isBlank c = false := by
  cases y with
  | plain digits decimal width =>
    obtain ⟨c, cs, form⟩ := List.exists_cons_of_ne_nil width.1
    exact ⟨c, cs, form, isBlank_of_isDigit (decimal c (by simp [form]))⟩
  | signed negative digits decimal some =>
    refine ⟨_, digits, rfl, ?_⟩
    cases negative <;> decide

theorem DateTime.number?_length_eq_some_iff {n : Nat} {cs rest : List Char} :
    DateTime.number? cs.length cs = some (n, rest) ↔
      ∃ ds, cs = ds ++ rest ∧ ds ≠ [] ∧ (∀ c ∈ ds, c.isDigit = true) ∧ (∀ c ∈ rest.head?, c.isDigit = false) ∧
        n = Digits.value ds := by
  rw [DateTime.number?_eq_some_iff]
  constructor
  · rintro ⟨ds, rfl, nonempty, digits, fits, stop, value⟩
    refine ⟨ds, rfl, nonempty, digits, stop.elim (fun all => ?_) id, value⟩
    have nothing : rest = [] := by simpa using all
    simp [nothing]
  · rintro ⟨ds, rfl, nonempty, digits, stop, value⟩
    exact ⟨ds, rfl, nonempty, digits, by simp, Or.inr stop, value⟩

/-- A year without blanks in front takes in all digits in front, if it has no sign as far as four. -/
theorem DateTime.year?_eq_some_iff {year : Int} {cs rest : List Char} (first : ∀ c ∈ cs.head?, isBlank c = false) :
    DateTime.year? cs = some (year, rest) ↔
      ∃ y : DateTime.YearSpelling, cs = y.text ++ rest ∧ year = y.value ∧
        (y.Full ∨ ∀ c ∈ rest.head?, c.isDigit = false) := by
  constructor
  · intro read
    rw [DateTime.year?, List.dropWhile_eq_self_iff.mpr (not_first first)] at read
    split at read
    · obtain ⟨⟨n, others⟩, found, same⟩ := Option.map_eq_some_iff.mp read
      obtain ⟨ds, rfl, nonempty, digits, stop, rfl⟩ := DateTime.number?_length_eq_some_iff.mp found
      cases same
      exact ⟨.signed true ds digits nonempty, rfl, rfl, Or.inr stop⟩
    · obtain ⟨⟨n, others⟩, found, same⟩ := Option.map_eq_some_iff.mp read
      obtain ⟨ds, rfl, nonempty, digits, stop, rfl⟩ := DateTime.number?_length_eq_some_iff.mp found
      cases same
      exact ⟨.signed false ds digits nonempty, rfl, rfl, Or.inr stop⟩
    · obtain ⟨⟨n, others⟩, found, same⟩ := Option.map_eq_some_iff.mp read
      obtain ⟨ds, rfl, nonempty, digits, fits, stop, rfl⟩ := DateTime.number?_eq_some_iff.mp found
      cases same
      exact ⟨.plain ds digits ⟨nonempty, fits⟩, rfl, rfl, stop⟩
  · rintro ⟨y, rfl, rfl, stop⟩
    cases y with
    | plain digits decimal width =>
      obtain ⟨c, cs, rfl⟩ := List.exists_cons_of_ne_nil width.1
      have read := DateTime.number?_append width.1 decimal width.2 stop
      have digit : c.isDigit = true := decimal c (List.mem_cons_self ..)
      exact (DateTime.year?_of_digit digit).trans (Option.map_eq_some_iff.mpr ⟨_, read, rfl⟩)
    | signed negative digits decimal some =>
      have read := DateTime.number?_length_eq_some_iff.mpr ⟨digits, rfl, some, decimal, stop.resolve_left id, rfl⟩
      rw [DateTime.year?, List.dropWhile_eq_self_iff.mpr (not_first first)]
      cases negative with
      | true => exact Option.map_eq_some_iff.mpr ⟨_, read, rfl⟩
      | false => exact Option.map_eq_some_iff.mpr ⟨_, read, rfl⟩

theorem DateTime.Spelling.head?_text (sp : DateTime.Spelling) : ∀ c ∈ sp.text.head?, isBlank c = false := by
  obtain ⟨c, cs, form, visible⟩ := sp.year.exists_text_eq_cons
  simp [DateTime.Spelling.text, form, visible]

/-- A text is read as a date/time exactly if it is a spelling of it, with blanks around it. -/
theorem DateTime.ofText?_eq_some_iff {cs : List Char} {t : DateTime} :
    DateTime.ofText? cs = some t ↔ ∃ sp : DateTime.Spelling, sp.text = trimmed cs ∧ sp.Denotes t := by
  simp only [DateTime.ofText?, Option.bind_eq_bind, Option.bind_eq_some_iff, Prod.exists]
  constructor
  · rintro ⟨year, cs₁, yearRead, month, cs₂, monthRead, day, cs₃, dayRead, cs₄, mark, hour, cs₅, hourRead, cs₆, colon,
      minute, cs₇, minuteRead, cs₈, colon', second, cs₉, secondRead, made⟩
    obtain ⟨y, text, rfl, yearEnds⟩ := (DateTime.year?_eq_some_iff (head?_trimmed cs)).mp yearRead
    obtain ⟨mo, rfl, rfl, monthEnds⟩ := DateTime.field?_eq_some_iff.mp monthRead
    obtain ⟨d, rfl, rfl, -⟩ := DateTime.field?_eq_some_iff.mp dayRead
    obtain rfl := DateTime.mark?_eq_some_iff.mp mark
    obtain ⟨h, rfl, rfl, -⟩ := DateTime.field?_eq_some_iff.mp hourRead
    obtain rfl := DateTime.mark?_eq_some_iff.mp colon
    obtain ⟨mi, rfl, rfl, -⟩ := DateTime.field?_eq_some_iff.mp minuteRead
    obtain rfl := DateTime.mark?_eq_some_iff.mp colon'
    obtain ⟨s, rfl, rfl, -⟩ := DateTime.field?_eq_some_iff.mp secondRead
    split at made
    · cases made
    · rename_i ended
      obtain rfl : cs₉ = [] := by simpa using ended
      obtain ⟨inYear, inMonth, onDay, inHour, inMinute, inSecond, shown⟩ := DateTime.ofShown_eq_some_iff.mp made
      rw [← DateTime.Field.gap_ne_nil_iff] at yearEnds monthEnds
      rw [List.append_nil] at text
      exact ⟨⟨y, mo, d, h, mi, s, yearEnds, monthEnds⟩, text.symm,
        ⟨inYear, inMonth, onDay, inHour, inMinute, inSecond, shown⟩⟩
  · rintro ⟨sp, text, denotes⟩
    have noDigit {c : Char} {rest : List Char} (mark : c.isDigit = false) :
        ∀ d ∈ (c :: rest).head?, d.isDigit = false := by
      simpa using mark
    have noMore : ∀ d ∈ ([] : List Char).head?, d.isDigit = false := by
      intro d head
      cases head
    have made := DateTime.ofShown_eq_some_iff.mpr
      ⟨denotes.year, denotes.month, denotes.day, denotes.hour, denotes.minute, denotes.second, denotes.shown⟩
    have yearEnds := sp.year_ends
    have monthEnds := sp.month_ends
    rw [DateTime.Field.gap_ne_nil_iff] at yearEnds monthEnds
    have first := sp.head?_text
    rw [← text]
    refine ⟨_, _, (DateTime.year?_eq_some_iff first).mpr ⟨sp.year, rfl, rfl, yearEnds⟩,
      _, _, DateTime.field?_eq_some_iff.mpr ⟨sp.month, rfl, rfl, monthEnds⟩,
      _, _, DateTime.field?_eq_some_iff.mpr ⟨sp.day, rfl, rfl, Or.inr (noDigit (by decide))⟩,
      _, DateTime.mark?_eq_some_iff.mpr rfl,
      _, _, DateTime.field?_eq_some_iff.mpr ⟨sp.hour, rfl, rfl, Or.inr (noDigit (by decide))⟩,
      _, DateTime.mark?_eq_some_iff.mpr rfl,
      _, _, DateTime.field?_eq_some_iff.mpr ⟨sp.minute, rfl, rfl, Or.inr (noDigit (by decide))⟩,
      _, DateTime.mark?_eq_some_iff.mpr rfl,
      _, _, DateTime.field?_eq_some_iff.mpr ⟨sp.second, (List.append_nil _).symm, rfl, Or.inr noMore⟩, made⟩

/-- The number stands without blanks and with both digits. -/
def DateTime.Field.Exact (f : DateTime.Field) : Prop :=
  f.gap = [] ∧ f.digits.length = 2

/-- The form that date/times are written in: a year of four digits without a sign, all else with two, and no blanks. -/
structure DateTime.Spelling.Exact (sp : DateTime.Spelling) : Prop where
  year : sp.year.Full
  month : sp.month.Exact
  day : sp.day.Exact
  hour : sp.hour.Exact
  minute : sp.minute.Exact
  second : sp.second.Exact

theorem DateTime.YearSpelling.Full.yearText {y : DateTime.YearSpelling} (full : y.Full) :
    y.text = DateTime.yearText y.value ∧ y.text.length = 4 ∧ 0 ≤ y.value ∧ y.value ≤ 9999 := by
  cases y with
  | plain digits decimal width =>
    have length : digits.length = 4 := full
    have small : Digits.value digits < 10 ^ 4 := length ▸ Digits.value_lt decimal
    have bounds : 0 ≤ (Digits.value digits : Int) ∧ (Digits.value digits : Int) ≤ 9999 := by omega
    have padded := Digits.padded_value width.1 decimal
    rw [length] at padded
    refine ⟨?_, length, bounds⟩
    rw [DateTime.YearSpelling.value, DateTime.yearText, if_pos bounds, Int.natAbs_natCast, padded]
    rfl
  | signed => exact full.elim

theorem DateTime.Field.Exact.text {f : DateTime.Field} (exact : f.Exact) : f.text = Digits.padded 2 f.value := by
  obtain ⟨gap, length⟩ := exact
  have some : f.digits ≠ [] := List.length_pos_iff.mp (by omega)
  have padded := Digits.padded_value some f.decimal
  rw [length] at padded
  rw [DateTime.Field.text, gap, DateTime.Field.value, padded, List.nil_append]

theorem DateTime.Field.gap_eq_nil {f : DateTime.Field} (plain : ∀ c ∈ f.text, isBlank c = false) : f.gap = [] := by
  cases form : f.gap with
  | nil => rfl
  | cons c cs =>
    have member : c ∈ f.gap := by simp [form]
    have blank := f.blank c member
    rw [plain c (List.mem_append_left _ member)] at blank
    cases blank

theorem DateTime.Spelling.Exact.text_eq {sp : DateTime.Spelling} {t : DateTime} (exact : sp.Exact)
    (denotes : sp.Denotes t) : sp.text = t.text := by
  rw [t.text_eq_append, denotes.year, denotes.month, denotes.day, denotes.hour, denotes.minute, denotes.second,
    DateTime.Spelling.text, exact.year.yearText.1, exact.month.text, exact.day.text, exact.hour.text, exact.minute.text,
    exact.second.text, List.append_assoc, List.append_nil]

/-- A spelling is the one that is written exactly if it leaves nothing out and puts nothing in. -/
theorem DateTime.Spelling.text_eq_iff {sp : DateTime.Spelling} {t : DateTime} (denotes : sp.Denotes t) :
    sp.text = t.text ↔ sp.Exact := by
  constructor
  · intro same
    have plain : ∀ c ∈ sp.text, isBlank c = false := same ▸ t.noBlank_text
    simp only [DateTime.Spelling.text, List.mem_append, List.mem_cons] at plain
    have month := DateTime.Field.gap_eq_nil (f := sp.month) fun c member => plain c (by simp [member])
    have day := DateTime.Field.gap_eq_nil (f := sp.day) fun c member => plain c (by simp [member])
    have hour := DateTime.Field.gap_eq_nil (f := sp.hour) fun c member => plain c (by simp [member])
    have minute := DateTime.Field.gap_eq_nil (f := sp.minute) fun c member => plain c (by simp [member])
    have second := DateTime.Field.gap_eq_nil (f := sp.second) fun c member => plain c (by simp [member])
    have full := sp.year_ends.resolve_right (not_not_intro month)
    have wide := sp.month_ends.resolve_right (not_not_intro day)
    obtain ⟨-, yearLength, bounds⟩ := full.yearText
    -- nothing else can be short, or the whole would be
    have length : sp.text.length = 17 := by
      rw [same, DateTime.length_text (denotes.year ▸ bounds)]
    have dayWidth := sp.day.width
    have hourWidth := sp.hour.width
    have minuteWidth := sp.minute.width
    have secondWidth := sp.second.width
    simp only [DateTime.Spelling.text, DateTime.Field.text, month, day, hour, minute, second, List.nil_append,
      List.length_append, List.length_cons, yearLength, wide] at length
    exact ⟨full, ⟨month, wide⟩, ⟨day, by omega⟩, ⟨hour, by omega⟩, ⟨minute, by omega⟩, ⟨second, by omega⟩⟩
  · exact fun exact => exact.text_eq denotes

end RemoteCall
