import RemoteCall.DateTime.Text
import RemoteCall.Proofs.Digits

namespace RemoteCall

theorem DateTime.leadingDigits_append {width : Nat} {ds rest : List Char}
    (digits : ∀ c ∈ ds, c.isDigit = true) (fits : ds.length ≤ width)
    (stop : ds.length = width ∨ ∀ c ∈ rest.head?, c.isDigit = false) :
    DateTime.leadingDigits width (ds ++ rest) = (ds, rest) := by
  induction ds generalizing width with
  | nil =>
    cases width with
    | zero => rfl
    | succ width =>
      cases rest with
      | nil => rfl
      | cons c rest =>
        have last : c.isDigit = false := stop.resolve_left (by simp) c rfl
        simp only [List.nil_append, DateTime.leadingDigits, last, Bool.false_eq_true, if_false]
  | cons c ds ih =>
    cases width with
    | zero => simp at fits
    | succ width =>
      have first : c.isDigit = true := digits c (List.mem_cons_self ..)
      have shorter : ds.length ≤ width := by simpa using fits
      have inner := ih (fun d member => digits d (List.mem_cons_of_mem _ member)) shorter (by simpa using stop)
      simp only [List.cons_append, DateTime.leadingDigits, first, if_true, inner]

theorem DateTime.number?_append {width : Nat} {ds rest : List Char} (nonempty : ds ≠ [])
    (digits : ∀ c ∈ ds, c.isDigit = true) (fits : ds.length ≤ width)
    (stop : ds.length = width ∨ ∀ c ∈ rest.head?, c.isDigit = false) :
    DateTime.number? width (ds ++ rest) = some (Digits.value ds, rest) := by
  simp only [DateTime.number?, DateTime.leadingDigits_append digits fits stop,
    Digits.nat?_eq_some nonempty digits, Option.map_some]

theorem DateTime.number?_padded {width n : Nat} {rest : List Char} (positive : 0 < width)
    (fits : n < Nat.pow 10 width) :
    DateTime.number? width (Digits.padded width n ++ rest) = some (n, rest) := by
  have length := Digits.length_padded positive fits
  obtain ⟨c, cs, form, _⟩ := Digits.exists_padded_eq_cons width n
  rw [DateTime.number?_append (by simp [form]) (fun _ => Digits.isDigit_of_mem_padded) (Nat.le_of_eq length)
    (Or.inl length), Digits.value_padded]

/-- A numeral begins with a digit, so no blanks are skipped in front of it. -/
theorem DateTime.dropWhile_padded (width n : Nat) (rest : List Char) :
    (Digits.padded width n ++ rest).dropWhile isBlank = Digits.padded width n ++ rest := by
  obtain ⟨c, cs, form, digit⟩ := Digits.exists_padded_eq_cons width n
  rw [form]
  exact List.dropWhile_cons_of_neg (Bool.not_eq_true _ ▸ isBlank_of_isDigit digit)

theorem DateTime.field?_padded {n : Nat} {rest : List Char} (fits : n ≤ 99) :
    DateTime.field? (Digits.padded 2 n ++ rest) = some (n, rest) := by
  have small : n < Nat.pow 10 2 := Nat.lt_succ_of_le fits
  rw [DateTime.field?, DateTime.dropWhile_padded, DateTime.number?_padded (by decide) small]

theorem DateTime.field?_mark {c : Char} {rest : List Char} (blank : isBlank c = false)
    (digit : c.isDigit = false) : DateTime.field? (c :: rest) = none := by
  rw [DateTime.field?, List.dropWhile_cons_of_neg (by simpa using blank)]
  simp only [DateTime.number?, DateTime.leadingDigits, digit, Bool.false_eq_true, if_false, Digits.nat?,
    List.isEmpty_nil, Bool.not_true, Bool.false_and, Option.map_none]

theorem DateTime.year?_of_digit {c : Char} {cs : List Char} (digit : c.isDigit = true) :
    DateTime.year? (c :: cs) = (DateTime.number? 4 (c :: cs)).map fun (n, rest) => ((n : Int), rest) := by
  have first : ¬isBlank c = true := Bool.not_eq_true _ ▸ isBlank_of_isDigit digit
  rw [DateTime.year?, List.dropWhile_cons_of_neg first]
  split
  · rename_i same
    rw [(List.cons.inj same).1] at digit
    exact absurd digit (by decide)
  · rename_i same
    rw [(List.cons.inj same).1] at digit
    exact absurd digit (by decide)
  · rfl

/-- A year of four digits leaves alone whatever digits follow it. -/
theorem DateTime.year?_yearText {year : Int} {rest : List Char} (lower : 0 ≤ year) (upper : year ≤ 9999) :
    DateTime.year? (DateTime.yearText year ++ rest) = some (year, rest) := by
  have small : year.natAbs < Nat.pow 10 4 := by
    have : Nat.pow 10 4 = 10000 := rfl
    omega
  have same : ((year.natAbs : Nat) : Int) = year := by omega
  obtain ⟨c, cs, form, digit⟩ := Digits.exists_padded_eq_cons 4 year.natAbs
  rw [DateTime.yearText, if_pos ⟨lower, upper⟩, form, List.cons_append, DateTime.year?_of_digit digit,
    ← List.cons_append, ← form, DateTime.number?_padded (by decide) small, Option.map_some]
  simp only [same]

/-- A signed year takes in all digits behind it. -/
theorem DateTime.year?_signed {year : Int} {digits : List Char} (outside : ¬(0 ≤ year ∧ year ≤ 9999))
    (plain : ∀ c ∈ digits, c.isDigit = true) (rest : List Char) (stop : ∀ c ∈ rest.head?, c.isDigit = false) :
    ∃ n, DateTime.year? (DateTime.yearText year ++ (digits ++ rest)) = some (n, rest) := by
  obtain ⟨c, cs, form, _⟩ := Digits.exists_padded_eq_cons 4 year.natAbs
  have run : DateTime.number? (Digits.padded 4 year.natAbs ++ (digits ++ rest)).length
      (Digits.padded 4 year.natAbs ++ (digits ++ rest)) =
        some (Digits.value (Digits.padded 4 year.natAbs ++ digits), rest) := by
    rw [← List.append_assoc]
    refine DateTime.number?_append (by simp [form]) ?_ (by simp) (Or.inr stop)
    intro d member
    rcases List.mem_append.mp member with inYear | inDigits
    · exact Digits.isDigit_of_mem_padded inYear
    · exact plain d inDigits
  rw [DateTime.yearText, if_neg outside, List.cons_append, DateTime.year?]
  by_cases negative : year < 0
  · rw [if_pos negative, List.dropWhile_cons_of_neg (by decide)]
    exact ⟨_, by simp only [run, Option.map_some]; rfl⟩
  · rw [if_neg negative, List.dropWhile_cons_of_neg (by decide)]
    exact ⟨_, by simp only [run, Option.map_some]; rfl⟩

theorem DateTime.isLeapSecond_iff {t : DateTime} : t.isLeapSecond = true ↔ 1000000000 ≤ t.nanosecond := by
  rw [DateTime.isLeapSecond, decide_eq_true_eq]

/-- The second as it is shown: a leap second is the second behind its own. -/
def DateTime.shownSecond (t : DateTime) : Nat :=
  if t.isLeapSecond then t.second + 1 else t.second

/-- The date/time without the fraction of its second; a leap second stays one. -/
def DateTime.wholeSecond (t : DateTime) : DateTime :=
  { t with
    nanosecond := if t.isLeapSecond then 1000000000 else 0
    nanosecond_bound := by split <;> decide }

/-- The date/time that the text shows: without the fraction of its second, and with the second behind it in place of
a leap second that does not stand at second 59. -/
def DateTime.shown (t : DateTime) : DateTime :=
  if early : t.isLeapSecond = true ∧ t.second < 59 then
    { t with
      second := t.second + 1
      nanosecond := 0
      second_bound := early.2
      nanosecond_bound := by decide }
  else t.wholeSecond

theorem DateTime.wholeSecond_nanosecond (t : DateTime) :
    t.wholeSecond.nanosecond = if t.isLeapSecond then 1000000000 else 0 :=
  rfl

theorem DateTime.wholeSecond_eq_self_iff {t : DateTime} :
    t.wholeSecond = t ↔ t.nanosecond = 0 ∨ t.nanosecond = 1000000000 := by
  have value : t.wholeSecond = t ↔ (if t.isLeapSecond then 1000000000 else 0) = t.nanosecond := by
    cases t
    simp only [DateTime.wholeSecond, DateTime.mk.injEq, true_and]
  rw [value]
  by_cases leap : t.isLeapSecond = true
  · have late := DateTime.isLeapSecond_iff.mp leap
    rw [if_pos leap]
    omega
  · have soon := mt DateTime.isLeapSecond_iff.mpr leap
    rw [if_neg leap]
    omega

theorem DateTime.leapAt59_iff {t : DateTime} : t.LeapAt59 ↔ (1000000000 ≤ t.nanosecond → t.second = 59) := by
  rw [DateTime.LeapAt59, DateTime.isLeapSecond_iff]

theorem DateTime.LeapAt59.shown {t : DateTime} (placed : t.LeapAt59) : t.shown = t.wholeSecond :=
  dif_neg fun early => by
    have last := placed early.1
    omega

theorem DateTime.nanosecond_shown (t : DateTime) : t.shown.nanosecond = 0 ∨ t.shown.nanosecond = 1000000000 := by
  unfold DateTime.shown
  split
  · exact Or.inl rfl
  · rw [t.wholeSecond_nanosecond]
    exact (ite_eq_or_eq _ _ _).symm

/-- What is shown has its leap second in its place. -/
theorem DateTime.leapAt59_shown (t : DateTime) : t.shown.LeapAt59 := by
  rw [DateTime.leapAt59_iff]
  unfold DateTime.shown
  split
  · intro late
    cases late
  · rename_i placed
    intro late
    have bound := t.second_bound
    by_cases leap : t.isLeapSecond = true
    · have last : ¬t.second < 59 := fun early => placed ⟨leap, early⟩
      change t.second = 59
      omega
    · rw [t.wholeSecond_nanosecond, if_neg leap] at late
      cases late

theorem DateTime.shown_eq_self_iff {t : DateTime} :
    t.shown = t ↔ (t.nanosecond = 0 ∨ t.nanosecond = 1000000000) ∧ t.LeapAt59 := by
  rw [← DateTime.wholeSecond_eq_self_iff]
  constructor
  · intro same
    have placed : t.LeapAt59 := same ▸ t.leapAt59_shown
    exact ⟨placed.shown.symm.trans same, placed⟩
  · rintro ⟨whole, placed⟩
    exact placed.shown.trans whole

theorem DateTime.shown_shown (t : DateTime) : t.shown.shown = t.shown :=
  DateTime.shown_eq_self_iff.mpr ⟨t.nanosecond_shown, t.leapAt59_shown⟩

theorem DateTime.shownSecond_shown (t : DateTime) : t.shown.shownSecond = t.shownSecond := by
  unfold DateTime.shown
  split
  · rename_i early
    rw [DateTime.shownSecond, DateTime.shownSecond, if_pos early.1]
    rfl
  · rw [DateTime.shownSecond, DateTime.shownSecond, DateTime.isLeapSecond, t.wholeSecond_nanosecond]
    cases t.isLeapSecond <;> rfl

theorem DateTime.text_eq_append (t : DateTime) :
    t.text = DateTime.yearText t.year ++ ((Digits.padded 2 t.month ++ Digits.padded 2 t.day) ++
      'T' :: (Digits.padded 2 t.hour ++ ':' :: (Digits.padded 2 t.minute ++
        ':' :: (Digits.padded 2 t.shownSecond ++ [])))) := by
  simp only [DateTime.text, DateTime.shownSecond, List.append_assoc, List.cons_append, List.append_nil]

theorem DateTime.shownSecond_le (t : DateTime) : t.shownSecond ≤ 60 := by
  have := t.second_bound
  unfold DateTime.shownSecond
  split <;> omega

theorem DateTime.noBlank_yearText (year : Int) : ∀ c ∈ DateTime.yearText year, isBlank c = false := by
  intro c member
  unfold DateTime.yearText at member
  split at member
  · exact isBlank_of_isDigit (Digits.isDigit_of_mem_padded member)
  · rcases List.mem_cons.mp member with rfl | digit
    · split <;> decide
    · exact isBlank_of_isDigit (Digits.isDigit_of_mem_padded digit)

theorem DateTime.noBlank_text (t : DateTime) : ∀ c ∈ t.text, isBlank c = false := by
  have field {n : Nat} {c : Char} (member : c ∈ Digits.padded 2 n) : isBlank c = false :=
    isBlank_of_isDigit (Digits.isDigit_of_mem_padded member)
  intro c member
  simp only [DateTime.text_eq_append, List.mem_append, List.mem_cons, List.append_nil] at member
  rcases member with year | (month | day) | rfl | hour | rfl | minute | rfl | second
  · exact DateTime.noBlank_yearText t.year c year
  · exact field month
  · exact field day
  · decide
  · exact field hour
  · decide
  · exact field minute
  · decide
  · exact field second

theorem DateTime.trimmed_text (t : DateTime) : trimmed t.text = t.text :=
  trimmed_of_noBlank t.noBlank_text

theorem DateTime.of?_eq_some_iff {year : Int} {month day hour minute second nanosecond : Nat} {t : DateTime} :
    DateTime.of? year month day hour minute second nanosecond = some t ↔
      t.year = year ∧ t.month = month ∧ t.day = day ∧ t.hour = hour ∧ t.minute = minute ∧ t.second = second ∧
        t.nanosecond = nanosecond ∧ t.LeapAt59 := by
  rw [DateTime.leapAt59_iff]
  constructor
  · intro made
    unfold DateTime.of? at made
    split at made
    · rename_i bounds
      cases made
      exact ⟨rfl, rfl, rfl, rfl, rfl, rfl, rfl, bounds.2.2.2.2.2.2.2⟩
    · cases made
  · rintro ⟨rfl, rfl, rfl, rfl, rfl, rfl, rfl, placed⟩
    exact dif_pos ⟨t.year_bounds, t.month_bounds, t.day_bounds, t.hour_bound, t.minute_bound, t.second_bound,
      t.nanosecond_bound, placed⟩

/-- The second that is read is the one that is shown, and nothing is read that is not shown. -/
theorem DateTime.ofShown_eq_some_iff {year : Int} {month day hour minute second : Nat} {t : DateTime} :
    (if second = 60 then DateTime.of? year month day hour minute 59 1000000000
      else DateTime.of? year month day hour minute second 0) = some t ↔
      t.year = year ∧ t.month = month ∧ t.day = day ∧ t.hour = hour ∧ t.minute = minute ∧ t.shownSecond = second ∧
        t.shown = t := by
  have bound := t.second_bound
  have seconds : 1000000000 ≤ t.nanosecond ∧ t.shownSecond = t.second + 1 ∨
      t.nanosecond < 1000000000 ∧ t.shownSecond = t.second := by
    by_cases leap : t.isLeapSecond = true
    · exact Or.inl ⟨DateTime.isLeapSecond_iff.mp leap, if_pos leap⟩
    · exact Or.inr ⟨Nat.lt_of_not_le (mt DateTime.isLeapSecond_iff.mpr leap), if_neg leap⟩
  rw [DateTime.shown_eq_self_iff, DateTime.leapAt59_iff]
  by_cases sixty : second = 60
  · rw [if_pos sixty, DateTime.of?_eq_some_iff, DateTime.leapAt59_iff]
    omega
  · rw [if_neg sixty, DateTime.of?_eq_some_iff, DateTime.leapAt59_iff]
    omega

/-- Of what a date/time shows, nothing but the second and its fraction can differ from it. -/
theorem DateTime.ofShown_shown (t : DateTime) :
    (if t.shownSecond = 60 then DateTime.of? t.year t.month t.day t.hour t.minute 59 1000000000
      else DateTime.of? t.year t.month t.day t.hour t.minute t.shownSecond 0) = some t.shown := by
  refine DateTime.ofShown_eq_some_iff.mpr ⟨?_, ?_, ?_, ?_, ?_, t.shownSecond_shown, t.shown_shown⟩
  all_goals
    unfold DateTime.shown
    split <;> rfl

theorem DateTime.day_le (t : DateTime) : t.day ≤ 31 := by
  have bound := t.day_bounds.2
  have month : DateTime.daysIn t.year t.month ≤ 31 := by
    unfold DateTime.daysIn
    split <;> (try split) <;> omega
  omega

/-- The form `YYYYMMDDThh:mm:ss` has 17 characters. -/
theorem DateTime.length_text {t : DateTime} (year : 0 ≤ t.year ∧ t.year ≤ 9999) : t.text.length = 17 := by
  have field {n : Nat} (fits : n ≤ 99) : (Digits.padded 2 n).length = 2 :=
    Digits.length_padded (by decide) (Nat.lt_succ_of_le fits)
  have small : t.year.natAbs < Nat.pow 10 4 := by
    have : Nat.pow 10 4 = 10000 := rfl
    omega
  have month := t.month_bounds
  have hour := t.hour_bound
  have minute := t.minute_bound
  rw [t.text_eq_append, DateTime.yearText, if_pos year]
  simp only [List.length_append, List.length_cons, List.length_nil, Digits.length_padded (by decide) small,
    field (show t.month ≤ 99 by omega), field (Nat.le_trans t.day_le (by decide)), field (show t.hour ≤ 99 by omega),
    field (show t.minute ≤ 99 by omega), field (Nat.le_trans t.shownSecond_le (by decide))]

/-- The text of a date/time of the four-digit years is read as what it shows. -/
theorem DateTime.ofText?_text {t : DateTime} (year : 0 ≤ t.year ∧ t.year ≤ 9999) :
    DateTime.ofText? t.text = some t.shown := by
  have days : t.day ≤ 99 := Nat.le_trans t.day_le (by decide)
  rw [DateTime.ofText?, t.trimmed_text, t.text_eq_append, List.append_assoc]
  simp only [DateTime.year?_yearText year.1 year.2, DateTime.field?_padded days,
    DateTime.field?_padded (show t.month ≤ 99 by have := t.month_bounds; omega),
    DateTime.field?_padded (show t.hour ≤ 99 by have := t.hour_bound; omega),
    DateTime.field?_padded (show t.minute ≤ 99 by have := t.minute_bound; omega),
    DateTime.field?_padded (show t.shownSecond ≤ 99 by have := t.shownSecond_le; omega),
    DateTime.mark?, if_true, Option.bind_eq_bind, Option.bind_some, List.isEmpty_nil, Bool.not_true,
    Bool.false_eq_true, if_false]
  exact t.ofShown_shown

/-- The sign of any other year makes it take in the month and the day, and then no month is left. -/
theorem DateTime.ofText?_text_eq_none {t : DateTime} (year : ¬(0 ≤ t.year ∧ t.year ≤ 9999)) :
    DateTime.ofText? t.text = none := by
  have digits : ∀ c ∈ Digits.padded 2 t.month ++ Digits.padded 2 t.day, c.isDigit = true := by
    intro c member
    rcases List.mem_append.mp member with month | day
    · exact Digits.isDigit_of_mem_padded month
    · exact Digits.isDigit_of_mem_padded day
  obtain ⟨n, read⟩ := DateTime.year?_signed year digits ('T' :: (Digits.padded 2 t.hour ++
    ':' :: (Digits.padded 2 t.minute ++ ':' :: (Digits.padded 2 t.shownSecond ++ [])))) (by simp)
  rw [DateTime.ofText?, t.trimmed_text, t.text_eq_append]
  simp only [read, Option.bind_eq_bind, Option.bind_some,
    DateTime.field?_mark (show isBlank 'T' = false by decide) (by decide), Option.bind_none]

/-- A text is read as a date/time that shows all of itself: without a fraction of its second, and with a leap second at
second 59 only. -/
theorem DateTime.shown_of_ofText? {cs : List Char} {t : DateTime} (read : DateTime.ofText? cs = some t) :
    t.shown = t := by
  simp only [DateTime.ofText?, Option.bind_eq_bind, Option.bind_eq_some_iff] at read
  obtain ⟨year, _, month, _, day, _, _, _, hour, _, _, _, minute, _, _, _, second, _, made⟩ := read
  split at made
  · cases made
  · exact (DateTime.ofShown_eq_some_iff.mp made).2.2.2.2.2.2

/-- Only a leap second at second 59 is shown as second 60. -/
theorem DateTime.shownSecond_eq_iff {t : DateTime} :
    t.shownSecond = 60 ↔ t.isLeapSecond = true ∧ t.second = 59 := by
  have bound := t.second_bound
  unfold DateTime.shownSecond
  by_cases leap : t.isLeapSecond = true
  · rw [if_pos leap, and_iff_right leap]
    omega
  · rw [if_neg leap]
    exact iff_of_false (by omega) fun both => leap both.1

theorem DateTime.suffix_text_iff {t : DateTime} :
    [':', '6', '0'] <:+ t.text ↔ t.isLeapSecond = true ∧ t.second = 59 := by
  have sixty : Digits.padded 2 60 = ['6', '0'] := by decide
  have shown : Digits.padded 2 t.shownSecond = Digits.padded 2 60 ↔ t.shownSecond = 60 := Digits.padded_inj
  have length : (Digits.padded 2 t.shownSecond).length = 2 :=
    Digits.length_padded (by decide) (Nat.lt_of_le_of_lt t.shownSecond_le (by decide))
  obtain ⟨front, form⟩ : (':' :: Digits.padded 2 t.shownSecond) <:+ t.text := List.suffix_append _ _
  rw [← form, ← DateTime.shownSecond_eq_iff, ← shown, sixty]
  constructor
  · rintro ⟨other, same⟩
    have ends := (List.append_inj' same (by simp [length])).2
    exact (List.cons.inj ends).2.symm
  · intro same
    rw [same]
    exact List.suffix_append _ _

/-- A date/time has the text of what it shows. -/
theorem DateTime.text_shown (t : DateTime) : t.shown.text = t.text := by
  rw [t.shown.text_eq_append, t.text_eq_append, t.shownSecond_shown]
  unfold DateTime.shown
  split <;> rfl

/-- The text of a date/time of the years 0 to 9999 is read, with any blanks around it, as what it shows, so that no two
that show different things have the same text. What is written for any other year cannot be read. Where a leap second
stands at second 59, all but the fraction of the second is shown, and a leap second, and nothing else, is written as
second 60. -/
theorem DateTime.text_exact_within_years {t : DateTime} {front back : List Char}
    (blankFront : ∀ c ∈ front, isBlank c = true) (blankBack : ∀ c ∈ back, isBlank c = true) :
    (0 ≤ t.year ∧ t.year ≤ 9999 →
      t.text.length = 17 ∧ DateTime.ofText? (front ++ (t.text ++ back)) = some t.shown ∧
      (t.LeapAt59 → DateTime.ofText? (front ++ (t.text ++ back)) = some t.wholeSecond) ∧
      ∀ u : DateTime, 0 ≤ u.year ∧ u.year ≤ 9999 → (u.text = t.text ↔ u.shown = t.shown) ∧
        (t.LeapAt59 → u.LeapAt59 → (u.text = t.text ↔ u.wholeSecond = t.wholeSecond))) ∧
    (t.year < 0 ∨ 9999 < t.year → DateTime.ofText? (front ++ (t.text ++ back)) = none) ∧
    ([':', '6', '0'] <:+ t.text ↔ t.isLeapSecond = true ∧ t.second = 59) := by
  have padding : DateTime.ofText? (front ++ (t.text ++ back)) = DateTime.ofText? t.text := by
    rw [DateTime.ofText?, DateTime.ofText?, trimmed_padded blankFront blankBack]
  rw [padding]
  refine ⟨fun year => ⟨DateTime.length_text year, DateTime.ofText?_text year, fun placed => ?_, fun u inYears => ?_⟩,
    fun outside => DateTime.ofText?_text_eq_none (by omega), DateTime.suffix_text_iff⟩
  · rw [DateTime.ofText?_text year, placed.shown]
  · have told : u.text = t.text ↔ u.shown = t.shown := by
      constructor
      · intro same
        have read := DateTime.ofText?_text inYears
        rw [same, DateTime.ofText?_text year] at read
        exact (Option.some.inj read).symm
      · intro same
        rw [← u.text_shown, same, t.text_shown]
    exact ⟨told, fun placed placed' => by rw [told, placed.shown, placed'.shown]⟩

/-- The leap second of 1998. -/
def DateTime.leapSecond : DateTime :=
  ⟨1998, 12, 31, 23, 59, 59, 1000000000, by decide, by decide, by decide, by decide, by decide, by decide, by decide⟩

/-- A leap second in the middle of a minute. -/
def DateTime.leapInMinute : DateTime :=
  ⟨2000, 1, 1, 0, 0, 30, 1000000000, by decide, by decide, by decide, by decide, by decide, by decide,
    DateTime.leapSecond.nanosecond_bound⟩

/-- Half a second into a leap second, the first second of a year of five digits, and a leap second that is read as the
second behind it. -/
theorem DateTime.text_exact_within_years_leap :
    ∃ t u, DateTime.of? 1998 12 31 23 59 59 1500000000 = some t ∧ DateTime.of? 10000 1 1 0 0 0 0 = some u ∧
      (∀ c ∈ ['\n'], isBlank c = true) ∧ (∀ c ∈ [' ', '\t'], isBlank c = true) ∧
      (0 ≤ t.year ∧ t.year ≤ 9999) ∧ t.LeapAt59 ∧ t.text.length = 17 ∧
      DateTime.ofText? (['\n'] ++ (t.text ++ [' ', '\t'])) = some t.wholeSecond ∧
      t.wholeSecond.text = t.text ∧ [':', '6', '0'] <:+ t.text ∧
      9999 < u.year ∧ DateTime.ofText? (['\n'] ++ (u.text ++ [' ', '\t'])) = none ∧
      DateTime.of? 2000 1 1 0 0 31 0 =
        DateTime.ofText? (['\n'] ++ (DateTime.leapInMinute.text ++ [' ', '\t'])) := by
  have front : ∀ c ∈ ['\n'], isBlank c = true := List.forall_mem_singleton.mpr rfl
  have back : ∀ c ∈ [' ', '\t'], isBlank c = true := List.forall_mem_cons.mpr ⟨rfl, List.forall_mem_singleton.mpr rfl⟩
  obtain ⟨t, leapSecond⟩ : ∃ t, DateTime.of? 1998 12 31 23 59 59 1500000000 = some t := ⟨_, rfl⟩
  obtain ⟨u, fiveDigits⟩ : ∃ u, DateTime.of? 10000 1 1 0 0 0 0 = some u := ⟨_, rfl⟩
  obtain ⟨year, -, -, -, -, second, nanosecond, placed⟩ := DateTime.of?_eq_some_iff.mp leapSecond
  have inYears : 0 ≤ t.year ∧ t.year ≤ 9999 := by omega
  have outside : 9999 < u.year := by
    rw [(DateTime.of?_eq_some_iff.mp fiveDigits).1]
    decide
  have leap : t.isLeapSecond = true := by
    rw [DateTime.isLeapSecond, nanosecond]
    rfl
  have whole : t.wholeSecond.shown = t.shown := by rw [← placed.shown, t.shown_shown]
  obtain ⟨written, -, ends⟩ := DateTime.text_exact_within_years (t := t) front back
  obtain ⟨-, unread, -⟩ := DateTime.text_exact_within_years (t := u) front back
  obtain ⟨length, -, read, sameText⟩ := written inYears
  obtain ⟨-, behind, -⟩ := (DateTime.text_exact_within_years (t := DateTime.leapInMinute) front back).1 (by decide)
  exact ⟨t, u, leapSecond, fiveDigits, front, back, inYears, placed, length, read placed,
    (sameText t.wholeSecond inYears).1.mpr whole, ends.mpr ⟨leap, second⟩, outside, unread (Or.inr outside),
    behind.symm⟩

end RemoteCall
