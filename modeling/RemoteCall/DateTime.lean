namespace RemoteCall

def DateTime.isLeapYear (year : Int) : Bool :=
  year % 4 == 0 && (year % 100 != 0 || year % 400 == 0)

/-- The length of a month in the Gregorian calendar, which is continued to all years. -/
def DateTime.daysIn (year : Int) (month : Nat) : Nat :=
  match month with
  | 2 => if DateTime.isLeapYear year then 29 else 28
  | 4 | 6 | 9 | 11 => 30
  | _ => 31

/-- A calendar date and a time of day. A leap second is one more second among the nanoseconds, and it may
stand behind any second of any minute. -/
structure DateTime where
  year : Int
  month : Nat
  day : Nat
  hour : Nat
  minute : Nat
  second : Nat
  nanosecond : Nat
  year_bounds : -262143 ≤ year ∧ year ≤ 262142
  month_bounds : 1 ≤ month ∧ month ≤ 12
  day_bounds : 1 ≤ day ∧ day ≤ DateTime.daysIn year month
  hour_bound : hour ≤ 23
  minute_bound : minute ≤ 59
  second_bound : second ≤ 59
  nanosecond_bound : nanosecond < 2000000000
  deriving DecidableEq

def DateTime.isLeapSecond (t : DateTime) : Bool :=
  1000000000 ≤ t.nanosecond

/-- If it is a leap second, it stands where calendars have one, at second 59. -/
def DateTime.LeapAt59 (t : DateTime) : Prop :=
  t.isLeapSecond = true → t.second = 59

instance : DecidablePred DateTime.LeapAt59 := fun t =>
  inferInstanceAs (Decidable (t.isLeapSecond = true → t.second = 59))

/-- The date/time of these numbers, if they are those of one. A leap second is taken at second 59 alone. -/
def DateTime.of? (year : Int) (month day hour minute second nanosecond : Nat) : Option DateTime :=
  if h : (-262143 ≤ year ∧ year ≤ 262142) ∧ (1 ≤ month ∧ month ≤ 12) ∧
      (1 ≤ day ∧ day ≤ DateTime.daysIn year month) ∧ hour ≤ 23 ∧ minute ≤ 59 ∧ second ≤ 59 ∧
      nanosecond < 2000000000 ∧ (1000000000 ≤ nanosecond → second = 59) then
    some ⟨year, month, day, hour, minute, second, nanosecond,
      h.1, h.2.1, h.2.2.1, h.2.2.2.1, h.2.2.2.2.1, h.2.2.2.2.2.1, h.2.2.2.2.2.2.1⟩
  else none

end RemoteCall
