namespace RemoteCall

/-- The number with these digits in the given base, the least significant first. -/
def Digits.weigh (base : Nat) (digits : List Nat) : Nat :=
  digits.foldr (fun digit rest => digit + base * rest) 0

/-- Neighbours joined into one digit of the squared base, behind the digits joined before, of which
the latest is in front. -/
def Digits.join (base : Nat) (done : List Nat) : List Nat → List Nat
  | low :: high :: rest => Digits.join base ((low + base * high) :: done) rest
  | [last] => (last :: done).reverse
  | [] => done.reverse

theorem Digits.length_join (base : Nat) (done digits : List Nat) :
    (Digits.join base done digits).length = done.length + (digits.length + 1) / 2 := by
  fun_induction Digits.join base done digits with
  | case1 done low high rest ih => simp only [ih, List.length_cons]; omega
  | case2 => simp
  | case3 => simp

theorem Digits.weigh_append (base : Nat) (low high : List Nat) :
    Digits.weigh base (low ++ high) = Digits.weigh base low + Nat.pow base low.length * Digits.weigh base high := by
  induction low with
  | nil => simp [Digits.weigh]
  | cons digit low ih =>
    simp only [Digits.weigh, List.cons_append, List.foldr_cons, List.length_cons, Nat.pow_eq] at ih ⊢
    rw [ih, Nat.mul_add, Nat.pow_succ, Nat.mul_comm _ base, Nat.mul_assoc, Nat.add_assoc]

/-- Joining keeps the number. -/
theorem Digits.weigh_join (base : Nat) (done digits : List Nat) :
    Digits.weigh (base * base) (Digits.join base done digits) =
      Digits.weigh (base * base) done.reverse +
        Nat.pow (base * base) done.length * Digits.weigh base digits := by
  fun_induction Digits.join base done digits with
  | case1 done low high rest ih =>
    rw [ih, List.reverse_cons, Digits.weigh_append]
    simp only [Digits.weigh, List.foldr_cons, List.foldr_nil, List.length_reverse, List.length_cons,
      Nat.pow_eq, Nat.pow_succ, Nat.mul_add, Nat.mul_zero, Nat.add_zero, Nat.add_assoc,
      Nat.mul_assoc]
  | case2 done last =>
    rw [List.reverse_cons, Digits.weigh_append]
    simp only [Digits.weigh, List.foldr_cons, List.foldr_nil, List.length_reverse, Nat.mul_zero,
      Nat.add_zero]
  | case3 done => simp [Digits.weigh]

/-- The number with these digits, by joining them until one is left. Digits by the hundred thousand
are added up with few long multiplications. -/
def Digits.total (base : Nat) : List Nat → Nat
  | [] => 0
  | [digit] => digit
  | low :: high :: rest => Digits.total (base * base) (Digits.join base [] (low :: high :: rest))
termination_by digits => digits.length
decreasing_by rw [Digits.length_join]; simp; omega

theorem Digits.total_eq_weigh (base : Nat) (digits : List Nat) :
    Digits.total base digits = Digits.weigh base digits := by
  fun_induction Digits.total base digits with
  | case1 => rfl
  | case2 => simp [Digits.weigh]
  | case3 base low high rest ih => rw [ih, Digits.weigh_join]; simp [Digits.weigh]

/-- The number that decimal digits write. -/
def Digits.value (cs : List Char) : Nat :=
  Digits.total 10 (cs.reverse.map fun c => c.toNat - '0'.toNat)

theorem Digits.value_eq_ofDigitChars (cs : List Char) : Digits.value cs = Nat.ofDigitChars 10 cs 0 := by
  rw [Digits.value, Digits.total_eq_weigh, Digits.weigh, List.foldr_map, List.foldr_reverse,
    Nat.ofDigitChars_eq_foldl]
  simp only [Nat.add_comm]

end RemoteCall
