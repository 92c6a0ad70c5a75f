namespace RemoteCall

variable {α β γ ε : Type} {f : α → Except ε β} {e : ε} {x : α} {xs ys : List α} {bs : List β}

theorem Except.exists_of_bind {x : Except ε α} {b : β} (done : x.bind f = .ok b) : ∃ a, x = .ok a ∧ f a = .ok b := by
  cases x with
  | error problem => cases done
  | ok a => exact ⟨a, rfl, done⟩

theorem Except.exists_of_map {x : Except ε α} {g : α → β} {b : β} (done : g <$> x = .ok b) :
    ∃ a, x = .ok a ∧ g a = b := by
  cases x with
  | error problem => cases done
  | ok a => exact ⟨a, rfl, Except.ok.inj done⟩

theorem Except.mapM_cons_eq_ok (done : (x :: xs).mapM f = .ok bs) :
    ∃ b rest, f x = .ok b ∧ xs.mapM f = .ok rest ∧ bs = b :: rest := by
  rw [List.mapM_cons] at done
  obtain ⟨b, first, more⟩ := Except.exists_of_bind done
  obtain ⟨rest, others, same⟩ := Except.exists_of_bind more
  exact ⟨b, rest, first, others, (Except.ok.inj same).symm⟩

theorem Except.exists_of_mapM (done : xs.mapM f = .ok bs) (member : x ∈ xs) : ∃ b, f x = .ok b := by
  induction xs generalizing bs with
  | nil => cases member
  | cons first rest ih =>
    obtain ⟨b, more, here, others, _⟩ := Except.mapM_cons_eq_ok done
    rcases List.mem_cons.mp member with rfl | later
    · exact ⟨b, here⟩
    · exact ih others later

theorem Except.mem_of_mapM {b : β} (done : xs.mapM f = .ok bs) (member : b ∈ bs) : ∃ x ∈ xs, f x = .ok b := by
  induction xs generalizing bs with
  | nil =>
    cases done
    cases member
  | cons first rest ih =>
    obtain ⟨c, more, here, others, rfl⟩ := Except.mapM_cons_eq_ok done
    rcases List.mem_cons.mp member with rfl | later
    · exact ⟨first, List.mem_cons_self .., here⟩
    · obtain ⟨x, inside, same⟩ := ih others later
      exact ⟨x, List.mem_cons_of_mem _ inside, same⟩

theorem Option.mem_of_mapM {f : α → Option β} {b : β} (done : xs.mapM f = some bs) (member : b ∈ bs) :
    ∃ x ∈ xs, f x = some b := by
  induction xs generalizing bs with
  | nil =>
    cases done
    cases member
  | cons first rest ih =>
    rw [List.mapM_cons] at done
    obtain ⟨c, here, done⟩ := Option.bind_eq_some_iff.mp done
    obtain ⟨more, others, same⟩ := Option.bind_eq_some_iff.mp done
    cases same
    rcases List.mem_cons.mp member with rfl | later
    · exact ⟨first, List.mem_cons_self .., here⟩
    · obtain ⟨x, inside, same⟩ := ih others later
      exact ⟨x, List.mem_cons_of_mem _ inside, same⟩

/-- What a step keeps of each entry, all steps together keep of the list. -/
theorem Except.map_of_mapM {g : β → γ} {h : α → γ} (kept : ∀ x b, f x = .ok b → g b = h x)
    (done : xs.mapM f = .ok bs) : bs.map g = xs.map h := by
  induction xs generalizing bs with
  | nil =>
    cases done
    rfl
  | cons x rest ih =>
    obtain ⟨b, more, here, others, rfl⟩ := Except.mapM_cons_eq_ok done
    rw [List.map_cons, List.map_cons, kept x b here, ih others]

theorem Except.mapM_cons_ok {b : β} (here : f x = .ok b) (others : xs.mapM f = .ok bs) :
    (x :: xs).mapM f = .ok (b :: bs) := by
  rw [List.mapM_cons, here, others]
  rfl

/-- If all steps succeed, the order of a list is the order of the results. -/
theorem Except.exists_mapM_of_perm (perm : xs.Perm ys) (done : xs.mapM f = .ok bs) :
    ∃ cs, ys.mapM f = .ok cs ∧ bs.Perm cs := by
  induction perm generalizing bs with
  | nil => exact ⟨bs, done, List.Perm.refl bs⟩
  | cons x perm ih =>
    obtain ⟨b, rest, here, others, rfl⟩ := Except.mapM_cons_eq_ok done
    obtain ⟨cs, done', inner⟩ := ih others
    exact ⟨b :: cs, Except.mapM_cons_ok here done', inner.cons b⟩
  | swap x y rest =>
    obtain ⟨b, _, first, tail, rfl⟩ := Except.mapM_cons_eq_ok done
    obtain ⟨c, cs, second, others, rfl⟩ := Except.mapM_cons_eq_ok tail
    exact ⟨c :: b :: cs, Except.mapM_cons_ok second (Except.mapM_cons_ok first others), .swap c b cs⟩
  | trans _ _ first second =>
    obtain ⟨cs, middle, inner⟩ := first done
    obtain ⟨ds, done', outer⟩ := second middle
    exact ⟨ds, done', inner.trans outer⟩

/-- Nothing but this error can come of a step. -/
def Except.FailsOnlyWith (e : ε) (x : Except ε α) : Prop :=
  (∃ a, x = .ok a) ∨ x = .error e

theorem Except.FailsOnlyWith.bind {x : Except ε α} (single : Except.FailsOnlyWith e x)
    (next : ∀ a, Except.FailsOnlyWith e (f a)) : Except.FailsOnlyWith e (x >>= f) := by
  rcases single with ⟨a, rfl⟩ | rfl
  · exact next a
  · exact Or.inr rfl

theorem Except.FailsOnlyWith.map {x : Except ε α} (single : Except.FailsOnlyWith e x) (g : α → β) :
    Except.FailsOnlyWith e (g <$> x) := by
  rcases single with ⟨a, rfl⟩ | rfl
  · exact Or.inl ⟨g a, rfl⟩
  · exact Or.inr rfl

theorem Except.FailsOnlyWith.mapM (single : ∀ x ∈ xs, Except.FailsOnlyWith e (f x)) :
    Except.FailsOnlyWith e (xs.mapM f) := by
  induction xs with
  | nil => exact Or.inl ⟨[], rfl⟩
  | cons x rest ih =>
    obtain ⟨here, later⟩ := List.forall_mem_cons.mp single
    rw [List.mapM_cons]
    exact here.bind fun b => (ih later).bind fun bs => Or.inl ⟨b :: bs, rfl⟩

/-- If there is but one error, the order of a list matters to nothing else than the order of the results. -/
theorem Except.mapM_perm (perm : xs.Perm ys) (single : ∀ x ∈ xs, Except.FailsOnlyWith e (f x)) :
    (xs.mapM f = .error e ∧ ys.mapM f = .error e) ∨
      ∃ bs cs, xs.mapM f = .ok bs ∧ ys.mapM f = .ok cs ∧ bs.Perm cs := by
  have single' : ∀ y ∈ ys, Except.FailsOnlyWith e (f y) := fun y member => single y (perm.mem_iff.mpr member)
  rcases Except.FailsOnlyWith.mapM single with ⟨bs, done⟩ | failed
  · obtain ⟨cs, done', inner⟩ := Except.exists_mapM_of_perm perm done
    exact Or.inr ⟨bs, cs, done, done', inner⟩
  · rcases Except.FailsOnlyWith.mapM single' with ⟨cs, done⟩ | failed'
    · obtain ⟨bs, done', _⟩ := Except.exists_mapM_of_perm perm.symm done
      cases failed.symm.trans done'
    · exact Or.inl ⟨failed, failed'⟩

end RemoteCall
