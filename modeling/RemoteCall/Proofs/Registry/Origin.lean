import RemoteCall.Proofs.Registry.History

namespace RemoteCall

variable {σ : Type}

/-- Where the entries come from behind an operation: those that it adds come from it, and those that it removes come
from nowhere. -/
def Registry.originNext (r : Registry σ) (number : Nat) (op : Registry.Operation σ) (origin : String → Option Nat) :
    String → Option Nat := fun name =>
  if name ∈ Members.names (r.gained op) then some number
  else if name ∈ op.removals then none
  else origin name

/-- The same behind one operation after the other, which are numbered. -/
def Registry.originFrom (r : Registry σ) (number : Nat) (origin : String → Option Nat) :
    List (Registry.Operation σ) → String → Option Nat
  | [] => origin
  | op :: rest => (r.perform op).1.originFrom (number + 1) (r.originNext number op origin) rest

/-- The operation that the entry under a name comes from, by its number in a run from a new registry. Operations are
counted from 1, and what a new registry has comes from 0. -/
def Registry.origin (ops : List (Registry.Operation σ)) : String → Option Nat :=
  (Registry.new σ).originFrom 1 (fun name => if (Registry.new σ).has name then some 0 else none) ops

/-- Entries come from earlier operations, and every entry comes from one. -/
structure Registry.Traced (r : Registry σ) (number : Nat) (origin : String → Option Nat) : Prop where
  ordered : Members.Ordered r.methods
  present : ∀ name, (origin name).isSome = r.has name
  earlier : ∀ name n, origin name = some n → n < number

theorem Registry.has_perform {r : Registry σ} (ordered : Members.Ordered r.methods) (op : Registry.Operation σ)
    (name : String) :
    (r.perform op).1.has name = true ↔
      name ∈ Members.names (r.gained op) ∨ name ∉ op.removals ∧ r.has name = true := by
  have added : (Members.find? name (r.gained op)).isSome = true ↔ name ∈ Members.names (r.gained op) := by
    rw [Members.mem_names_iff, Option.isSome_iff_exists]
  rw [Registry.has, Registry.method?_perform ordered, Option.isSome_or, Option.isSome_map, Bool.or_eq_true, added,
    Registry.has]
  by_cases freed : name ∈ op.removals
  · simp [freed]
  · simp [freed, or_comm]

/-- What an operation adds was not there. -/
theorem Registry.has_of_mem_gained {r : Registry σ} {op : Registry.Operation σ} {name : String}
    (added : name ∈ Members.names (r.gained op)) : r.has name = false := by
  obtain ⟨entry, member, rfl⟩ := List.mem_map.mp added
  simpa using List.mem_takeWhile_imp member

/-- Step: entries stay traced. -/
theorem Registry.Traced.perform {r : Registry σ} {number : Nat} {origin : String → Option Nat}
    (traced : r.Traced number origin) (op : Registry.Operation σ) :
    (r.perform op).1.Traced (number + 1) (r.originNext number op origin) where
  ordered := Registry.ordered_perform traced.ordered op
  present name := by
    have there := Registry.has_perform traced.ordered op name
    rw [Bool.eq_iff_iff, there, ← traced.present, Registry.originNext]
    by_cases added : name ∈ Members.names (r.gained op)
    · simp [added]
    · by_cases freed : name ∈ op.removals
      · simp [added, freed]
      · simp [added, freed]
  earlier name n known := by
    rw [Registry.originNext] at known
    split at known
    · cases known
      omega
    · split at known
      · cases known
      · have before := traced.earlier name n known
        omega

/-- An operation that has not put an entry there when it was its turn does not do so later. -/
theorem Registry.originFrom_ne {r : Registry σ} {number n : Nat} {origin : String → Option Nat} {name : String}
    (past : n < number) (other : origin name ≠ some n) (ops : List (Registry.Operation σ)) :
    r.originFrom number origin ops name ≠ some n := by
  induction ops generalizing r number origin with
  | nil => exact other
  | cons op rest ih =>
    refine ih (by omega) ?_
    rw [Registry.originNext]
    split
    · intro same
      cases same
      omega
    · split
      · nofun
      · exact other

/-- Run: an entry stays the one that an operation has put there until its name is removed, and never is again. -/
theorem Registry.originFrom_eq_iff {r : Registry σ} {number n : Nat} {origin : String → Option Nat} {name : String}
    (traced : r.Traced number origin) (here : origin name = some n) (ops : List (Registry.Operation σ)) :
    r.originFrom number origin ops name = some n ↔ ∀ op ∈ ops, name ∉ op.removals := by
  induction ops generalizing r number origin with
  | nil => exact iff_of_true here nofun
  | cons op rest ih =>
    have past := traced.earlier name n here
    have there : r.has name = true := by rw [← traced.present, here, Option.isSome_some]
    have old : name ∉ Members.names (r.gained op) := by
      intro added
      rw [Registry.has_of_mem_gained added] at there
      cases there
    rw [Registry.originFrom, List.forall_mem_cons]
    by_cases freed : name ∈ op.removals
    · have gone : r.originNext number op origin name = none := by rw [Registry.originNext, if_neg old, if_pos freed]
      have never : (r.perform op).1.originFrom (number + 1) (r.originNext number op origin) rest name ≠ some n :=
        Registry.originFrom_ne (by omega) (by rw [gone]; nofun) rest
      exact iff_of_false never fun kept => kept.1 freed
    · have kept : r.originNext number op origin name = some n := by
        rw [Registry.originNext, if_neg old, if_neg freed, here]
      rw [ih (traced.perform op) kept]
      exact (and_iff_right freed).symm

theorem Registry.traced_new :
    (Registry.new σ).Traced 1 fun name => if (Registry.new σ).has name then some 0 else none where
  ordered := Registry.ordered_new
  present name := by split <;> simp_all
  earlier name n known := by
    split at known
    · cases known
      exact Nat.one_pos
    · cases known

/-- A run in two parts. -/
theorem Registry.originFrom_append (r : Registry σ) (number : Nat) (origin : String → Option Nat)
    (before after : List (Registry.Operation σ)) :
    r.originFrom number origin (before ++ after) =
      (r.performAll before).originFrom (number + before.length) (r.originFrom number origin before) after := by
  induction before generalizing r number origin with
  | nil => rfl
  | cons op rest ih =>
    rw [List.cons_append, Registry.originFrom, ih, Registry.performAll, Registry.originFrom, List.length_cons,
      Nat.add_assoc, Nat.add_comm 1]

theorem Registry.Traced.performAll {r : Registry σ} {number : Nat} {origin : String → Option Nat}
    (traced : r.Traced number origin) (ops : List (Registry.Operation σ)) :
    (r.performAll ops).Traced (number + ops.length) (r.originFrom number origin ops) := by
  induction ops generalizing r number origin with
  | nil => exact traced
  | cons op rest ih =>
    have later := ih (traced.perform op)
    rw [List.length_cons, Nat.add_comm rest.length, ← Nat.add_assoc]
    exact later

theorem Registry.traced_origin (ops : List (Registry.Operation σ)) :
    ((Registry.new σ).performAll ops).Traced (1 + ops.length) (Registry.origin ops) :=
  Registry.traced_new.performAll ops

/-- An entry comes from an operation exactly if this has added it and no later one has removed its name. -/
theorem Registry.origin_eq_iff {before after : List (Registry.Operation σ)} {op : Registry.Operation σ}
    {name : String} :
    Registry.origin (before ++ op :: after) name = some (1 + before.length) ↔
      name ∈ Members.names (((Registry.new σ).performAll before).gained op) ∧
        ∀ later ∈ after, name ∉ later.removals := by
  have traced := Registry.traced_origin before
  rw [Registry.origin, Registry.originFrom_append, Registry.originFrom]
  change Registry.originFrom _ _ (Registry.originNext _ _ op (Registry.origin before)) after name = _ ↔ _
  by_cases added : name ∈ Members.names (((Registry.new σ).performAll before).gained op)
  · have here : Registry.originNext ((Registry.new σ).performAll before) (1 + before.length) op
        (Registry.origin before) name = some (1 + before.length) := if_pos added
    rw [Registry.originFrom_eq_iff (traced.perform op) here]
    exact (and_iff_right added).symm
  · have other : Registry.originNext ((Registry.new σ).performAll before) (1 + before.length) op
        (Registry.origin before) name ≠ some (1 + before.length) := by
      rw [Registry.originNext, if_neg added]
      split
      · nofun
      · intro same
        exact Nat.lt_irrefl _ (traced.earlier name _ same)
    exact iff_of_false (Registry.originFrom_ne (Nat.lt_succ_self _) other after) fun both => added both.1

theorem Registry.install_eq_ok {r : Registry σ} {introspection : Bool} {i : Installation}
    (installed : (r.install introspection).2 = .ok i) : i = ⟨r.tables.length, introspection⟩ := by
  unfold Registry.install at installed
  simp only at installed
  split at installed
  · cases installed
  · split at installed
    · split at installed
      · exact (Except.ok.inj installed).symm
      · cases installed
    · exact (Except.ok.inj installed).symm

theorem Registry.install_of_perform {r : Registry σ} {introspection : Bool} {i : Installation}
    (installed : (r.perform (.install introspection)).2 = .ok (some i)) : (r.install introspection).2 = .ok i := by
  cases outcome : (r.install introspection).2 with
  | error problem =>
    rw [Registry.perform, outcome] at installed
    cases installed
  | ok j =>
    rw [Registry.perform, outcome] at installed
    cases installed
    rfl

/-- An installation that succeeds has added all methods of its handle. -/
theorem Registry.gained_of_installed {r : Registry σ} {introspection : Bool} {i : Installation}
    (installed : (r.perform (.install introspection)).2 = .ok (some i)) :
    r.gained (.install introspection) = i.methods := by
  have own := Registry.install_eq_ok (Registry.install_of_perform installed)
  have registers : (Registry.Operation.install introspection : Registry.Operation σ).Registers := trivial
  have extended := Registry.extends_perform registers r
  rw [installed] at extended
  cases extended with
  | whole free =>
    rw [Registry.gained_whole free, own]
    rfl

/-- The entry is there before the handle is used to uninstall, and not any more behind that. -/
def Registry.Uninstalls (r : Registry σ) (i : Installation) (name : String) : Prop :=
  r.has name = true ∧ (r.perform (.uninstall i)).1.has name = false

theorem Registry.method?_uninstall {r : Registry σ} (ordered : Members.Ordered r.methods) (i : Installation)
    (name : String) :
    (r.perform (.uninstall i)).1.method? name =
      if name ∈ Members.names (i.methods : List (String × Method σ)) then none else r.method? name :=
  (Registry.removeAll_spec ordered (Members.names (i.methods : List (String × Method σ)))).2 name

theorem Registry.uninstalls_iff {r : Registry σ} (ordered : Members.Ordered r.methods) {i : Installation}
    {name : String} :
    r.Uninstalls i name ↔ name ∈ Members.names (i.methods : List (String × Method σ)) ∧ r.has name = true := by
  have behind := Registry.method?_uninstall ordered i name
  rw [Registry.Uninstalls, Registry.has_eq_false_iff, behind]
  by_cases named : name ∈ Members.names (i.methods : List (String × Method σ))
  · simp [named]
  · simp only [named, if_false, false_and, iff_false, not_and]
    intro there missing
    rw [Registry.has_eq_false_iff.mpr missing] at there
    cases there

/-- Uninstalling sets the names of the installation free, and every entry under another name stays as it is: what runs,
the help, the signatures, and whether it is hidden. What the installation has put there and is still there is among
what goes. But so is what others have put under one of its names that had been removed, and only where there is no
such entry does nothing go but what came from the installation. -/
theorem Registry.uninstall_frees_names {before after : List (Registry.Operation σ)} {introspection : Bool}
    {i : Installation} {r : Registry σ}
    (installed : (((Registry.new σ).performAll before).perform (.install introspection)).2 = .ok (some i))
    (reached : (Registry.new σ).performAll (before ++ .install introspection :: after) = r) :
    (∀ name, (r.perform (.uninstall i)).1.method? name =
      if name ∈ Members.names (i.methods : List (String × Method σ)) then none else r.method? name) ∧
    (∀ name, Registry.origin (before ++ .install introspection :: after) name = some (1 + before.length) →
      r.Uninstalls i name) ∧
    ((∀ name, r.Uninstalls i name ↔
        Registry.origin (before ++ .install introspection :: after) name = some (1 + before.length)) ↔
      ∀ name ∈ Members.names (i.methods : List (String × Method σ)),
        (∃ op ∈ after, name ∈ op.removals) → r.method? name = none) := by
  have traced := Registry.traced_origin (before ++ .install introspection :: after)
  rw [reached] at traced
  have own (name : String) : Registry.origin (before ++ .install introspection :: after) name =
      some (1 + before.length) ↔ name ∈ Members.names (i.methods : List (String × Method σ)) ∧
        ∀ op ∈ after, name ∉ op.removals := by
    rw [Registry.origin_eq_iff, Registry.gained_of_installed installed]
  have there (name : String) (known : Registry.origin (before ++ .install introspection :: after) name =
      some (1 + before.length)) : r.has name = true := by
    rw [← traced.present, known, Option.isSome_some]
  refine ⟨Registry.method?_uninstall traced.ordered i, fun name known => ?_, ?_⟩
  · exact (Registry.uninstalls_iff traced.ordered).mpr ⟨((own name).mp known).1, there name known⟩
  · constructor
    · rintro exact name named ⟨op, member, freed⟩
      cases found : r.method? name with
      | none => rfl
      | some m =>
        have goes := (Registry.uninstalls_iff traced.ordered).mpr ⟨named, Registry.has_iff.mpr ⟨m, found⟩⟩
        exact absurd freed (((own name).mp ((exact name).mp goes)).2 op member)
    · intro free name
      rw [Registry.uninstalls_iff traced.ordered]
      refine ⟨fun ⟨named, present⟩ => (own name).mpr ⟨named, fun op member freed => ?_⟩,
        fun known => ⟨((own name).mp known).1, there name known⟩⟩
      obtain ⟨m, found⟩ := Registry.has_iff.mp present
      rw [free name named ⟨op, member, freed⟩] at found
      cases found

/-- Someone takes over the name of an installed method. -/
def Registry.Operation.takeover : List (Registry.Operation Nat) :=
  [.remove "system.getCapabilities", .add "system.getCapabilities" fun _ count => (.value .nil, count + 1)]

/-- The method that has taken over goes, though it comes from the third operation and not from the installation. -/
theorem Registry.uninstall_frees_names_takeover :
    ∃ r i, (Registry.new Nat).performAll (.install false :: Registry.Operation.takeover) = r ∧
      (((Registry.new Nat).performAll []).perform (.install false)).2 = .ok (some i) ∧
      Registry.origin (.install false :: Registry.Operation.takeover) "system.getCapabilities" = some 3 ∧
      (r.method? "system.getCapabilities").isSome = true ∧
      (r.perform (.uninstall i)).1.method? "system.getCapabilities" = none ∧
      (r.perform (.uninstall i)).1.method? Registry.multicallName = r.method? Registry.multicallName := by
  have installed : (((Registry.new Nat).performAll []).perform (.install false)).2 = .ok (some ⟨0, false⟩) := rfl
  have reached : (Registry.new Nat).performAll ([] ++ .install false :: Registry.Operation.takeover) = _ := rfl
  obtain ⟨removed, -, -⟩ := Registry.uninstall_frees_names installed reached
  exact ⟨_, _, reached, installed, rfl, rfl, removed "system.getCapabilities", removed Registry.multicallName⟩

end RemoteCall
