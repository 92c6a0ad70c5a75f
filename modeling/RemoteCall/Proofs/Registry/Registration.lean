import RemoteCall.Proofs.Registry.History

namespace RemoteCall

variable {σ : Type}

/-- How a name has come by its method in a run from a new registry: the method as it was registered, and the operations
since then, none of which has removed it. -/
inductive Registry.Registered (name : String) :
    List (Registry.Operation σ) → Method σ → List (Registry.Operation σ) → Prop
  | initial {first : Method σ} {ops : List (Registry.Operation σ)} :
      (Registry.new σ).method? name = some first → (∀ op ∈ ops, name ∉ op.removals) → Registered name ops first ops
  | added {before after : List (Registry.Operation σ)} {op : Registry.Operation σ} {first : Method σ} :
      Members.find? name (((Registry.new σ).performAll before).gained op) = some first →
      (∀ later ∈ after, name ∉ later.removals) → Registered name (before ++ op :: after) first after

theorem Registry.performAll_append (r : Registry σ) (before after : List (Registry.Operation σ)) :
    r.performAll (before ++ after) = (r.performAll before).performAll after := by
  induction before generalizing r with
  | nil => rfl
  | cons op rest ih => exact ih (r.perform op).1

theorem Registry.Registered.snoc {name : String} {ops since : List (Registry.Operation σ)} {first : Method σ}
    {op : Registry.Operation σ} (registered : Registry.Registered name ops first since)
    (kept : name ∉ op.removals) : Registry.Registered name (ops ++ [op]) first (since ++ [op]) := by
  have longer {done : List (Registry.Operation σ)} (untouched : ∀ later ∈ done, name ∉ later.removals) :
      ∀ later ∈ done ++ [op], name ∉ later.removals :=
    List.forall_mem_append.mpr ⟨untouched, List.forall_mem_singleton.mpr kept⟩
  cases registered with
  | initial there untouched => exact .initial there (longer untouched)
  | added there untouched =>
    rw [List.append_assoc, List.cons_append]
    exact .added there (longer untouched)

/-- Run: a method that is not removed is revised by every operation on it. -/
theorem Registry.method?_performAll {r : Registry σ} (ordered : Members.Ordered r.methods) {name : String}
    {m : Method σ} (found : r.method? name = some m) {ops : List (Registry.Operation σ)}
    (kept : ∀ op ∈ ops, name ∉ op.removals) : (r.performAll ops).method? name = some (m.after name ops) := by
  induction ops generalizing r m with
  | nil => exact found
  | cons op rest ih =>
    obtain ⟨here, later⟩ := List.forall_mem_cons.mp kept
    have next : (r.perform op).1.method? name = some (op.revise name m) := by
      rw [Registry.method?_perform ordered, if_neg here, found]
      rfl
    exact ih (Registry.ordered_perform ordered op) next later

/-- What a run has registered under a name is there at its end. -/
theorem Registry.Registered.method? {name : String} {ops since : List (Registry.Operation σ)} {first : Method σ}
    (registered : Registry.Registered name ops first since) :
    ((Registry.new σ).performAll ops).method? name = some (first.after name since) := by
  cases registered with
  | initial there kept => exact Registry.method?_performAll Registry.ordered_new there kept
  | @added before after op first there kept =>
    have ordered := Registry.ordered_performAll (Registry.ordered_new (σ := σ)) before
    have next : (((Registry.new σ).performAll before).perform op).1.method? name = some first := by
      rw [Registry.method?_perform ordered, there]
      cases found : ((Registry.new σ).performAll before).method? name with
      | none => simp only [ite_self, Option.map_none, Option.none_or]
      | some m =>
        rw [Registry.find?_gained_of_found found] at there
        cases there
    rw [Registry.performAll_append]
    exact Registry.method?_performAll (Registry.ordered_perform ordered op) next kept

/-- What there is at the end of a run, the run has registered. -/
theorem Registry.exists_registered {name : String} {ops : List (Registry.Operation σ)} {m : Method σ}
    (found : ((Registry.new σ).performAll ops).method? name = some m) :
    ∃ first since, Registry.Registered name ops first since ∧ m = first.after name since := by
  -- the last operation has added the method, or has found it there and revised it
  induction ops using List.reverseRecOn generalizing m with
  | nil => exact ⟨m, [], .initial found nofun, rfl⟩
  | append_singleton before op ih =>
    have ordered := Registry.ordered_performAll (Registry.ordered_new (σ := σ)) before
    rw [Registry.performAll_append] at found
    change (((Registry.new σ).performAll before).perform op).1.method? name = some m at found
    rw [Registry.method?_perform ordered, Option.or_eq_some_iff, Option.map_eq_some_iff] at found
    obtain ⟨old, there, rfl⟩ | ⟨-, new⟩ := found
    · obtain ⟨kept, there⟩ := Option.ite_none_left_eq_some.mp there
      obtain ⟨first, since, registered, rfl⟩ := ih there
      exact ⟨first, since ++ [op], registered.snoc kept, by rw [Method.after, Method.after, List.foldl_concat]⟩
    · exact ⟨m, [], .added new nofun, rfl⟩

/-- A name stands for what has been registered under it, as it has been revised since. -/
theorem Registry.method?_eq_some_iff {name : String} {ops : List (Registry.Operation σ)} {m : Method σ} :
    ((Registry.new σ).performAll ops).method? name = some m ↔
      ∃ first since, Registry.Registered name ops first since ∧ m = first.after name since := by
  constructor
  · exact Registry.exists_registered
  · rintro ⟨first, since, registered, rfl⟩
    exact registered.method?

end RemoteCall
