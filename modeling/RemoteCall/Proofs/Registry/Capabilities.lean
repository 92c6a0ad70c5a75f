import RemoteCall.Proofs.Registry.Origin
import RemoteCall.Proofs.Registry.Tables

namespace RemoteCall

variable {σ : Type}

/-- The names that an operation takes from a table. -/
def Registry.Operation.withdrawals (table : Nat) : Registry.Operation σ → List String
  | .removeCapability i name => if i.table = table then [name] else []
  | _ => []

/-- A capability that an installation has in its table behind operations on the registry that it has left: it has been
there from the start or has been added with success, and has not been removed since. -/
inductive Registry.Listed (r : Registry σ) (i : Installation) (name : String) (c : Capability) :
    List (Registry.Operation σ) → Prop
  | initial {after : List (Registry.Operation σ)} : (name, c) ∈ i.initial →
      (∀ op ∈ after, name ∉ op.withdrawals i.table) → Listed r i name c after
  | added {early late : List (Registry.Operation σ)} {j : Installation} : j.table = i.table →
      ((r.performAll early).perform (.addCapability j name c)).2 = .ok none →
      (∀ op ∈ late, name ∉ op.withdrawals i.table) → Listed r i name c (early ++ .addCapability j name c :: late)

theorem Registry.Listed.snoc {r : Registry σ} {i : Installation} {name : String} {c : Capability}
    {after : List (Registry.Operation σ)} {op : Registry.Operation σ} (listed : r.Listed i name c after)
    (kept : name ∉ op.withdrawals i.table) : r.Listed i name c (after ++ [op]) := by
  have longer {done : List (Registry.Operation σ)} (untouched : ∀ later ∈ done, name ∉ later.withdrawals i.table) :
      ∀ later ∈ done ++ [op], name ∉ later.withdrawals i.table :=
    List.forall_mem_append.mpr ⟨untouched, List.forall_mem_singleton.mpr kept⟩
  cases listed with
  | initial there untouched => exact .initial there (longer untouched)
  | added shared done untouched =>
    rw [List.append_assoc, List.cons_append]
    exact .added shared done (longer untouched)

/-- Step: what is not withdrawn stays. -/
theorem Registry.Operation.find?_edit_of_found {op : Registry.Operation σ} {table : Nat} {name : String}
    {c : Capability} {capabilities : List (String × Capability)} (ordered : Members.Ordered capabilities)
    (found : Members.find? name capabilities = some c) (kept : name ∉ op.withdrawals table) :
    Members.find? name (op.edit table capabilities) = some c := by
  cases op with
  | addCapability j other c' =>
    rw [Registry.Operation.edit]
    split
    · rename_i free
      have differ : other ≠ name := fun same => by rw [same, found] at free; cases free.2
      rw [Members.find?_insert, if_neg differ, found]
    · exact found
  | removeCapability j other =>
    rw [Registry.Operation.edit]
    split
    · rename_i here
      have differ : other ≠ name := fun same => kept (by simp [Registry.Operation.withdrawals, here, same])
      rw [Members.find?_erase ordered, if_neg differ, found]
    · exact found
  | add | assign | describe | remove | install | uninstall => exact found

/-- What is in a table behind an operation was there before and is not withdrawn, or is new. -/
theorem Registry.Operation.found_of_find?_edit {op : Registry.Operation σ} {table : Nat} {name : String}
    {c : Capability} {capabilities : List (String × Capability)} (ordered : Members.Ordered capabilities)
    (found : Members.find? name (op.edit table capabilities) = some c) :
    (Members.find? name capabilities = some c ∧ name ∉ op.withdrawals table) ∨
      ∃ j : Installation, j.table = table ∧ op = .addCapability j name c ∧ Members.find? name capabilities = none := by
  cases op with
  | addCapability j other c' =>
    rw [Registry.Operation.edit] at found
    split at found
    · rename_i free
      rw [Members.find?_insert] at found
      split at found
      · rename_i same
        subst same
        cases found
        exact Or.inr ⟨j, free.1, rfl, free.2⟩
      · exact Or.inl ⟨found, List.not_mem_nil⟩
    · exact Or.inl ⟨found, List.not_mem_nil⟩
  | removeCapability j other =>
    rw [Registry.Operation.edit] at found
    split at found
    · rename_i here
      rw [Members.find?_erase ordered] at found
      split at found
      · cases found
      · rename_i differ
        refine Or.inl ⟨found, fun withdrawn => ?_⟩
        rw [Registry.Operation.withdrawals, if_pos here, List.mem_singleton] at withdrawn
        exact differ withdrawn.symm
    · rename_i elsewhere
      refine Or.inl ⟨found, ?_⟩
      rw [Registry.Operation.withdrawals, if_neg elsewhere]
      exact List.not_mem_nil
  | add | assign | describe | remove | install | uninstall => exact Or.inl ⟨found, List.not_mem_nil⟩

/-- Run: what is not withdrawn stays, whatever else happens. -/
theorem Registry.Operation.find?_edits_of_found {table : Nat} {name : String} {c : Capability}
    {capabilities : List (String × Capability)} (ordered : Members.Ordered capabilities)
    (found : Members.find? name capabilities = some c) {ops : List (Registry.Operation σ)}
    (kept : ∀ op ∈ ops, name ∉ op.withdrawals table) :
    Members.find? name (Registry.Operation.edits table capabilities ops) = some c := by
  induction ops generalizing capabilities with
  | nil => exact found
  | cons op rest ih =>
    obtain ⟨here, later⟩ := List.forall_mem_cons.mp kept
    exact ih (ordered_edit ordered op) (find?_edit_of_found ordered found here) later

/-- Run: the table of an installation, reached through any handle of it. -/
theorem Registry.tables_of_fresh {r : Registry σ} {i j : Installation} (fresh : r.tables[i.table]? = some i.initial)
    (shared : j.table = i.table) (ops : List (Registry.Operation σ)) :
    (r.performAll ops).tables[j.table]? = some (Registry.Operation.edits i.table i.initial ops) := by
  rw [shared]
  exact Registry.tables_performAll fresh ops

/-- What an installation lists is in its table. -/
theorem Registry.Listed.find? {r : Registry σ} {i : Installation} {name : String} {c : Capability}
    {after : List (Registry.Operation σ)} (listed : r.Listed i name c after)
    (fresh : r.tables[i.table]? = some i.initial) :
    Members.find? name (Registry.Operation.edits i.table i.initial after) = some c := by
  cases listed with
  | initial there kept =>
    have found := i.ordered_initial.find?_eq_some_iff.mpr there
    exact Registry.Operation.find?_edits_of_found i.ordered_initial found kept
  | @added early late j shared done kept =>
    have there := Registry.tables_of_fresh fresh shared early
    -- success tells that the name was free, so that the new capability is the one that went in
    have free : Members.find? name (Registry.Operation.edits i.table i.initial early) = none := by
      cases found : Members.find? name (Registry.Operation.edits i.table i.initial early) with
      | none => rfl
      | some old =>
        rw [Registry.perform_addCapability_of_taken there found] at done
        cases done
    have new : Members.find? name (Registry.Operation.edit i.table (Registry.Operation.edits i.table i.initial early)
        (.addCapability j name c : Registry.Operation σ)) = some c := by
      rw [Registry.Operation.edit, if_pos ⟨shared, free⟩, Members.find?_insert, if_pos rfl]
    have ordered : Members.Ordered (Registry.Operation.edits i.table i.initial early) :=
      Registry.Operation.ordered_edits i.ordered_initial early
    rw [Registry.Operation.edits, List.foldl_append, List.foldl_cons]
    exact Registry.Operation.find?_edits_of_found (Registry.Operation.ordered_edit ordered _) new kept

/-- What is in the table of an installation, this lists. -/
theorem Registry.listed_of_find? {r : Registry σ} {i : Installation} {name : String} {c : Capability}
    {after : List (Registry.Operation σ)} (fresh : r.tables[i.table]? = some i.initial)
    (found : Members.find? name (Registry.Operation.edits i.table i.initial after) = some c) :
    r.Listed i name c after := by
  -- the last operation has put the capability in, or has left it there
  induction after using List.reverseRecOn generalizing c with
  | nil => exact .initial (Members.mem_of_find? found) nofun
  | append_singleton early op ih =>
    have ordered : Members.Ordered (Registry.Operation.edits i.table i.initial early) :=
      Registry.Operation.ordered_edits i.ordered_initial early
    rw [Registry.Operation.edits, List.foldl_append, List.foldl_cons, List.foldl_nil] at found
    obtain ⟨before, kept⟩ | ⟨j, shared, rfl, free⟩ := Registry.Operation.found_of_find?_edit ordered found
    · exact (ih before).snoc kept
    · refine .added shared ?_ nofun
      rw [Registry.perform_addCapability_of_free (Registry.tables_of_fresh fresh shared early) free]

theorem Registry.Operation.install_of_capabilities {op : Registry.Operation σ} {tables table : Nat} {name : String}
    {m : Method σ} (member : (name, m) ∈ op.methods tables) (reports : m.callable = .capabilities table) :
    (∃ introspection, op = .install introspection) ∧ table = tables := by
  cases op with
  | add other run =>
    cases List.mem_singleton.mp member
    cases reports
  | install introspection =>
    refine ⟨⟨introspection, rfl⟩, ?_⟩
    rw [Registry.Operation.methods, Installation.methods, List.mem_cons] at member
    obtain own | other := member
    · cases own
      cases reports
      rfl
    · split at other
      · simp only [Installation.introspectionMethods, List.mem_cons, List.not_mem_nil, or_false] at other
        obtain same | same | same := other <;> cases same <;> cases reports
      · cases other
  | assign | describe | remove | uninstall | addCapability | removeCapability => cases member

/-- The method of an installation that reports its capabilities is there until its name is removed, and never is
again, where no other method is put in its place. -/
theorem Registry.bound_iff {before after : List (Registry.Operation σ)} {introspection : Bool} {i : Installation}
    (installed : (((Registry.new σ).performAll before).perform (.install introspection)).2 = .ok (some i))
    (unassigned : ∀ op ∈ after, "system.getCapabilities" ∉ op.replaced) :
    (((Registry.new σ).performAll (before ++ .install introspection :: after)).method? "system.getCapabilities").map
        Method.callable = some (.capabilities i.table) ↔
      ∀ op ∈ after, "system.getCapabilities" ∉ op.removals := by
  have table := congrArg Installation.table (Registry.install_eq_ok (Registry.install_of_perform installed))
  have gained : Members.find? "system.getCapabilities"
      (((Registry.new σ).performAll before).gained (.install introspection)) =
        some (Installation.capabilitiesMethod i.table).2 := by
    rw [Registry.gained_of_installed installed]
    rfl
  constructor
  · intro bound
    obtain ⟨m, found, reports⟩ := Option.map_eq_some_iff.mp bound
    obtain ⟨first, since, registered, rfl⟩ := Registry.exists_registered found
    generalize run : before ++ .install introspection :: after = ops at registered
    cases registered with
    | initial there => cases there
    | @added before' since op first there kept =>
      have recent : ∀ later ∈ since, "system.getCapabilities" ∉ later.replaced := by
        obtain ⟨more, rfl, rest⟩ | ⟨more, rfl, rest⟩ := List.append_eq_append_iff.mp run
        · cases more with
          | nil =>
            cases rest
            exact unassigned
          | cons op' more =>
            cases rest
            exact fun later member => unassigned later (List.mem_append_right more (List.mem_cons_of_mem op member))
        · cases more with
          | nil =>
            cases rest
            exact unassigned
          | cons op' more =>
            -- the installation would have found the name taken
            cases rest
            have taken := (Registry.Registered.added there fun later member =>
              kept later (List.mem_append_left _ member)).method?
            rw [Registry.find?_gained_of_found taken] at gained
            cases gained
      rw [Method.callable_after recent] at reports
      -- what has added this callable has opened its table, and no two installations share one
      have member := (List.takeWhile_sublist _).mem (Members.mem_of_find? there)
      obtain ⟨⟨introspection', rfl⟩, same⟩ := Registry.Operation.install_of_capabilities member reports
      have here := Registry.install_unique run (table.symm.trans same)
      subst here
      cases List.append_cancel_left run
      exact kept
  · intro kept
    rw [(Registry.Registered.added gained kept).method?, Option.map_some, Method.callable_after unassigned]
    rfl

theorem Registry.perform_removeCapability_of_missing {r : Registry σ} {i : Installation} {name : String}
    {capabilities : List (String × Capability)} (there : r.tables[i.table]? = some capabilities)
    (missing : Members.find? name capabilities = none) : (r.perform (.removeCapability i name)).1 = r := by
  obtain ⟨bound, same⟩ := List.getElem?_eq_some_iff.mp there
  subst same
  simp only [Registry.perform, Registry.removeCapability, there, Members.erase_of_missing missing,
    List.set_getElem_self]

theorem Registry.perform_addCapability_eq_error_iff {r : Registry σ} {i : Installation} {name : String}
    {c : Capability} {capabilities : List (String × Capability)} (there : r.tables[i.table]? = some capabilities)
    (problem : RegistrationError) :
    (r.perform (.addCapability i name c)).2 = .error problem ↔
      problem = .capabilityTaken name ∧ ∃ old, Members.find? name capabilities = some old := by
  cases found : Members.find? name capabilities with
  | none =>
    rw [Registry.perform_addCapability_of_free there found]
    exact iff_of_false nofun fun ⟨_, _, taken⟩ => nomatch taken
  | some old =>
    rw [Registry.perform_addCapability_of_taken there found]
    constructor
    · intro same
      cases same
      exact ⟨rfl, old, rfl⟩
    · rintro ⟨rfl, -⟩
      rfl

/-- The table of an installation is there as soon as it has succeeded. -/
theorem Registry.tables_of_installed {r : Registry σ} {introspection : Bool} {i : Installation}
    (installed : (r.perform (.install introspection)).2 = .ok (some i)) :
    (r.perform (.install introspection)).1.tables[i.table]? = some i.initial := by
  have answer := Registry.install_of_perform installed
  obtain ⟨table, opened, full⟩ := r.tables_install introspection
  rw [Registry.perform, opened, full i answer, Registry.install_eq_ok answer, List.getElem?_concat_length]

/-- The method that an installation has left for its capabilities reports the table of the handle, whatever has been
done to the registry since. It is there until its name is removed, if no other method is put in its place. What it
reports is what the handle lists: the capabilities from the start, and those that have been added with success, if they
have not been removed since. Adding fails for a name that is listed and for nothing else, and then nothing changes;
neither does it where a name is removed that is not listed. All other operations leave the report as it is, those
through the handles of other installations among them, since these have other tables. -/
theorem Registry.capabilities_live {before after : List (Registry.Operation σ)} {introspection : Bool}
    {i : Installation} {start r : Registry σ}
    (installed : ((Registry.new σ).performAll before).perform (.install introspection) = (start, .ok (some i)))
    (reached : start.performAll after = r) :
    i.introspection = introspection ∧
    ((∀ op ∈ after, "system.getCapabilities" ∉ op.replaced) →
      ((r.method? "system.getCapabilities").map Method.callable = some (.capabilities i.table) ↔
        ∀ op ∈ after, "system.getCapabilities" ∉ op.removals)) ∧
    ((r.method? "system.getCapabilities").map Method.callable = some (.capabilities i.table) → ∀ id s,
      r.invoke "system.getCapabilities" [] id s = (⟨.ok (.struct ((r.table i.table).map fun (name, c) =>
        (name, .struct [("specUrl", .string c.url), ("specVersion", .int32 c.version)]))), id⟩, s)) ∧
    Members.Ordered (r.table i.table) ∧
    (∀ name c, ((name, c) ∈ r.table i.table ↔ start.Listed i name c after) ∧
      (r.capability? i.table name = some c ↔ start.Listed i name c after)) ∧
    (∀ name c, (∀ problem, (r.perform (.addCapability i name c)).2 = .error problem ↔
        problem = .capabilityTaken name ∧ ∃ old, start.Listed i name old after) ∧
      ((∃ old, start.Listed i name old after) → (r.perform (.addCapability i name c)).1 = r)) ∧
    (∀ name, (∀ c, ¬start.Listed i name c after) → (r.perform (.removeCapability i name)).1 = r) ∧
    (∀ op : Registry.Operation σ, op.table? ≠ some i.table → ∀ params s,
      (Callable.capabilities i.table).run (r.perform op).1 params s =
        (Callable.capabilities i.table).run r params s) ∧
    (∀ (early late : List (Registry.Operation σ)) (other : Bool) (j : Installation),
      before ++ .install introspection :: after = early ++ .install other :: late → early.length ≠ before.length →
      (((Registry.new σ).performAll early).perform (.install other)).2 = .ok (some j) → j.table ≠ i.table) := by
  subst reached
  have answer : (((Registry.new σ).performAll before).perform (.install introspection)).2 = .ok (some i) := by
    rw [installed]
  have own := Registry.install_eq_ok (Registry.install_of_perform answer)
  have fresh : start.tables[i.table]? = some i.initial := by
    rw [← Registry.tables_of_installed answer, installed]
  have there := Registry.tables_performAll fresh after
  have current : (start.performAll after).table i.table = Registry.Operation.edits i.table i.initial after := by
    rw [Registry.table, there, Option.getD_some]
  have ordered : Members.Ordered (Registry.Operation.edits i.table i.initial after) :=
    Registry.Operation.ordered_edits i.ordered_initial after
  have listed (name : String) (c : Capability) :
      Members.find? name (Registry.Operation.edits i.table i.initial after) = some c ↔ start.Listed i name c after :=
    ⟨Registry.listed_of_find? fresh, fun known => known.find? fresh⟩
  refine ⟨by rw [own], fun unassigned => ?_, fun bound id s => ?_, ?_, fun name c => ⟨?_, ?_⟩,
    fun name c => ⟨fun problem => ?_, ?_⟩, fun name missing => ?_, fun op elsewhere params s => ?_,
    fun early late other j run differ done => ?_⟩
  · have whole : (Registry.new σ).performAll (before ++ .install introspection :: after) = start.performAll after := by
      rw [Registry.performAll_append, Registry.performAll, installed]
    rw [← whole]
    exact Registry.bound_iff answer unassigned
  · rw [Registry.invoke, Registry.run_of_bound (Option.map_eq_some_iff.mp bound)]
    rfl
  · rw [current]
    exact ordered
  · rw [current, ← ordered.find?_eq_some_iff]
    exact listed name c
  · rw [Registry.capability?, there, Option.bind_some]
    exact listed name c
  · simp only [← listed]
    exact Registry.perform_addCapability_eq_error_iff there problem
  · rintro ⟨old, known⟩
    rw [Registry.perform_addCapability_of_taken there ((listed name old).mpr known)]
  · refine Registry.perform_removeCapability_of_missing there ?_
    exact Option.eq_none_iff_forall_ne_some.mpr fun c found => missing c ((listed name c).mp found)
  · have same : ((start.performAll after).perform op).1.table i.table = (start.performAll after).table i.table := by
      rw [Registry.table, Registry.table, Registry.tables_perform there, there,
        Registry.Operation.edit_of_elsewhere elsewhere]
    simp only [Callable.run, Registry.getCapabilities, same]
  · intro shared
    rw [own, Registry.install_eq_ok (Registry.install_of_perform done)] at shared
    exact differ (congrArg List.length (Registry.install_unique run shared.symm).symm)

/-- An installation that is undone, but whose handle stays in use. -/
def Registry.Operation.undone : List (Registry.Operation Nat) :=
  [.install false, .uninstall ⟨0, false⟩]

/-- What is done behind a second installation, with a third one that fails. -/
def Registry.Operation.interleaved : List (Registry.Operation Nat) :=
  [.addCapability ⟨1, true⟩ "i8" ⟨"i8.html", 1⟩, .install false, .addCapability ⟨0, false⟩ "nil" ⟨"nil.html", 1⟩,
    .removeCapability ⟨1, true⟩ "xmlrpc"]

theorem Registry.capabilities_live_interleaved :
    ∃ start r, ((Registry.new Nat).performAll Registry.Operation.undone).perform (.install true) =
        (start, .ok (some ⟨1, true⟩)) ∧
      start.performAll Registry.Operation.interleaved = r ∧
      (∃ members, r.invoke "system.getCapabilities" [] .nil 4 = (⟨.ok (.struct members), .nil⟩, 4) ∧
        Members.names members = ["faults_interop", "i8", "introspect"] ∧
        Members.find? "i8" members = some (.struct [("specUrl", .string "i8.html"), ("specVersion", .int32 1)])) ∧
      start.Listed ⟨1, true⟩ "i8" ⟨"i8.html", 1⟩ Registry.Operation.interleaved ∧
      (r.perform (.addCapability ⟨1, true⟩ "i8" ⟨"other.html", 2⟩)).2 = .error (.capabilityTaken "i8") ∧
      (r.perform (.addCapability ⟨1, true⟩ "i8" ⟨"other.html", 2⟩)).1 = r ∧
      (⟨0, false⟩ : Installation).table ≠ (⟨1, true⟩ : Installation).table := by
  have installed : ((Registry.new Nat).performAll Registry.Operation.undone).perform (.install true) =
      (_, .ok (some ⟨1, true⟩)) := rfl
  obtain ⟨-, -, reports, -, entries, adding, -, -, others⟩ :=
    Registry.capabilities_live installed (Eq.refl (Registry.performAll _ Registry.Operation.interleaved))
  have listed := (entries "i8" ⟨"i8.html", 1⟩).2.mp rfl
  refine ⟨_, _, installed, rfl, ⟨_, reports rfl .nil 4, rfl, rfl⟩, listed, ?_, ?_, ?_⟩
  · exact ((adding "i8" ⟨"other.html", 2⟩).1 _).mpr ⟨rfl, _, listed⟩
  · exact (adding "i8" ⟨"other.html", 2⟩).2 ⟨_, listed⟩
  · exact others [] _ false ⟨0, false⟩ rfl nofun rfl

end RemoteCall
