import Mathlib.Data.List.Forall2
import RemoteCall.Proofs.Registry.Introspection
import RemoteCall.Proofs.Registry.Registration
import RemoteCall.Proofs.Utf8

namespace RemoteCall

variable {σ : Type}

/-- Every signature that is added has the type of a result, and so has every one of a method that is put in the place
of another. There is no way to add one without. -/
def Registry.Operation.Signed : Registry.Operation σ → Prop
  | .assign _ m => [] ∉ m.signatures
  | .describe _ _ _ signatures => [] ∉ signatures
  | _ => True

/-- What is told about a signature: the name of the result type and, in order, those of the types of the parameters,
where every nil is left out. -/
def Method.Tells (signature : List Kind) (types : List String) : Prop :=
  ∃ result params, signature = result :: params ∧
    types = result.name :: (params.map Kind.name).filter fun name => name != "nil"

theorem Registry.Operation.signed_methods (tables : Nat) (op : Registry.Operation σ) :
    ∀ entry ∈ op.methods tables, [] ∉ entry.2.signatures := by
  cases op with
  | add name run => exact List.forall_mem_singleton.mpr List.not_mem_nil
  | install introspection =>
    cases introspection <;>
      simp [Registry.Operation.methods, Installation.methods, Installation.capabilitiesMethod,
        Installation.introspectionMethods]
  | assign | describe | remove | uninstall | addCapability | removeCapability => exact List.forall_mem_nil _

theorem Registry.Operation.Signed.revise {op : Registry.Operation σ} (signed : op.Signed) (name : String)
    {m : Method σ} (before : [] ∉ m.signatures) : [] ∉ (op.revise name m).signatures := by
  cases op with
  | assign other new =>
    rw [Registry.Operation.revise]
    split
    · exact signed
    · exact before
  | describe other help hidden signatures =>
    rw [Registry.Operation.revise]
    split
    · exact fun member => (List.mem_append.mp member).elim before signed
    · exact before
  | add | remove | install | uninstall | addCapability | removeCapability => exact before

/-- Run: operations that add no signature without a result leave a method without one. -/
theorem Method.signed_after {name : String} {ops : List (Registry.Operation σ)} (signed : ∀ op ∈ ops, op.Signed)
    {m : Method σ} (before : [] ∉ m.signatures) : [] ∉ (m.after name ops).signatures := by
  induction ops generalizing m with
  | nil => exact before
  | cons op rest ih =>
    obtain ⟨here, later⟩ := List.forall_mem_cons.mp signed
    exact ih later (here.revise name before)

/-- In a run that adds no signature without a result, no method has one. -/
theorem Registry.Registered.signed {name : String} {ops since : List (Registry.Operation σ)} {first : Method σ}
    (registered : Registry.Registered name ops first since) (signed : ∀ op ∈ ops, op.Signed) :
    [] ∉ (first.after name since).signatures := by
  cases registered with
  | initial there =>
    refine Method.signed_after signed ?_
    cases List.mem_singleton.mp (Members.mem_of_find? there)
    simp
  | @added before after op first there =>
    refine Method.signed_after (fun later member =>
      signed later (List.mem_append_right before (List.mem_cons_of_mem op member))) ?_
    have member := (List.takeWhile_sublist _).mem (Members.mem_of_find? there)
    exact op.signed_methods _ _ member

theorem Kind.name_eq_nil_iff (kind : Kind) : kind.name = "nil" ↔ kind = .nil := by
  cases kind <;> simp [Kind.name]

theorem Method.tells_signatureNames {signature : List Kind} (signed : signature ≠ []) :
    Method.Tells signature (Method.signatureNames signature) := by
  cases signature with
  | nil => exact (signed rfl).elim
  | cons result params =>
    have same (kind : Kind) : (kind.name != "nil") = (kind != .nil) := by
      rw [Bool.eq_iff_iff, bne_iff_ne, bne_iff_ne, ne_eq, Kind.name_eq_nil_iff]
    refine ⟨result, params, rfl, ?_⟩
    rw [Method.signatureNames, List.filter_map]
    simp only [Function.comp_def, same]

theorem Method.Tells.nil_first {signature : List Kind} {types : List String} (told : Method.Tells signature types) :
    types ≠ [] ∧ "nil" ∉ types.tail := by
  obtain ⟨result, params, -, rfl⟩ := told
  refine ⟨List.cons_ne_nil _ _, fun member => ?_⟩
  have kept := (List.mem_filter.mp member).2
  simp at kept

/-- The answer about signatures is a word of its own where there are none, and else one entry for each of them. -/
theorem Method.signatureValue_spec {m : Method σ} (signed : [] ∉ m.signatures) :
    (m.signatureValue = .string "undef" ↔ m.signatures = []) ∧
      (m.signatures ≠ [] → ∃ entries : List (List String),
        m.signatureValue = .array (entries.map fun types => .array (types.map .string)) ∧
        List.Forall₂ Method.Tells m.signatures entries ∧ ∀ types ∈ entries, types ≠ [] ∧ "nil" ∉ types.tail) := by
  have tells : ∀ signature ∈ m.signatures, Method.Tells signature (Method.signatureNames signature) :=
    fun signature member => Method.tells_signatureNames (ne_of_mem_of_not_mem member signed)
  unfold Method.signatureValue
  cases bare : m.signatures.isEmpty with
  | true =>
    have empty := List.isEmpty_iff.mp bare
    exact ⟨iff_of_true rfl empty, fun added => (added empty).elim⟩
  | false =>
    have added : m.signatures ≠ [] := fun empty => by rw [empty] at bare; cases bare
    refine ⟨iff_of_false nofun added, fun _ => ⟨m.signatures.map Method.signatureNames, ?_, ?_, ?_⟩⟩
    · rw [List.map_map]
      rfl
    · rw [List.forall₂_map_right_iff, List.forall₂_same]
      exact tells
    · intro types entered
      obtain ⟨signature, member, rfl⟩ := List.mem_map.mp entered
      exact (tells signature member).nil_first

theorem Registry.visible?_eq_some_iff {r : Registry σ} {name : String} {m : Method σ} :
    r.visible? name = some m ↔ r.method? name = some m ∧ m.hidden = false := by
  rw [Registry.visible?, Option.filter_eq_some_iff, Bool.not_eq_true']

/-- What is listed is what is visible. -/
theorem Registry.mem_names_iff {r : Registry σ} (ordered : Members.Ordered r.methods) (name : String) :
    name ∈ r.names ↔ ∃ m, r.method? name = some m ∧ m.hidden = false := by
  rw [← Registry.names_allTold, Members.mem_names_iff]
  simp only [Registry.find?_allTold ordered, Registry.told?, Option.map_eq_some_iff, Registry.visible?_eq_some_iff]
  constructor
  · rintro ⟨told, m, visible, -⟩
    exact ⟨m, visible⟩
  · rintro ⟨m, visible⟩
    exact ⟨m.told, m, visible, rfl⟩

/-- Names are listed in the order of their bytes. -/
theorem Registry.names_increasing {r : Registry σ} (ordered : Members.Ordered r.methods) :
    r.names.Pairwise fun a b => utf8Bytes a < utf8Bytes b := by
  rw [← Registry.names_allTold, Members.names, List.pairwise_map]
  exact (Registry.ordered_allTold ordered).imp utf8Bytes_lt

theorem Registry.tell_of_visible {r : Registry σ} {name : String} {m : Method σ}
    (found : r.method? name = some m) (shown : m.hidden = false) (answer : Method σ → Value) :
    r.tell answer [.string name] = .ok (answer m) := by
  simp only [Registry.tell, Registry.visible?_eq_some_iff.mpr ⟨found, shown⟩]

/-- What takes the name of a visible method succeeds for these names and no others. -/
theorem Registry.tell_succeeds_iff (r : Registry σ) (answer : Method σ → Value) (name : String) :
    (∃ v, r.tell answer [.string name] = .ok v) ↔ ∃ m, r.method? name = some m ∧ m.hidden = false := by
  constructor
  · rintro ⟨v, told⟩
    cases shown : r.visible? name with
    | none =>
      simp only [Registry.tell, shown] at told
      cases told
    | some m => exact ⟨m, Registry.visible?_eq_some_iff.mp shown⟩
  · rintro ⟨m, found, shown⟩
    exact ⟨answer m, Registry.tell_of_visible found shown answer⟩

theorem Registry.tell_of_other {params : List Value} (other : ∀ name, params ≠ [.string name]) (r : Registry σ)
    (answer : Method σ → Value) : r.tell answer params = .error .invalidParameters := by
  unfold Registry.tell
  split
  · rename_i name
    exact (other name rfl).elim
  · rfl

/-- The three methods for introspection agree with each other and with the registry, whatever has been done to it since
it was new. Listed in the order of their bytes are the names that are registered and not hidden, and these are the ones
that there is help and a description of. The help is the current one, and the description has an entry for every
signature that has been added, in order, or is a word of its own where there are none. All other parameters are
refused, and the state stays as it is. -/
theorem Registry.introspection_agrees {ops : List (Registry.Operation σ)} {r : Registry σ}
    (reached : (Registry.new σ).performAll ops = r) (signed : ∀ op ∈ ops, op.Signed) (builtIn : r.Introspective) :
    (∀ name m, r.method? name = some m ↔
      ∃ first since, Registry.Registered name ops first since ∧ m = first.after name since) ∧
    (∃ names : List String, names.Pairwise (fun a b => utf8Bytes a < utf8Bytes b) ∧
      ∀ id s, r.invoke "system.listMethods" [] id s = (⟨.ok (.array (names.map .string)), id⟩, s) ∧
        ∀ name, (name ∈ names ↔ ∃ m, r.method? name = some m ∧ m.hidden = false) ∧
          ((∃ v, r.invoke "system.methodHelp" [.string name] id s = (⟨.ok v, id⟩, s)) ↔ name ∈ names) ∧
          ((∃ v, r.invoke "system.methodSignature" [.string name] id s = (⟨.ok v, id⟩, s)) ↔ name ∈ names)) ∧
    (∀ name m, r.method? name = some m → m.hidden = false →
      (∀ id s, r.invoke "system.methodHelp" [.string name] id s = (⟨.ok (.string m.help), id⟩, s)) ∧
      ∃ answer, (∀ id s, r.invoke "system.methodSignature" [.string name] id s = (⟨.ok answer, id⟩, s)) ∧
        (answer = .string "undef" ↔ m.signatures = []) ∧
        (m.signatures ≠ [] → ∃ entries : List (List String),
          answer = .array (entries.map fun types => .array (types.map .string)) ∧
          List.Forall₂ Method.Tells m.signatures entries ∧ ∀ types ∈ entries, types ≠ [] ∧ "nil" ∉ types.tail)) ∧
    (∀ params id s,
      (params ≠ [] → r.invoke "system.listMethods" params id s = (⟨.error .invalidParameters, id⟩, s)) ∧
      ((∀ name, params ≠ [.string name]) → ∀ asked ∈ ["system.methodHelp", "system.methodSignature"],
        r.invoke asked params id s = (⟨.error .invalidParameters, id⟩, s))) := by
  have lists (params : List Value) (id : Value) (s : σ) :
      r.invoke "system.listMethods" params id s = (⟨r.listMethods params, id⟩, s) := by
    rw [Registry.invoke, Registry.run_of_bound builtIn.lists, Callable.run]
  have help (params : List Value) (id : Value) (s : σ) :
      r.invoke "system.methodHelp" params id s = (⟨r.methodHelp params, id⟩, s) := by
    rw [Registry.invoke, Registry.run_of_bound builtIn.help, Callable.run]
  have signature (params : List Value) (id : Value) (s : σ) :
      r.invoke "system.methodSignature" params id s = (⟨r.methodSignature params, id⟩, s) := by
    rw [Registry.invoke, Registry.run_of_bound builtIn.signature, Callable.run]
  subst reached
  refine ⟨fun name m => Registry.method?_eq_some_iff,
    ⟨_, Registry.names_increasing builtIn.ordered, fun id s => ⟨?_, fun name => ?_⟩⟩,
    fun name m found shown => ⟨fun id s => ?_, ?_⟩, fun params id s => ⟨fun given => ?_, fun other asked listed => ?_⟩⟩
  · rw [lists, Registry.listMethods]
  · have listed := Registry.mem_names_iff builtIn.ordered name
    refine ⟨listed, ?_, ?_⟩
    · rw [help, listed, ← Registry.tell_succeeds_iff _ fun m => .string m.help]
      simp only [Prod.mk.injEq, Response.mk.injEq, and_true, Registry.methodHelp]
    · rw [signature, listed, ← Registry.tell_succeeds_iff _ Method.signatureValue]
      simp only [Prod.mk.injEq, Response.mk.injEq, and_true, Registry.methodSignature]
  · rw [help, Registry.methodHelp, Registry.tell_of_visible found shown]
  · obtain ⟨first, since, came, rfl⟩ := Registry.exists_registered found
    refine ⟨_, fun id s => ?_, Method.signatureValue_spec (came.signed signed)⟩
    rw [signature, Registry.methodSignature, Registry.tell_of_visible found shown]
  · rw [lists]
    cases params with
    | nil => exact (given rfl).elim
    | cons first rest => rfl
  · simp only [List.mem_cons, List.not_mem_nil, or_false] at listed
    obtain rfl | rfl := listed
    · rw [help, Registry.methodHelp, Registry.tell_of_other other]
    · rw [signature, Registry.methodSignature, Registry.tell_of_other other]

/-- An installation, a method that is described twice, and one that is hidden. -/
def Registry.Operation.annotated : List (Registry.Operation Nat) :=
  [.install true, .add "reset" fun _ _ => (.value .nil, 0), .describe "reset" (some "Starts over") none [[.nil, .nil]],
    .describe "reset" none none [[.nil, .string, .nil]], .add "spy" fun _ count => (.value .nil, count + 1),
    .describe "spy" (some "Listens") (some true) []]

theorem Registry.introspection_agrees_annotated :
    ∃ r, (Registry.new Nat).performAll Registry.Operation.annotated = r ∧
      (∀ op ∈ Registry.Operation.annotated, op.Signed) ∧ r.Introspective ∧
      r.invoke "system.methodHelp" [.string "reset"] .nil 4 = (⟨.ok (.string "Starts over"), .nil⟩, 4) ∧
      r.invoke "system.methodSignature" [.string "reset"] .nil 4 =
        (⟨.ok (.array [.array [.string "nil"], .array [.string "nil", .string "string"]]), .nil⟩, 4) ∧
      (¬∃ v, r.invoke "system.methodHelp" [.string "spy"] .nil 4 = (⟨.ok v, .nil⟩, 4)) ∧
      r.invoke "system.listMethods" [.nil] .nil 4 = (⟨.error .invalidParameters, .nil⟩, 4) := by
  have reached : (Registry.new Nat).performAll Registry.Operation.annotated = _ := rfl
  have signed : ∀ op ∈ Registry.Operation.annotated, op.Signed := by
    simp [Registry.Operation.annotated, Registry.Operation.Signed]
  have builtIn : ((Registry.new Nat).performAll Registry.Operation.annotated).Introspective :=
    ⟨Registry.ordered_performAll Registry.ordered_new _, ⟨_, rfl, rfl⟩, ⟨_, rfl, rfl⟩, ⟨_, rfl, rfl⟩⟩
  obtain ⟨-, ⟨names, -, listed⟩, told, refused⟩ := Registry.introspection_agrees reached signed builtIn
  obtain ⟨help, answer, described, -, entered⟩ := told "reset" _ rfl rfl
  refine ⟨_, reached, signed, builtIn, help .nil 4, ?_, ?_, (refused [.nil] .nil 4).1 nofun⟩
  · obtain ⟨entries, rfl, tells, -⟩ := entered nofun
    change List.Forall₂ Method.Tells [[.nil, .nil], [.nil, .string, .nil]] entries at tells
    obtain ⟨_, _, ⟨_, _, same, rfl⟩, more, rfl⟩ := List.forall₂_cons_left_iff.mp tells
    obtain ⟨_, _, ⟨_, _, same', rfl⟩, ⟨⟩, rfl⟩ := List.forall₂_cons_left_iff.mp more
    cases same
    cases same'
    exact described .nil 4
  · obtain ⟨visible, helps, -⟩ := (listed .nil 4).2 "spy"
    rw [helps, visible]
    rintro ⟨m, found, shown⟩
    cases found
    cases shown

end RemoteCall
