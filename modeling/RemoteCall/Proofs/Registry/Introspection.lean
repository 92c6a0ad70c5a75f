import RemoteCall.Proofs.Registry.Callable
import RemoteCall.Proofs.Registry.Operation

namespace RemoteCall

variable {σ τ : Type}

/-- All that is told about a method. -/
def Method.told (m : Method σ) : String × List (List Kind) :=
  (m.help, m.signatures)

/-- What is told about the visible method of this name. -/
def Registry.told? (r : Registry σ) (name : String) : Option (String × List (List Kind)) :=
  (r.visible? name).map Method.told

/-- Two registries have the same visible methods, and tell the same about each of them. They may share no callable, and
their hidden methods have nothing to do with each other. -/
def Registry.LooksLike (r : Registry σ) (q : Registry τ) : Prop :=
  ∀ name, r.told? name = q.told? name

/-- The visible methods in order, with what is told about them. -/
def Registry.allTold (r : Registry σ) : List (String × (String × List (List Kind))) :=
  (r.methods.filter fun entry => !entry.2.hidden).map fun entry => (entry.1, entry.2.told)

theorem Registry.names_allTold (r : Registry σ) : Members.names r.allTold = r.names := by
  rw [Registry.allTold, Registry.names, Members.names, Members.names, List.map_map]
  rfl

theorem Registry.find?_allTold {r : Registry σ} (ordered : Members.Ordered r.methods) (name : String) :
    Members.find? name r.allTold = r.told? name := by
  rw [Registry.allTold, Members.find?_map, Members.find?_filter ordered name fun m => !m.hidden]
  rfl

theorem Registry.ordered_allTold {r : Registry σ} (ordered : Members.Ordered r.methods) :
    Members.Ordered r.allTold :=
  Members.ordered_map.mpr (List.Pairwise.sublist List.filter_sublist ordered)

theorem Registry.LooksLike.names {r : Registry σ} {q : Registry τ} (alike : r.LooksLike q)
    (ordered : Members.Ordered r.methods) (ordered' : Members.Ordered q.methods) : r.names = q.names := by
  have same : r.allTold = q.allTold :=
    (Registry.ordered_allTold ordered).ext (Registry.ordered_allTold ordered') fun name => by
      rw [Registry.find?_allTold ordered, Registry.find?_allTold ordered', alike]
  rw [← Registry.names_allTold, same, Registry.names_allTold]

theorem Registry.LooksLike.listMethods {r : Registry σ} {q : Registry τ} (alike : r.LooksLike q)
    (ordered : Members.Ordered r.methods) (ordered' : Members.Ordered q.methods) (params : List Value) :
    r.listMethods params = q.listMethods params := by
  unfold Registry.listMethods
  rw [alike.names ordered ordered']

/-- An answer that depends on what is told about a method alone is the same in both. -/
theorem Registry.LooksLike.tell {r : Registry σ} {q : Registry τ} (alike : r.LooksLike q)
    {answer : Method σ → Value} {answer' : Method τ → Value} (same : ∀ m m', m.told = m'.told → answer m = answer' m')
    (params : List Value) : r.tell answer params = q.tell answer' params := by
  unfold Registry.tell
  split
  · rename_i name
    have told := alike name
    unfold Registry.told? at told
    cases here : r.visible? name with
    | none =>
      rw [here, Option.map_none, eq_comm, Option.map_eq_none_iff] at told
      rw [told]
    | some m =>
      rw [here, Option.map_some, eq_comm] at told
      obtain ⟨m', there, equal⟩ := Option.map_eq_some_iff.mp told
      rw [there]
      exact congrArg Except.ok (same m m' equal.symm)
  · rfl

theorem Registry.LooksLike.methodHelp {r : Registry σ} {q : Registry τ} (alike : r.LooksLike q)
    (params : List Value) : r.methodHelp params = q.methodHelp params :=
  alike.tell (fun _ _ told => congrArg (Value.string ∘ Prod.fst) told) params

theorem Registry.LooksLike.methodSignature {r : Registry σ} {q : Registry τ} (alike : r.LooksLike q)
    (params : List Value) : r.methodSignature params = q.methodSignature params := by
  refine alike.tell (fun m m' told => ?_) params
  have signatures : m.signatures = m'.signatures := congrArg Prod.snd told
  rw [Method.signatureValue, Method.signatureValue, signatures]

/-- One more hidden method cannot be seen, unless it takes the place of a visible one. -/
theorem Registry.looksLike_hidden {r : Registry σ} {name : String} {m : Method σ} (hidden : m.hidden = true)
    (unseen : r.visible? name = none) :
    r.LooksLike { r with methods := Members.insert name m r.methods } := by
  intro other
  rw [Registry.told?, Registry.told?]
  by_cases same : name = other
  · subst same
    rw [unseen, Registry.visible?, Registry.method?_insert, if_pos rfl, Option.filter_some, hidden]
    rfl
  · rw [Registry.visible?, Registry.visible?, Registry.method?_insert, if_neg same]

/-- The names of the methods for introspection. -/
def Registry.introspectionNames : List String :=
  ["system.listMethods", "system.methodSignature", "system.methodHelp"]

/-- A registry in which these names stand for the built-in methods. -/
structure Registry.Introspective (r : Registry σ) : Prop where
  ordered : Members.Ordered r.methods
  lists : ∃ m, r.method? "system.listMethods" = some m ∧ m.callable = .listMethods
  signature : ∃ m, r.method? "system.methodSignature" = some m ∧ m.callable = .methodSignature
  help : ∃ m, r.method? "system.methodHelp" = some m ∧ m.callable = .methodHelp

/-- The built-in methods return the same in both registries, and leave each state as it is. -/
theorem Registry.LooksLike.run {r : Registry σ} {q : Registry τ} (alike : r.LooksLike q) (left : r.Introspective)
    (right : q.Introspective) {name : String} (listed : name ∈ Registry.introspectionNames) (params : List Value)
    (s : σ) (t : τ) :
    ∃ answer, r.run name params s = (answer, s) ∧ q.run name params t = (answer, t) := by
  simp only [Registry.introspectionNames, List.mem_cons, List.not_mem_nil, or_false] at listed
  obtain rfl | rfl | rfl := listed
  · refine ⟨r.listMethods params, Registry.run_of_bound left.lists params s, ?_⟩
    rw [Registry.run_of_bound right.lists, Callable.run, alike.listMethods left.ordered right.ordered]
  · refine ⟨r.methodSignature params, Registry.run_of_bound left.signature params s, ?_⟩
    rw [Registry.run_of_bound right.signature, Callable.run, alike.methodSignature]
  · refine ⟨r.methodHelp params, Registry.run_of_bound left.help params s, ?_⟩
    rw [Registry.run_of_bound right.help, Callable.run, alike.methodHelp]

/-- A call of several that can be read at all is one of the built-in methods for introspection. -/
def Value.Introspects (v : Value) : Prop :=
  ∀ method params, v.Describes method params → method ∈ Registry.introspectionNames

/-- Step: one such call of several has the same entry in both registries. -/
theorem Registry.LooksLike.runOne {r : Registry σ} {q : Registry τ} (alike : r.LooksLike q) (left : r.Introspective)
    (right : q.Introspective) {v : Value} (asks : v.Introspects) (s : σ) (t : τ) :
    ∃ entry, r.runOne s v = (entry, s) ∧ q.runOne t v = (entry, t) := by
  cases read : Call.ofValue v with
  | error f => exact ⟨f.toValue, Registry.runOne_of_refused read r s, Registry.runOne_of_refused read q t⟩
  | ok call =>
    have listed := asks call.method call.params (Call.describes_of_ofValue read).1
    obtain ⟨answer, here, there⟩ := alike.run left right listed call.params s t
    refine ⟨Call.entry answer, ?_, ?_⟩
    · rw [Registry.runOne_of_read read, here]
    · rw [Registry.runOne_of_read read, there]

/-- Run: so have any number of them. -/
theorem Registry.LooksLike.runAll {r : Registry σ} {q : Registry τ} (alike : r.LooksLike q) (left : r.Introspective)
    (right : q.Introspective) {calls : List Value} (asks : ∀ v ∈ calls, v.Introspects) (s : σ) (t : τ) :
    ∃ entries, r.runAll calls s = (entries, s) ∧ q.runAll calls t = (entries, t) := by
  induction calls with
  | nil => exact ⟨[], r.runAll_nil s, q.runAll_nil t⟩
  | cons v rest ih =>
    obtain ⟨asksFirst, asksRest⟩ := List.forall_mem_cons.mp asks
    obtain ⟨entry, here, there⟩ := alike.runOne left right asksFirst s t
    obtain ⟨entries, restHere, restThere⟩ := ih asksRest
    refine ⟨entry :: entries, ?_, ?_⟩
    · rw [Registry.runAll_cons, here, restHere]
    · rw [Registry.runAll_cons, there, restThere]

/-- A hidden method and one that is missing are told about in the same way. -/
theorem Registry.tell_of_unseen {r : Registry σ} {name : String}
    (unseen : ∀ m, r.method? name = some m → m.hidden = true) (answer : Method σ → Value) :
    r.tell answer [.string name] = .error (.application ("No method " ++ name) 0) := by
  have none : r.visible? name = none := by
    refine Option.filter_eq_none_iff.mpr fun m found visible => ?_
    rw [unseen m found] at visible
    cases visible
  simp only [Registry.tell, none]

/-- Introspection tells nothing about hidden methods. In two registries with the built-in methods that show the same,
every call of one of these and any number of such calls at once are answered in the same way and leave the states as
they are, whatever is hidden there; and a name that is hidden is answered like one that is missing. -/
theorem Registry.hidden_unseen {r : Registry σ} {q : Registry τ} (left : r.Introspective) (right : q.Introspective)
    (alike : r.LooksLike q) :
    (∀ name ∈ Registry.introspectionNames, ∀ params id s t, ∃ response,
      r.invoke name params id s = (response, s) ∧ q.invoke name params id t = (response, t)) ∧
    (∀ m m', r.method? Registry.multicallName = some m → m.callable = .multicall →
      q.method? Registry.multicallName = some m' → m'.callable = .multicall →
      ∀ calls more, (∀ v ∈ calls, v.Introspects) → ∀ id s t, ∃ response,
        r.invoke Registry.multicallName (.array calls :: more) id s = (response, s) ∧
        q.invoke Registry.multicallName (.array calls :: more) id t = (response, t)) ∧
    (∀ name, (∀ m, r.method? name = some m → m.hidden = true) →
      ∀ asked ∈ ["system.methodSignature", "system.methodHelp"], ∀ id s,
        r.invoke asked [.string name] id s = (⟨.error (.application ("No method " ++ name) 0), id⟩, s)) := by
  refine ⟨fun name listed params id s t => ?_, fun m m' found several found' several' calls more asks id s t => ?_,
    fun name unseen asked listed id s => ?_⟩
  · obtain ⟨answer, here, there⟩ := alike.run left right listed params s t
    exact ⟨⟨answer, id⟩, by rw [Registry.invoke, here], by rw [Registry.invoke, there]⟩
  · obtain ⟨entries, here, there⟩ := alike.runAll left right asks s t
    refine ⟨⟨.ok (.array entries), id⟩, ?_, ?_⟩
    · rw [Registry.invoke_multicall found several, here]
    · rw [Registry.invoke_multicall found' several', there]
  · simp only [List.mem_cons, List.not_mem_nil, or_false] at listed
    obtain rfl | rfl := listed
    · obtain ⟨m, found, builtIn⟩ := left.signature
      rw [Registry.invoke, Registry.run_of_found found, builtIn, Callable.run, Registry.methodSignature,
        Registry.tell_of_unseen unseen]
    · obtain ⟨m, found, builtIn⟩ := left.help
      rw [Registry.invoke, Registry.run_of_found found, builtIn, Callable.run, Registry.methodHelp,
        Registry.tell_of_unseen unseen]

/-- A registry with the built-in methods alone. -/
def Registry.bare : Registry Nat :=
  (Registry.new Nat).performAll [.install true]

/-- The same with a hidden method. -/
def Registry.spied : Registry Nat :=
  { Registry.bare with
    methods := Members.insert "spy"
      { callable := .native fun _ count => (.value .nil, count + 1), help := "Listens", hidden := true }
      Registry.bare.methods }

theorem Registry.ordered_bare : Members.Ordered Registry.bare.methods :=
  Registry.ordered_performAll Registry.ordered_new _

theorem Registry.ordered_spied : Members.Ordered Registry.spied.methods := by
  rw [Registry.spied]
  exact Registry.ordered_bare.insert "spy" _

theorem Registry.looksLike_spied : Registry.bare.LooksLike Registry.spied :=
  Registry.looksLike_hidden rfl rfl

/-- Asks about the hidden method, next to what is no call. -/
def Registry.spyingCalls : List Value :=
  [.struct [("methodName", .string "system.methodHelp"), ("params", .array [.string "spy"])], .nil]

theorem Registry.hidden_unseen_spy :
    Registry.bare.Introspective ∧ Registry.spied.Introspective ∧ Registry.bare.LooksLike Registry.spied ∧
      "system.listMethods" ∈ Registry.introspectionNames ∧
      (∃ response, Registry.bare.invoke "system.listMethods" [] .nil 3 = (response, 3) ∧
        Registry.spied.invoke "system.listMethods" [] .nil 4 = (response, 4)) ∧
      (∀ v ∈ Registry.spyingCalls, v.Introspects) ∧
      (∃ response, Registry.bare.invoke Registry.multicallName [.array Registry.spyingCalls] .nil 3 = (response, 3) ∧
        Registry.spied.invoke Registry.multicallName [.array Registry.spyingCalls] .nil 4 = (response, 4)) ∧
      (∀ m, Registry.spied.method? "spy" = some m → m.hidden = true) ∧
      Registry.spied.invoke "system.methodHelp" [.string "spy"] .nil 4 =
        (⟨.error (.application "No method spy" 0), .nil⟩, 4) := by
  have left : Registry.bare.Introspective :=
    ⟨Registry.ordered_bare, ⟨_, rfl, rfl⟩, ⟨_, rfl, rfl⟩, ⟨_, rfl, rfl⟩⟩
  have right : Registry.spied.Introspective :=
    ⟨Registry.ordered_spied, ⟨_, rfl, rfl⟩, ⟨_, rfl, rfl⟩, ⟨_, rfl, rfl⟩⟩
  have listed : "system.listMethods" ∈ Registry.introspectionNames := List.mem_cons_self ..
  have asks : ∀ v ∈ Registry.spyingCalls, v.Introspects := by
    refine List.forall_mem_cons.mpr ⟨fun method params describes => ?_, List.forall_mem_singleton.mpr nofun⟩
    cases describes with
    | given named =>
      cases named
      simp [Registry.introspectionNames]
    | bare named absent => cases absent
  have hidden : ∀ m, Registry.spied.method? "spy" = some m → m.hidden = true := fun m found => by
    cases found
    rfl
  obtain ⟨single, several, -⟩ := Registry.hidden_unseen left right Registry.looksLike_spied
  obtain ⟨-, -, unseen⟩ := Registry.hidden_unseen right left fun name => (Registry.looksLike_spied name).symm
  exact ⟨left, right, Registry.looksLike_spied, listed, single _ listed [] .nil 3 4, asks,
    several _ _ rfl rfl rfl rfl _ [] asks .nil 3 4, hidden, unseen "spy" hidden _ (by simp) .nil 4⟩

end RemoteCall
