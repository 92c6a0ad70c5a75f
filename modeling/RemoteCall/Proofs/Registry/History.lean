import RemoteCall.Proofs.Registry.Callable
import RemoteCall.Proofs.Registry.Operation
import RemoteCall.Proofs.Scanning

namespace RemoteCall

variable {σ : Type}

/-- What happens to a name. A name that is free already is removed all the same, and nothing is replaced there. -/
inductive Registry.Event (σ : Type) where
  | registered (name : String) (c : Callable σ)
  | replaced (name : String) (c : Callable σ)
  | removed (name : String)

/-- The methods that an operation has registered, as far as the answer to it tells: all that it asked for, or those in
front of the name that was taken. -/
def Registry.Operation.registered (op : Registry.Operation σ) (tables : Nat)
    (answer : Except RegistrationError (Option Installation)) : List (String × Method σ) :=
  match answer with
  | .error (.methodTaken taken) => (op.methods tables).takeWhile fun entry => entry.1 != taken
  | _ => op.methods tables

/-- What has happened by an operation that was answered so. -/
def Registry.Operation.events (op : Registry.Operation σ) (tables : Nat)
    (answer : Except RegistrationError (Option Installation)) : List (Registry.Event σ) :=
  op.removals.map .removed ++ ((op.replacements.map fun entry => .replaced entry.1 entry.2.callable) ++
    (op.registered tables answer).map fun entry => .registered entry.1 entry.2.callable)

/-- What an event makes of the registrations of a name. Where the method is replaced, the registrations stay, but what
runs is another callable. -/
def Registry.Event.next (name : String) (standing : List (Callable σ)) : Registry.Event σ → List (Callable σ)
  | .registered other c => if other = name then standing ++ [c] else standing
  | .replaced other c => if other = name then standing.map fun _ => c else standing
  | .removed other => if other = name then [] else standing

/-- All registrations of a name since it was removed last, each with what runs for it now. -/
def Registry.Event.standing (name : String) (events : List (Registry.Event σ)) : List (Callable σ) :=
  events.foldl (Registry.Event.next name) []

/-- What becomes of a registry by an operation that registers methods, for each answer. What was there before stays as
it was, with its callable and all that is told about it. -/
inductive Registry.Extends (r : Registry σ) (op : Registry.Operation σ) (next : Registry σ) :
    Except RegistrationError (Option Installation) → Prop
  | whole {answer : Option Installation} : (∀ entry ∈ op.methods r.tables.length, r.method? entry.1 = none) →
      (∀ name, next.method? name = (r.method? name).or (Members.find? name (op.methods r.tables.length))) →
      Extends r op next (.ok answer)
  | stopped {before after : List (String × Method σ)} {clash : String × Method σ} {old : Method σ} :
      op.methods r.tables.length = before ++ clash :: after → (∀ entry ∈ before, r.method? entry.1 = none) →
      r.method? clash.1 = some old →
      (∀ name, next.method? name = (r.method? name).or (Members.find? name before)) →
      Extends r op next (.error (.methodTaken clash.1))

theorem Registry.gained_whole {r : Registry σ} {op : Registry.Operation σ}
    (free : ∀ entry ∈ op.methods r.tables.length, r.method? entry.1 = none) :
    r.gained op = op.methods r.tables.length :=
  List.takeWhile_eq_self_iff.mpr fun entry member => by simp [Registry.has, free entry member]

theorem Registry.gained_stopped {r : Registry σ} {op : Registry.Operation σ} {before after : List (String × Method σ)}
    {clash : String × Method σ} {old : Method σ} (split : op.methods r.tables.length = before ++ clash :: after)
    (free : ∀ entry ∈ before, r.method? entry.1 = none) (taken : r.method? clash.1 = some old) :
    r.gained op = before := by
  rw [Registry.gained, split]
  exact takeWhile_front (fun entry member => by simp [Registry.has, free entry member]) (by simp [Registry.has, taken])

/-- Step: a registration replaces no entry, and it stops at the first name that is taken. -/
theorem Registry.extends_perform {op : Registry.Operation σ} (registers : op.Registers) (r : Registry σ) :
    r.Extends op (r.perform op).1 (r.perform op).2 := by
  obtain ⟨answer, found⟩ := Registry.perform_registers registers r
  rw [← Registry.Operation.names_methods r.tables.length, Members.names, List.find?_map, Option.map_map] at answer
  cases first : (op.methods r.tables.length).find? (r.has ∘ Prod.fst) with
  | none =>
    rw [first] at answer
    have free := fun entry member => Registry.has_eq_false_iff.mp
      (Bool.not_eq_true _ ▸ List.find?_eq_none.mp first entry member)
    rw [Registry.gained_whole free] at found
    cases outcome : (r.perform op).2 with
    | ok answered => exact .whole free found
    | error problem => cases (answer problem).mp outcome
  | some clash =>
    rw [first] at answer
    obtain ⟨taken, before, after, split, front⟩ := List.find?_eq_some_iff_append.mp first
    obtain ⟨old, there⟩ := Registry.has_iff.mp taken
    have free := fun entry member => Registry.has_eq_false_iff.mp (by simpa using front entry member)
    rw [Registry.gained_stopped split free there] at found
    rw [(answer (.methodTaken clash.1)).mpr rfl]
    exact .stopped split free there found

theorem Registry.find?_gained_of_found {r : Registry σ} {name : String} {m : Method σ}
    (found : r.method? name = some m) (op : Registry.Operation σ) : Members.find? name (r.gained op) = none := by
  refine Members.find?_eq_none fun entry member same => ?_
  have free := List.mem_takeWhile_imp member
  rw [same, Registry.has, found] at free
  cases free

end RemoteCall
