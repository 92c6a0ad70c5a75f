import RemoteCall.Method.Typed
import RemoteCall.Proofs.Registry.Callable

namespace RemoteCall

variable {σ ρ : Type}

/-- The type that a parameter has to have; one may have any. -/
def Param.kind? : Param → Option Kind
  | .any => none
  | .array => some .array
  | .base64 => some .base64
  | .boolean => some .boolean
  | .dateTime => some .dateTime
  | .double => some .double
  | .int32 => some .int32
  | .int64 => some .int64
  | .string => some .string
  | .struct => some .struct

/-- The value is of the type that is asked for. -/
def Param.Accepts (p : Param) (v : Value) : Prop :=
  ∀ kind ∈ p.kind?, v.kind = kind

/-- The value that holds what a method gets. -/
def Param.value : (p : Param) → p.Carrier → Value
  | .any, v => v
  | .array, items => .array items
  | .base64, bytes => .base64 bytes
  | .boolean, b => .boolean b
  | .dateTime, t => .dateTime t
  | .double, x => .double x
  | .int32, n => .int32 n
  | .int64, n => .int64 n
  | .string, s => .string s
  | .struct, members => .struct members

/-- What a method with parameters of these types gets, in their order. -/
inductive Param.Arguments : List Param → Type
  | nil : Arguments []
  | cons {p : Param} {ps : List Param} : p.Carrier → Arguments ps → Arguments (p :: ps)

def Param.Arguments.values : {ps : List Param} → Param.Arguments ps → List Value
  | [], .nil => []
  | p :: _, .cons a rest => p.value a :: rest.values

/-- The function on all of its arguments. -/
def Param.Function.apply : {ps : List Param} → Param.Function ρ ps → Param.Arguments ps → ρ
  | [], result, .nil => result
  | _ :: _, f, .cons a rest => Param.Function.apply (f a) rest

def Param.Function.curry : {ps : List Param} → (Param.Arguments ps → ρ) → Param.Function ρ ps
  | [], g => g .nil
  | _ :: _, g => fun a => Param.Function.curry fun rest => g (.cons a rest)

/-- The function with a list, kept beside its state, of what it has been run on. -/
def Param.Function.traced {ps : List Param} (f : Param.Function (σ → Outcome × σ) ps) :
    Param.Function (σ × List (Param.Arguments ps) → Outcome × (σ × List (Param.Arguments ps))) ps :=
  Param.Function.curry fun args state =>
    ((f.apply args state.1).1, (f.apply args state.1).2, state.2 ++ [args])

theorem Param.Function.apply_curry {ps : List Param} (g : Param.Arguments ps → ρ) (args : Param.Arguments ps) :
    Param.Function.apply (Param.Function.curry g) args = g args := by
  induction args with
  | nil => rfl
  | cons a rest ih => exact ih fun rest => g (.cons a rest)

/-- A parameter is read as what its value holds, if this is of the type that is asked for. -/
theorem Param.read?_eq_some_iff {p : Param} {v : Value} {a : p.Carrier} : p.read? v = some a ↔ p.value a = v := by
  cases p with
  | any => exact Option.some.injEq v a ▸ eq_comm
  | array | base64 | boolean | dateTime | double | int32 | int64 | string | struct =>
    rcases v with ⟨_ | _ | _ | _ | _ | _ | _ | _⟩ | _ | _ <;>
      simp [Param.read?, Param.value, Value.asArray?, Value.asBase64?, Value.asBoolean?, Value.asDateTime?,
        Value.asDouble?, Value.asInt32?, Value.asInt64?, Value.asString?, Value.asStruct?, eq_comm]

/-- A type is what all its payloads have in common, and nothing else has it. -/
theorem Param.accepts_iff {p : Param} {v : Value} : p.Accepts v ↔ ∃ a : p.Carrier, p.value a = v := by
  cases p with
  | any => exact iff_of_true nofun ⟨v, rfl⟩
  | array | base64 | boolean | dateTime | double | int32 | int64 | string | struct =>
    rcases v with ⟨_ | _ | _ | _ | _ | _ | _ | _⟩ | _ | _ <;>
      simp [Param.Accepts, Param.kind?, Param.value, Value.kind, Atom.kind]

/-- Arguments are taken out of exactly the lists that have a value of the right type for each parameter. -/
theorem Param.accept_iff {ps : List Param} {params : List Value} :
    List.Forall₂ Param.Accepts ps params ↔ ∃ args : Param.Arguments ps, args.values = params := by
  constructor
  · intro accepted
    induction accepted with
    | nil => exact ⟨.nil, rfl⟩
    | cons first _ ih =>
      obtain ⟨a, rfl⟩ := Param.accepts_iff.mp first
      obtain ⟨rest, rfl⟩ := ih
      exact ⟨.cons a rest, rfl⟩
  · rintro ⟨args, rfl⟩
    induction args with
    | nil => exact .nil
    | cons a rest ih => exact .cons (Param.accepts_iff.mpr ⟨a, rfl⟩) ih

theorem Param.Arguments.values_inj {ps : List Param} {args others : Param.Arguments ps} :
    args.values = others.values ↔ args = others := by
  constructor
  · intro same
    induction args with
    | nil => cases others with | nil => rfl
    | cons a rest ih =>
      cases others with
      | cons b others =>
        obtain ⟨first, later⟩ := List.cons.inj same
        have read := Param.read?_eq_some_iff.mpr first
        rw [Param.read?_eq_some_iff.mpr rfl] at read
        rw [ih later, Option.some.inj read]
  · rintro rfl
    rfl

/-- A function is applied to arguments only, as many as it has parameters. -/
theorem Param.apply?_eq_some_iff {ps : List Param} {f : Param.Function ρ ps} {params : List Value} {result : ρ} :
    Param.apply? ps f params = some result ↔
      ∃ args : Param.Arguments ps, args.values = params ∧ f.apply args = result := by
  induction ps generalizing params with
  | nil =>
    cases params with
    | nil => exact ⟨fun same => ⟨.nil, rfl, Option.some.inj same⟩, by rintro ⟨⟨⟩, -, rfl⟩; rfl⟩
    | cons v vs => exact iff_of_false nofun (by rintro ⟨⟨⟩, none, -⟩; cases none)
  | cons p ps ih =>
    cases params with
    | nil => exact iff_of_false nofun (by rintro ⟨⟨⟩, none, -⟩; cases none)
    | cons v vs =>
      unfold Param.apply?
      rw [Option.bind_eq_some_iff]
      constructor
      · rintro ⟨a, read, inner⟩
        obtain ⟨rest, rfl, rfl⟩ := ih.mp inner
        exact ⟨.cons a rest, congrArg (· :: rest.values) (Param.read?_eq_some_iff.mp read), rfl⟩
      · rintro ⟨args, same, rfl⟩
        cases args with
        | cons a rest =>
          obtain ⟨rfl, rfl⟩ := List.cons.inj same
          exact ⟨a, Param.read?_eq_some_iff.mpr rfl, ih.mpr ⟨rest, rfl, rfl⟩⟩

/-- What a typed method does. -/
theorem Callable.run_typed {ps : List Param} (f : Param.Function (σ → Outcome × σ) ps) (r : Registry σ)
    (args : Param.Arguments ps) (s : σ) :
    (Callable.typed ps f).run r args.values s =
      ((f.apply args s).1.result, (f.apply args s).2) := by
  have applied : Param.apply? ps f args.values = some (f.apply args) :=
    Param.apply?_eq_some_iff.mpr ⟨args, rfl, rfl⟩
  simp only [Callable.typed, Callable.run, applied]

theorem Callable.run_typed_of_not_accept {ps : List Param} (f : Param.Function (σ → Outcome × σ) ps) (r : Registry σ)
    {params : List Value} (mismatch : ¬List.Forall₂ Param.Accepts ps params) (s : σ) :
    (Callable.typed ps f).run r params s = (.error .invalidParameters, s) := by
  have none : Param.apply? ps f params = none := by
    refine Option.eq_none_iff_forall_ne_some.mpr fun result applied => mismatch ?_
    obtain ⟨args, same, -⟩ := Param.apply?_eq_some_iff.mp applied
    exact Param.accept_iff.mpr ⟨args, same⟩
  simp only [Callable.typed, Callable.run, none]
  rfl

/-- A typed method runs its function, once, exactly if there is a value of the right type for each parameter and no
other. The function gets what these values hold, in their order, and the answer and the state are what comes of it, if
it faults or breaks down too. On all other lists the call is answered with invalid parameters and nothing is run. -/
theorem Registry.typed_runs_on_match {ps : List Param} {f : Param.Function (σ → Outcome × σ) ps} {r : Registry σ}
    {name : String} {m : Method σ} (found : r.method? name = some m) (typed : m.callable = .typed ps f) :
    (∀ params, List.Forall₂ Param.Accepts ps params ↔ ∃ args : Param.Arguments ps, args.values = params) ∧
    (∀ (args : Param.Arguments ps) id s,
      r.invoke name args.values id s = (⟨(f.apply args s).1.result, id⟩, (f.apply args s).2)) ∧
    (∀ params, ¬List.Forall₂ Param.Accepts ps params →
      ∀ id s, r.invoke name params id s = (⟨.error .invalidParameters, id⟩, s)) ∧
    ∀ (q : Registry (σ × List (Param.Arguments ps))) m', q.method? name = some m' → m'.callable = .typed ps f.traced →
      ∀ params id s runs, ∃ ran, q.invoke name params id (s, runs) =
          ((r.invoke name params id s).1, (r.invoke name params id s).2, runs ++ ran) ∧
        (ran = [] ↔ ¬List.Forall₂ Param.Accepts ps params) ∧
        ∀ args : Param.Arguments ps, ran = [args] ↔ args.values = params := by
  refine ⟨fun params => Param.accept_iff, fun args id s => ?_, fun params mismatch id s => ?_,
    fun q m' found' typed' params id s runs => ?_⟩
  · rw [Registry.invoke, Registry.run_of_found found, typed, Callable.run_typed]
  · rw [Registry.invoke, Registry.run_of_found found, typed, Callable.run_typed_of_not_accept f r mismatch]
  · rw [Registry.invoke, Registry.invoke, Registry.run_of_found found, typed, Registry.run_of_found found', typed']
    by_cases accepted : List.Forall₂ Param.Accepts ps params
    · obtain ⟨args, rfl⟩ := Param.accept_iff.mp accepted
      rw [Callable.run_typed, Callable.run_typed, Param.Function.traced, Param.Function.apply_curry]
      refine ⟨[args], rfl, iff_of_false (List.cons_ne_nil _ _) (not_not_intro accepted), fun others => ?_⟩
      rw [List.cons.injEq, and_iff_left rfl, Param.Arguments.values_inj, eq_comm]
    · rw [Callable.run_typed_of_not_accept f r accepted, Callable.run_typed_of_not_accept f.traced q accepted]
      refine ⟨[], by rw [List.append_nil], iff_of_true rfl accepted, fun args => ?_⟩
      exact iff_of_false (List.cons_ne_nil _ _).symm fun same => accepted (Param.accept_iff.mpr ⟨args, same⟩)

/-- Counts its runs, and faults on zero. -/
def Param.Function.guarded : Param.Function (Nat → Outcome × Nat) [.int32, .any] :=
  fun (n : Int32) (v : Value) count =>
    (if n = 0 then .fault (.application "zero" 1) else .value v, count + 1)

/-- A registry whose only method is of this type. -/
def Registry.guarding {τ : Type} (f : Param.Function (τ → Outcome × τ) [.int32, .any]) : Registry τ where
  methods := [("guard", { callable := .typed [.int32, .any] f })]
  tables := []

theorem Registry.typed_runs_on_match_guarded :
    List.Forall₂ Param.Accepts [.int32, .any] [.int32 0, .nil] ∧
      (Registry.guarding Param.Function.guarded).invoke "guard" [.int32 0, .nil] .nil 4 =
        (⟨.error (.application "zero" 1), .nil⟩, 5) ∧
      ¬List.Forall₂ Param.Accepts [.int32, .any] [.int64 0, .nil] ∧
      (Registry.guarding Param.Function.guarded).invoke "guard" [.int64 0, .nil] .nil 4 =
        (⟨.error .invalidParameters, .nil⟩, 4) ∧
      ∃ ran, (Registry.guarding Param.Function.guarded.traced).invoke "guard" [.int32 0, .nil] .nil (4, []) =
          (⟨.error (.application "zero" 1), .nil⟩, 5, [] ++ ran) ∧ ran ≠ [] := by
  have found {τ : Type} (f : Param.Function (τ → Outcome × τ) [.int32, .any]) :
      (Registry.guarding f).method? "guard" = some { callable := .typed [.int32, .any] f } := rfl
  obtain ⟨accepted, runs, refused, traced⟩ := Registry.typed_runs_on_match (found Param.Function.guarded) rfl
  let args : Param.Arguments [.int32, .any] := .cons (0 : Int32) (.cons Value.nil .nil)
  have zero : List.Forall₂ Param.Accepts [.int32, .any] [.int32 0, .nil] := (accepted _).mpr ⟨args, rfl⟩
  have wide : ¬List.Forall₂ Param.Accepts [.int32, .any] [.int64 0, .nil] := by
    simp [Param.Accepts, Param.kind?, Value.kind, Atom.kind]
  have faulted := runs args .nil 4
  obtain ⟨ran, invoked, none, -⟩ := traced _ _ (found Param.Function.guarded.traced) rfl args.values .nil 4 []
  rw [faulted] at invoked
  exact ⟨zero, faulted, wide, refused _ wide .nil 4, ran, invoked, mt none.mp (not_not_intro zero)⟩

end RemoteCall
