import RemoteCall.Proofs.DateTime
import RemoteCall.Proofs.Members
import RemoteCall.Value

namespace RemoteCall

/-- Induction over a value, where the parts of a container are the members of its list. -/
theorem Value.induct {P : Value → Prop} (atom : ∀ a, P (.atom a))
    (array : ∀ items, (∀ v ∈ items, P v) → P (.array items))
    (struct : ∀ members, (∀ entry ∈ members, P entry.2) → P (.struct members)) (v : Value) : P v := by
  refine @Value.rec P (fun items => ∀ v ∈ items, P v) (fun members => ∀ entry ∈ members, P entry.2)
    (fun entry => P entry.2) atom array struct ?_ ?_ ?_ ?_ ?_ v
  · simp
  · intro v items first rest w member
    rcases List.mem_cons.mp member with rfl | later
    · exact first
    · exact rest w later
  · simp
  · intro entry members first rest other member
    rcases List.mem_cons.mp member with rfl | later
    · exact first
    · exact rest other later
  · intro name v inner
    exact inner

mutual

/-- All values without parts that stand somewhere in a value. -/
def Value.atoms : Value → List Atom
  | .atom a => [a]
  | .array items => Value.atomsOfItems items
  | .struct members => Value.atomsOfMembers members

def Value.atomsOfItems : List Value → List Atom
  | [] => []
  | v :: rest => v.atoms ++ Value.atomsOfItems rest

def Value.atomsOfMembers : List (String × Value) → List Atom
  | [] => []
  | (_, v) :: rest => v.atoms ++ Value.atomsOfMembers rest

end

mutual

/-- How many containers stand inside one another at most. -/
def Value.depth : Value → Nat
  | .atom _ => 0
  | .array items => Value.depthOfItems items + 1
  | .struct members => Value.depthOfMembers members + 1

def Value.depthOfItems : List Value → Nat
  | [] => 0
  | v :: rest => max v.depth (Value.depthOfItems rest)

def Value.depthOfMembers : List (String × Value) → Nat
  | [] => 0
  | (_, v) :: rest => max v.depth (Value.depthOfMembers rest)

end

def Atom.wholeSeconds : Atom → Atom
  | .dateTime t => .dateTime t.wholeSecond
  | a => a

/-- The text of the atom tells all of it, also if it is a date/time. -/
def Atom.Shown : Atom → Prop
  | .dateTime t => t.shown = t
  | _ => True

theorem Atom.Shown.whole {a : Atom} (shown : a.Shown) : a.wholeSeconds = a := by
  cases a with
  | dateTime t =>
    have whole := (DateTime.shown_eq_self_iff.mp shown).1
    exact congrArg Atom.dateTime (DateTime.wholeSecond_eq_self_iff.mpr whole)
  | _ => rfl

mutual

/-- The value with each of its date/times cut to the whole second. Structs are put together from
their members again, which changes nothing where these are in order. -/
def Value.wholeSeconds : Value → Value
  | .atom a => .atom a.wholeSeconds
  | .array items => .array (Value.wholeSecondsOfItems items)
  | .struct members => Value.ofMembers (Value.wholeSecondsOfMembers members)

def Value.wholeSecondsOfItems : List Value → List Value
  | [] => []
  | v :: rest => v.wholeSeconds :: Value.wholeSecondsOfItems rest

def Value.wholeSecondsOfMembers : List (String × Value) → List (String × Value)
  | [] => []
  | (name, v) :: rest => (name, v.wholeSeconds) :: Value.wholeSecondsOfMembers rest

end

theorem Value.mem_atoms_array {a : Atom} {items : List Value} :
    a ∈ (Value.array items).atoms ↔ ∃ v ∈ items, a ∈ v.atoms := by
  rw [Value.atoms]
  induction items with
  | nil => simp [Value.atomsOfItems]
  | cons v rest ih => simp only [Value.atomsOfItems, List.mem_append, ih, List.mem_cons, exists_eq_or_imp]

theorem Value.mem_atoms_struct {a : Atom} {members : List (String × Value)} :
    a ∈ (Value.struct members).atoms ↔ ∃ entry ∈ members, a ∈ entry.2.atoms := by
  rw [Value.atoms]
  induction members with
  | nil => simp [Value.atomsOfMembers]
  | cons entry rest ih => simp only [Value.atomsOfMembers, List.mem_append, ih, List.mem_cons, exists_eq_or_imp]

theorem Value.orderedItems_iff {items : List Value} : Value.OrderedItems items ↔ ∀ v ∈ items, v.Ordered := by
  induction items with
  | nil => simp [Value.OrderedItems]
  | cons v rest ih => simp only [Value.OrderedItems, ih, List.mem_cons, forall_eq_or_imp]

theorem Value.orderedMembers_iff {members : List (String × Value)} :
    Value.OrderedMembers members ↔ ∀ entry ∈ members, entry.2.Ordered := by
  induction members with
  | nil => simp [Value.OrderedMembers]
  | cons entry rest ih => simp only [Value.OrderedMembers, ih, List.mem_cons, forall_eq_or_imp]

theorem Value.ordered_array_iff {items : List Value} :
    (Value.array items).Ordered ↔ ∀ v ∈ items, v.Ordered := by
  rw [Value.Ordered, Value.orderedItems_iff]

theorem Value.ordered_struct_iff {members : List (String × Value)} :
    (Value.struct members).Ordered ↔ Members.Ordered members ∧ ∀ entry ∈ members, entry.2.Ordered := by
  rw [Value.Ordered, Value.orderedMembers_iff]

theorem Value.wholeSecondsOfItems_eq_map (items : List Value) :
    Value.wholeSecondsOfItems items = items.map Value.wholeSeconds := by
  induction items with
  | nil => rfl
  | cons v rest ih => rw [Value.wholeSecondsOfItems, ih, List.map_cons]

theorem Value.wholeSecondsOfMembers_eq_map (members : List (String × Value)) :
    Value.wholeSecondsOfMembers members = members.map fun entry => (entry.1, entry.2.wholeSeconds) := by
  induction members with
  | nil => rfl
  | cons entry rest ih => rw [Value.wholeSecondsOfMembers, ih, List.map_cons]

theorem Value.depth_lt_array {v : Value} {items : List Value} (member : v ∈ items) :
    v.depth < (Value.array items).depth := by
  rw [Value.depth]
  induction items with
  | nil => cases member
  | cons first rest ih =>
    rw [Value.depthOfItems]
    rcases List.mem_cons.mp member with rfl | later
    · omega
    · have := ih later
      omega

theorem Value.depth_lt_struct {entry : String × Value} {members : List (String × Value)}
    (member : entry ∈ members) : entry.2.depth < (Value.struct members).depth := by
  rw [Value.depth]
  induction members with
  | nil => cases member
  | cons first rest ih =>
    rw [Value.depthOfMembers]
    rcases List.mem_cons.mp member with rfl | later
    · omega
    · have := ih later
      omega

theorem Value.depthOfItems_le {n : Nat} {items : List Value} :
    Value.depthOfItems items ≤ n ↔ ∀ v ∈ items, v.depth ≤ n := by
  induction items with
  | nil => simp [Value.depthOfItems]
  | cons v rest ih => simp only [Value.depthOfItems, Nat.max_le, ih, List.mem_cons, forall_eq_or_imp]

theorem Value.depthOfMembers_le {n : Nat} {members : List (String × Value)} :
    Value.depthOfMembers members ≤ n ↔ ∀ entry ∈ members, entry.2.depth ≤ n := by
  induction members with
  | nil => simp [Value.depthOfMembers]
  | cons entry rest ih => simp only [Value.depthOfMembers, Nat.max_le, ih, List.mem_cons, forall_eq_or_imp]

theorem map_eq_self_iff {γ : Type} {f : γ → γ} {xs : List γ} : xs.map f = xs ↔ ∀ x ∈ xs, f x = x := by
  rw [← List.map_inj_left, List.map_id']

/-- A value of whole seconds in which structs are in order stays as it is. -/
theorem Value.wholeSeconds_eq_self {v : Value} (ordered : v.Ordered)
    (whole : ∀ a ∈ v.atoms, a.wholeSeconds = a) : v.wholeSeconds = v := by
  induction v using Value.induct with
  | atom a => rw [Value.wholeSeconds, whole a (by simp [Value.atoms])]
  | array items ih =>
    have parts := Value.ordered_array_iff.mp ordered
    have same : items.map Value.wholeSeconds = items :=
      map_eq_self_iff.mpr fun v member => ih v member (parts v member) fun a inside =>
        whole a (Value.mem_atoms_array.mpr ⟨v, member, inside⟩)
    rw [Value.wholeSeconds, Value.wholeSecondsOfItems_eq_map, same]
  | struct members ih =>
    obtain ⟨inOrder, parts⟩ := Value.ordered_struct_iff.mp ordered
    have same : (members.map fun entry => (entry.1, entry.2.wholeSeconds)) = members :=
      map_eq_self_iff.mpr fun entry member => by
        rw [ih entry member (parts entry member) fun a inside =>
          whole a (Value.mem_atoms_struct.mpr ⟨entry, member, inside⟩)]
    rw [Value.wholeSeconds, Value.wholeSecondsOfMembers_eq_map, same, Value.ofMembers,
      Members.ofList_of_ordered inOrder]

end RemoteCall
