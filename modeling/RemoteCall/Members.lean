namespace RemoteCall

variable {α : Type}

/-- No name occurs twice, and names come in the order of their characters, which is also the
order of their UTF-8 bytes. Every operation below keeps this. -/
def Members.Ordered (members : List (String × α)) : Prop :=
  members.Pairwise fun a b => a.1 < b.1

def Members.find? (name : String) : List (String × α) → Option α
  | [] => none
  | (other, a) :: rest => if other = name then some a else Members.find? name rest

/-- An entry that was there under this name is replaced. -/
def Members.insert (name : String) (a : α) : List (String × α) → List (String × α)
  | [] => [(name, a)]
  | (other, b) :: rest =>
    if name < other then (name, a) :: (other, b) :: rest
    else if name = other then (name, a) :: rest
    else (other, b) :: Members.insert name a rest

/-- An entry that was there under this name is kept. -/
def Members.add (name : String) (a : α) : List (String × α) → List (String × α)
  | [] => [(name, a)]
  | (other, b) :: rest =>
    if name < other then (name, a) :: (other, b) :: rest
    else if name = other then (other, b) :: rest
    else (other, b) :: Members.add name a rest

def Members.erase (name : String) : List (String × α) → List (String × α)
  | [] => []
  | (other, a) :: rest => if other = name then rest else (other, a) :: Members.erase name rest

/-- The entries in order, where the last of equal names counts. They are placed from the last
to the first, so that entries which come in order already are placed in one step each. -/
def Members.ofList (entries : List (String × α)) : List (String × α) :=
  entries.foldr (fun entry members => Members.add entry.1 entry.2 members) []

def Members.names (members : List (String × α)) : List String :=
  members.map Prod.fst

end RemoteCall
