namespace RemoteCall

/-- What stands before the first occurrence of the mark, and what follows that. The first list
holds what has been passed already, latest first. -/
def splitFrom (mark : List Char) : List Char → List Char → Option (List Char × List Char)
  | _, [] => none
  | passed, c :: cs =>
    if mark.isPrefixOf (c :: cs) then some (passed.reverse, (c :: cs).drop mark.length)
    else splitFrom mark (c :: passed) cs

def splitAt? (mark cs : List Char) : Option (List Char × List Char) :=
  splitFrom mark [] cs

theorem splitFrom_length {mark passed cs before rest : List Char}
    (found : splitFrom mark passed cs = some (before, rest)) : rest.length ≤ cs.length := by
  induction cs generalizing passed with
  | nil => simp [splitFrom] at found
  | cons c cs ih =>
    rw [splitFrom] at found
    split at found
    · simp only [Option.some.injEq, Prod.mk.injEq] at found
      simp [← found.2]
    · exact Nat.le_succ_of_le (ih found)

/-- The parts of a text between separators; one part more than there are separators. -/
def pieces (separates : Char → Bool) (cs : List Char) : List (List Char) :=
  cs.foldr
    (fun c parts =>
      if separates c then [] :: parts
      else match parts with
        | [] => [[c]]
        | first :: rest => (c :: first) :: rest)
    [[]]

end RemoteCall
