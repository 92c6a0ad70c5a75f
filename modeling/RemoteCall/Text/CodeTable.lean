import RemoteCall.Text.Digits
import RemoteCall.Text.Split

namespace RemoteCall

/-- Code points from `first` to `last`, all of them or every second one, and what is known of
them. -/
structure CodeRun where
  first : Nat
  last : Nat
  step : Nat
  values : List Nat

/-- Runs of code points in increasing order, no two of which overlap. -/
abbrev CodeTable := Array CodeRun

/-- A run in writing: `first`, `first-last`, or `first/last` for every second code point; values may
follow behind `=`, with commas between them. Numbers are hexadecimal. -/
def CodeRun.ofWord? (word : List Char) : Option CodeRun := do
  let head := word.takeWhile (· != '=')
  let tail := (word.dropWhile (· != '=')).drop 1
  let start := head.takeWhile fun c => c != '-' && c != '/'
  let first ← Digits.hex? start
  let last ← if start.length < head.length then Digits.hex? (head.drop (start.length + 1)) else first
  let values ← if tail.isEmpty then some [] else (pieces (· == ',') tail).mapM Digits.hex?
  return { first, last, step := if head.contains '/' then 2 else 1, values }

/-- A table from its runs in writing, with blanks and line ends between them. -/
def CodeTable.ofText (text : String) : CodeTable :=
  ((pieces (fun c => c == ' ' || c == '\n') text.toList).filterMap CodeRun.ofWord?).toArray

def CodeRun.has (run : CodeRun) (n : Nat) : Bool :=
  run.first ≤ n && n ≤ run.last && (n - run.first) % run.step == 0

/-- Where, from `low` and before `high`, the last run stands that does not begin after `n`. -/
def CodeTable.search (table : CodeTable) (n low high : Nat) : Nat :=
  if high ≤ low + 1 then low
  else
    let middle := (low + high) / 2
    if (table[middle]?.map CodeRun.first).getD 0 ≤ n then table.search n middle high
    else table.search n low middle
termination_by high - low

/-- The run that has the code point. -/
def CodeTable.run? (table : CodeTable) (n : Nat) : Option CodeRun :=
  table[table.search n 0 table.size]?.filter (·.has n)

def CodeTable.contains (table : CodeTable) (c : Char) : Bool :=
  (table.run? c.toNat).isSome

end RemoteCall
