import RemoteCall.Http.Url.Percent
import RemoteCall.Text.Split

namespace RemoteCall

/-- The part of a path that stays where it is. -/
def Http.isDot (part : List Char) : Bool :=
  [".".toList, "%2e".toList].contains (part.map Char.toLower)

/-- The part of a path that goes back by one. -/
def Http.isDoubleDot (part : List Char) : Bool :=
  ["..".toList, ".%2e".toList, "%2e.".toList, "%2e%2e".toList].contains (part.map Char.toLower)

/-- A letter and a colon or bar, as drives of a disk are called. -/
def Http.isDrive : List Char → Bool
  | [letter, mark] => letter.isAlpha && (mark == ':' || mark == '|')
  | _ => false

/-- One step back from the parts so far, the latest first, but never from a drive. -/
def Http.stepBack : List (List Char) → List (List Char)
  | [] => []
  | last :: before => if Http.isDrive last then last :: before else before

/-- The parts of a path without those that only move in it. Such a one at the end leaves an empty
part. -/
def Http.resolveParts (done : List (List Char)) : List (List Char) → List (List Char)
  | [] => done.reverse
  | part :: rest =>
    let moved := if Http.isDoubleDot part then Http.stepBack done else done
    if Http.isDot part || Http.isDoubleDot part then
      if rest.isEmpty then ([] :: moved).reverse else Http.resolveParts moved rest
    else Http.resolveParts (part :: done) rest

/-- An absolute path in normal form; the empty path is the root. -/
def Http.normalPath (cs : List Char) : List Char :=
  let parts := Http.resolveParts [] (pieces (fun c => c == '/' || c == '\\') (cs.drop 1))
  '/' :: ['/'].intercalate (parts.map (Http.percentEncode Http.pathMarks))

end RemoteCall
