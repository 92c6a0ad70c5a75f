import RemoteCall.Http.Url.Authority
import RemoteCall.Http.Url.Path

namespace RemoteCall

/-- The location of an endpoint. A port that is the usual one of the scheme is left out. -/
structure Http.Url where
  scheme : String
  authority : Http.Authority
  path : String
  query : Option String
  fragment : Option String

/-- The scheme in lower case, and what follows its colon. -/
def Http.scheme? (cs : List Char) : Option (String × List Char) :=
  match splitAt? [':'] cs with
  | some (c :: name, rest) =>
    if c.isAlpha && name.all fun c => c.isAlphanum || c == '+' || c == '-' || c == '.' then
      some (String.ofList ((c :: name).map Char.toLower), rest)
    else none
  | _ => none

def Http.isSlash (c : Char) : Bool :=
  c == '/' || c == '\\'

def Http.optionalPart (special : List Char) (mark : Char) : List Char → Option String
  | [] => none
  | c :: cs => if c = mark then some (String.ofList (Http.percentEncode special cs)) else none

/-- A location without blanks and controls at its ends, and without line ends and tabs. -/
def Http.tidied (text : List Char) : List Char :=
  let text := ((text.dropWhile (·.toNat ≤ 0x20)).reverse.dropWhile (·.toNat ≤ 0x20)).reverse
  text.filter fun c => c != '\t' && c != '\n' && c != '\r'

/-- The location of a scheme of the net by what follows its colon. Any number of slashes may come
first. -/
def Http.Url.ofNet (scheme : String) (cs : List Char) : Except Http.UrlError Http.Url := do
  let (authority, rest) ← Http.Authority.read scheme (cs.dropWhile Http.isSlash)
  let path := rest.takeWhile fun c => c != '?' && c != '#'
  let rest := rest.dropWhile fun c => c != '?' && c != '#'
  return {
    scheme
    authority
    path := String.ofList (Http.normalPath path)
    query := Http.optionalPart Http.queryMarks '?' (rest.takeWhile (· != '#'))
    fragment := Http.optionalPart Http.fragmentMarks '#' (rest.dropWhile (· != '#')) }

/-- A file may name a host, unless a drive stands there. -/
def Http.checkFile (cs : List Char) : Except Http.UrlError Unit :=
  let host := (cs.drop 2).takeWhile fun c => !Http.isSlash c && c != '?' && c != '#'
  if !(cs.take 2).all Http.isSlash || host.isEmpty || Http.isDrive host then .ok ()
  else (Http.hostName host).map fun _ => ()

/-- In other schemes an authority stands behind two slashes. -/
def Http.checkOther (scheme : String) (cs : List Char) : Except Http.UrlError Unit :=
  match cs with
  | '/' :: '/' :: rest => (Http.Authority.read scheme rest).map fun _ => ()
  | _ => .ok ()

/-- Reads the location of an endpoint. A text that is no location at all is refused for that, before
its scheme is. -/
def Http.Url.ofText (text : List Char) : Except Http.UrlError Http.Url :=
  match Http.scheme? (Http.tidied text) with
  | none => .error .noScheme
  | some (scheme, rest) => do
    match Http.SchemeKind.of scheme with
    | .net =>
      let url ← Http.Url.ofNet scheme rest
      if scheme = "http" ∨ scheme = "https" then return url
    | .file => Http.checkFile rest
    | .other => Http.checkOther scheme rest
    throw (.unsupportedScheme scheme)

/-- The path with the query, as a request names it. -/
def Http.Url.target (u : Http.Url) : String :=
  u.path ++ match u.query with
    | some query => "?" ++ query
    | none => ""

/-- The part of a location that names the host. -/
def Http.Url.origin (u : Http.Url) : String :=
  u.scheme ++ "://" ++ u.authority.text

def Http.Url.text (u : Http.Url) : String :=
  let fragment := match u.fragment with
    | some fragment => "#" ++ fragment
    | none => ""
  u.origin ++ u.target ++ fragment

/-- The location that a redirection names: a whole one, one without its scheme, or one on the same
host. -/
def Http.Url.follow (u : Http.Url) (location : List Char) : Except Http.UrlError Http.Url :=
  let location := Http.tidied location
  let relative := match Http.scheme? location with
    | some (scheme, rest) =>
      if scheme = u.scheme ∧ (rest.takeWhile Http.isSlash).length < 2 then some rest else none
    | none => some location
  let folder := (u.path.toList.reverse.dropWhile (· != '/')).reverse
  match relative with
  | none => Http.Url.ofText location
  | some rest =>
    let front := match rest with
      | [] => u.target.toList
      | '?' :: _ => u.path.toList
      | '#' :: _ => u.target.toList
      | c :: _ => if Http.isSlash c then [] else folder
    if 2 ≤ (rest.takeWhile Http.isSlash).length then Http.Url.ofText (u.scheme.toList ++ ':' :: rest)
    else Http.Url.ofText (u.origin.toList ++ front ++ rest)

end RemoteCall
