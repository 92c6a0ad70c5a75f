import RemoteCall.Http.Url.Host

namespace RemoteCall

/-- Schemes of the net share their rules for hosts, files may do without one, and all others have rules of
their own. -/
inductive Http.SchemeKind where
  | net
  | file
  | other
deriving DecidableEq

def Http.SchemeKind.of (scheme : String) : Http.SchemeKind :=
  if ["http", "https", "ws", "wss", "ftp"].contains scheme then .net
  else if scheme = "file" then .file
  else .other

/-- The port that a location leaves out. -/
def Http.usualPort? (scheme : String) : Option Nat :=
  match scheme with
  | "http" | "ws" => some 80
  | "https" | "wss" => some 443
  | "ftp" => some 21
  | _ => none

/-- Who asks which host at which port. Names are in their one way of writing. -/
structure Http.Authority where
  user : String := ""
  password : String := ""
  host : String
  port : Option Nat := none

/-- Where the authority of a location ends. -/
def Http.endsAuthority (kind : Http.SchemeKind) (c : Char) : Bool :=
  c == '/' || c == '?' || c == '#' || (c == '\\' && kind ≠ .other)

/-- The length of the host at the front: up to a colon that is not in brackets. -/
def Http.hostLength (bracketed : Bool) (length : Nat) : List Char → Nat
  | [] => length
  | c :: cs =>
    if c = ':' ∧ !bracketed then length
    else Http.hostLength (c = '[' || (bracketed && c ≠ ']')) (length + 1) cs

def Http.port? (scheme : String) (cs : List Char) : Except Http.UrlError (Option Nat) :=
  if cs.isEmpty then .ok none
  else match Digits.nat? cs with
    | none => .error .invalidPort
    | some n =>
      if 65535 < n then .error .invalidPort
      else .ok (if some n = Http.usualPort? scheme then none else some n)

/-- What stands before the last `@`, and what follows it. -/
def Http.splitUser (cs : List Char) : List Char × List Char :=
  let host := (cs.reverse.takeWhile (· != '@')).reverse
  (cs.take (cs.length - host.length - 1), host)

/-- Reads a host and port behind the name of a user. Only schemes with rules of their own do without
a host, and only where no user and port are given. -/
def Http.Authority.ofHost (scheme : String) (user password cs : List Char) : Except Http.UrlError Http.Authority := do
  let kind := Http.SchemeKind.of scheme
  let length := Http.hostLength false 0 cs
  let host := cs.take length
  let port := cs.drop length
  if host.isEmpty ∧ (kind = .net ∨ !port.isEmpty) then throw .emptyHost
  let host ← if kind = .net then Http.hostName host else Http.opaqueHost host
  let port ← Http.port? scheme ((port.drop 1).takeWhile (· != '\\'))
  if host.isEmpty ∧ !(user.isEmpty && password.isEmpty) then throw .emptyHost
  return { user := String.ofList user, password := String.ofList password, host := String.ofList host, port }

/-- Reads the authority at the front of a text, and gives the rest of it. -/
def Http.Authority.read (scheme : String) (cs : List Char) : Except Http.UrlError (Http.Authority × List Char) := do
  let isEnd := Http.endsAuthority (Http.SchemeKind.of scheme)
  let text := cs.takeWhile fun c => !isEnd c
  let rest := cs.dropWhile fun c => !isEnd c
  let (login, host) := Http.splitUser text
  if text = ['@'] ∧ !rest.isEmpty then throw .emptyHost
  let user := Http.percentEncode Http.userMarks (login.takeWhile (· != ':'))
  let password := Http.percentEncode Http.userMarks ((login.dropWhile (· != ':')).drop 1)
  let authority ← Http.Authority.ofHost scheme user password host
  return (authority, rest)

def Http.Authority.text (a : Http.Authority) : String :=
  let password := if a.password.isEmpty then "" else ":" ++ a.password
  let login := a.user ++ password
  let port := match a.port with
    | some port => String.ofList (':' :: Digits.ofNat port)
    | none => ""
  (if login.isEmpty then "" else login ++ "@") ++ a.host ++ port

end RemoteCall
