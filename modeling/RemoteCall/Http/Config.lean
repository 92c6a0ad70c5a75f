import RemoteCall.Http.Client
import RemoteCall.Http.Server
import RemoteCall.Json.Skip

namespace RemoteCall

/-- What a setting of a configuration can be. -/
inductive Http.SettingType where
  | address
  | flag
  | format
  | number
  | text

inductive Http.Setting where
  | address (a : Http.Address)
  | flag (b : Bool)
  | format (f : Format)
  | number (n : Nat)
  | text (s : String)

def Http.formatNamed? : String → Option Format
  | "xml" => some .xml
  | "json" => some .json
  | _ => none

/-- A format by its name, which may also be the only member of an object whose value is null. -/
def Http.format? (cs : List Char) : Option (Format × List Char) :=
  match Json.skipSpace cs with
  | '\x7b' :: cs => do
    let (name, cs) ← Json.quoted? cs
    let format ← Http.formatNamed? name
    match Json.skipSpace cs with
    | ':' :: cs =>
      let (_, cs) ← Json.word? "null".toList .null (Json.skipSpace cs)
      match Json.skipSpace cs with
      | '\x7d' :: cs => some (format, cs)
      | _ => none
    | _ => none
  | cs => do
    let (name, cs) ← Json.quoted? cs
    let format ← Http.formatNamed? name
    return (format, cs)

/-- A number of 64 bits without sign, fraction and power. -/
def Http.number? (cs : List Char) : Option (Nat × List Char) := do
  let (numeral, rest) ← Json.numeral? (Json.skipSpace cs)
  if numeral.negative || !numeral.fraction.isEmpty || numeral.power.isSome then none
  else
    let n := Digits.value numeral.whole
    if n < Nat.pow 2 64 then some (n, rest) else none

def Http.flag? (cs : List Char) : Option (Bool × List Char) :=
  match Json.valueFrom 0 0 cs with
  | some (.boolean b, rest) => some (b, rest)
  | _ => none

/-- The value of a setting at the front of the text, and what follows it. -/
def Http.Setting.read? (type : Http.SettingType) (cs : List Char) : Option (Http.Setting × List Char) :=
  match type with
  | .address => do
    let (s, rest) ← Json.quoted? cs
    let a ← Http.Address.ofText? s.toList
    return (.address a, rest)
  | .flag => (Http.flag? cs).map fun (b, rest) => (.flag b, rest)
  | .format => (Http.format? cs).map fun (f, rest) => (.format f, rest)
  | .number => (Http.number? cs).map fun (n, rest) => (.number n, rest)
  | .text => (Json.quoted? cs).map fun (s, rest) => (.text s, rest)

/-- Reads the members of an object from behind its opening brace. A setting may occur once;
members of other names are skipped. -/
def Http.Setting.named? (types : List (String × Http.SettingType)) :
    Nat → List (String × Http.Setting) → List Char → Option (List (String × Http.Setting) × List Char)
  | 0, _, _ => none
  | count + 1, found, cs => do
    let (name, cs) ← Json.quoted? cs
    match Json.skipSpace cs with
    | ':' :: cs =>
      let (found, cs) ← match Members.find? name types with
        | none => (Json.skip? cs).map fun rest => (found, rest)
        | some type =>
          if (Members.find? name found).isSome then none
          else (Http.Setting.read? type cs).map fun (setting, rest) => ((name, setting) :: found, rest)
      match Json.skipSpace cs with
      | ',' :: cs => Http.Setting.named? types count found cs
      | '\x7d' :: cs => some (found, cs)
      | _ => none
    | _ => none

/-- Reads the items of an array from behind its opening bracket, one for each setting in turn. -/
def Http.Setting.listed? : List Http.SettingType → List Char → Option (List Http.Setting × List Char)
  | [], _ => none
  | type :: types, cs => do
    let (setting, cs) ← Http.Setting.read? type cs
    match Json.skipSpace cs, types with
    | ']' :: cs, [] => some ([setting], cs)
    | ',' :: cs, _ :: _ =>
      let (more, cs) ← Http.Setting.listed? types cs
      return (setting :: more, cs)
    | _, _ => none

/-- The settings of an object in the order of the types; none may be missing. -/
def Http.Setting.object? (types : List (String × Http.SettingType)) (cs : List Char) :
    Option (List Http.Setting × List Char) := do
  let (found, rest) ← Http.Setting.named? types cs.length [] cs
  let settings ← types.mapM fun (name, _) => Members.find? name found
  return (settings, rest)

/-- Reads the settings of these names and types in their order, from an object or from an array
of exactly these. -/
def Http.Setting.all? (types : List (String × Http.SettingType)) (text : List Char) :
    Option (List Http.Setting) := do
  let (settings, rest) ← match Json.skipSpace text with
    | '\x7b' :: cs => Http.Setting.object? types cs
    | '[' :: cs => Http.Setting.listed? (types.map Prod.snd) cs
    | _ => none
  if (Json.skipSpace rest).isEmpty then some settings else none

def Http.ClientConfig.ofText? (text : List Char) : Option Http.ClientConfig :=
  let types := [("format", .format), ("timeout", .number), ("user_agent", .text), ("max_redirects", .number)]
  match Http.Setting.all? types text with
  | some [.format format, .number timeout, .text userAgent, .number maxRedirects] =>
    some { format, timeout, userAgent, maxRedirects }
  | _ => none

def Http.ServerConfig.ofText? (text : List Char) : Option Http.ServerConfig :=
  let types := [("bind_address", .address), ("path", .text), ("max_body_size", .number),
    ("enable_xml", .flag), ("enable_json", .flag), ("introspection", .flag)]
  match Http.Setting.all? types text with
  | some [.address bindAddress, .text path, .number maxBodySize, .flag xml, .flag json, .flag introspection] =>
    some { bindAddress, path, maxBodySize, xml, json, introspection }
  | _ => none

end RemoteCall
