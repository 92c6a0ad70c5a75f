import RemoteCall.Text.Split

namespace RemoteCall

/-- A request as it is sent. The target is what stands between the method and the version on the
first line. -/
structure Http.Request where
  method : String := "POST"
  target : String
  contentType : Option String := none
  body : ByteArray := ByteArray.empty

structure Http.Response where
  status : Nat
  contentType : Option String := none
  allow : Option String := none
  body : String := ""

/-- The path of a target is all before the query or the fragment. A target that names a host too has
its path behind that, and one that names nothing else has none. -/
def Http.pathOf (target : List Char) : List Char :=
  let located := match target with
    | '/' :: _ => target
    | ['*'] => target
    | _ =>
      match splitAt? "://".toList target with
      | some (_, rest) =>
        match rest.dropWhile fun c => c != '/' && c != '?' && c != '#' with
        | '/' :: path => '/' :: path
        | query => '/' :: query
      | none => []
  located.takeWhile fun c => c != '?' && c != '#'

def Http.Request.path (r : Http.Request) : String :=
  String.ofList (Http.pathOf r.target.toList)

def Http.isHeaderSpace (c : Char) : Bool :=
  c == ' ' || c == '\t'

/-- The content type without the white space around it. One that is missing or has other
characters than printable ASCII and white space counts as empty. -/
def Http.Request.contentTypeText (r : Http.Request) : String :=
  match r.contentType with
  | none => ""
  | some value =>
    let kept := ((value.toList.dropWhile Http.isHeaderSpace).reverse.dropWhile Http.isHeaderSpace).reverse
    if kept.all fun c => c == '\t' || (0x20 ≤ c.toNat && c.toNat ≤ 0x7e) then String.ofList kept else ""

end RemoteCall
