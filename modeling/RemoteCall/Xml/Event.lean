import RemoteCall.Text.Split
import RemoteCall.Xml.Escape

namespace RemoteCall

/-- One piece of a document. Comments, processing instructions, declarations and document types
are `ignored`. -/
inductive Xml.Event where
  | start (name : String) (empty : Bool)
  | finish (name : String)
  | text (content : List Char)
  | characters (content : List Char)
  | ignored

/-- The white space that ends a name. -/
def Xml.isSpace (c : Char) : Bool :=
  c == ' ' || c == '\t' || c == '\r' || c == '\n'

/-- The inside of a tag up to the first `>` that is not quoted, and what follows. The first
argument is the quotation mark that is open. -/
def Xml.tagFrom : Option Char → List Char → List Char → Option (List Char × List Char)
  | _, _, [] => none
  | none, passed, c :: cs =>
    if c = '>' then some (passed.reverse, cs)
    else Xml.tagFrom (if c = '\'' ∨ c = '"' then some c else none) (c :: passed) cs
  | some quote, passed, c :: cs =>
    Xml.tagFrom (if c = quote then none else some quote) (c :: passed) cs

/-- The inside of a document type up to the `>` that balances the `<` before it. -/
def Xml.docTypeFrom : Nat → List Char → List Char → Option (List Char × List Char)
  | _, _, [] => none
  | depth, passed, c :: cs =>
    if c = '<' then Xml.docTypeFrom (depth + 1) (c :: passed) cs
    else if c = '>' then
      if depth = 0 then some (passed.reverse, cs) else Xml.docTypeFrom (depth - 1) (c :: passed) cs
    else Xml.docTypeFrom depth (c :: passed) cs

/-- A start tag. The name runs to the first white space, and attributes are of no interest. -/
def Xml.Event.ofStartTag (inside : List Char) : Xml.Event :=
  match inside.reverse with
  | '/' :: body => .start (String.ofList (body.reverse.takeWhile fun c => !Xml.isSpace c)) true
  | _ => .start (String.ofList (inside.takeWhile fun c => !Xml.isSpace c)) false

/-- An end tag, by what follows its `/`. White space behind a name is no part of it, but white space
alone is. -/
def Xml.Event.ofEndTag (inside : List Char) : Xml.Event :=
  .finish (String.ofList
    (if inside.all Xml.isSpace then inside else (inside.reverse.dropWhile Xml.isSpace).reverse))

/-- What begins with `<!`: a comment, a run of plain characters or a document type. -/
def Xml.Event.declaration? (cs : List Char) : Option (Xml.Event × List Char) :=
  match cs with
  | '-' :: '-' :: rest =>
    (splitAt? "-->".toList rest).map fun (_, rest) => (.ignored, rest)
  | '[' :: 'C' :: 'D' :: 'A' :: 'T' :: 'A' :: '[' :: rest =>
    (splitAt? "]]>".toList rest).map fun (content, rest) => (.characters content, rest)
  | _ =>
    if (cs.take 7).map Char.toUpper = "DOCTYPE".toList then
      match Xml.docTypeFrom 0 [] (cs.drop 7) with
      | some (inside, rest) => if inside.all Xml.isSpace then none else some (.ignored, rest)
      | none => none
    else none

/-- What begins with `<?`; it may not end at once. -/
def Xml.Event.instruction? : List Char → Option (Xml.Event × List Char)
  | '>' :: _ => none
  | cs => (splitAt? "?>".toList cs).map fun (_, rest) => (.ignored, rest)

/-- The first piece of a document that is not empty, and what follows it. -/
def Xml.Event.next? : List Char → Option (Xml.Event × List Char)
  | '<' :: '!' :: cs => Xml.Event.declaration? cs
  | '<' :: '?' :: cs => Xml.Event.instruction? cs
  | '<' :: '/' :: cs =>
    (Xml.tagFrom none [] cs).map fun (inside, rest) => (.ofEndTag inside, rest)
  | '<' :: cs =>
    (Xml.tagFrom none [] cs).map fun (inside, rest) => (.ofStartTag inside, rest)
  | cs =>
    (Xml.unescape? (cs.takeWhile (· != '<'))).map fun content =>
      (.text content, cs.dropWhile (· != '<'))

end RemoteCall
