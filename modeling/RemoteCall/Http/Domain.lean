import RemoteCall.Http.Domain.Direction
import RemoteCall.Http.Domain.Joining
import RemoteCall.Http.Domain.Mapping
import RemoteCall.Text.Punycode

namespace RemoteCall

/-- Controls, the blank, and the signs that part a location: no domain has them. -/
def Http.Domain.isForbidden (c : Char) : Bool :=
  c.toNat ≤ 0x20 || c.toNat == 0x7f || "%#/:<>?@[\\]^|".toList.contains c

def Http.Domain.isAscii (cs : List Char) : Bool :=
  cs.all fun c => c.toNat < 128

/-- What marks a label in ASCII that stands for another text. -/
def Http.Domain.codeMark : List Char :=
  "xn--".toList

/-- A part of a domain between dots: what it is in ASCII, and the text it stands for. -/
structure Http.Domain.Label where
  ascii : List Char
  text : List Char

/-- A text that could stand between dots as it is. -/
def Http.Domain.isSettled (text : List Char) : Bool :=
  text.all (fun c => Http.Domain.mapped? c == some [c] && !Http.Domain.isForbidden c && c != '.') &&
    Canonical.compose text == text && !Http.Domain.codeMark.isPrefixOf text

/-- A label whose text has to be read from its ASCII. -/
def Http.Domain.Label.decoded? (label : List Char) : Option Http.Domain.Label := do
  let written := label.drop Http.Domain.codeMark.length
  if written.isEmpty || written.getLast? == some '-' || !Http.Domain.isAscii written || 2000 < written.length then
    none
  else
    let text ← Punycode.decode? written
    if Http.Domain.isSettled text then some ⟨label, text⟩ else none

def Http.Domain.Label.of? (label : List Char) : Option Http.Domain.Label :=
  if Http.Domain.codeMark.isPrefixOf label then Http.Domain.Label.decoded? label
  else if Http.Domain.isAscii label then some ⟨label, label⟩
  else if 1000 < label.length then none
  else some ⟨Http.Domain.codeMark ++ Punycode.encode label, label⟩

/-- A label beyond ASCII does not begin with a mark, and its joiners have something to join. -/
def Http.Domain.Label.isValid (label : Http.Domain.Label) : Bool :=
  Http.Domain.isAscii label.text ||
    (!(label.text.head?.map isMark).getD false && Http.Domain.joinersFit [] label.text)

/-- A domain in ASCII. Its characters are replaced by plain ones and composed before it is cut into
labels. -/
def Http.Domain.ascii? (domain : List Char) : Option (List Char) := do
  let mapped ← domain.mapM Http.Domain.mapped?
  let text := Canonical.compose mapped.flatten
  let labels ← (pieces (· == '.') text).mapM Http.Domain.Label.of?
  let turns := labels.any fun label => Http.Domain.turns label.text
  if text.any Http.Domain.isForbidden || !labels.all Http.Domain.Label.isValid ||
      (turns && !labels.all fun label => Http.Domain.flows label.text) then
    none
  else some (['.'].intercalate (labels.map Http.Domain.Label.ascii))

end RemoteCall
