import RemoteCall.Base64
import RemoteCall.DateTime.Text
import RemoteCall.Double.Text
import RemoteCall.Writer
import RemoteCall.Xml.Escape

namespace RemoteCall

/-- Writes documents of XML-RPC, one behind the other, into one text. -/
structure Xml.Writer where
  text : String := ""

def Xml.Writer.put (s : String) (w : Xml.Writer) : Xml.Writer :=
  { w with text := w.text ++ s }

def Xml.Writer.putEscaped (cs : List Char) (w : Xml.Writer) : Xml.Writer :=
  w.put (String.ofList (Xml.escape cs))

/-- An element of a type inside an element `value`. -/
def Xml.Writer.typed (tag : String) (content : List Char) (w : Xml.Writer) : Xml.Writer :=
  ((w.put s!"<value><{tag}>").putEscaped content).put s!"</{tag}></value>"

def Xml.Writer.atom (a : Atom) (w : Xml.Writer) : Xml.Writer :=
  match a with
  | .base64 bytes => w.typed "base64" (Base64.encodeLines bytes)
  | .boolean b => w.typed "boolean" [if b then '1' else '0']
  | .dateTime t => w.typed "dateTime.iso8601" t.text
  | .double x => w.typed "double" (x.text .display)
  | .int32 n => w.typed "i4" (Digits.ofInt n.toInt)
  | .int64 n => w.typed "i8" (Digits.ofInt n.toInt)
  | .nil => w.typed "nil" []
  | .string s => w.typed "string" s.toList

def Xml.Writer.startMember (name : String) (w : Xml.Writer) : Xml.Writer :=
  ((w.put "<member><name>").putEscaped name.toList).put "</name>"

/-- A fault is written as its struct form, the members in order. -/
def Xml.Writer.fault (f : Fault) (w : Xml.Writer) : Xml.Writer :=
  let w := (w.put "<value><struct>").startMember "faultCode"
  let w := (w.atom (.int32 f.code)).put "</member>"
  let w := (w.startMember "faultString").atom (.string f.message)
  w.put "</member></struct></value>"

instance writerXml : Writer Xml.Writer where
  startDocument := Xml.Writer.put "<?xml version=\"1.0\" encoding=\"UTF-8\"?>"
  endDocument w := w
  startRequest method _ w :=
    ((w.put "<methodCall><methodName>").putEscaped method.toList).put "</methodName><params>"
  endRequest := Xml.Writer.put "</params></methodCall>"
  startParameter := Xml.Writer.put "<param>"
  endParameter := Xml.Writer.put "</param>"
  startResponse _ := Xml.Writer.put "<methodResponse><params><param>"
  endResponse := Xml.Writer.put "</param></params></methodResponse>"
  startFault _ := Xml.Writer.put "<methodResponse><fault>"
  endFault := Xml.Writer.put "</fault></methodResponse>"
  fault := Xml.Writer.fault
  startArray := Xml.Writer.put "<value><array><data>"
  endArray := Xml.Writer.put "</data></array></value>"
  startStruct := Xml.Writer.put "<value><struct>"
  endStruct := Xml.Writer.put "</struct></value>"
  startMember := Xml.Writer.startMember
  endMember := Xml.Writer.put "</member>"
  atom := Xml.Writer.atom

end RemoteCall
