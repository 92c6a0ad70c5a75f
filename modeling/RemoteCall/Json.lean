import RemoteCall.Double
import RemoteCall.Members

namespace RemoteCall

/-- A number of a document. Those written without fraction and power are whole where 64 bits,
signed or unsigned, can hold them. -/
inductive Json.Number where
  | whole (n : Int)
  | double (x : Double)
  deriving DecidableEq

/-- A JSON document. The members of an object come in the order of their names. -/
inductive Json where
  | null
  | boolean (b : Bool)
  | number (n : Json.Number)
  | string (s : String)
  | array (items : List Json)
  | object (members : List (String × Json))

instance : Inhabited Json := ⟨.null⟩

end RemoteCall
