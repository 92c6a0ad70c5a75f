import RemoteCall.Fault

namespace RemoteCall

/-- What can be wrong with a document: its form as XML, or its form as a message. -/
inductive Xml.Problem where
  | notWellFormed
  | nestedTooDeeply
  | missingMethodCall
  | missingMethodName
  | missingMethodResponse
  | missingResult
  | faultNotStruct
  | missingFaultCode
  | missingFaultString
  | missingValue
  | missingData
  | missingMemberName
  | notBase64
  | notBoolean
  | notDateTime
  | notDouble
  | notInt32
  | notInt64
  | unknownType
  deriving DecidableEq

def Xml.Problem.fault : Xml.Problem → Fault
  | .notWellFormed => .notWellFormed
  | .nestedTooDeeply => .invalidXml "document nested too deeply"
  | .missingMethodCall => .invalidXml "missing method call element"
  | .missingMethodName => .invalidXml "missing method name"
  | .missingMethodResponse => .invalidXml "missing method response element"
  | .missingResult => .invalidXml "missing param or fault element"
  | .faultNotStruct => .invalidXml "fault is not a struct"
  | .missingFaultCode => .invalidXml "missing or invalid fault code"
  | .missingFaultString => .invalidXml "missing or invalid fault string"
  | .missingValue => .invalidXml "missing value element"
  | .missingData => .invalidXml "missing data element in array"
  | .missingMemberName => .invalidXml "missing name element in struct"
  | .notBase64 => .invalidXml "value is not base64"
  | .notBoolean => .invalidXml "value is not a boolean"
  | .notDateTime => .invalidXml "value is not a date/time"
  | .notDouble => .invalidXml "value is not a double"
  | .notInt32 => .invalidXml "value is not a 32-bit integer"
  | .notInt64 => .invalidXml "value is not a 64-bit integer"
  | .unknownType => .invalidXml "invalid type"

end RemoteCall
