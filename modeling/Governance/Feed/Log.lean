import Governance.Json.Basic
import Governance.Log

set_option autoImplicit false

namespace Governance.Log

def Value.toJson : Value → Json
  | .number n => .nat n
  | .flag b => .bool b
  | .text s => .string s

def Fields.toJson (fs : Fields) : Json := .object (fs.map (fun f => (f.1, f.2.toJson)))

def Entry.toJson : Entry → Json
  | .event level target message fs => .object
    [("level", .string level.name), ("target", .string target), ("message", .string message),
      ("fields", Fields.toJson fs)]
  | .span name fs => .object [("span", .string name), ("fields", Fields.toJson fs)]

end Governance.Log
