import Governance.Json.Basic
import Governance.Table

set_option autoImplicit false

namespace Governance.Json

def get (j : Json) (name : String) : Json := (j.field? name).getD .null

def isNull : Json → Bool
  | .null => true
  | _ => false

def present? (j : Json) : Option Json := if j.isNull then none else some j

def text? : Json → Option String
  | .string s => some s
  | _ => none

def text (j : Json) : String := j.text?.getD ""

def int? : Json → Option Int
  | .int n => some n
  | _ => none

def nat? (j : Json) : Option Nat := j.int?.map Int.toNat

def natural (j : Json) : Nat := j.nat?.getD 0

def flag? : Json → Option Bool
  | .bool b => some b
  | _ => none

def flag (j : Json) : Bool := j.flag?.getD false

def items? : Json → Option (List Json)
  | .array items => some items
  | _ => none

def items (j : Json) : List Json := j.items?.getD []

def texts (j : Json) : List String := j.items.map text

def fields : Json → List (String × Json)
  | .object fields => fields
  | _ => []

def textTable (j : Json) : Table String := .ofList (j.fields.map (fun f => (f.1, f.2.text)))

def ofText? : Option String → Json := ofOption .string

def ofTable (t : Table String) : Json := .object (t.entries.map (fun e => (e.1, .string e.2)))

end Governance.Json
