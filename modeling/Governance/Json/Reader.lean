import Governance.Json.Token

set_option autoImplicit false

namespace Governance.Json

-- An open container: what has been read of it, newest first.
inductive Frame where
  | array (items : List Json)
  -- `named` is false once a name could not be spelt.
  | object (fields : List (String × Json)) (named : Bool)
  | field (fields : List (String × Json)) (named : Bool) (name : Option String)

inductive Reader where
  | value (stack : List Frame)
  | itemOrEnd (stack : List Frame)
  | nameOrEnd (stack : List Frame)
  | name (stack : List Frame)
  | colon (stack : List Frame)
  | separator (stack : List Frame)
  | finished (v : Json)

namespace Reader

def start : Reader := .value []

def complete (v : Json) : List Frame → Option Reader
  | [] => some (.finished v)
  | .array items :: stack => some (.separator (.array (v :: items) :: stack))
  | .field fields named (some label) :: stack =>
    some (.separator (.object ((label, v) :: fields) named :: stack))
  | .field fields _ none :: stack => some (.separator (.object fields false :: stack))
  | .object _ _ :: _ => none

def close : List Frame → Option Reader
  | .array items :: stack => complete (.array items.reverse) stack
  | .object fields true :: stack => complete (.object fields.reverse) stack
  | .object _ false :: stack => complete .unreadable stack
  | _ => none

def beginValue (stack : List Frame) : Token → Option Reader
  | .openArray => some (.itemOrEnd (.array [] :: stack))
  | .openObject => some (.nameOrEnd (.object [] true :: stack))
  | .scalar v => complete v stack
  | .text (some s) => complete (.string s) stack
  | .text none => complete .unreadable stack
  | _ => none

def beginField (spelt : Option String) : List Frame → Option Reader
  | .object fields named :: stack => some (.colon (.field fields named spelt :: stack))
  | _ => none

def step : Reader → Token → Option Reader
  | .value stack, t => beginValue stack t
  | .itemOrEnd stack, .closeArray => close stack
  | .itemOrEnd stack, t => beginValue stack t
  | .nameOrEnd stack, .closeObject => close stack
  | .nameOrEnd stack, .text s => beginField s stack
  | .name stack, .text s => beginField s stack
  | .colon stack, .colon => some (.value stack)
  | .separator (.array items :: stack), .comma => some (.value (.array items :: stack))
  | .separator (.array items :: stack), .closeArray => close (.array items :: stack)
  | .separator (.object fields named :: stack), .comma =>
    some (.name (.object fields named :: stack))
  | .separator (.object fields named :: stack), .closeObject =>
    close (.object fields named :: stack)
  | _, _ => none

def run : Reader → List Token → Option Reader
  | r, [] => some r
  | r, t :: rest => (r.step t).bind (fun r => r.run rest)

end Reader

def ofTokens? (tokens : List Token) : Option Json :=
  match Reader.start.run tokens with
  | some (.finished v) => some v
  | _ => none

def parse? (text : String) : Option Json := (Token.scan? text.toList).bind ofTokens?

end Governance.Json
