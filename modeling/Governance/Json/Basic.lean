set_option autoImplicit false

namespace Governance

inductive Json where
  | null
  | bool (b : Bool)
  | int (n : Int)
  -- A number with a fraction, an exponent or a negative zero, as written.
  | decimal (written : String)
  | string (s : String)
  | array (items : List Json)
  | object (fields : List (String × Json))
  -- Well written, but without a value here: a number beyond the range of a double, a text with half
  -- a surrogate pair, or an object with such a text for a name.
  | unreadable
  deriving Inhabited

namespace Json

def ofOption {α : Type} (encode : α → Json) : Option α → Json
  | none => .null
  | some a => encode a

def nat (n : Nat) : Json := .int n

def strings (texts : List String) : Json := .array (texts.map .string)

def field? (name : String) : Json → Option Json
  | .object fields => fields.lookup name
  | _ => none

mutual

def depth : Json → Nat
  | .array items => 1 + depthItems items
  | .object fields => 1 + depthFields fields
  | _ => 0

def depthItems : List Json → Nat
  | [] => 0
  | v :: rest => max (depth v) (depthItems rest)

def depthFields : List (String × Json) → Nat
  | [] => 0
  | (_, v) :: rest => max (depth v) (depthFields rest)

end

mutual

def readable : Json → Bool
  | .unreadable => false
  | .array items => readableItems items
  | .object fields => readableFields fields
  | _ => true

def readableItems : List Json → Bool
  | [] => true
  | v :: rest => readable v && readableItems rest

def readableFields : List (String × Json) → Bool
  | [] => true
  | (_, v) :: rest => readable v && readableFields rest

end

mutual

-- The value in which of several fields of one name only the last remains, at every level.
def settle : Json → Json
  | .array items => .array (settleItems items)
  | .object fields => .object (settleFields fields)
  | v => v

def settleItems : List Json → List Json
  | [] => []
  | v :: rest => settle v :: settleItems rest

def settleFields : List (String × Json) → List (String × Json)
  | [] => []
  | (name, v) :: rest =>
    if rest.any (fun e => e.1 == name) then settleFields rest
    else (name, settle v) :: settleFields rest

end

end Json

end Governance
