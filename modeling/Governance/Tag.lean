import Governance.Log
import Governance.Request
import Governance.Text.Quoted

set_option autoImplicit false

namespace Governance.Tag

-- What a provider reads of a request; absence differs from an empty list only in print.
abbrev Provider := Request → Option (List String)

namespace Provider

def clientIp : Provider := fun r => r.clientIp?.map (fun ip => [ip])

def header (name : String) : Provider := fun r => (r.header? name).map (fun v => [v])

def cookie (name : String) : Provider := fun r => (r.cookie? name).map (fun v => [v])

def service : Provider := fun r => some [r.service]

def constant (values : Option (List String)) : Provider := fun _ => values

end Provider

structure Registry where
  providers : Table Provider

namespace Registry

def empty : Registry := ⟨.empty⟩

def clientIpName : String := "clientIp"

def standard : Registry := ⟨Table.empty.insert clientIpName Provider.clientIp⟩

def has (r : Registry) (name : String) : Bool := r.providers.contains name

def names (r : Registry) : List String := r.providers.names

def register (r : Registry) (name : String) (p : Provider) : Registry :=
  ⟨r.providers.insert name p⟩

def registerLog (r : Registry) (name : String) : List Log.Entry :=
  if r.has name then
    [.event .warn "lanegov::tag" "tag provider replaced; last registration wins"
      [("name", .text name)]]
  else []

def values (r : Registry) (name : String) (request : Request) : Option (List String) :=
  (r.providers.get? name).bind (fun p => p request)

def describe (r : Registry) : String :=
  "TagProviderRegistry \x7b names: " ++ Text.quotedList r.names ++ " \x7d"

end Registry

inductive MatchOp where
  | equal
  | notEqual
  | oneOf
  | noneOf
  | startsWith
  deriving DecidableEq, Repr

structure Condition where
  key : String
  op : MatchOp
  values : List String
  deriving DecidableEq

namespace Condition

def blank : Condition := ⟨"", .equal, []⟩

def beginsWith (value start : String) : Bool := start.toList.isPrefixOf value.toList

-- Equality looks at the first value on either side, the other tests at all of them.
def test (c : Condition) (actual : List String) : Bool :=
  match c.op with
  | .equal =>
    match actual.head?, c.values.head? with
    | some value, some expected => value == expected
    | _, _ => false
  | .notEqual =>
    match actual.head?, c.values.head? with
    | some value, some expected => value != expected
    | _, _ => true
  | .oneOf => actual.any (fun v => c.values.contains v)
  | .noneOf => !actual.any (fun v => c.values.contains v)
  | .startsWith => actual.any (fun v => c.values.any (fun start => beginsWith v start))

def holds (c : Condition) (request : Request) (tags : Registry) : Bool :=
  c.test ((tags.values c.key request).getD [])

end Condition

end Governance.Tag
