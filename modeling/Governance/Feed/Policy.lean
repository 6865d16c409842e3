import Governance.Feed.Record
import Governance.Policy.Service

set_option autoImplicit false

namespace Governance.Feed

open Codec (uint32 uint64 text names table list nullable)

def failoverLayout : List String := ["id", "retry", "timeoutInMilliseconds"]

def failover : Codec FailoverPolicy where
  encode p := .object
    [("id", uint64.nullable.encode p.id), ("retry", uint32.nullable.encode p.retry),
      ("timeoutInMilliseconds", uint64.nullable.encode p.timeout)]
  decode j := do
    let r ← Record.closed? failoverLayout j
    let id ← r.optional "id" uint64
    let retry ← r.optional "retry" uint32
    let timeout ← r.optional "timeoutInMilliseconds" uint64
    return ⟨id, retry, timeout⟩

def retryLayout : List String :=
  ["id", "retry", "retryInterval", "timeout", "retryableStatusCodes", "retryableExceptions"]

def retry : Codec RetryPolicy where
  encode p := .object
    [("id", uint64.nullable.encode p.id), ("retry", uint32.nullable.encode p.retry),
      ("retryInterval", uint64.nullable.encode p.interval),
      ("timeout", uint64.nullable.encode p.timeout),
      ("retryableStatusCodes", names.nullable.encode p.statusCodes),
      ("retryableExceptions", names.nullable.encode p.exceptions)]
  decode j := do
    let r ← Record.closed? retryLayout j
    let id ← r.optional "id" uint64
    let retry ← r.optional "retry" uint32
    let interval ← r.optional "retryInterval" uint64
    let timeout ← r.optional "timeout" uint64
    let statusCodes ← r.optional "retryableStatusCodes" names
    let exceptions ← r.optional "retryableExceptions" names
    return ⟨id, retry, interval, timeout, statusCodes, exceptions⟩

def breakerLayout : List String :=
  ["id", "failureThreshold", "recoveryTimeoutMs", "halfOpenMaxCalls"]

def breaker : Codec BreakerPolicy where
  encode p := .object
    [("id", uint64.nullable.encode p.id),
      ("failureThreshold", uint32.nullable.encode p.failureThreshold),
      ("recoveryTimeoutMs", uint64.nullable.encode p.recoveryTimeout),
      ("halfOpenMaxCalls", uint32.nullable.encode p.halfOpenMaxCalls)]
  decode j := do
    let r ← Record.closed? breakerLayout j
    let id ← r.optional "id" uint64
    let failureThreshold ← r.optional "failureThreshold" uint32
    let recoveryTimeout ← r.optional "recoveryTimeoutMs" uint64
    let halfOpenMaxCalls ← r.optional "halfOpenMaxCalls" uint32
    return ⟨id, failureThreshold, recoveryTimeout, halfOpenMaxCalls⟩

def limitFields (l : Limits) : List (String × Json) :=
  [("failover", failover.nullable.encode l.failover), ("retry", retry.nullable.encode l.retry),
    ("circuitBreaker", breaker.nullable.encode l.breaker)]

def limitsOf? (r : Record) : Option Limits := do
  let failover ← r.optional "failover" failover
  let retry ← r.optional "retry" retry
  let breaker ← r.optional "circuitBreaker" breaker
  return ⟨failover, retry, breaker⟩

def defaults : Codec PolicyDefaults where
  encode l := .object (limitFields l)
  decode j := (Record.closed? ["failover", "retry", "circuitBreaker"] j).bind limitsOf?

def opName : Tag.MatchOp → String
  | .equal => "equal"
  | .notEqual => "notEqual"
  | .oneOf => "in"
  | .noneOf => "notIn"
  | .startsWith => "prefix"

def opOfName? (name : String) : Option Tag.MatchOp :=
  if name = "equal" then some .equal
  else if name = "notEqual" then some .notEqual
  else if name = "in" then some .oneOf
  else if name = "notIn" then some .noneOf
  else if name = "prefix" then some .startsWith
  else none

-- An operator by its name alone, or by its name with null in an object.
def op : Codec Tag.MatchOp where
  encode o := .string (opName o)
  decode
    | .string name => opOfName? name
    | .object [(name, .null)] => opOfName? name
    | _ => none

def condition : Codec Tag.Condition where
  encode c := .object
    [("key", text.encode c.key), ("opType", op.encode c.op),
      ("values", (list text).encode c.values)]
  decode j := do
    let r ← Record.closed? ["key", "opType", "values"] j
    let key ← r.field "key" text ""
    let op ← r.field "opType" op .equal
    let values ← r.field "values" (list text) []
    return ⟨key, op, values⟩

def idFields (p : PolicyId) : List (String × Json) :=
  [("id", uint64.nullable.encode p.id), ("tags", table.nullable.encode p.tags)]

def idOf? (r : Record) : Option PolicyId := do
  let id ← r.optional "id" uint64
  let tags ← r.optional "tags" table
  return ⟨id, none, tags⟩

def policyId : Codec PolicyId where
  encode p := .object (idFields p)
  decode j := (Record.closed? ["id", "tags"] j).bind idOf?

def methodLayout : List String :=
  ["name", "id", "tags", "conditions", "failover", "retry", "circuitBreaker"]

-- A method's rule that stands inside so many containers, its own included.
def methodAt (level : Nat) : Codec MethodPolicy where
  encode m := .object
    ([("name", text.encode m.name)] ++ idFields m.id ++
      [("conditions", (list condition).encode m.conditions)] ++ limitFields m.limits)
  decode j := do
    let r ← Record.open? methodLayout level j
    let name ← r.field "name" text ""
    let id ← idOf? r
    let conditions ← r.field "conditions" (list condition) []
    let limits ← limitsOf? r
    return ⟨name, id, conditions, limits⟩

def method : Codec MethodPolicy := methodAt 1

def serviceLayout : List String :=
  ["name", "group", "id", "tags", "failover", "retry", "circuitBreaker", "methods"]

def service : Codec ServicePolicy where
  encode s := .object
    ([("name", text.encode s.name), ("group", text.nullable.encode s.group)] ++ idFields s.id ++
      limitFields s.limits ++ [("methods", (list (methodAt 3)).encode s.methods)])
  decode j := do
    let r ← Record.open? serviceLayout 1 j
    let name ← r.field "name" text ""
    let group ← r.optional "group" text
    let id ← idOf? r
    let limits ← limitsOf? r
    let methods ← r.field "methods" (list (methodAt 3)) []
    return ⟨name, group, id, limits, methods⟩

end Governance.Feed
