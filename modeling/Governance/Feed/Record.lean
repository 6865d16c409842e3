import Governance.Feed.Codec

set_option autoImplicit false

namespace Governance.Feed

structure Record where
  given : List (String × Json)

namespace Record

def isPlain (layout : List String) (fields : List (String × Json)) : Bool :=
  layout.all (fun name => (fields.filter (fun f => f.1 == name)).length ≤ 1)

def closed? (layout : List String) : Json → Option Record
  | .object fields => if isPlain layout fields then some ⟨fields⟩ else none
  | .array items => if items.length ≤ layout.length then some ⟨layout.zip items⟩ else none
  | _ => none

-- At most this many containers may stand open at once where every field is read.
def deepest : Nat := 127

def isOpenAt (layout : List String) (level : Nat) (fields : List (String × Json)) : Bool :=
  fields.all (fun f => layout.contains f.1 || (f.2.readable && level + f.2.depth ≤ deepest))

def open? (layout : List String) (level : Nat) : Json → Option Record
  | .object fields =>
    if isPlain layout fields && isOpenAt layout level fields then some ⟨fields⟩ else none
  | _ => none

def field {α : Type} (r : Record) (name : String) (c : Codec α) (missing : α) : Option α :=
  match r.given.lookup name with
  | none => some missing
  | some j => c.decode j

def optional {α : Type} (r : Record) (name : String) (c : Codec α) : Option (Option α) :=
  r.field name c.nullable none

end Record

end Governance.Feed
