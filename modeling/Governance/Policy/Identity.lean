import Governance.Checksum
import Governance.Table

set_option autoImplicit false

namespace Governance

structure PolicyId where
  id : Option UInt64
  uri : Option String
  tags : Option (Table String)
  deriving DecidableEq

namespace PolicyId

def new : PolicyId := ⟨none, none, none⟩

def supplement (p : PolicyId) (uri : String) (tags : Option (Table String)) : PolicyId :=
  let uri := p.uri.getD uri
  ⟨p.id.or (some (Checksum.ofText uri)), some uri, tags⟩

def withUri (uri : String) : PolicyId := new.supplement uri none

def partId (p : PolicyId) (part : String) : UInt64 :=
  let combined := p.uri.getD "" ++ part
  if combined = "" then 0 else Checksum.ofText combined

def tag? (p : PolicyId) (key : String) : Option String := p.tags.bind (·.get? key)

def tagTable (p : PolicyId) : Table String := p.tags.getD .empty

def tagsWith (p : PolicyId) (pairs : List (String × String)) : Table String :=
  p.tagTable.insertAll pairs

theorem supplement_tags (p : PolicyId) (uri : String) (tags : Option (Table String)) :
    (p.supplement uri tags).tags = tags := rfl

end PolicyId

def ownGroup? (group : Option String) : Option String :=
  group.filter (fun g => g != "" && g != "default")

def inGroup (address : String) (group : Option String) : String :=
  match ownGroup? group with
  | some g => address ++ "?group=" ++ g
  | none => address

def serviceUri (name : String) (group : Option String) : String :=
  inGroup ("service://" ++ name) group

def methodUri (name : String) (group : Option String) (method : String) : String :=
  inGroup ("service://" ++ name ++ "/" ++ method) group

end Governance
