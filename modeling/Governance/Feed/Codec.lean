import Governance.Json.Basic
import Governance.Table

set_option autoImplicit false

namespace Governance.Feed

structure Codec (α : Type) where
  encode : α → Json
  decode : Json → Option α

namespace Codec

variable {α : Type}

def Lawful (c : Codec α) : Prop := ∀ a, c.decode (c.encode a) = some a

def natBelow? (bound : Nat) : Json → Option Nat
  | .int n => if 0 ≤ n && n.toNat < bound then some n.toNat else none
  | _ => none

def uint64 : Codec UInt64 where
  encode n := .nat n.toNat
  decode j := (natBelow? UInt64.size j).map Nat.toUInt64

def uint32 : Codec UInt32 where
  encode n := .nat n.toNat
  decode j := (natBelow? UInt32.size j).map Nat.toUInt32

def text : Codec String where
  encode s := .string s
  decode
    | .string s => some s
    | _ => none

def decodeAll (read : Json → Option α) : List Json → Option (List α)
  | [] => some []
  | j :: rest =>
    match read j, decodeAll read rest with
    | some a, some as => some (a :: as)
    | _, _ => none

def list (c : Codec α) : Codec (List α) where
  encode as := .array (as.map c.encode)
  decode
    | .array items => decodeAll c.decode items
    | _ => none

def names : Codec NameSet where
  encode s := Json.strings s.toList
  decode j := ((list text).decode j).map NameSet.ofList

def decodePairs : List (String × Json) → Option (List (String × String))
  | [] => some []
  | (name, .string value) :: rest => (decodePairs rest).map ((name, value) :: ·)
  | _ => none

-- A table of texts. Of several values under one name the last counts.
def table : Codec (Table String) where
  encode t := .object (t.entries.map (fun e => (e.1, .string e.2)))
  decode
    | .object fields => (decodePairs fields).map Table.ofList
    | _ => none

def nullable (c : Codec α) : Codec (Option α) where
  encode := Json.ofOption c.encode
  decode
    | .null => some none
    | j => (c.decode j).map some

theorem natBelow?_nat {bound n : Nat} (h : n < bound) : natBelow? bound (.nat n) = some n := by
  simp [natBelow?, Json.nat, h]

theorem uint64_lawful : uint64.Lawful := by
  intro n
  simp [uint64, natBelow?_nat n.toNat_lt]

theorem uint32_lawful : uint32.Lawful := by
  intro n
  simp [uint32, natBelow?_nat n.toNat_lt]

theorem text_lawful : text.Lawful := fun _ => rfl

theorem decodeAll_map {c : Codec α} {kept : α → α}
    (h : ∀ a, c.decode (c.encode a) = some (kept a)) (as : List α) :
    decodeAll c.decode (as.map c.encode) = some (as.map kept) := by
  induction as with
  | nil => rfl
  | cons a rest ih => simp [decodeAll, h a, ih]

theorem list_lawful {c : Codec α} (h : c.Lawful) : (list c).Lawful := by
  intro as
  have read := decodeAll_map h as
  rwa [List.map_id'] at read

end Codec

end Governance.Feed
