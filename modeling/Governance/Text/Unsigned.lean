set_option autoImplicit false

namespace Governance.Text

def digitsValue (ds : List Char) : Nat :=
  ds.foldl (fun n c => 10 * n + (c.toNat - '0'.toNat)) 0

def unsignedDigits (cs : List Char) : List Char :=
  match cs with
  | '+' :: ds => ds
  | ds => ds

def unsigned? (largest : Nat) (cs : List Char) : Option Nat :=
  let ds := unsignedDigits cs
  if ds.isEmpty || !ds.all Char.isDigit || largest < digitsValue ds then none
  else some (digitsValue ds)

def uint64? (text : String) : Option UInt64 :=
  (unsigned? (UInt64.size - 1) text.toList).map Nat.toUInt64

def uint32? (text : List Char) : Option UInt32 :=
  (unsigned? (UInt32.size - 1) text).map Nat.toUInt32

end Governance.Text
