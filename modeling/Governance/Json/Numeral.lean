import Governance.Json.Basic

set_option autoImplicit false

namespace Governance.Json

structure Numeral where
  negative : Bool
  whole : List Char
  fraction : List Char
  exponent : Option Int
  deriving DecidableEq, Repr

namespace Numeral

def append (n : Nat) (digit : Char) : Nat := 10 * n + (digit.toNat - '0'.toNat)

def digits (cs : List Char) : Nat := cs.foldl append 0

def exponent? (cs : List Char) : Option Int :=
  let number (ds : List Char) : Option Nat :=
    if ds.isEmpty || !ds.all Char.isDigit then none else some (digits ds)
  match cs with
  | '+' :: ds => (number ds).map Int.ofNat
  | '-' :: ds => (number ds).map (fun n => -Int.ofNat n)
  | ds => (number ds).map Int.ofNat

def tail? (negative : Bool) (whole fraction rest : List Char) : Option Numeral :=
  match rest with
  | [] => some ⟨negative, whole, fraction, none⟩
  | e :: ds =>
    if e == 'e' || e == 'E' then (exponent? ds).map (fun n => ⟨negative, whole, fraction, some n⟩)
    else none

def unsigned? (negative : Bool) (cs : List Char) : Option Numeral :=
  let whole := cs.takeWhile Char.isDigit
  let rest := cs.dropWhile Char.isDigit
  if whole.isEmpty || (whole.head? == some '0' && whole.length != 1) then none
  else
    match rest with
    | '.' :: more =>
      let fraction := more.takeWhile Char.isDigit
      if fraction.isEmpty then none else tail? negative whole fraction (more.dropWhile Char.isDigit)
    | _ => tail? negative whole [] rest

def ofChars? : List Char → Option Numeral
  | '-' :: cs => unsigned? true cs
  | cs => unsigned? false cs

-- Takes digits as long as 64 bits hold the number that they make.
def leading (n : Nat) : List Char → Nat × List Char
  | [] => (n, [])
  | c :: rest =>
    if append n c < UInt64.size then leading (append n c) rest else (n, c :: rest)

def scaled (n : Numeral) : Nat × Int :=
  let whole := leading 0 n.whole
  let fraction := leading whole.1 n.fraction
  (fraction.1,
    whole.2.length + fraction.2.length - n.fraction.length + n.exponent.getD 0)

-- A double holds 53 binary digits. Of two that are as near, the even one is taken.
def nearestDouble (n : Nat) : Nat :=
  let unit := Nat.pow 2 (n.log2 - 52)
  let below := n / unit
  let rest := n % unit
  if 2 * rest < unit || (2 * rest == unit && below % 2 == 0) then below * unit
  else (below + 1) * unit

-- The least magnitude that rounds to infinity: half a step above the largest double.
def overflow : Nat := Nat.pow 2 1024 - Nat.pow 2 970

def tooLarge (n : Numeral) : Bool :=
  let (leading, power) := n.scaled
  if leading == 0 || power < 0 then false
  else if 308 < power then true
  else overflow ≤ nearestDouble leading * nearestDouble (Nat.pow 10 power.toNat)

def value (n : Numeral) (written : List Char) : Json :=
  if n.tooLarge then .unreadable
  else if n.fraction.isEmpty && n.exponent.isNone then
    let m := digits n.whole
    if n.negative then (if m == 0 then .decimal (String.ofList written) else .int (-m)) else .int m
  else .decimal (String.ofList written)

end Numeral

end Governance.Json
