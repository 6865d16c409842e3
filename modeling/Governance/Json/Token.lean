import Governance.Json.Numeral

set_option autoImplicit false

namespace Governance.Json

-- A piece of a text: a character, or a code unit of 16 bits given by its number.
inductive Piece where
  | char (c : Char)
  | unit (u : Nat)
  deriving DecidableEq, Repr

namespace Piece

def isHigh (u : Nat) : Bool := 0xD800 ≤ u && u < 0xDC00

def isLow (u : Nat) : Bool := 0xDC00 ≤ u && u < 0xE000

def spell? : List Piece → Option (List Char)
  | [] => some []
  | .char c :: rest => (spell? rest).map (c :: ·)
  | .unit u :: .unit v :: rest =>
    if isHigh u then
      if isLow v then
        (spell? rest).map (Char.ofNat (0x10000 + (u - 0xD800) * 0x400 + (v - 0xDC00)) :: ·)
      else none
    else if isLow u then none
    else (spell? (.unit v :: rest)).map (Char.ofNat u :: ·)
  | .unit u :: rest =>
    if isHigh u || isLow u then none else (spell? rest).map (Char.ofNat u :: ·)

end Piece

def hexDigit? (c : Char) : Option Nat :=
  if '0' ≤ c && c ≤ '9' then some (c.toNat - '0'.toNat)
  else if 'a' ≤ c && c ≤ 'f' then some (c.toNat - 'a'.toNat + 10)
  else if 'A' ≤ c && c ≤ 'F' then some (c.toNat - 'A'.toNat + 10)
  else none

def unit? (a b c d : Char) : Option Nat := do
  let a ← hexDigit? a
  let b ← hexDigit? b
  let c ← hexDigit? c
  let d ← hexDigit? d
  return ((a * 16 + b) * 16 + c) * 16 + d

def escape? : Char → Option Char
  | '"' => some '"'
  | '\\' => some '\\'
  | '/' => some '/'
  | 'b' => some '\x08'
  | 'f' => some '\x0c'
  | 'n' => some '\n'
  | 'r' => some '\r'
  | 't' => some '\t'
  | _ => none

def pieces? : List Char → Option (List Piece × List Char)
  | [] => none
  | '"' :: rest => some ([], rest)
  | '\\' :: 'u' :: a :: b :: c :: d :: rest =>
    match unit? a b c d with
    | none => none
    | some u => (pieces? rest).map (fun r => (.unit u :: r.1, r.2))
  | '\\' :: e :: rest =>
    match escape? e with
    | none => none
    | some c => (pieces? rest).map (fun r => (.char c :: r.1, r.2))
  | c :: rest =>
    if c.toNat < 0x20 then none else (pieces? rest).map (fun r => (.char c :: r.1, r.2))

theorem length_of_pieces? {cs : List Char} {r : List Piece × List Char} (h : pieces? cs = some r) :
    r.2.length < cs.length := by
  fun_induction pieces? cs generalizing r with
  | case1 => simp at h
  | case2 rest =>
    obtain rfl := Option.some.inj h
    simp
  | case3 => simp at h
  | case4 a b c d rest u _ ih =>
    obtain ⟨s, hs, rfl⟩ := Option.map_eq_some_iff.1 h
    have := ih hs
    simp only [List.length_cons]
    omega
  | case5 => simp at h
  | case6 e rest _ c _ ih =>
    obtain ⟨s, hs, rfl⟩ := Option.map_eq_some_iff.1 h
    have := ih hs
    simp only [List.length_cons]
    omega
  | case7 => simp at h
  | case8 c rest _ _ _ _ ih =>
    obtain ⟨s, hs, rfl⟩ := Option.map_eq_some_iff.1 h
    have := ih hs
    simp only [List.length_cons]
    omega

inductive Token where
  | openArray
  | closeArray
  | openObject
  | closeObject
  | colon
  | comma
  | text (spelt : Option String)
  | scalar (v : Json)

namespace Token

def isBlank (c : Char) : Bool := c == ' ' || c == '\n' || c == '\t' || c == '\r'

def isNumeral (c : Char) : Bool :=
  c.isDigit || c == '-' || c == '+' || c == '.' || c == 'e' || c == 'E'

def word? (letters : List Char) : Option Json :=
  if letters = ['t', 'r', 'u', 'e'] then some (.bool true)
  else if letters = ['f', 'a', 'l', 's', 'e'] then some (.bool false)
  else if letters = ['n', 'u', 'l', 'l'] then some .null
  else none

-- The token that starts with `c`, and what follows it. A run of letters, or of the characters of
-- numbers, is taken whole: no two of them may touch.
def next? (c : Char) (rest : List Char) : Option (Token × List Char) :=
  match c with
  | '[' => some (.openArray, rest)
  | ']' => some (.closeArray, rest)
  | '\x7b' => some (.openObject, rest)
  | '\x7d' => some (.closeObject, rest)
  | ':' => some (.colon, rest)
  | ',' => some (.comma, rest)
  | '"' => (pieces? rest).map (fun r => (.text ((Piece.spell? r.1).map String.ofList), r.2))
  | _ =>
    if c.isDigit || c == '-' then
      let written := c :: rest.takeWhile isNumeral
      (Numeral.ofChars? written).map
        (fun n => (.scalar (n.value written), rest.dropWhile isNumeral))
    else if c.isAlpha then
      (word? (c :: rest.takeWhile Char.isAlpha)).map
        (fun v => (.scalar v, rest.dropWhile Char.isAlpha))
    else none

theorem length_of_next? {c : Char} {rest : List Char} {r : Token × List Char}
    (h : next? c rest = some r) : r.2.length ≤ rest.length := by
  unfold next? at h
  split at h
  case h_7 =>
    obtain ⟨s, hs, rfl⟩ := Option.map_eq_some_iff.1 h
    exact Nat.le_of_lt (length_of_pieces? hs)
  case h_8 =>
    split at h
    · obtain ⟨n, _, rfl⟩ := Option.map_eq_some_iff.1 h
      exact (List.dropWhile_sublist _).length_le
    · split at h
      · obtain ⟨v, _, rfl⟩ := Option.map_eq_some_iff.1 h
        exact (List.dropWhile_sublist _).length_le
      · simp at h
  all_goals
    obtain rfl := Option.some.inj h
    exact Nat.le_refl _

def scan? : List Char → Option (List Token)
  | [] => some []
  | c :: rest =>
    if isBlank c then scan? rest
    else
      match _h : next? c rest with
      | none => none
      | some r => (scan? r.2).map (r.1 :: ·)
  termination_by cs => cs.length
  decreasing_by
    · simp
    · have := length_of_next? _h
      simp only [List.length_cons]
      omega

end Token

end Governance.Json
