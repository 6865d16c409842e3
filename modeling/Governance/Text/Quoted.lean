import Governance.Text.Extender
import Governance.Text.Unseen

set_option autoImplicit false

namespace Governance.Text

def byNumber (c : Char) : List Char :=
  ['\\', 'u', '\x7b'] ++ Nat.toDigits 16 c.toNat ++ ['\x7d']

def quoteChar (c : Char) : List Char :=
  if c = '\x00' then ['\\', '0']
  else if c = '\t' then ['\\', 't']
  else if c = '\r' then ['\\', 'r']
  else if c = '\n' then ['\\', 'n']
  else if c = '"' then ['\\', '"']
  else if c = '\\' then ['\\', '\\']
  else if c.toNat < 0x20 || c.toNat = 0x7F then byNumber c
  else if c.toNat < 0x80 then [c]
  else if isExtender c || isUnseen c then byNumber c
  else [c]

def quoted (text : String) : String := "\"" ++ String.ofList (text.toList.flatMap quoteChar) ++ "\""

def quotedList (texts : List String) : String :=
  "[" ++ String.intercalate ", " (texts.map quoted) ++ "]"

end Governance.Text
