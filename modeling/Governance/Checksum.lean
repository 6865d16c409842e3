set_option autoImplicit false

namespace Governance.Checksum

-- Bits are taken lowest first, so the polynomial 04C11DB7 appears with its bits reversed.
def polynomial : UInt32 := 0xEDB88320

def shiftBit (r : UInt32) : UInt32 :=
  if r &&& 1 = 1 then (r >>> 1) ^^^ polynomial else r >>> 1

def shiftByte (r : UInt32) (byte : UInt8) : UInt32 :=
  Nat.repeat shiftBit 8 (r ^^^ byte.toUInt32)

def crc32 (bytes : List UInt8) : UInt32 :=
  (bytes.foldl shiftByte 0xFFFFFFFF) ^^^ 0xFFFFFFFF

def ofText (text : String) : UInt64 := (crc32 text.toUTF8.data.toList).toUInt64

-- The check value of the standard: the checksum of the digits one to nine.
example : crc32 [0x31, 0x32, 0x33, 0x34, 0x35, 0x36, 0x37, 0x38, 0x39] = 0xCBF43926 := by
  decide +kernel

end Governance.Checksum
