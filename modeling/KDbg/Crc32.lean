import Mathlib.Data.Nat.Notation
set_option autoImplicit false
/-! The reflected CRC-32 that the probe driver, the live verifier and the snapshot files use. -/
namespace KDbg

def crc32Bit (crc : UInt32) : UInt32 :=
 (crc >>> 1) ^^^ (0xEDB88320 &&& (0-(crc &&& 1)))

def crc32Update (crc : UInt32) (byte : UInt8) : UInt32 :=
 (List.range 8).foldl (fun crc _=>crc32Bit crc) (crc ^^^ byte.toUInt32)

def crc32 (bytes : List UInt8) : UInt32 := ~~~ bytes.foldl crc32Update 0xFFFFFFFF

end KDbg
