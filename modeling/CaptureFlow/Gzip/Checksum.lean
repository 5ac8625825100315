import CaptureFlow.Bytes

/-!
# Cyclic redundancy check

The 32-bit checksum of the gzip format, computed bit by bit: the remainder of
the data by the reversed polynomial `0xedb88320`, both ends inverted.
-/

namespace CaptureFlow.Gzip

/-- The register after one more bit of its lowest octet is divided out. -/
def checksumBit (register : UInt32) : UInt32 :=
  if register &&& 1 = 1 then (register >>> 1) ^^^ 0xedb88320 else register >>> 1

/-- The register after one more octet. -/
def checksumOctet (register : UInt32) (b : UInt8) : UInt32 :=
  (List.range 8).foldl (fun register _ => checksumBit register) (register ^^^ b.toUInt32)

/-- The checksum of a run of octets. -/
def checksum (bytes : Bytes) : UInt32 :=
  bytes.foldl checksumOctet 0xffffffff ^^^ 0xffffffff

end CaptureFlow.Gzip
