/-!
# FNV-1a

A 64-bit hash of bytes: each byte is combined with the hash by exclusive or, and the hash is then
multiplied by a prime.
-/

namespace Dossier.Digest

/-- The FNV-1a hash of bytes. -/
def fnv1a (bytes : List UInt8) : UInt64 :=
  bytes.foldl (fun h b => (h ^^^ b.toUInt64) * 0x100000001b3) 0xcbf29ce484222325

end Dossier.Digest
