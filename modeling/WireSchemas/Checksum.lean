import WireSchemas.Checksum.Sha256
import WireSchemas.Text.Hex

/-!
# Checksums

A checksum is a SHA-256 digest as hexadecimal text.  The checksum of a list of fields is that of
one stream of bytes, in which each field follows its length; so `["ab", "c"]` and `["a", "bc"]`
have different streams.
-/

namespace WireSchemas.Checksum

/-- The checksum of bytes. -/
def ofBytes (bytes : Bytes) : String :=
  Text.Hex.encode (Sha256.digest bytes)

/-- A field after its length in eight bytes. -/
def framed (field : String) : Bytes :=
  let bytes := Text.Utf8.encode field
  Sha256.bigEndian64 bytes.length ++ bytes

/-- The bytes that stand for a list of fields. -/
def fieldStream (fields : List String) : Bytes :=
  fields.flatMap framed

/-- The checksum of a list of fields. -/
def ofFields (fields : List String) : String :=
  ofBytes (fieldStream fields)

end WireSchemas.Checksum
