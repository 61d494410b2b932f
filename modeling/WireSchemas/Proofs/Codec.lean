import WireSchemas.Codec

/-!
# Codecs of the catalog

JSON and Protobuf are written and read by the codecs that the catalog has for the types of messages,
each in its own format.
-/

namespace WireSchemas

/-- The codec of a type in a format. -/
def Catalog.codec? (c : Catalog) (format : DataFormat) (type : MessageType) : Option MessageCodec :=
  match format with
  | .json => c.json? type
  | .protobuf => c.protobuf? type
  | _ => none

namespace Codec

variable {c : Codec} {catalog : Catalog} {headers : Headers} {m : Message} {data : Bytes}

/-- The codecs that write and read by the catalog. -/
def OfCatalog (c : Codec) : Prop :=
  c = json ∨ c = protobuf

theorem OfCatalog.format_ne (hc : c.OfCatalog) :
  c.format ≠ .bytes
  := by
  rcases hc with rfl | rfl <;> decide

/-- A message is written by the codec that the catalog has for its type. -/
theorem OfCatalog.encode_eq_ok_iff (hc : c.OfCatalog) :
  c.encode catalog headers m = .ok data ↔
    ∃ k, catalog.codec? c.format m.type = some k ∧ k.encode m = .ok data
  := by
  rcases hc with rfl | rfl
  · simp only [json, Catalog.codec?]
    cases catalog.json? m.type <;> simp
  · simp only [protobuf, Catalog.codec?]
    cases catalog.protobuf? m.type <;> simp

/-- A body is read for a type by the codec that the catalog has for it; in JSON the missing type is
refused first. -/
theorem OfCatalog.decode_eq_ok_iff (hc : c.OfCatalog) {type : MessageType} :
  c.decode catalog headers type data = .ok (some m) ↔
    (c.format = .json → type.isMissing = false) ∧
      ∃ k, catalog.codec? c.format type = some k ∧ k.decode data = .ok m
  := by
  have hread (k : MessageCodec) : (k.decode data).map some = .ok (some m) ↔ k.decode data = .ok m
    := by
    cases k.decode data <;> simp [Except.map]
  rcases hc with rfl | rfl
  · simp only [json, Catalog.codec?]
    cases type.isMissing <;> cases catalog.json? type <;> simp [hread]
  · simp only [protobuf, Catalog.codec?]
    cases catalog.protobuf? type <;> simp [hread]

end Codec

end WireSchemas
