import WireSchemas.Message.Protobuf
import WireSchemas.Proofs.Message.Form

/-!
# Records in Protobuf

The common Protobuf form of a kind writes nothing of its default record, and it restores what is
read back from it.
-/

namespace WireSchemas

theorem Shape.wireFields_default (s : Shape) :
  s.wireFields s.default = []
  := by
  induction s with
  | done => rfl
  | field name tag c scalar rest ih =>
    cases c <;> simpa [wireFields, Shape.default, Cardinality.wireFields, Cardinality.default]
  | nested name tag inner rest ihInner ih => simpa [wireFields, Shape.default]

theorem RecordKind.omitsDefaults_protobuf (k : RecordKind) :
  k.protobuf.OmitsDefaults
  := by
  have hnil : k.encodeProtobuf k.shape.default = [] := by
    rw [encodeProtobuf, Shape.wireFields_default]
    rfl
  exact MessageCodec.encode_eq_ok_iff.2 ⟨_, rfl, congrArg Except.ok hnil⟩

theorem RecordKind.restores_protobuf {k : RecordKind} {content : k.shape.Record}
    (h : k.decodeProtobuf (k.encodeProtobuf content) = some content) :
  k.protobuf.Restores (.record k content)
  := by
  apply MessageCodec.restores_of (c := k.protobuf)
  rintro _ ⟨⟩
  simp only [protobuf, h, Option.elim]

end WireSchemas
