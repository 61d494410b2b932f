import WireSchemas.Message.Json
import WireSchemas.Proofs.Message.Form
import WireSchemas.Proofs.Text.Utf8

/-!
# Records in JSON

The common JSON form of a kind is never the empty text, and it restores what is read back from it.
-/

namespace WireSchemas.RecordKind

theorem encodeJson_ne_nil (k : RecordKind) (content : k.shape.Record) :
  k.encodeJson content ≠ []
  := by
  rw [encodeJson, Json.objectText, Text.Utf8.encode_ofList, Text.Utf8.encodeChars_cons]
  apply List.append_ne_nil_of_left_ne_nil
  decide

theorem encode_json_ne_nil (k : RecordKind) (m : Message) :
  k.json.encode m ≠ .ok []
  := by
  intro h
  obtain ⟨content, -, hnil⟩ := MessageCodec.encode_eq_ok_iff.1 h
  apply k.encodeJson_ne_nil content (Except.ok.inj hnil)

theorem restores_json {k : RecordKind} {content : k.shape.Record}
    (h : k.decodeJson (k.encodeJson content) = some content) :
  k.json.Restores (.record k content)
  := by
  apply MessageCodec.restores_of (c := k.json)
  rintro _ ⟨⟩
  simp only [json, h, Option.elim]

end WireSchemas.RecordKind
