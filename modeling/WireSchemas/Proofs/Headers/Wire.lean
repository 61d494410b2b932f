import WireSchemas.Headers
import WireSchemas.Proofs.Json.Value
import WireSchemas.Proofs.SortedMap

/-!
# Headers on the wire

The wire form of headers is read back as the same headers: every text and every null keeps its key.
-/

namespace WireSchemas.Headers

open Json

/-- The JSON value of a text or a null. -/
def nullable : Option String → Json
  | none => .null
  | some s => .string (some s)

theorem denotes_nullableText (value : Option String) :
  Denotes (nullableText value) (nullable value)
  := by
  cases value with
  | none => apply denotes_null
  | some s => apply denotes_quoted

theorem parse?_encode (h : Headers) :
  Json.parse? h.encode = some (.object (h.toList.map fun e => (some e.1, nullable e.2)))
  := by
  rw [encode, encodeText, Text.Utf8.encode_ofList]
  apply parse?_encodeChars (denotes_objectText fun e _ => denotes_nullableText e.2)

theorem nullable?_text?_nullable (value : Option String) :
  nullable? Json.text? (nullable value) = some value
  := by
  cases value <;> rfl

theorem textMembers?_object (entries : List (String × Option String)) :
  textMembers? (.object (entries.map fun e => (some e.1, nullable e.2))) = some entries
  := by
  induction entries with
  | nil => rfl
  | cons e entries ih =>
    simp only [textMembers?, List.map_cons, List.mapM_cons] at ih ⊢
    rw [ih, nullable?_text?_nullable]
    rfl

/-- Headers survive the wire. -/
theorem decode_encode (h : Headers) :
  decode h.encode = h
  := by
  rw [decode, read?, parse?_encode, Option.bind_some, textMembers?_object, Option.map_some,
    Option.getD_some, SortedMap.ofList_toList]

end WireSchemas.Headers
