import WireSchemas.Proofs.Headers.Wire
import WireSchemas.Proofs.Json.Members

/-!
# Headers that are read

Headers are read from the texts that the grammar has for objects of texts and nulls, and from
nothing else: `decode_exact`.  A text that is cut short, or has more than blanks after it, is none
of them, so no part of it is read.
-/

namespace WireSchemas.Headers

open Json Text.Utf8

/-- The input is the UTF-8 text of an object with these members, in this order. -/
def Writes (input : Bytes) (es : List (String × Option String)) : Prop :=
  ∃ text, Document text es ∧ input = encodeChars text

theorem read?_eq_some_iff {input : Bytes} {h : Headers} :
  read? input = some h ↔ ∃ es, Writes input es ∧ h = SortedMap.ofList es
  := by
  rw [read?, Option.map_eq_some_iff]
  simp only [textMembers?_parse?_iff, Writes, eq_comm (a := h)]

theorem decode_of_writes {input : Bytes} {es : List (String × Option String)}
    (h : Writes input es) :
  decode input = SortedMap.ofList es
  := by
  rw [decode, read?_eq_some_iff.2 ⟨es, h, rfl⟩, Option.getD_some]

theorem read?_eq_none_iff {input : Bytes} :
  read? input = none ↔ ∀ es, ¬ Writes input es
  := by
  simp only [Option.eq_none_iff_forall_ne_some, ne_eq, read?_eq_some_iff]
  grind

theorem decode_of_not_writes {input : Bytes} (h : ∀ es, ¬ Writes input es) :
  decode input = .empty
  := by
  rw [decode, read?_eq_none_iff.2 h, Option.getD_none]

/-- The wire form of headers writes their entries, in key order. -/
theorem writes_encode (h : Headers) :
  Writes h.encode h.toList
  := by
  apply textMembers?_parse?_iff.1
  rw [parse?_encode, Option.bind_some, textMembers?_object]

/-! ### What is no text of headers -/

/-- Nothing but blanks follows a text of headers. -/
theorem not_writes_append {input more : Bytes} {es : List (String × Option String)}
    (h : Writes input es) (hmore : skipSpace more ≠ []) (es' : List (String × Option String)) :
  ¬ Writes (input ++ more) es'
  := by
  obtain ⟨text, htext, rfl⟩ := h
  intro h'
  have hread := textMembers?_parse?_iff.2 h'
  rw [htext.parse?_append hmore] at hread
  cases hread

/-- A text of headers begins with a brace. -/
theorem Writes.skipSpace_eq {input : Bytes} {es : List (String × Option String)}
    (h : Writes input es) :
  ∃ rest, skipSpace input = 0x7B :: rest
  := by
  obtain ⟨text, htext, rfl⟩ := h
  apply htext.skipSpace_eq

/-- A text of headers is Unicode text. -/
theorem Writes.eq_encode {input : Bytes} {es : List (String × Option String)}
    (h : Writes input es) :
  ∃ s, input = Text.Utf8.encode s
  := by
  obtain ⟨text, -, rfl⟩ := h
  exact ⟨String.ofList text, (encode_ofList text).symm⟩

/-! ### What is read -/

/-- The headers of a text of headers have the last value of each key, and those of any other input
are none.  Of the other inputs: a text of headers with more than blanks after it; one that is cut
before its end, blanks aside; an input whose first token is no brace, such as one of blanks, of
another value, or with a byte-order mark; an input that is not UTF-8.  The headers that were read
are written as such a text, and read from it again. -/
theorem decode_exact (input : Bytes) :
  (∀ es, Writes input es → ∀ key, (decode input).get? key = SortedMap.lookup key es.reverse) ∧
    ((∀ es, ¬ Writes input es) → decode input = .empty) ∧
    (∀ more, skipSpace more ≠ [] → ∀ es, Writes input es → decode (input ++ more) = .empty) ∧
    (∀ cut, skipSpace cut ≠ [] → ∀ es, Writes (input ++ cut) es → decode input = .empty) ∧
    ((∀ rest, skipSpace input ≠ 0x7B :: rest) → decode input = .empty) ∧
    ((∀ s, input ≠ Text.Utf8.encode s) → decode input = .empty) ∧
    Writes (decode input).encode (decode input).toList ∧
    decode (decode input).encode = decode input
  := by
  refine ⟨?_, decode_of_not_writes, ?_, ?_, ?_, ?_, writes_encode _, decode_encode _⟩
  · intro es hes key
    rw [decode_of_writes hes, SortedMap.get?_ofList]
  · intro more hmore es hes
    apply decode_of_not_writes (not_writes_append hes hmore)
  · intro cut hcut es hes
    apply decode_of_not_writes
    intro es' hes'
    apply not_writes_append hes' hcut es hes
  · intro hstart
    apply decode_of_not_writes
    intro es hes
    obtain ⟨rest, hrest⟩ := hes.skipSpace_eq
    apply hstart rest hrest
  · intro htext
    apply decode_of_not_writes
    intro es hes
    obtain ⟨s, hs⟩ := hes.eq_encode
    apply htext s hs

/-- A text with blanks, a surrogate pair, and a key that comes back. -/
def sampleText : String :=
  "\x7b\"a\" : \"\\ud83d\\ude00\", \"\\u0062\":\"\",\"a\":null\x7d"

/-- The text writes three members, of which the last counts for its key; with more after it, or cut
short, or after a byte-order mark, it is no text of headers, and neither are half a surrogate pair
and bytes that are not UTF-8. -/
theorem decode_exact_sampleText :
  Writes (Text.Utf8.encode sampleText) [("a", some "😀"), ("b", some ""), ("a", none)] ∧
    (decode (Text.Utf8.encode sampleText)).get? "a" = some none ∧
    decode (Text.Utf8.encode "\x7b\"a\":\"\\ud83d\"\x7d") = .empty ∧
    decode (Text.Utf8.encode sampleText ++ [0x2C]) = .empty ∧
    decode (Text.Utf8.encode sampleText).dropLast = .empty ∧
    decode (0xEF :: 0xBB :: 0xBF :: Text.Utf8.encode sampleText) = .empty ∧
    decode [0x7B, 0x22, 0xFF] = .empty
  := by
  have hsample : Writes (Text.Utf8.encode sampleText)
      [("a", some "😀"), ("b", some ""), ("a", none)] :=
    textMembers?_parse?_iff.1 (by decide +kernel)
  have hcut : Writes ((Text.Utf8.encode sampleText).dropLast ++ [0x7D])
      [("a", some "😀"), ("b", some ""), ("a", none)] :=
    textMembers?_parse?_iff.1 (by decide +kernel)
  have hbytes : ∀ s, [0x7B, 0x22, 0xFF] ≠ Text.Utf8.encode s := by
    intro s hs
    have hdecode : decode? [0x7B, 0x22, 0xFF] = none := by decide +kernel
    rw [hs, decode?_encode] at hdecode
    cases hdecode
  obtain ⟨hlast, -, hmore, -⟩ := decode_exact (Text.Utf8.encode sampleText)
  refine ⟨hsample, hlast _ hsample "a", ?_, hmore _ (by decide) _ hsample, ?_, ?_, ?_⟩
  · apply (decode_exact _).2.1 (read?_eq_none_iff.1 (by decide +kernel))
  · apply (decode_exact _).2.2.2.1 [0x7D] (by decide) _ hcut
  · apply (decode_exact _).2.2.2.2.1
    intro rest hrest
    cases hrest
  · apply (decode_exact _).2.2.2.2.2.1 hbytes

end WireSchemas.Headers
