import WireSchemas.Proofs.Headers.Wire

/-!
# Edited headers on the wire

The wire form of headers tells all that they hold and nothing else: it is read back as the same
headers, and edits that come to the same values come to the same bytes, in whatever order they were
made.
-/

namespace WireSchemas.Headers

/-! ### Edits -/

/-- A change of headers. -/
inductive Edit where
  | add (key : String) (value : Option String)
  | set (key : String) (value : Option String)
  | remove (key : String)

/-- Headers after a change.  The addition of a key that is there fails and changes nothing. -/
def edit (h : Headers) : Edit → Headers
  | .add key value =>
    match h.add key value with
    | .ok h' => h'
    | .error _ => h
  | .set key value => h.set key value
  | .remove key => h.erase key

/-- The headers that changes make of none. -/
def ofEdits (es : List Edit) : Headers :=
  es.foldl edit .empty

/-- What a change makes of the value of a key, which may be absent or null. -/
def Edit.effect (e : Edit) (key : String) (former : Option (Option String)) :
    Option (Option String) :=
  match e with
  | add key' value => if key' = key ∧ former = none then some value else former
  | set key' value => if key' = key then some value else former
  | remove key' => if key' = key then none else former

/-- The value of a key after changes, each of which is made of what the former ones left. -/
def valueAfter (es : List Edit) (key : String) : Option (Option String) :=
  es.foldl (fun former e => e.effect key former) none

theorem get?_set (h : Headers) (key key' : String) (value : Option String) :
  (h.set key value).get? key' = if key = key' then some value else h.get? key'
  := by
  by_cases hkey : key = key'
  · simp [set, hkey]
  · simp [set, hkey, SortedMap.get?_insert_of_ne]

theorem get?_edit (h : Headers) (e : Edit) (key : String) :
  (h.edit e).get? key = e.effect key (h.get? key)
  := by
  cases e with
  | add key' value =>
    cases hget : h.get? key' with
    | none =>
      simp only [edit, add, SortedMap.contains, hget, Option.isSome_none, Edit.effect]
      by_cases hkey : key' = key
      · subst hkey
        simp [get?_set, hget]
      · simp [get?_set, hkey]
    | some former =>
      have habsent : ¬ (key' = key ∧ h.get? key = none) := by
        rintro ⟨rfl, hnone⟩
        simp [hget] at hnone
      simp [edit, add, SortedMap.contains, hget, Edit.effect, habsent]
  | set key' value => apply get?_set
  | remove key' =>
    by_cases hkey : key' = key
    · simp [edit, Edit.effect, hkey, SortedMap.get?_erase_self]
    · simp [edit, Edit.effect, hkey, SortedMap.get?_erase_of_ne h (Ne.symm hkey)]

/-- Headers hold for each key what the edits come to. -/
theorem get?_ofEdits (es : List Edit) (key : String) :
  (ofEdits es).get? key = valueAfter es key
  := by
  suffices h : ∀ h : Headers, (es.foldl edit h).get? key =
      es.foldl (fun former e => e.effect key former) (h.get? key) from h .empty
  intro h
  induction es generalizing h with
  | nil => rfl
  | cons e rest ih => rw [List.foldl_cons, List.foldl_cons, ih, get?_edit]

/-! ### Bytes -/

theorem encode_injective {h h' : Headers} (heq : h.encode = h'.encode) :
  h = h'
  := by
  rw [← decode_encode h, heq, decode_encode]

/-- The wire form is a JSON object of the texts and nulls in key order, and it is read back as the
same headers, where a null is neither an absent key nor an empty text.  Headers made by edits have
the same bytes exactly when the edits come to the same value for every key. -/
theorem wire_form_exact :
  (∀ h : Headers,
    Json.parse? h.encode = some (.object (h.toList.map fun e => (some e.1, nullable e.2))) ∧
      decode h.encode = h) ∧
  (∀ (h : Headers) key, (decode (h.set key none).encode).get? key = some none ∧
    (h.set key none).encode ≠ (h.set key (some "")).encode) ∧
  ∀ es ds : List Edit, (ofEdits es).encode = (ofEdits ds).encode ↔
    ∀ key, valueAfter es key = valueAfter ds key
  := by
  refine ⟨fun h => ⟨parse?_encode h, decode_encode h⟩, ?_, ?_⟩
  · intro h key
    constructor
    · rw [decode_encode, get?_set, if_pos rfl]
    · intro heq
      have hget := congrArg (fun h : Headers => h.get? key) (encode_injective heq)
      simp [get?_set] at hget
  · intro es ds
    constructor
    · intro heq key
      rw [← get?_ofEdits, ← get?_ofEdits, encode_injective heq]
    · intro hvalues
      have hsame : ofEdits es = ofEdits ds := by
        apply SortedMap.ext_get?
        intro key
        rw [get?_ofEdits, get?_ofEdits, hvalues]
      rw [hsame]

/-- A key that is added, removed and added again is written where it belongs. -/
example :
    (ofEdits [.add "b" none, .set "a" (some "1"), .remove "b", .add "b" (some "2"),
      .add "b" none]).encode = (ofEdits [.set "b" (some "2"), .add "a" (some "1")]).encode := by
  decide

end WireSchemas.Headers
