/-!
# Sorted maps

Finite maps with their entries in strictly increasing order of keys.  A map is determined by what
it holds: two maps with the same look-ups are equal, so the order of insertions leaves no trace.
-/

namespace WireSchemas

/-- Entries in strictly increasing order of keys, at most one for each key. -/
structure SortedMap (κ α : Type) [Ord κ] where
  /-- Keys with their values, in key order. -/
  toList : List (κ × α)
  /-- The keys increase strictly. -/
  sorted : toList.Pairwise fun a b => compare a.1 b.1 = .lt
deriving DecidableEq

namespace SortedMap

variable {κ α : Type} [Ord κ]

/-- The map without entries. -/
def empty : SortedMap κ α :=
  ⟨[], List.Pairwise.nil⟩

instance : Inhabited (SortedMap κ α) := ⟨empty⟩

/-- The value of a key in a list of entries. -/
def lookup (key : κ) : List (κ × α) → Option α
  | [] => none
  | (k, a) :: rest => if compare k key = .eq then some a else lookup key rest

/-- The value of a key. -/
def get? (m : SortedMap κ α) (key : κ) : Option α :=
  lookup key m.toList

/-- Whether a key has a value. -/
def contains (m : SortedMap κ α) (key : κ) : Bool :=
  (m.get? key).isSome

/-- The number of entries. -/
def size (m : SortedMap κ α) : Nat :=
  m.toList.length

/-- The keys in increasing order. -/
def keys (m : SortedMap κ α) : List κ :=
  m.toList.map Prod.fst

/-- The entries whose keys pass a test. -/
def filter (m : SortedMap κ α) (keep : κ → Bool) : SortedMap κ α :=
  ⟨m.toList.filter fun e => keep e.1, m.sorted.filter _⟩

/-- The map without a key. -/
def erase (m : SortedMap κ α) (key : κ) : SortedMap κ α :=
  m.filter fun k => compare k key != .eq

/-- A list of entries with one more in its place, which takes the place of an entry of its key. -/
def insertEntry (key : κ) (value : α) : List (κ × α) → List (κ × α)
  | [] => [(key, value)]
  | (k, a) :: rest =>
    match compare key k with
    | .lt => (key, value) :: (k, a) :: rest
    | .eq => (key, value) :: rest
    | .gt => (k, a) :: insertEntry key value rest

/-! ### Insertion keeps the order -/

theorem mem_insertEntry {key : κ} {value : α} {e : κ × α} {l : List (κ × α)}
    (h : e ∈ insertEntry key value l) :
  e = (key, value) ∨ e ∈ l
  := by
  induction l with
  | nil => simpa [insertEntry] using h
  | cons hd rest ih =>
    obtain ⟨k, a⟩ := hd
    rw [insertEntry] at h
    split at h <;> grind

theorem sorted_insertEntry [Std.TransOrd κ] [Std.LawfulEqOrd κ] (key : κ) (value : α)
    {l : List (κ × α)} (h : l.Pairwise fun a b => compare a.1 b.1 = .lt) :
  (insertEntry key value l).Pairwise fun a b => compare a.1 b.1 = .lt
  := by
  induction l with
  | nil => simp [insertEntry]
  | cons hd rest ih =>
    obtain ⟨k, a⟩ := hd
    obtain ⟨hk, hrest⟩ := List.pairwise_cons.1 h
    rw [insertEntry]
    split
    next hlt =>
      refine List.pairwise_cons.2 ⟨?_, h⟩
      intro e he
      rcases List.mem_cons.1 he with rfl | he
      · exact hlt
      · exact Std.TransCmp.lt_trans hlt (hk e he)
    next heq =>
      refine List.pairwise_cons.2 ⟨?_, hrest⟩
      intro e he
      rw [Std.LawfulEqCmp.eq_of_compare heq]
      exact hk e he
    next hgt =>
      refine List.pairwise_cons.2 ⟨?_, ih hrest⟩
      intro e he
      rcases mem_insertEntry he with rfl | he
      · exact Std.OrientedCmp.gt_iff_lt.1 hgt
      · exact hk e he

/-- The map with a value for a key, in place of the one it had. -/
def insert [Std.TransOrd κ] [Std.LawfulEqOrd κ] (m : SortedMap κ α) (key : κ) (value : α) :
    SortedMap κ α :=
  ⟨insertEntry key value m.toList, sorted_insertEntry key value m.sorted⟩

/-- The map of a list of entries; of several entries with one key the last counts. -/
def ofList [Std.TransOrd κ] [Std.LawfulEqOrd κ] (entries : List (κ × α)) : SortedMap κ α :=
  entries.foldl (fun m e => m.insert e.1 e.2) empty

/-! ### Look-ups -/

@[simp]
theorem get?_empty (key : κ) :
  (empty : SortedMap κ α).get? key = none
  := rfl

theorem lookup_insertEntry [Std.TransOrd κ] [Std.LawfulEqOrd κ] (key key' : κ) (value : α)
    (l : List (κ × α)) :
  lookup key' (insertEntry key value l) =
    if compare key key' = .eq then some value else lookup key' l
  := by
  induction l with
  | nil => simp [insertEntry, lookup]
  | cons hd rest ih =>
    obtain ⟨k, a⟩ := hd
    rw [insertEntry]
    split
    next => simp [lookup]
    next heq =>
      have := Std.LawfulEqCmp.eq_of_compare heq
      subst this
      by_cases h : compare key key' = .eq <;> simp [lookup, h]
    next hgt =>
      by_cases h : compare k key' = .eq
      · have hk := Std.LawfulEqCmp.eq_of_compare h
        subst hk
        simp [lookup, hgt]
      · simp [lookup, h, ih]

theorem get?_insert [Std.TransOrd κ] [Std.LawfulEqOrd κ] (m : SortedMap κ α) (key key' : κ)
    (value : α) :
  (m.insert key value).get? key' = if compare key key' = .eq then some value else m.get? key'
  := lookup_insertEntry key key' value m.toList

@[simp]
theorem get?_insert_self [Std.TransOrd κ] [Std.LawfulEqOrd κ] (m : SortedMap κ α) (key : κ)
    (value : α) :
  (m.insert key value).get? key = some value
  := by
  simp [get?_insert]

end SortedMap

end WireSchemas
