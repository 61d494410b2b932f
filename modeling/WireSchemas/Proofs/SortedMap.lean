import WireSchemas.SortedMap

/-!
# Laws of sorted maps

What filtering, erasing and listing the keys do to the look-ups, an entry that is inserted again,
and the map of a list of entries that are in order.  Maps with the same look-ups are equal.
-/

namespace WireSchemas.SortedMap

variable {κ α : Type} [Ord κ] [Std.LawfulEqOrd κ]

theorem compare_ne_eq {a b : κ} (h : a ≠ b) :
  compare a b ≠ .eq
  := fun heq => h (Std.LawfulEqCmp.eq_of_compare heq)

/-! ### Fewer entries -/

theorem lookup_filter (keep : κ → Bool) (key : κ) (l : List (κ × α)) :
  lookup key (l.filter fun e => keep e.1) = if keep key then lookup key l else none
  := by
  induction l with
  | nil => simp [lookup]
  | cons e rest ih =>
    obtain ⟨k, a⟩ := e
    by_cases h : compare k key = .eq
    · obtain rfl := Std.LawfulEqCmp.eq_of_compare h
      by_cases hk : keep k <;> simp [lookup, hk, ih]
    · by_cases hk : keep k <;> simp [lookup, h, hk, ih]

theorem get?_filter (m : SortedMap κ α) (keep : κ → Bool) (key : κ) :
  (m.filter keep).get? key = if keep key then m.get? key else none
  := lookup_filter keep key m.toList

omit [Std.LawfulEqOrd κ] in
@[simp]
theorem mem_toList_filter {m : SortedMap κ α} {keep : κ → Bool} {e : κ × α} :
  e ∈ (m.filter keep).toList ↔ e ∈ m.toList ∧ keep e.1 = true
  := List.mem_filter

omit [Std.LawfulEqOrd κ] in
theorem filter_filter (m : SortedMap κ α) (keep keep' : κ → Bool) :
  (m.filter keep).filter keep' = m.filter fun key => keep' key && keep key
  := by
  simp only [filter, List.filter_filter]

theorem get?_erase_self (m : SortedMap κ α) (key : κ) :
  (m.erase key).get? key = none
  := by
  simp [erase, get?_filter]

theorem get?_erase_of_ne (m : SortedMap κ α) {key key' : κ} (h : key' ≠ key) :
  (m.erase key).get? key' = m.get? key'
  := by
  simp [erase, get?_filter, compare_ne_eq h]

/-! ### Keys -/

theorem isSome_lookup_iff (key : κ) (l : List (κ × α)) :
  (lookup key l).isSome ↔ key ∈ l.map Prod.fst
  := by
  induction l with
  | nil => simp [lookup]
  | cons e rest ih =>
    obtain ⟨k, a⟩ := e
    by_cases h : compare k key = .eq
    · simp [lookup, Std.LawfulEqCmp.eq_of_compare h]
    · have hne : key ≠ k := fun heq => h (heq ▸ Std.ReflCmp.compare_self)
      simpa [lookup, h, hne] using ih

theorem mem_keys_iff (m : SortedMap κ α) (key : κ) :
  key ∈ m.keys ↔ (m.get? key).isSome
  := (isSome_lookup_iff key m.toList).symm

/-! ### More entries -/

variable [Std.TransOrd κ]

theorem get?_insert_of_ne (m : SortedMap κ α) {key key' : κ} (value : α) (h : key ≠ key') :
  (m.insert key value).get? key' = m.get? key'
  := by
  rw [get?_insert, if_neg (compare_ne_eq h)]

theorem insertEntry_eq_self {key : κ} {value : α} {l : List (κ × α)}
    (hs : l.Pairwise fun a b => compare a.1 b.1 = .lt) (h : lookup key l = some value) :
  insertEntry key value l = l
  := by
  induction l with
  | nil => simp [lookup] at h
  | cons e rest ih =>
    obtain ⟨k, a⟩ := e
    obtain ⟨hk, hrest⟩ := List.pairwise_cons.1 hs
    by_cases heq : compare k key = .eq
    · obtain rfl := Std.LawfulEqCmp.eq_of_compare heq
      obtain rfl : a = value := by simpa [lookup] using h
      simp [insertEntry]
    · have hl : lookup key rest = some value := by simpa [lookup, heq] using h
      -- the key stands further on, so it is greater than the first one
      have hmem : key ∈ rest.map Prod.fst := by
        rw [← isSome_lookup_iff, hl]
        rfl
      obtain ⟨e, he, rfl⟩ := List.mem_map.1 hmem
      have hgt : compare e.1 k = .gt := Std.OrientedCmp.gt_iff_lt.2 (hk e he)
      simp [insertEntry, hgt, ih hrest hl]

/-- Inserting an entry that a map has changes nothing. -/
theorem insert_eq_self {m : SortedMap κ α} {key : κ} {value : α} (h : m.get? key = some value) :
  m.insert key value = m
  := by
  obtain ⟨l, hs⟩ := m
  simp only [insert, mk.injEq]
  apply insertEntry_eq_self hs h

omit [Std.LawfulEqOrd κ] in
theorem length_insertEntry {key : κ} (value : α) {l : List (κ × α)} (h : lookup key l = none) :
  (insertEntry key value l).length = l.length + 1
  := by
  induction l with
  | nil => rfl
  | cons e rest ih =>
    obtain ⟨k, a⟩ := e
    by_cases heq : compare k key = .eq
    · simp [lookup, heq] at h
    · have hl : lookup key rest = none := by simpa [lookup, heq] using h
      have hne : compare key k ≠ .eq := fun h => heq (Std.OrientedCmp.eq_symm h)
      rw [insertEntry]
      split
      · rfl
      · contradiction
      · simp [ih hl]

/-- A new key makes a map greater by one. -/
theorem size_insert_of_get?_eq_none {m : SortedMap κ α} {key : κ} (value : α)
    (h : m.get? key = none) :
  (m.insert key value).size = m.size + 1
  := length_insertEntry value h

/-! ### Entries in order -/

omit [Std.LawfulEqOrd κ] in
theorem insertEntry_eq_append {key : κ} (value : α) {l : List (κ × α)}
    (h : ∀ e ∈ l, compare e.1 key = .lt) :
  insertEntry key value l = l ++ [(key, value)]
  := by
  induction l with
  | nil => rfl
  | cons e rest ih =>
    obtain ⟨he, hrest⟩ := List.forall_mem_cons.1 h
    have hgt : compare key e.1 = .gt := Std.OrientedCmp.gt_iff_lt.2 he
    simp [insertEntry, hgt, ih hrest]

theorem toList_foldl_insert {m : SortedMap κ α} {l : List (κ × α)}
    (h : (m.toList ++ l).Pairwise fun a b => compare a.1 b.1 = .lt) :
  (l.foldl (fun m e => m.insert e.1 e.2) m).toList = m.toList ++ l
  := by
  induction l generalizing m with
  | nil => simp
  | cons e rest ih =>
    have hlast : (m.insert e.1 e.2).toList = m.toList ++ [e] := by
      apply insertEntry_eq_append
      intro d hd
      apply (List.pairwise_append.1 h).2.2 d hd e List.mem_cons_self
    rw [List.foldl_cons, ih, hlast, List.append_assoc, List.singleton_append]
    rw [hlast, List.append_assoc, List.singleton_append]
    apply h

theorem toList_foldl (m : SortedMap κ α) (l : List (κ × α)) :
  (l.foldl (fun m e => m.insert e.1 e.2) m).toList =
    l.foldl (fun acc e => insertEntry e.1 e.2 acc) m.toList
  := by
  induction l generalizing m with
  | nil => rfl
  | cons e rest ih => rw [List.foldl_cons, ih, List.foldl_cons, insert]

omit [Std.LawfulEqOrd κ] [Std.TransOrd κ] in
theorem toList_injective {m n : SortedMap κ α} (h : m.toList = n.toList) :
  m = n
  := by
  cases m
  cases n
  simpa using h

theorem ofList_toList (m : SortedMap κ α) :
  ofList m.toList = m
  := by
  apply toList_injective
  apply toList_foldl_insert m.sorted

omit [Std.LawfulEqOrd κ] [Std.TransOrd κ] in
theorem lookup_append (key : κ) (l l' : List (κ × α)) :
  lookup key (l ++ l') = (lookup key l).or (lookup key l')
  := by
  induction l with
  | nil => rfl
  | cons e rest ih =>
    obtain ⟨k, a⟩ := e
    by_cases h : compare k key = .eq <;> simp [lookup, h, ih]

theorem get?_foldl_insert (m : SortedMap κ α) (l : List (κ × α)) (key : κ) :
  (l.foldl (fun m e => m.insert e.1 e.2) m).get? key = (lookup key l.reverse).or (m.get? key)
  := by
  induction l generalizing m with
  | nil => rfl
  | cons e rest ih =>
    obtain ⟨k, a⟩ := e
    rw [List.foldl_cons, ih, get?_insert, List.reverse_cons, lookup_append, Option.or_assoc]
    by_cases h : compare k key = .eq <;> simp [lookup, h]

/-- A list of entries holds the last value of each key. -/
theorem get?_ofList (l : List (κ × α)) (key : κ) :
  (ofList l).get? key = lookup key l.reverse
  := by
  rw [ofList, get?_foldl_insert, get?_empty, Option.or_none]

omit [Std.LawfulEqOrd κ] [Std.TransOrd κ] in
theorem pairwise_keys (m : SortedMap κ α) :
  m.keys.Pairwise fun a b => compare a b = .lt
  := List.pairwise_map.2 m.sorted

omit [Std.TransOrd κ] in
theorem nodup_keys (m : SortedMap κ α) :
  m.keys.Nodup
  := by
  apply m.pairwise_keys.imp
  rintro a b hlt rfl
  simp [Std.ReflCmp.compare_self] at hlt

/-! ### Maps with the same look-ups -/

omit [Std.TransOrd κ] in
theorem mem_iff_lookup {l : List (κ × α)} (hs : l.Pairwise fun a b => compare a.1 b.1 = .lt)
    (key : κ) (value : α) :
  (key, value) ∈ l ↔ lookup key l = some value
  := by
  induction l with
  | nil => simp [lookup]
  | cons e rest ih =>
    obtain ⟨k, a⟩ := e
    obtain ⟨hk, hrest⟩ := List.pairwise_cons.1 hs
    by_cases heq : compare k key = .eq
    · obtain rfl := Std.LawfulEqCmp.eq_of_compare heq
      have hfirst : (k, value) ∉ rest := by
        intro hmem
        have := hk _ hmem
        simp [Std.ReflCmp.compare_self] at this
      simp [lookup, hfirst, eq_comm]
    · have hne : key ≠ k := fun h => heq (h ▸ Std.ReflCmp.compare_self)
      simpa [lookup, heq, hne] using ih hrest

/-- Entries that are there already are inserted without effect. -/
theorem foldl_insertEntry_self {l l' : List (κ × α)}
    (hs : l.Pairwise fun a b => compare a.1 b.1 = .lt) (h : ∀ e ∈ l', e ∈ l) :
  l'.foldl (fun acc e => insertEntry e.1 e.2 acc) l = l
  := by
  induction l' with
  | nil => rfl
  | cons e rest ih =>
    obtain ⟨he, hrest⟩ := List.forall_mem_cons.1 h
    rw [List.foldl_cons, insertEntry_eq_self hs ((mem_iff_lookup hs e.1 e.2).1 he), ih hrest]

omit [Std.TransOrd κ] in
theorem mem_toList_iff (m : SortedMap κ α) (key : κ) (value : α) :
  (key, value) ∈ m.toList ↔ m.get? key = some value
  := mem_iff_lookup m.sorted key value

omit [Std.TransOrd κ] in
theorem nodup_toList (m : SortedMap κ α) :
  m.toList.Nodup
  := by
  apply m.sorted.imp
  rintro a b hlt rfl
  simp [Std.ReflCmp.compare_self] at hlt

/-- A map is determined by its look-ups. -/
theorem ext_get? {m n : SortedMap κ α} (h : ∀ key, m.get? key = n.get? key) :
  m = n
  := by
  apply toList_injective
  apply List.Perm.eq_of_pairwise _ m.sorted n.sorted
  · apply (List.perm_ext_iff_of_nodup m.nodup_toList n.nodup_toList).2
    rintro ⟨key, value⟩
    rw [mem_toList_iff, mem_toList_iff, h key]
  · intro a b _ _ hab hba
    cases (Std.OrientedCmp.gt_iff_lt.2 hab).symm.trans hba

end WireSchemas.SortedMap
