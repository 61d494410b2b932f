import WireSchemas.Datum.Place
import WireSchemas.Proofs.SortedMap

/-!
# Merging flat tables

A table is `Flat` when its keys are in order and in lower case and none of its values is a table.
Such a table merged into an empty one comes out as it is, and merged into itself it changes nothing.
-/

namespace WireSchemas.Datum

/-- The tables that hold no tables, with their entries in order. -/
structure Flat (es : List (String × Datum)) : Prop where
  sorted : es.Pairwise fun a b => compare a.1 b.1 = .lt
  folded : ∀ e ∈ es, Datum.folded e.1 = e.1
  plain : ∀ e ∈ es, ∀ es', e.2 ≠ .table es'

theorem Flat.of_keys {es : List (String × Datum)} (keys : List String)
    (hkeys : es.map Prod.fst = keys) (hsorted : keys.Pairwise fun a b => compare a b = .lt)
    (hfolded : ∀ key ∈ keys, Datum.folded key = key)
    (hplain : ∀ e ∈ es, ∀ es', e.2 ≠ .table es') :
  Flat es
  := by
  subst hkeys
  exact ⟨List.pairwise_map.1 hsorted, List.forall_mem_map.1 hfolded, hplain⟩

theorem replaced_of_plain {value : Datum} (h : ∀ es, value ≠ .table es) (old : Option Datum) :
  replaced old value = value
  := by
  rw [replaced]
  exact h

/-- A flat table is merged into a table by inserting its entries one after the other. -/
theorem mergedInto_eq_foldl {es : List (String × Datum)}
    (hfolded : ∀ e ∈ es, Datum.folded e.1 = e.1) (hplain : ∀ e ∈ es, ∀ es', e.2 ≠ .table es')
    (acc : List (String × Datum)) :
  mergedInto (.table acc) es =
    .table (es.foldl (fun acc e => SortedMap.insertEntry e.1 e.2 acc) acc)
  := by
  induction es generalizing acc with
  | nil => rw [mergedInto, List.foldl_nil]
  | cons e es ih =>
    obtain ⟨hkey, hkeys⟩ := List.forall_mem_cons.1 hfolded
    obtain ⟨hvalue, hvalues⟩ := List.forall_mem_cons.1 hplain
    rw [mergedInto, hkey, replaced_of_plain hvalue, ih hkeys hvalues, entries, List.foldl_cons]

variable {es : List (String × Datum)}

theorem Flat.mergedInto_nil (h : Flat es) :
  mergedInto (.table []) es = .table es
  := by
  have hfold := SortedMap.toList_foldl SortedMap.empty es
  have hlist : (es.foldl (fun m e => m.insert e.1 e.2) SortedMap.empty).toList = es :=
    SortedMap.toList_foldl_insert h.sorted
  rw [mergedInto_eq_foldl h.folded h.plain]
  exact congrArg table (hfold.symm.trans hlist)

theorem Flat.mergedInto_self (h : Flat es) :
  mergedInto (.table es) es = .table es
  := by
  rw [mergedInto_eq_foldl h.folded h.plain, SortedMap.foldl_insertEntry_self h.sorted]
  exact fun _ => id

/-- A flat table assigned to a key takes the place of nothing, or of itself. -/
theorem Flat.assign_key (h : Flat es) {key : String} (hplace : place key = [.key key])
    (hkey : Datum.folded key = key) {target : List (String × Datum)}
    (hold : SortedMap.lookup key target = none ∨ SortedMap.lookup key target = some (.table es)) :
  assign (.table target) (.table es) (place key) =
    .table (SortedMap.insertEntry key (.table es) target)
  := by
  rw [hplace, assign, insertAt, hkey, replaced]
  rcases hold with hold | hold
  · rw [entries, hold, Option.getD_none, h.mergedInto_nil]
  · rw [entries, hold, Option.getD_some, h.mergedInto_self]

end WireSchemas.Datum
