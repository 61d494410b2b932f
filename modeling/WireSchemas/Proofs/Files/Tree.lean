import WireSchemas.Files.Tree

/-!
# Files read back from a tree

A file that is written to a tree is found under the path it was written to: writing leaves all
directories in place, so the names of the path lead to where they led before.
-/

namespace WireSchemas.FileTree

/-- The names of a path are the characters between its slashes. -/
theorem names_eq (path : String) :
  names path = (path.toList.splitOn '/').map String.ofList
  := by
  rw [← String.toList_split_char]
  rfl

/-- The tree with a file put at a place. -/
def put (t : FileTree) (place : List String) (contents : Bytes) : FileTree :=
  ⟨(place, contents) :: t.files.filter fun f => f.1 ≠ place⟩

@[simp]
theorem node_put_self (t : FileTree) (place : List String) (contents : Bytes) :
  (t.put place contents).node place = .ok contents
  := by
  simp [put, node]

theorem node_eq_isDirectory_iff {t : FileTree} {q : List String} :
  t.node q = .error .isDirectory ↔
    (∀ f ∈ t.files, f.1 ≠ q) ∧ (q = [] ∨ ∃ f ∈ t.files, q <+: f.1)
  := by
  rw [node]
  split
  · next f hf =>
    have hkey : f.1 = q := by simpa using List.find?_some hf
    constructor
    · intro h
      cases h
    · rintro ⟨hfree, -⟩
      exact absurd hkey (hfree f (List.mem_of_find?_eq_some hf))
  · next hfree =>
    have hall : ∀ f ∈ t.files, f.1 ≠ q := by
      simpa using List.find?_eq_none.1 hfree
    have hany : (t.files.any fun f => q.isPrefixOf f.1) = true ↔ ∃ f ∈ t.files, q <+: f.1 := by
      simp only [List.any_eq_true, List.isPrefixOf_iff_prefix]
    rw [and_iff_right hall, ← hany]
    split
    · next hroot => exact iff_of_true rfl hroot
    · next hroot => exact iff_of_false nofun hroot

/-- A directory is one still after a file is put elsewhere. -/
theorem node_put_of_isDirectory {t : FileTree} {place q : List String} (contents : Bytes)
    (hq : t.node q = .error .isDirectory) (hne : q ≠ place) :
  (t.put place contents).node q = .error .isDirectory
  := by
  rw [node_eq_isDirectory_iff] at hq ⊢
  obtain ⟨hfree, hroot⟩ := hq
  refine ⟨?_, hroot.imp_right ?_⟩
  · intro f hf
    rcases List.mem_cons.1 hf with rfl | hf
    · exact hne.symm
    · exact hfree f (List.mem_filter.1 hf).1
  · rintro ⟨f, hf, hprefix⟩
    by_cases heq : f.1 = place
    · exact ⟨_, List.mem_cons_self, heq ▸ hprefix⟩
    · exact ⟨f, List.mem_cons_of_mem _ (List.mem_filter.2 ⟨hf, by simpa using heq⟩), hprefix⟩

/-- Names that lead to a directory, and then one more that a file is put under, lead to that
file. -/
theorem follow_put {t : FileTree} {place directory : List String} (contents : Bytes)
    (hplace : t.node place ≠ .error .isDirectory) {names : List String} {last : String}
    (hlast : last ≠ "" ∧ last ≠ "." ∧ last ≠ "..") (hshort : last.utf8ByteSize ≤ longestName)
    (hdirectory : t.node directory = .error .isDirectory) (heq : directory ++ [last] = place)
    {start : List String} (hfollow : t.follow start names = .ok directory) :
  (t.put place contents).follow start (names ++ [last]) = .ok place
  := by
  induction names generalizing start with
  | nil =>
    have hstart : start = directory := by
      rw [follow] at hfollow
      split at hfollow
      · cases hfollow
      · exact Except.ok.inj hfollow
    subst hstart
    have hne : start ≠ place := fun h => hplace (h ▸ hdirectory)
    have hnode := node_put_of_isDirectory contents hdirectory hne
    simp [follow, hnode, hlast, Nat.not_lt.2 hshort, heq]
  | cons name names ih =>
    rw [follow] at hfollow
    split at hfollow
    · cases hfollow
    · next hstart =>
      have hne : start ≠ place := fun h => hplace (h ▸ hstart)
      have hnode := node_put_of_isDirectory contents hstart hne
      -- from here the names lead the same way in both trees
      simp only [List.cons_append, follow, hnode]
      grind
    · cases hfollow

/-- The names of a path without the empty ones at its end, when no name is left out. -/
theorem dropWhile_reverse_eq {all : List String}
    (hlength : all.length = (all.reverse.dropWhile (· = "")).reverse.length) :
  (all.reverse.dropWhile (· = "")).reverse = all
  := by
  have hsuffix : all.reverse.dropWhile (· = "") <:+ all.reverse := List.dropWhile_suffix _
  rw [List.length_reverse] at hlength
  rw [hsuffix.eq_of_length (by rw [List.length_reverse, hlength]), List.reverse_reverse]

theorem of_ite_error_eq_ok {ε α : Type} {p : Prop} [Decidable p] {e : ε} {x : Except ε α} {a : α}
    (h : (if p then .error e else x) = .ok a) :
  ¬ p ∧ x = .ok a
  := by
  split at h
  · cases h
  · next hp => exact ⟨hp, h⟩

/-- What a write needs, and what it does. -/
theorem write_cases {t t' : FileTree} {path : String} {contents : Bytes}
    (h : t.write path contents = .ok t') :
  ∃ names last directory, checked path = .ok (names ++ [last])
    ∧ t.follow [] names = .ok directory
    ∧ t.node directory = .error .isDirectory
    ∧ (last ≠ "" ∧ last ≠ "." ∧ last ≠ "..")
    ∧ t.node (directory ++ [last]) ≠ .error .isDirectory
    ∧ last.utf8ByteSize ≤ longestName
    ∧ t' = t.put (directory ++ [last]) contents
  := by
  rw [write] at h
  cases hchecked : checked path with
  | error problem =>
    rw [hchecked] at h
    cases h
  | ok all =>
    rw [hchecked] at h
    simp only [bind, Except.bind] at h
    split at h
    · cases h
    · next last hlast =>
      split at h
      · cases h
      · next directory hfollow =>
        split at h
        · cases h
        · next hdirectory =>
          obtain ⟨hproper, hrest⟩ := of_ite_error_eq_ok h
          obtain ⟨hshort, hput⟩ := of_ite_error_eq_ok hrest
          simp only [not_or, ne_eq, Decidable.not_not] at hproper
          obtain ⟨hlength, hdot, hdots, hfile⟩ := hproper
          have hempty : last ≠ "" := by
            have hhead := List.head?_dropWhile_not (fun s : String => decide (s = "")) all.reverse
            rw [List.getLast?_reverse] at hlast
            rw [hlast] at hhead
            simpa using hhead
          have hall := dropWhile_reverse_eq hlength
          rw [hall] at hlast hfollow
          obtain ⟨names, rfl⟩ := List.getLast?_eq_some_iff.1 hlast
          rw [List.dropLast_concat] at hfollow
          refine ⟨names, last, directory, rfl, hfollow, hdirectory, ⟨hempty, hdot, hdots⟩, ?_,
            Nat.le_of_not_lt hshort, (Except.ok.inj hput).symm⟩
          intro hplace
          apply hfile
          rw [hplace]
        · cases h

/-- A file that was written is found under its path. -/
theorem toFiles_write {t t' : FileTree} {path : String} {contents : Bytes}
    (h : t.write path contents = .ok t') :
  t'.toFiles path = .ok contents
  := by
  obtain ⟨names, last, directory, hchecked, hfollow, hdirectory, hlast, hplace, hshort, rfl⟩ :=
    write_cases h
  have hput := follow_put contents hplace hlast hshort hdirectory rfl hfollow
  rw [toFiles, hchecked]
  show (t.put _ contents).follow [] (names ++ [last]) >>= _ = _
  rw [hput]
  exact node_put_self t _ contents

end WireSchemas.FileTree
