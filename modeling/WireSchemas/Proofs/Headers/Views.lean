import WireSchemas.CommandLine.Run
import WireSchemas.Proofs.SortedMap

/-!
# Views of headers

The views of headers go by the keys alone, so they lose and repeat nothing and may be taken in any
order.  A listing is made of such views: after the schema it shows every entry that does not carry
the schema once, those of the system apart from those of the application: `listed_once`.
-/

namespace WireSchemas.Headers

open CommandLine

/-! ### Keys -/

theorem isSystemKey_iff {key : String} :
  isSystemKey key = true ↔ ['$'] <+: key.toList
  := by
  rw [isSystemKey]
  cases key.toList with
  | nil => simp
  | cons c rest =>
    simp only [List.head?_cons, systemMark, beq_iff_eq, Option.some.injEq, List.cons_prefix_cons,
      List.nil_prefix, and_true]
    apply eq_comm

theorem isSchemaKey_iff {key : String} :
  isSchemaKey key = true ↔ key ∈ schemaKeys
  := List.contains_iff_mem

/-! ### Views -/

/-- The views of headers. -/
def views : List (Headers → Headers) :=
  [systemInfo, withoutSystemInfo, withoutSchemaInfo]

/-- A view keeps the entries of some keys. -/
theorem exists_filter_of_mem_views {view : Headers → Headers} (hview : view ∈ views) :
  ∃ keep : String → Bool, ∀ h : Headers, view h = h.filter keep
  := by
  simp only [views, List.mem_cons, List.not_mem_nil, or_false] at hview
  rcases hview with rfl | rfl | rfl
  · exact ⟨_, fun h => rfl⟩
  · exact ⟨_, fun h => rfl⟩
  · exact ⟨_, fun h => rfl⟩

theorem views_comm {view view' : Headers → Headers} (hview : view ∈ views)
    (hview' : view' ∈ views) (h : Headers) :
  view (view' h) = view' (view h)
  := by
  obtain ⟨keep, hkeep⟩ := exists_filter_of_mem_views hview
  obtain ⟨keep', hkeep'⟩ := exists_filter_of_mem_views hview'
  simp only [hkeep, hkeep', SortedMap.filter_filter, Bool.and_comm]

theorem views_idem {view : Headers → Headers} (hview : view ∈ views) (h : Headers) :
  view (view h) = view h
  := by
  obtain ⟨keep, hkeep⟩ := exists_filter_of_mem_views hview
  simp only [hkeep, SortedMap.filter_filter, Bool.and_self]

theorem mem_systemInfo {h : Headers} {e : String × Option String} :
  e ∈ h.systemInfo.toList ↔ e ∈ h.toList ∧ ['$'] <+: e.1.toList
  := by
  rw [systemInfo, SortedMap.mem_toList_filter, isSystemKey_iff]

theorem mem_withoutSystemInfo {h : Headers} {e : String × Option String} :
  e ∈ h.withoutSystemInfo.toList ↔ e ∈ h.toList ∧ ¬ ['$'] <+: e.1.toList
  := by
  rw [withoutSystemInfo, SortedMap.mem_toList_filter, Bool.not_eq_true', ← Bool.not_eq_true,
    isSystemKey_iff]

theorem mem_withoutSchemaInfo {h : Headers} {e : String × Option String} :
  e ∈ h.withoutSchemaInfo.toList ↔ e ∈ h.toList ∧ e.1 ∉ schemaKeys
  := by
  rw [withoutSchemaInfo, SortedMap.mem_toList_filter, Bool.not_eq_true', ← Bool.not_eq_true,
    isSchemaKey_iff]

/-- The headers of the system and of the application are all there are. -/
theorem perm_systemInfo (h : Headers) :
  (h.systemInfo.toList ++ h.withoutSystemInfo.toList).Perm h.toList
  := by
  simp only [systemInfo, withoutSystemInfo, SortedMap.filter]
  apply List.filter_append_perm

/-- Entries are in the order of their keys. -/
theorem pairwise_keys_lt (h : Headers) :
  h.toList.Pairwise fun e d => e.1 < d.1
  := h.sorted.imp fun hlt => compareOfLessAndEq_eq_lt.1 hlt

/-! ### Listings -/

/-- The lines of a section of a listing: none without entries, and otherwise a heading and then a
line for each of them. -/
inductive Section (heading : String) : List (String × Option String) → List String → Prop where
  | absent : Section heading [] []
  | shown (e : String × Option String) (es : List (String × Option String)) :
    Section heading (e :: es) (heading :: (e :: es).map entryLine)

theorem section_partLines (heading : String) (h : Headers) :
  Section heading h.toList (partLines heading h)
  := by
  rw [partLines]
  cases h.toList with
  | nil => apply Section.absent
  | cons e es => apply Section.shown

/-- Headers fall apart into those of the system, whose keys start with a dollar sign, and all
others; those that do not carry the schema are all but the ones with the four keys for it; and views
may be taken in any order and more than once.  A listing of any payload shows the schema that its
headers carry, then every entry with none of the four keys once: those of the system and those of
the application each in the order of their keys, under a heading if there are any. -/
theorem listed_once :
  let keys := ["$schema.name", "$schema.data-format", "kurrentdb.schema.subject",
    "kurrentdb.schema.type"]
  (∀ h : Headers,
    (h.systemInfo.toList ++ h.withoutSystemInfo.toList).Perm h.toList ∧
      (∀ e, e ∈ h.systemInfo.toList ↔ e ∈ h.toList ∧ ['$'] <+: e.1.toList) ∧
      (∀ e, e ∈ h.withoutSystemInfo.toList ↔ e ∈ h.toList ∧ ¬ ['$'] <+: e.1.toList) ∧
      ∀ e, e ∈ h.withoutSchemaInfo.toList ↔ e ∈ h.toList ∧ e.1 ∉ keys) ∧
  (∀ view ∈ views, ∀ view' ∈ views, ∀ h, view (view' h) = view' (view h) ∧
    view (view h) = view h) ∧
  ∀ payload : Bytes,
    let h := decode payload
    (∃ system user systemLines userLines,
      (system ++ user).Perm (h.toList.filter fun e => e.1 ∉ keys) ∧
        (∀ e ∈ system, ['$'] <+: e.1.toList) ∧ (∀ e ∈ user, ¬ ['$'] <+: e.1.toList) ∧
        system.Pairwise (fun e d => e.1 < d.1) ∧ user.Pairwise (fun e d => e.1 < d.1) ∧
        Section "System" system systemLines ∧ Section "User" user userLines ∧
        h.listing = schemaLines (SchemaInfo.ofHeaders h) ++ systemLines ++ userLines ++
          if h.contains legacyMetadataKey then ["(legacy event metadata present)"] else []) ∧
    ∀ (files : Files) (environment : List (String × String)) (arguments : List String)
      (i : Invocation) (path : String) (s : Settings),
      Invocation.read? arguments = some i → i.command = .headers path →
        files path = .ok payload → Settings.load files environment i.settingsPath = .ok s →
          run files environment arguments = ⟨0, lines h.listing, ""⟩
  := by
  intro keys
  refine ⟨?_, ?_, ?_⟩
  · intro h
    exact ⟨perm_systemInfo h, fun e => mem_systemInfo, fun e => mem_withoutSystemInfo,
      fun e => mem_withoutSchemaInfo⟩
  · intro view hview view' hview' h
    exact ⟨views_comm hview hview' h, views_idem hview h⟩
  · intro payload h
    have hsystem : h.systemInfo.withoutSchemaInfo = h.withoutSchemaInfo.systemInfo :=
      views_comm (by simp [views]) (by simp [views]) h
    have huser : h.withoutSystemInfo.withoutSchemaInfo = h.withoutSchemaInfo.withoutSystemInfo :=
      views_comm (by simp [views]) (by simp [views]) h
    constructor
    · refine ⟨_, _, _, _, ?_, ?_, ?_, pairwise_keys_lt _, pairwise_keys_lt _,
        section_partLines "System" h.withoutSchemaInfo.systemInfo,
        section_partLines "User" h.withoutSchemaInfo.withoutSystemInfo, ?_⟩
      · apply (perm_systemInfo h.withoutSchemaInfo).trans
        apply List.Perm.of_eq
        simp [withoutSchemaInfo, SortedMap.filter, isSchemaKey, keys, schemaKeys, schemaNameKey,
          dataFormatKey, formerNameKey, formerFormatKey]
      · intro e he
        apply (mem_systemInfo.1 he).2
      · intro e he
        apply (mem_withoutSystemInfo.1 he).2
      · rw [listing, hsystem, huser]
    · intro files environment arguments i path s hread hcommand hfile hload
      simp only [run, hread, Invocation.output, hload, hcommand, Command.output, hfile, h]

/-- Keys of either kind, a null, and one key for the schema of each age. -/
def mixedPayload : Bytes :=
  Text.Utf8.encode
    ("\x7b\"trace\":null,\"$schema.name\":\"users\"," ++
      "\"kurrentdb.schema.type\":\"2\",\"$producer.id\":\"7\"\x7d")

theorem mixedPayload_listed :
  let files : Files := fun path =>
    if path = "h.json" then .ok mixedPayload else .error .missing
  let h := decode mixedPayload
  (withoutSchemaInfo ∈ views ∧ systemInfo ∈ views ∧
    withoutSchemaInfo h.systemInfo = systemInfo h.withoutSchemaInfo) ∧
  (Invocation.read? ["headers", "h.json"] = some ⟨none, .headers "h.json"⟩ ∧
    files "h.json" = .ok mixedPayload ∧ Settings.load files [] none = .ok {}) ∧
  run files [] ["headers", "h.json"] = ⟨0, "Schema\n  name:    users\n  format:  protobuf\n" ++
    "  content: application/vnd.google.protobuf\nSystem\n  $producer.id = 7\nUser\n" ++
    "  trace = <null>\n", ""⟩
  := by
  intro files h
  obtain ⟨-, hviews, hlistings⟩ := listed_once
  have hread : Invocation.read? ["headers", "h.json"] = some ⟨none, .headers "h.json"⟩ := by
    decide +kernel
  have hload : Settings.load files [] none = .ok {} := rfl
  have hschema : withoutSchemaInfo ∈ views := by simp [views]
  have hsystem : systemInfo ∈ views := by simp [views]
  refine ⟨⟨hschema, hsystem, (hviews _ hschema _ hsystem h).1⟩, ⟨hread, rfl, hload⟩, ?_⟩
  rw [(hlistings mixedPayload).2 files [] _ _ "h.json" {} hread rfl rfl hload]
  decide +kernel

end WireSchemas.Headers
