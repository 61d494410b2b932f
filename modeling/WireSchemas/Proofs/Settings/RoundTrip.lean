import WireSchemas.CommandLine.Run
import WireSchemas.Proofs.Datum.Place
import WireSchemas.Proofs.Files.Tree
import WireSchemas.Proofs.Settings.Toml

/-!
# Settings loaded from the text they were written in

Settings that are saved, or printed, and then loaded from that text alone are the same settings:
`load_toToml_exact`.  The text may be read from several places.  The first reading gives the data
of the settings, and each further one goes over them and changes nothing.
-/

namespace WireSchemas.Settings

open CommandLine

/-! ### The data of settings assigned -/

theorem flat_namingData (n : NamingSettings) :
  Datum.Flat (namingData n)
  := by
  obtain ⟨strategy, scope, output⟩ := n
  cases scope with
  | none =>
    apply Datum.Flat.of_keys ["output_format", "strategy"] rfl (by decide) (by decide)
    simp [namingData]
  | some scope =>
    apply Datum.Flat.of_keys ["namespace_id", "output_format", "strategy"] rfl (by decide)
      (by decide)
    simp [namingData]

theorem flat_registryData (r : RegistrySettings) :
  Datum.Flat (registryData r)
  := by
  apply Datum.Flat.of_keys ["auto_register", "formats"] rfl (by decide) (by decide)
  simp [registryData]

/-- The data of settings are the same when they are assigned to nothing, and to themselves. -/
theorem assignAll_data (s : Settings) {target : Datum}
    (h : target = .table [] ∨ target = .table s.data) :
  target.assignAll s.data = .table s.data
  := by
  have hnaming := flat_namingData s.naming
  have hregistry := flat_registryData s.registry
  simp only [data, Datum.assignAll, List.foldl_cons, List.foldl_nil]
  rcases h with rfl | rfl
  · rw [hnaming.assign_key (by decide) (by decide) (.inl rfl),
      hregistry.assign_key (by decide) (by decide) (.inl rfl)]
    rfl
  · rw [data, hnaming.assign_key (by decide) (by decide) (.inr rfl),
      hregistry.assign_key (by decide) (by decide) (.inr rfl)]
    rfl

/-- However often the data of settings are assigned, one time at least, they come out. -/
theorem assignAll_flatten (s : Settings) {readings : List (List (String × Datum))}
    (h : ∀ r ∈ readings, r = [] ∨ r = s.data) {target : Datum}
    (htarget : target = .table [] ∧ s.data ∈ readings ∨ target = .table s.data) :
  target.assignAll readings.flatten = .table s.data
  := by
  induction readings generalizing target with
  | nil =>
    rcases htarget with ⟨-, hmem⟩ | rfl
    · cases hmem
    · rfl
  | cons r readings ih =>
    obtain ⟨hr, hreadings⟩ := List.forall_mem_cons.1 h
    rw [List.flatten_cons, Datum.assignAll, List.foldl_append]
    apply ih hreadings
    rcases hr with rfl | rfl
    · refine htarget.imp_left (And.imp_right fun hmem => ?_)
      exact (List.mem_cons.1 hmem).resolve_left nofun
    · exact .inr (assignAll_data s (htarget.imp_left And.left))

/-! ### Loading -/

/-- The files in fixed places that are looked at. -/
def fixedPlaces (files : Files) (environment : List (String × String)) : List String :=
  localFiles ++ ((userFile? environment).filter files.pathExists).toList

/-- No variable sets a place, and each file in a fixed place is absent or holds a text. -/
structure Undisturbed (files : Files) (environment : List (String × String)) (text : String) :
    Prop where
  unset : ∀ v ∈ environment, variablePlace? v.1 = none
  fixed : ∀ p ∈ fixedPlaces files environment,
    contents? files p = none ∨ contents? files p = some (Text.Utf8.encode text)

/-- Settings are read from a text and from nothing else: the file asked for, if any, holds the text,
and so does each file in a fixed place, and at least one file is there. -/
structure OnlySource (files : Files) (environment : List (String × String)) (path : Option String)
    (text : String) : Prop extends Undisturbed files environment text where
  asked : ∀ p ∈ path, contents? files p = some (Text.Utf8.encode text)
  held : ∃ p ∈ fixedPlaces files environment ++ path.toList,
    contents? files p = some (Text.Utf8.encode text)

theorem ofVariables_eq_nil {environment : List (String × String)}
    (h : ∀ v ∈ environment, variablePlace? v.1 = none) :
  ofVariables environment = []
  := by
  have hnone : environment.filterMap (fun v =>
      (variablePlace? v.1).map fun place => (place, variableDatum v.2)) = [] := by
    apply List.filterMap_eq_nil_iff.2
    intro v hv
    rw [h v hv, Option.map_none]
  exact congrArg (fun assignments => (SortedMap.ofList assignments).toList) hnone

/-- What is read in a place that has no file or holds the text of settings. -/
def reading (s : Settings) (files : Files) (path : String) : List (String × Datum) :=
  if (contents? files path).isSome then s.data else []

theorem fileEntries?_toToml {s : Settings} {files : Files} {path : String}
    (h : contents? files path = some (Text.Utf8.encode s.toToml)) (required : Bool) :
  fileEntries? files required path = some (s.reading files path)
  := by
  rw [fileEntries?, h, Option.bind_some, Text.Utf8.decode?_encode]
  simp [read?_toToml, reading, h]

theorem fileEntries?_fixed {s : Settings} {files : Files} {path : String}
    (h : contents? files path = none ∨
      contents? files path = some (Text.Utf8.encode s.toToml)) :
  fileEntries? files false path = some (s.reading files path)
  := by
  rcases h with h | h
  · simp [fileEntries?, reading, h]
  · exact fileEntries?_toToml h false

/-- Settings come back from their text when it is the only text that is read. -/
theorem load_of_onlySource {s : Settings} {files : Files} {environment : List (String × String)}
    {path : Option String} (h : OnlySource files environment path s.toToml) :
  load files environment path = .ok s
  := by
  have hfixed : (localFiles ++ ((userFile? environment).filter files.pathExists).toList).mapM
      (fileEntries? files false) =
        some ((fixedPlaces files environment).map (s.reading files)) :=
    mapM_eq_map fun p hp => fileEntries?_fixed (h.fixed p hp)
  have hpath : path.toList.mapM (fileEntries? files true) =
      some (path.toList.map (s.reading files)) :=
    mapM_eq_map fun p hp => fileEntries?_toToml (h.asked p (Option.mem_toList.1 hp)) true
  have hall : assignments? files environment path =
      some (((fixedPlaces files environment ++ path.toList).map (s.reading files)).flatten) := by
    simp only [assignments?, ofVariables_eq_nil h.unset, hfixed, hpath, Option.bind_eq_bind,
      Option.bind_some, List.map_append, List.flatten_append, List.append_nil]
    rfl
  have hdata : (Datum.table []).assignAll
      ((fixedPlaces files environment ++ path.toList).map (s.reading files)).flatten =
        .table s.data := by
    apply assignAll_flatten
    · intro r hr
      obtain ⟨p, -, rfl⟩ := List.mem_map.1 hr
      rw [reading]
      split
      · exact .inr rfl
      · exact .inl rfl
    · obtain ⟨p, hp, hcontents⟩ := h.held
      refine .inl ⟨rfl, List.mem_map.2 ⟨p, hp, ?_⟩⟩
      simp [reading, hcontents]
  rw [load, hall]
  simp only [hdata, ofDatum?_data]

/-! ### Saving and printing -/

/-- A file that settings are saved in holds their text. -/
theorem toFiles_save {s : Settings} {t t' : FileTree} {path : String}
    (h : s.save t path = .ok t') :
  t'.toFiles path = .ok (Text.Utf8.encode s.toToml)
  := by
  apply FileTree.toFiles_write
  rw [save] at h
  cases hwrite : t.write path (Text.Utf8.encode s.toToml) with
  | error problem =>
    rw [hwrite] at h
    cases h
  | ok written =>
    rw [hwrite] at h
    obtain rfl : written = t' := Except.ok.inj h
    rfl

/-- Where nothing else is said, the file that settings are saved in is all that is read. -/
theorem onlySource_save {s : Settings} {t t' : FileTree} {path : String}
    (h : s.save t path = .ok t') (hkind : Files.suffix? path = some fileKind)
    {environment : List (String × String)}
    (hfixed : Undisturbed t'.toFiles environment s.toToml) :
  OnlySource t'.toFiles environment (some path) s.toToml
  := by
  have hcontents : contents? t'.toFiles path = some (Text.Utf8.encode s.toToml) := by
    rw [contents?, toFiles_save h]
    exact if_pos hkind
  refine ⟨hfixed, ?_, path, List.mem_append_right _ List.mem_cons_self, hcontents⟩
  rintro p ⟨⟩
  exact hcontents

/-- The settings in effect are printed as their text. -/
theorem run_settings {s : Settings} {files : Files} {environment : List (String × String)}
    {arguments : List String} {path : Option String}
    (hread : Invocation.read? arguments = some ⟨path, .settings⟩)
    (hload : load files environment path = .ok s) :
  run files environment arguments = ⟨0, s.toToml, ""⟩
  := by
  simp only [run, hread, Invocation.output, hload, Command.output]

/-- Settings are the same after they are written and loaded.  They come back from any files that
hold their text and no other, in particular from a file that they are saved in, whose name has to
end as those of configuration files do.  The settings in effect are printed as their text, and the
print, loaded, is printed again. -/
theorem load_toToml_exact (s : Settings) :
  (∀ files environment path, OnlySource files environment path s.toToml →
      load files environment path = .ok s)
    ∧ (∀ t t' path environment, s.save t path = .ok t' → Files.suffix? path = some fileKind →
        Undisturbed t'.toFiles environment s.toToml →
        t'.toFiles path = .ok (Text.Utf8.encode s.toToml)
          ∧ load t'.toFiles environment (some path) = .ok s)
    ∧ ∀ files environment arguments path,
        Invocation.read? arguments = some ⟨path, .settings⟩ →
        load files environment path = .ok s →
        run files environment arguments = ⟨0, s.toToml, ""⟩
          ∧ ∀ files' environment' arguments' path',
              Invocation.read? arguments' = some ⟨path', .settings⟩ →
              OnlySource files' environment' path' (run files environment arguments).output →
              run files' environment' arguments' = run files environment arguments
  := by
  refine ⟨fun _ _ _ => load_of_onlySource, ?_, ?_⟩
  · intro t t' path environment hsave hkind hfixed
    exact ⟨toFiles_save hsave, load_of_onlySource (onlySource_save hsave hkind hfixed)⟩
  · intro files environment arguments path hread hload
    have hprint := run_settings hread hload
    refine ⟨hprint, ?_⟩
    intro files' environment' arguments' path' hread' honly
    rw [hprint] at honly ⊢
    exact run_settings hread' (load_of_onlySource honly)

/-- Settings whose scope has marks of both kinds in rows of three, a backslash, line ends and
control characters, and whose formats are repeated and not all installed. -/
def awkward : Settings where
  registry := ⟨false, [.json, .avro, .json, .json]⟩
  naming := ⟨.scopeCategory, some "'''\"\"\"\\ \n\r\t\x00\x7f\u00e9", .urn⟩

/-- A tree with nothing but the text of awkward settings. -/
def awkwardTree : FileTree :=
  ⟨[(["saved.toml"], Text.Utf8.encode awkward.toToml)]⟩

theorem save_awkward :
  awkward.save ⟨[]⟩ "saved.toml" = .ok awkwardTree
  := by
  simp only [save, FileTree.write, FileTree.checked, FileTree.names_eq]
  rfl

theorem undisturbed_awkwardTree :
  Undisturbed awkwardTree.toFiles [("HOME", "/home")] awkward.toToml
  := by
  refine ⟨by decide, ?_⟩
  intro p hp
  left
  have huser : (userFile? [("HOME", "/home")]).filter awkwardTree.toFiles.pathExists = none := rfl
  rw [fixedPlaces, huser, Option.toList_none, List.append_nil, localFiles] at hp
  simp only [contents?, FileTree.toFiles, FileTree.checked, FileTree.names_eq]
  simp only [List.mem_cons, List.not_mem_nil, or_false] at hp
  rcases hp with rfl | rfl | rfl <;> rfl

theorem awkward_reloaded :
  load awkwardTree.toFiles [("HOME", "/home")] (some "saved.toml") = .ok awkward
    ∧ run awkwardTree.toFiles [("HOME", "/home")] ["--config", "saved.toml", "config"] =
      ⟨0, awkward.toToml, ""⟩
    ∧ run awkwardTree.toFiles [("HOME", "/home")] ["-c", "saved.toml", "config"] =
      run awkwardTree.toFiles [("HOME", "/home")] ["--config", "saved.toml", "config"]
  := by
  obtain ⟨hloaded, hsaved, hprinted⟩ := load_toToml_exact awkward
  have hload := (hsaved _ _ _ _ save_awkward rfl undisturbed_awkwardTree).2
  have honly := onlySource_save save_awkward rfl undisturbed_awkwardTree
  obtain ⟨hprint, hagain⟩ := hprinted _ _ ["--config", "saved.toml", "config"] _
    (by decide +kernel) (hloaded _ _ _ honly)
  refine ⟨hload, hprint, hagain _ _ _ (some "saved.toml") (by decide +kernel) ?_⟩
  rw [hprint]
  exact honly

end WireSchemas.Settings
