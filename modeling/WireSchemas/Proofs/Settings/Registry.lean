import WireSchemas.Proofs.Registry.Dispatch
import WireSchemas.Settings

/-!
# The registry that settings describe

Settings make a registry when their naming is complete and each of their formats has a built-in
serializer, and otherwise fail for the first of these that is not so, the naming before all formats:
`toRegistry_exact`.  The serializers are installed one after the other, so the order of the formats
and how often they are listed leave no trace.
-/

namespace WireSchemas

open Remote

/-! ### Naming -/

namespace NamingSettings

/-- The fixed scope is there and is not blank, where the strategy has one. -/
def Complete (n : NamingSettings) : Prop :=
  n.strategy = .scope ∨ n.strategy = .scopeCategory →
    ∃ scope, n.scope = some scope ∧ ¬ Text.Blank scope

/-- What is wrong with naming settings that are not complete. -/
def failure (n : NamingSettings) : Failure :=
  match n.scope with
  | none => .invalidInput (.scopeRequired n.strategy)
  | some _ => .invalidInput (.blank "namespace_id")

/-- The strategies that naming settings describe.  Those without a fixed scope take no notice of
one. -/
inductive Describes : NamingSettings → Naming.Strategy → Prop where
  | message (scope : Option String) (output : Naming.OutputFormat) :
    Describes ⟨.message, scope, output⟩ ⟨.message, output⟩
  | category (scope : Option String) (output : Naming.OutputFormat) :
    Describes ⟨.category, scope, output⟩ ⟨.category, output⟩
  | scope (id : Naming.ScopeId) (output : Naming.OutputFormat) :
    Describes ⟨.scope, some id.text, output⟩ ⟨.scope id, output⟩
  | scopeCategory (id : Naming.ScopeId) (output : Naming.OutputFormat) :
    Describes ⟨.scopeCategory, some id.text, output⟩ ⟨.scopeCategory id, output⟩

variable {n : NamingSettings}

theorem Complete.exists_describes (h : n.Complete) :
  ∃ strategy, n.Describes strategy
  := by
  obtain ⟨name, scope, output⟩ := n
  cases name with
  | message => exact ⟨_, .message scope output⟩
  | category => exact ⟨_, .category scope output⟩
  | scope =>
    obtain ⟨text, rfl, hvisible⟩ := h (.inl rfl)
    exact ⟨_, .scope ⟨text, hvisible⟩ output⟩
  | scopeCategory =>
    obtain ⟨text, rfl, hvisible⟩ := h (.inr rfl)
    exact ⟨_, .scopeCategory ⟨text, hvisible⟩ output⟩

theorem Describes.complete {strategy : Naming.Strategy} (h : n.Describes strategy) :
  n.Complete
  := by
  cases h with
  | message | category => simp [Complete]
  | scope id | scopeCategory id => exact fun _ => ⟨id.text, rfl, id.visible⟩

theorem Describes.toStrategy_eq {strategy : Naming.Strategy} (h : n.Describes strategy) :
  n.toStrategy = .ok strategy
  := by
  cases h with
  | message | category => rfl
  | scope id | scopeCategory id =>
    simp [toStrategy, Naming.Strategy.ofName, Naming.Strategy.scopeId, id.visible, Except.map]

theorem toStrategy_of_not_complete (h : ¬ n.Complete) :
  n.toStrategy = .error n.failure
  := by
  obtain ⟨hname, hscope⟩ : (n.strategy = .scope ∨ n.strategy = .scopeCategory) ∧
      ∀ text, n.scope = some text → Text.Blank text := by simpa [Complete] using h
  obtain ⟨name, scope, output⟩ := n
  cases scope with
  | none => rcases hname with rfl | rfl <;> rfl
  | some text =>
    have hblank := hscope text rfl
    rcases hname with rfl | rfl
    all_goals
      simp [toStrategy, Naming.Strategy.ofName, Naming.Strategy.scopeId, hblank, failure,
        Except.map]

end NamingSettings

/-! ### Serializers -/

/-- The formats with a built-in serializer. -/
def DataFormat.builtIn : List DataFormat :=
  [.bytes, .json, .protobuf]

theorem Codec.builtIn?_eq_none_iff {f : DataFormat} :
  builtIn? f = none ↔ f ∉ DataFormat.builtIn
  := by
  cases f <;> simp [builtIn?, DataFormat.builtIn]

theorem Codec.format_of_builtIn? {f : DataFormat} {c : Codec} (h : builtIn? f = some c) :
  c.format = f
  := by
  cases f with
  | bytes | json | protobuf =>
    obtain rfl := Option.some.inj h
    rfl
  | avro | unspecified => cases h

namespace Registry

/-- Built-in serializers of listed formats serve just these. -/
theorem serving?_builtIn (fs : List DataFormat) (f : DataFormat) :
  serving? (fs.filterMap Codec.builtIn?) f = if f ∈ fs then Codec.builtIn? f else none
  := by
  induction fs using List.reverseRecOn with
  | nil => rfl
  | append_singleton fs g ih =>
    rw [List.filterMap_append]
    cases hg : Codec.builtIn? g with
    | none =>
      rw [List.filterMap_cons_none hg, List.filterMap_nil, List.append_nil, ih]
      by_cases hfg : f = g
      · simp [hfg, hg]
      · simp [hfg]
    | some c =>
      have hformat := Codec.format_of_builtIn? hg
      rw [List.filterMap_cons_some hg, List.filterMap_nil, serving?_concat, hformat, ih]
      by_cases hfg : g = f
      · simp [← hfg, hg]
      · simp [hfg, Ne.symm hfg]

variable (o : Options) (catalog : Catalog) (cache : TypeCache)

/-- Registries whose serializers serve the same formats in the same way are the same. -/
theorem installed_congr {codecs codecs' : List Codec}
    (h : ∀ f, serving? codecs f = serving? codecs' f) :
  installed o codecs catalog cache = installed o codecs' catalog cache
  := by
  have hcodecs : (installed o codecs catalog cache).codecs =
      (installed o codecs' catalog cache).codecs := by
    apply SortedMap.ext_get?
    intro f
    rw [get?_installed, get?_installed, h]
  have hoptions : (installed o codecs catalog cache).options =
      (installed o codecs' catalog cache).options := by simp
  rw [installed, mk.injEq]
  exact ⟨hoptions, rfl, hcodecs, rfl⟩

/-- Serializers are all that is installed. -/
theorem withCodecs_eq (r : Registry) (codecs : List Codec) :
  r.withCodecs codecs = { r with codecs := (r.withCodecs codecs).codecs }
  := by
  induction codecs generalizing r with
  | nil => rfl
  | cons c codecs ih =>
    rw [withCodecs, List.foldl_cons, ← withCodecs, ih]
    rfl

theorem installed_empty (codecs : List Codec) :
  installed o codecs .empty .empty = (new o).withCodecs codecs
  := by
  rw [installed, withCodecs_eq]
  rfl

end Registry

namespace Settings

theorem install_of_all {fs : List DataFormat} (h : ∀ f ∈ fs, f ∈ DataFormat.builtIn)
    (r : Registry) :
  install r fs = .ok (r.withCodecs (fs.filterMap Codec.builtIn?))
  := by
  induction fs generalizing r with
  | nil => rfl
  | cons f fs ih =>
    obtain ⟨hf, hfs⟩ := List.forall_mem_cons.1 h
    obtain ⟨c, hc⟩ := Option.ne_none_iff_exists'.1 (Codec.builtIn?_eq_none_iff.not_left.2 hf)
    simp only [install, hc, List.filterMap_cons_some hc, ih hfs]
    rfl

/-- The first format without a built-in serializer is the one that fails. -/
theorem install_of_first {before after : List DataFormat} {g : DataFormat}
    (hbefore : ∀ f ∈ before, f ∈ DataFormat.builtIn) (hg : g ∉ DataFormat.builtIn)
    (r : Registry) :
  install r (before ++ g :: after) = .error (.invalidInput (.noBuiltInSerializer g))
  := by
  induction before generalizing r with
  | nil => simp [install, Codec.builtIn?_eq_none_iff.2 hg]
  | cons f before ih =>
    obtain ⟨hf, hbefore⟩ := List.forall_mem_cons.1 hbefore
    obtain ⟨c, hc⟩ := Option.ne_none_iff_exists'.1 (Codec.builtIn?_eq_none_iff.not_left.2 hf)
    simp only [List.cons_append, install, hc, ih hbefore]

/-! ### Registries -/

variable {s : Settings} {strategy : Naming.Strategy}

/-- The registry with a strategy and the built-in serializers of the listed formats. -/
def registryFor (s : Settings) (strategy : Naming.Strategy) : Registry :=
  .installed ⟨.strategy strategy, s.registry.autoRegister⟩
    (s.registry.formats.filterMap Codec.builtIn?) .empty .empty

theorem toRegistry_of_not_complete (h : ¬ s.naming.Complete) :
  s.toRegistry = .error s.naming.failure
  := by
  rw [toRegistry, options, NamingSettings.toStrategy_of_not_complete h]
  rfl

theorem toRegistry_of_describes (h : s.naming.Describes strategy) :
  s.toRegistry =
    install (.new ⟨.strategy strategy, s.registry.autoRegister⟩) s.registry.formats
  := by
  rw [toRegistry, options, h.toStrategy_eq]
  rfl

theorem toRegistry_of_all (h : s.naming.Describes strategy)
    (hall : ∀ f ∈ s.registry.formats, f ∈ DataFormat.builtIn) :
  s.toRegistry = .ok (s.registryFor strategy)
  := by
  rw [toRegistry_of_describes h, install_of_all hall, registryFor, Registry.installed_empty]

/-- Some format is the first that is not built in, unless all are. -/
theorem exists_first {fs : List DataFormat} (h : ¬ ∀ f ∈ fs, f ∈ DataFormat.builtIn) :
  ∃ before g after, fs = before ++ g :: after ∧ (∀ f ∈ before, f ∈ DataFormat.builtIn) ∧
    g ∉ DataFormat.builtIn
  := by
  have hsome : (fs.find? fun f => f ∉ DataFormat.builtIn).isSome := by simpa using h
  obtain ⟨g, hg⟩ := Option.isSome_iff_exists.1 hsome
  obtain ⟨hnot, before, after, hfs, hbefore⟩ := List.find?_eq_some_iff_append.1 hg
  exact ⟨before, g, after, hfs, by simpa using hbefore, by simpa using hnot⟩

/-- Settings make a registry, or fail for their naming, or for the first format that is not built
in. -/
theorem toRegistry_cases (s : Settings) :
  (∃ strategy, s.naming.Describes strategy ∧
    (∀ f ∈ s.registry.formats, f ∈ DataFormat.builtIn) ∧
    s.toRegistry = .ok (s.registryFor strategy)) ∨
  (¬ s.naming.Complete ∧ s.toRegistry = .error s.naming.failure) ∨
  s.naming.Complete ∧ ∃ before g after, s.registry.formats = before ++ g :: after ∧
    (∀ f ∈ before, f ∈ DataFormat.builtIn) ∧ g ∉ DataFormat.builtIn ∧
    s.toRegistry = .error (.invalidInput (.noBuiltInSerializer g))
  := by
  by_cases hcomplete : s.naming.Complete
  · obtain ⟨strategy, hstrategy⟩ := hcomplete.exists_describes
    by_cases hall : ∀ f ∈ s.registry.formats, f ∈ DataFormat.builtIn
    · exact .inl ⟨strategy, hstrategy, hall, toRegistry_of_all hstrategy hall⟩
    · obtain ⟨before, g, after, hformats, hbefore, hg⟩ := exists_first hall
      refine .inr (.inr ⟨hcomplete, before, g, after, hformats, hbefore, hg, ?_⟩)
      rw [toRegistry_of_describes hstrategy, hformats, install_of_first hbefore hg]
  · exact .inr (.inl ⟨hcomplete, toRegistry_of_not_complete hcomplete⟩)

theorem toRegistry_eq_ok_iff {r : Registry} :
  s.toRegistry = .ok r ↔ ∃ strategy, s.naming.Describes strategy ∧
    (∀ f ∈ s.registry.formats, f ∈ DataFormat.builtIn) ∧ r = s.registryFor strategy
  := by
  constructor
  · intro h
    rcases toRegistry_cases s with ⟨strategy, hstrategy, hall, hbuilt⟩ | ⟨-, hbuilt⟩ |
      ⟨-, _, _, _, -, -, -, hbuilt⟩
    · exact ⟨strategy, hstrategy, hall, Except.ok.inj (h.symm.trans hbuilt)⟩
    · cases h.symm.trans hbuilt
    · cases h.symm.trans hbuilt
  · rintro ⟨strategy, hstrategy, hall, rfl⟩
    apply toRegistry_of_all hstrategy hall

theorem toRegistry_eq_error_iff {problem : Failure} :
  s.toRegistry = .error problem ↔
    ¬ s.naming.Complete ∧ problem = s.naming.failure ∨
    s.naming.Complete ∧ ∃ before g after, s.registry.formats = before ++ g :: after ∧
      (∀ f ∈ before, f ∈ DataFormat.builtIn) ∧ g ∉ DataFormat.builtIn ∧
      problem = .invalidInput (.noBuiltInSerializer g)
  := by
  constructor
  · intro h
    rcases toRegistry_cases s with ⟨_, -, -, hbuilt⟩ | ⟨hnot, hbuilt⟩ |
      ⟨hcomplete, before, g, after, hformats, hbefore, hg, hbuilt⟩
    · cases h.symm.trans hbuilt
    · exact .inl ⟨hnot, Except.error.inj (h.symm.trans hbuilt)⟩
    · exact .inr ⟨hcomplete, before, g, after, hformats, hbefore, hg,
        Except.error.inj (h.symm.trans hbuilt)⟩
  · rintro (⟨hnot, rfl⟩ | ⟨hcomplete, before, g, after, hformats, hbefore, hg, rfl⟩)
    · apply toRegistry_of_not_complete hnot
    · obtain ⟨strategy, hstrategy⟩ := hcomplete.exists_describes
      rw [toRegistry_of_describes hstrategy, hformats, install_of_first hbefore hg]

theorem get?_registryFor (s : Settings) (strategy : Naming.Strategy) (f : DataFormat) :
  (s.registryFor strategy).codecs.get? f =
    if f ∈ s.registry.formats then Codec.builtIn? f else none
  := by
  rw [registryFor, Registry.get?_installed, Registry.serving?_builtIn]

theorem mem_formats_registryFor (hall : ∀ f ∈ s.registry.formats, f ∈ DataFormat.builtIn)
    {f : DataFormat} :
  f ∈ (s.registryFor strategy).formats ↔ f ∈ s.registry.formats
  := by
  rw [Registry.formats, SortedMap.mem_keys_iff, get?_registryFor]
  by_cases hf : f ∈ s.registry.formats
  · simp [hf, Option.isSome_iff_ne_none, Codec.builtIn?_eq_none_iff, hall f hf]
  · simp [hf]

/-- The order and the repetitions of the formats leave no trace. -/
theorem registryFor_congr {order : List DataFormat}
    (horder : ∀ f, f ∈ order ↔ f ∈ s.registry.formats) :
  registryFor ⟨⟨s.registry.autoRegister, order⟩, s.naming⟩ strategy = s.registryFor strategy
  := by
  apply Registry.installed_congr
  intro f
  simp only [Registry.serving?_builtIn, horder]

/-- A type whose schema has no name gets the name that the strategy derives. -/
theorem registrationSchema_registryFor (s : Settings) (strategy : Naming.Strategy)
    {info : SchemaInfo} (hname : info.NameMissing) (type : MessageType) :
  (s.registryFor strategy).options.registrationSchema info type =
    (strategy.schemaName type none).map fun subject => ⟨subject, info.format⟩
  := by
  rw [registryFor, Registry.options_installed]
  cases hmissing : type.isMissing with
  | true => simp [Options.registrationSchema, Naming.Strategy.schemaName, hmissing, Except.map]
  | false =>
    simp only [Options.registrationSchema, Options.schemaInfo, hmissing, hname, if_true,
      Bool.false_eq_true, if_false]
    rfl

/-- Settings make a registry exactly when their naming is complete and every listed format is built
in, and otherwise fail: for their naming if that is not complete, and else for the first format that
is not built in.  The registry serves just the listed formats, whatever their order and however
often they are listed; it starts with an empty cache, and the remote registry has not been asked
anything, so whatever is done first is done as on its own; unseen types are registered as the
settings say; and a type whose schema has no name gets the one that the strategy of the settings
derives without a stream. -/
theorem toRegistry_exact (s : Settings) :
  let builtIn : List DataFormat := [.bytes, .json, .protobuf]
  let listed := s.registry.formats
  ((∃ r, s.toRegistry = .ok r) ↔ s.naming.Complete ∧ ∀ f ∈ listed, f ∈ builtIn) ∧
  (∀ problem, s.toRegistry = .error problem ↔
    ¬ s.naming.Complete ∧ problem = s.naming.failure ∨
    s.naming.Complete ∧ ∃ before g after, listed = before ++ g :: after ∧
      (∀ f ∈ before, f ∈ builtIn) ∧ g ∉ builtIn ∧
      problem = .invalidInput (.noBuiltInSerializer g)) ∧
  ∀ r, s.toRegistry = .ok r →
    r.formats.Pairwise (fun f g => f.number < g.number) ∧
    (∀ f, f ∈ r.formats ↔ f ∈ listed) ∧
    (∀ f ∈ listed, r.codecs.get? f = Codec.builtIn? f) ∧
    (∀ order, (∀ f, f ∈ order ↔ f ∈ listed) →
      toRegistry ⟨⟨s.registry.autoRegister, order⟩, s.naming⟩ = .ok r) ∧
    (r.cache = .empty ∧ r.catalog = .empty ∧ ∀ {σ α : Type} (client : Client σ) (t : Token)
      (remote : σ) (op : Operation α),
        (r.perform client t remote op).2 = (op .empty).run client t remote) ∧
    r.options.autoRegister = s.registry.autoRegister ∧
    ∃ strategy, s.naming.Describes strategy ∧
      ∀ (info : SchemaInfo) (type : MessageType), info.NameMissing →
        r.options.registrationSchema info type =
          (strategy.schemaName type none).map fun subject => ⟨subject, info.format⟩
  := by
  intro builtIn listed
  refine ⟨?_, fun problem => toRegistry_eq_error_iff, ?_⟩
  · simp only [toRegistry_eq_ok_iff]
    constructor
    · rintro ⟨r, strategy, hstrategy, hall, -⟩
      exact ⟨hstrategy.complete, hall⟩
    · rintro ⟨hcomplete, hall⟩
      obtain ⟨strategy, hstrategy⟩ := hcomplete.exists_describes
      exact ⟨_, strategy, hstrategy, hall, rfl⟩
  · intro r hr
    obtain ⟨strategy, hstrategy, hall, rfl⟩ := toRegistry_eq_ok_iff.1 hr
    refine ⟨Registry.pairwise_formats _, fun f => mem_formats_registryFor hall, ?_, ?_,
      ⟨rfl, rfl, fun client t remote op => rfl⟩, ?_, strategy, hstrategy, ?_⟩
    · intro f hf
      rw [get?_registryFor, if_pos hf]
    · intro order horder
      apply toRegistry_eq_ok_iff.2
      refine ⟨strategy, hstrategy, ?_, (registryFor_congr horder).symm⟩
      intro f hf
      apply hall f ((horder f).1 hf)
    · rw [registryFor, Registry.options_installed]
    · intro info type hname
      apply registrationSchema_registryFor s strategy hname

/-- Formats that are listed in another order and twice make the same registry, and white space is no
schema name. -/
theorem toRegistry_exact_repeated :
  let s : Settings := ⟨⟨false, [.protobuf, .json, .protobuf]⟩,
    ⟨.scope, some "Identity", .kebabCase⟩⟩
  ∃ r, (s.toRegistry = .ok r ∧ SchemaInfo.NameMissing ⟨" ", .json⟩) ∧
    (∀ f, f ∈ r.formats ↔ f ∈ [DataFormat.json, .protobuf]) ∧
    ((∀ f, f ∈ [DataFormat.json, .protobuf] ↔ f ∈ s.registry.formats) ∧
      toRegistry ⟨⟨false, [.json, .protobuf]⟩, s.naming⟩ = .ok r) ∧
    r.options.registrationSchema ⟨" ", .json⟩ ⟨"App", "UserRegistered"⟩ =
      .ok ⟨"identity.user-registered", .json⟩
  := by
  intro s
  have hname : SchemaInfo.NameMissing ⟨" ", .json⟩ := by decide +kernel
  have hvisible : ¬ Text.Blank "Identity" := by decide +kernel
  have hlisted : ∀ f, f ∈ [DataFormat.json, .protobuf] ↔ f ∈ s.registry.formats := by
    simp [s, or_comm, or_left_comm]
  obtain ⟨hok, -, hbuilt⟩ := toRegistry_exact s
  obtain ⟨r, hr⟩ := hok.2 ⟨fun _ => ⟨"Identity", rfl, hvisible⟩, by decide⟩
  obtain ⟨-, hformats, -, hreordered, -, -, strategy, hstrategy, hsubject⟩ := hbuilt r hr
  refine ⟨r, ⟨hr, hname⟩, fun f => (hformats f).trans (hlisted f).symm, ⟨hlisted,
    hreordered _ hlisted⟩, ?_⟩
  have hscope : s.naming.Describes ⟨.scope ⟨"Identity", hvisible⟩, .kebabCase⟩ :=
    .scope ⟨"Identity", hvisible⟩ .kebabCase
  obtain rfl := Except.ok.inj (hstrategy.toStrategy_eq.symm.trans hscope.toStrategy_eq)
  rw [hsubject _ _ hname]
  have hkebab : Naming.kebabCase "Identity" = "identity" ∧
      Naming.kebabCase "UserRegistered" = "user-registered" := by decide +kernel
  simp [Naming.Strategy.schemaName, Naming.Strategy.requiresStream, Naming.Strategy.scopeFor,
    Naming.OutputFormat.render, MessageType.isMissing, hkebab, Except.map]

end Settings

end WireSchemas
