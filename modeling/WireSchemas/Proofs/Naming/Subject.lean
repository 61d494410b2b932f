import WireSchemas.Naming.Strategy

/-!
# Visible subjects

A text with a part that is not blank is not blank, so every name that an output format renders is
visible, and so is the subject of a type with a visible name under every rule.
-/

namespace WireSchemas

theorem Text.blank_append_iff {s t : String} :
  Blank (s ++ t) ↔ Blank s ∧ Blank t
  := by
  simp only [Blank, String.toList_append, List.mem_append]
  constructor
  · intro h
    exact ⟨fun c hc => h c (.inl hc), fun c hc => h c (.inr hc)⟩
  · rintro ⟨hs, ht⟩ c (hc | hc)
    · apply hs c hc
    · apply ht c hc

/-- A type whose name is not blank is not missing. -/
theorem MessageType.isMissing_of_not_blank {type : MessageType} (h : ¬ Text.Blank type.name) :
  type.isMissing = false
  := by
  cases hmissing : type.isMissing with
  | false => rfl
  | true =>
    apply absurd _ h
    rw [String.isEmpty_iff.1 hmissing]
    apply Text.blank_empty

/-- A type that is not missing and yet has a blank full name: it has no scope and a blank name. -/
structure MessageType.Invisible (type : MessageType) : Prop where
  scope : type.scope = ""
  notMissing : type.isMissing = false
  blank : Text.Blank type.name

namespace Naming

theorem OutputFormat.not_blank_render (f : OutputFormat) (scope localName : String) :
  ¬ Text.Blank (f.render scope localName)
  := by
  have hdot : ¬ Text.Blank "." := by decide
  have hcolon : ¬ Text.Blank ":" := by decide
  cases f <;> simp [render, Text.blank_append_iff, hdot, hcolon]

/-- A full name is blank when there is no scope, whose dot would be seen, and the name is blank. -/
theorem blank_fullName_iff {type : MessageType} :
  Text.Blank type.fullName ↔ type.scope = "" ∧ Text.Blank type.name
  := by
  have hdot : ¬ Text.Blank "." := by decide
  rw [MessageType.fullName]
  split
  · next hscope => simp [String.isEmpty_iff.1 hscope]
  · next hscope =>
    have hne : type.scope ≠ "" := fun h => hscope (by simp [h])
    simp [Text.blank_append_iff, hdot, hne]

theorem not_blank_fullName {type : MessageType} (h : ¬ Text.Blank type.name) :
  ¬ Text.Blank type.fullName
  := by
  rw [blank_fullName_iff]
  rintro ⟨-, hname⟩
  apply h hname

theorem Strategy.not_blank_schemaName {s : Strategy} {type : MessageType}
    {streamName : Option String} {name : String} (h : s.schemaName type streamName = .ok name) :
  ¬ Text.Blank name
  := by
  simp only [schemaName] at h
  split at h
  · cases h
  · split at h
    · cases h
    · cases h
      apply OutputFormat.not_blank_render

/-- A subject is blank only if it is the full name of an invisible type. -/
theorem SubjectRule.of_blank_subject {rule : SubjectRule} {type : MessageType} {stream : StreamId}
    {subject : String} (hs : rule.subject type stream = .ok subject) (h : Text.Blank subject) :
  rule = .fullName ∧ type.Invisible ∧ subject = type.name
  := by
  cases rule with
  | fullName =>
    simp only [SubjectRule.subject] at hs
    split at hs
    · cases hs
    · next hmissing =>
      obtain rfl := Except.ok.inj hs
      obtain ⟨hscope, hname⟩ := blank_fullName_iff.1 h
      refine ⟨rfl, ⟨hscope, by simpa using hmissing, hname⟩, ?_⟩
      simp [MessageType.fullName, hscope]
  | strategy s => cases Strategy.not_blank_schemaName hs h

/-- A type whose name is not blank has no blank subject. -/
theorem SubjectRule.not_blank_subject {rule : SubjectRule} {type : MessageType}
    {stream : StreamId} {subject : String} (hs : rule.subject type stream = .ok subject)
    (h : ¬ Text.Blank type.name) :
  ¬ Text.Blank subject
  := by
  intro hblank
  obtain ⟨-, hinvisible, -⟩ := of_blank_subject hs hblank
  apply h hinvisible.blank

end Naming

end WireSchemas
