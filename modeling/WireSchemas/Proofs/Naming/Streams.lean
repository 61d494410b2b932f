import Mathlib.Tactic.Tauto
import WireSchemas.Proofs.Naming.Subject

/-!
# Names within streams

A strategy that needs a stream refuses blank ones and sees nothing of any other but its category.
A blank stream is one with a blank category and no hyphen, so the category alone tells whether
there is a name unless it is blank: `Strategy.outcome_of_category`.
-/

namespace WireSchemas

/-- The category ends at the first hyphen, which is not blank, so a stream is blank when its
category is and no hyphen follows. -/
theorem blank_iff_blank_categoryOf (streamName : String) :
  Text.Blank streamName ↔ Text.Blank (categoryOf streamName) ∧ '-' ∉ streamName.toList
  := by
  simp only [Text.Blank, categoryOf, String.toList_ofList]
  induction streamName.toList with
  | nil => simp
  | cons c cs ih =>
    have hhyphen : Text.isBlank '-' = false := by decide
    rw [List.forall_mem_cons, ih, List.mem_cons, not_or, List.takeWhile_cons]
    by_cases hc : c = '-'
    · simp [hc, hhyphen]
    · have hne : '-' ≠ c := fun h => hc h.symm
      simp [hc, hne, and_assoc]

namespace Naming.Strategy

/-- The scope of the name of a type in a category. -/
def scopeIn (s : Strategy) (type : MessageType) (category : String) : String :=
  match s.rule with
  | .message => type.scope
  | .category => category
  | .scope id => id.text
  | .scopeCategory id => id.text ++ "." ++ category

theorem scopeFor_eq (s : Strategy) (type : MessageType) (streamName : String) :
  s.scopeFor type streamName = s.scopeIn type (categoryOf streamName)
  := by
  cases hrule : s.rule <;> simp [scopeFor, scopeIn, hrule]

variable {s : Strategy} {type : MessageType}

/-- What a strategy that needs a stream makes of one. -/
theorem schemaName_of_requiresStream (hs : s.requiresStream = true)
    (htype : type.isMissing = false) (streamName : Option String) :
  s.schemaName type streamName =
    if Text.Blank (categoryOf (streamName.getD "")) ∧ '-' ∉ (streamName.getD "").toList then
      .error (.invalidInput (.blank "stream_name"))
    else .ok (s.output.render (s.scopeIn type (categoryOf (streamName.getD ""))) type.name)
  := by
  have hblank := blank_iff_blank_categoryOf (streamName.getD "")
  simp only [schemaName, htype, hs, true_and, Bool.false_eq_true, if_false, hblank, scopeFor_eq]

/-- A strategy that needs a stream makes a name of the category of the stream and the name of the
type, unless the category is blank and no hyphen follows it.  So streams of one category come to the
same unless the category is blank and just one of them has a hyphen, and a name with a blank
category is made of the streams that have something blank or nothing before their first hyphen. -/
theorem outcome_of_category (hs : s.requiresStream = true) (htype : type.isMissing = false) :
  (∀ streamName : Option String,
    let stream := streamName.getD ""
    let category := categoryOf stream
    s.schemaName type streamName =
        (if Text.Blank category ∧ '-' ∉ stream.toList then
          .error (.invalidInput (.blank "stream_name"))
        else .ok (s.output.render (s.scopeIn type category) type.name)) ∧
      ((∃ name, s.schemaName type streamName = .ok name) ↔
        ¬ Text.Blank category ∨ '-' ∈ stream.toList) ∧
      ((∃ name, s.schemaName type streamName = .ok name) ∧ Text.Blank category ↔
        Text.Blank category ∧ '-' ∈ stream.toList)) ∧
  ∀ streamName streamName' : Option String,
    let stream := streamName.getD ""
    let stream' := streamName'.getD ""
    categoryOf stream = categoryOf stream' →
      (s.schemaName type streamName = s.schemaName type streamName' ↔
        ¬ Text.Blank (categoryOf stream) ∨ ('-' ∈ stream.toList ↔ '-' ∈ stream'.toList))
  := by
  have houtcome := schemaName_of_requiresStream hs htype
  constructor
  · intro streamName stream category
    have hname : (∃ name, s.schemaName type streamName = .ok name) ↔
        ¬ Text.Blank category ∨ '-' ∈ stream.toList := by
      rw [houtcome]
      by_cases hrefused : Text.Blank category ∧ '-' ∉ stream.toList
      · rw [if_pos hrefused]
        simp [hrefused]
      · rw [if_neg hrefused]
        simp only [Except.ok.injEq, exists_eq', true_iff]
        tauto
    refine ⟨houtcome streamName, hname, ?_⟩
    rw [hname]
    tauto
  · intro streamName streamName' stream stream' hcategory
    have hboth : ∀ (p q : Prop) [Decidable p] [Decidable q] (f : Failure) (name : String),
        (if p then Except.error f else .ok name) = (if q then .error f else .ok name) ↔
          (p ↔ q) := by
      intro p q _ _ f name
      by_cases hp : p <;> by_cases hq : q <;> simp [hp, hq]
    rw [houtcome, houtcome, ← hcategory, hboth]
    tauto

theorem userStreams_outcome :
  let s : Strategy := ⟨.category, .none⟩
  let type : MessageType := ⟨"Identity", "UserRegistered"⟩
  (s.requiresStream = true ∧ type.isMissing = false) ∧
    categoryOf "user-1" = categoryOf "user" ∧ categoryOf "-1" = categoryOf "" ∧
    s.schemaName type (some "user-1") = .ok "user.UserRegistered" ∧
    s.schemaName type (some "user-1") = s.schemaName type (some "user") ∧
    s.schemaName type (some "-1") ≠ s.schemaName type none
  := by
  intro s type
  have huser : categoryOf "user-1" = categoryOf "user" := by decide
  have hblank : categoryOf "-1" = categoryOf "" := by decide
  have hs : s.requiresStream = true := rfl
  have htype : type.isMissing = false := rfl
  obtain ⟨houtcome, hsame⟩ := outcome_of_category hs htype
  refine ⟨⟨rfl, rfl⟩, huser, hblank, ?_, ?_, ?_⟩
  · exact (houtcome (some "user-1")).1
  · apply (hsame (some "user-1") (some "user") huser).2
    left
    decide
  · intro heq
    have hhyphens := (hsame (some "-1") none hblank).1 heq
    revert hhyphens
    decide

/-- A stream that starts with a hyphen has a name, though its category is empty, and the empty
stream has none. -/
theorem not_outcome_of_category :
  (¬ ∀ (s : Strategy) (type : MessageType) (streamName : Option String),
    s.requiresStream = true → type.isMissing = false →
      ((∃ name, s.schemaName type streamName = .ok name) ↔
        ¬ Text.Blank (categoryOf (streamName.getD "")))) ∧
  ¬ ∀ (s : Strategy) (type : MessageType) (streamName streamName' : Option String),
    s.requiresStream = true → type.isMissing = false →
      categoryOf (streamName.getD "") = categoryOf (streamName'.getD "") →
        s.schemaName type streamName = s.schemaName type streamName'
  := by
  let s : Strategy := ⟨.category, .none⟩
  let type : MessageType := ⟨"Identity", "UserRegistered"⟩
  have hnamed : s.schemaName type (some "-1") = .ok ".UserRegistered" := by rfl
  have hrefused : s.schemaName type (some "") = .error (.invalidInput (.blank "stream_name")) := by
    rfl
  constructor
  · intro h
    apply (h s type (some "-1") rfl rfl).1 ⟨_, hnamed⟩
    decide
  · intro h
    have heq := h s type (some "-1") (some "") rfl rfl rfl
    rw [hnamed, hrefused] at heq
    cases heq

end Naming.Strategy

end WireSchemas
