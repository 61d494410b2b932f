import WireSchemas.Proofs.Json.Spelling
import WireSchemas.Proofs.Json.Value

/-!
# Objects as the grammar writes them

The reader takes an input for an object of texts and nulls exactly when the grammar writes the
object so: `textMembers?_parse?_iff`.  `ValueAt`, `MemberAt` and `MembersAt` say what the reader
takes the beginning of an input for; each of them holds just when the input begins with a text that
the grammar has for the same thing.
-/

namespace WireSchemas.Json

open Text.Utf8

/-! ### Blanks -/

theorem Gap.nil :
  Gap []
  := by
  rintro c ⟨⟩

theorem Gap.append {g g' : List Char} (h : Gap g) (h' : Gap g') :
  Gap (g ++ g')
  := by
  intro c hc
  rcases List.mem_append.1 hc with hc | hc
  · apply h c hc
  · apply h' c hc

theorem exists_blank_of_isSpace {b : UInt8} (h : isSpace b = true) :
  ∃ c, (c = ' ' ∨ c = '\t' ∨ c = '\n' ∨ c = '\r') ∧ String.utf8EncodeChar c = [b]
  := by
  simp only [isSpace, Bool.or_eq_true, beq_iff_eq] at h
  rcases h with ((rfl | rfl) | rfl) | rfl
  · exact ⟨' ', by decide, by decide⟩
  · exact ⟨'\t', by decide, by decide⟩
  · exact ⟨'\n', by decide, by decide⟩
  · exact ⟨'\r', by decide, by decide⟩

/-- What the reader skips is a gap. -/
theorem exists_gap (input : Bytes) :
  ∃ g, Gap g ∧ input = encodeChars g ++ skipSpace input
  := by
  induction input with
  | nil => exact ⟨[], .nil, rfl⟩
  | cons b input ih =>
    rw [skipSpace, List.dropWhile_cons]
    split
    · next hb =>
      obtain ⟨g, hg, hinput⟩ := ih
      obtain ⟨c, hc, hbyte⟩ := exists_blank_of_isSpace hb
      refine ⟨c :: g, List.forall_mem_cons.2 ⟨hc, hg⟩, ?_⟩
      rw [encodeChars_cons, hbyte, List.append_assoc, List.singleton_append]
      exact congrArg (b :: ·) hinput
    · exact ⟨[], .nil, rfl⟩

/-- The reader skips gaps. -/
theorem skipSpace_gap {g : List Char} (hg : Gap g) (rest : Bytes) :
  skipSpace (encodeChars g ++ rest) = skipSpace rest
  := by
  induction g with
  | nil => rfl
  | cons c g ih =>
    obtain ⟨hc, hg'⟩ := List.forall_mem_cons.1 hg
    rw [encodeChars_cons, List.append_assoc]
    rcases hc with rfl | rfl | rfl | rfl <;> apply ih hg'

theorem skipSpace_cons {b : UInt8} (hb : isSpace b = false) (rest : Bytes) :
  skipSpace (b :: rest) = b :: rest
  := by
  simp [skipSpace, hb]

theorem skipSpace_skipSpace (input : Bytes) :
  skipSpace (skipSpace input) = skipSpace input
  := by
  obtain ⟨g, hg, hinput⟩ := exists_gap input
  rw [← skipSpace_gap hg (skipSpace input), ← hinput]

/-! ### Tokens -/

theorem afterToken?_eq_some_iff {token input rest : Bytes} :
  afterToken? token input = some rest ↔ input = token ++ rest
  := by
  induction token generalizing input with
  | nil => simp [afterToken?]
  | cons t token ih =>
    cases input with
    | nil => simp [afterToken?]
    | cons b input =>
      rw [afterToken?]
      split
      · next heq => simp [ih, heq]
      · next hne => simp [Ne.symm hne]

/-- The reader finds a text in a string just when the string is written for it. -/
theorem pieces?_iff_quoted {input after : Bytes} {s : String} :
  (∃ ps, pieces? input = some (ps, after) ∧ pieceText? ps = some s) ↔
    ∃ text, Quoted text s ∧ 0x22 :: input = encodeChars text ++ after
  := by
  constructor
  · rintro ⟨ps, hps, htext⟩
    obtain ⟨bytes, hbytes, hs⟩ := Option.bind_eq_some_iff.1 htext
    rw [← encode_of_decode? hs, encode_eq_encodeChars] at hbytes
    obtain ⟨inner, hinner, rfl⟩ := spells_iff.1 ⟨ps, hps, hbytes⟩
    refine ⟨_, ⟨inner, hinner, rfl⟩, ?_⟩
    simp [encodeChars_marks]
  · rintro ⟨text, ⟨inner, hinner, rfl⟩, hinput⟩
    rw [encodeChars_marks] at hinput
    simp only [List.cons_append, List.append_assoc, List.nil_append, List.cons.injEq, true_and]
      at hinput
    obtain ⟨ps, hps, hbytes⟩ := spells_iff.2 ⟨inner, hinner, hinput⟩
    refine ⟨ps, hps, ?_⟩
    rw [pieceText?, hbytes, Option.bind_some, ← encode_eq_encodeChars, decode?_encode]

/-! ### Values -/

/-- The reader takes the beginning of the input for a text or a null. -/
def ValueAt (fuel : Nat) (input : Bytes) (v : Option String) (after : Bytes) : Prop :=
  ∃ j, value? fuel input = some (j, after) ∧ nullable? text? j = some v

theorem exists_number_of_number? {input after : Bytes} {j : Json}
    (h : number? input = some (j, after)) :
  ∃ n, j = .number n
  := by
  simp only [number?, bind, Option.bind_eq_some_iff, Option.pure_def, Option.some.injEq,
    Prod.mk.injEq] at h
  obtain ⟨ds, -, fraction, -, exponent, -, rfl, -⟩ := h
  exact ⟨_, rfl⟩

/-- What a value begins with that can be a text, a null or an object of them. -/
inductive Begins (fuel : Nat) (after : Bytes) : Bytes → Json → Prop
  | null : Begins fuel after (0x6E :: 0x75 :: 0x6C :: 0x6C :: after) .null
  | string {rest : Bytes} {ps : List Piece} (hps : pieces? rest = some (ps, after)) :
    Begins fuel after (0x22 :: rest) (.string (pieceText? ps))
  | empty {rest : Bytes} (hclose : skipSpace rest = 0x7D :: after) :
    Begins fuel after (0x7B :: rest) (.object [])
  | members {rest : Bytes} {ms : List (Option String × Json)}
    (hms : members? fuel (skipSpace rest) = some (ms, after)) :
    Begins fuel after (0x7B :: rest) (.object ms)
  | other {input : Bytes} {j : Json} (htext : nullable? text? j = none)
    (hmembers : textMembers? j = none) : Begins fuel after input j

theorem begins_of_value? {fuel : Nat} {input after : Bytes} {j : Json}
    (h : value? (fuel + 1) input = some (j, after)) :
  Begins fuel after (skipSpace input) j
  := by
  rw [value?] at h
  split at h
  · cases h
  next b rest hskip =>
    rw [hskip]
    split at h
    next hb =>
      obtain ⟨⟨ps, after'⟩, hps, heq⟩ := Option.map_eq_some_iff.1 h
      obtain ⟨rfl, rfl⟩ := Prod.mk.inj heq
      rw [hb]
      apply Begins.string hps
    split at h
    next hb =>
      rw [hb]
      split at h
      next hclose =>
        obtain ⟨rfl, rfl⟩ := Prod.mk.inj (Option.some.inj h)
        apply Begins.empty hclose
      next hopen =>
        obtain ⟨⟨ms, after'⟩, hms, heq⟩ := Option.map_eq_some_iff.1 h
        obtain ⟨rfl, rfl⟩ := Prod.mk.inj heq
        apply Begins.members hms
    split at h
    next =>
      split at h
      next =>
        obtain ⟨rfl, -⟩ := Prod.mk.inj (Option.some.inj h)
        apply Begins.other rfl rfl
      next =>
        obtain ⟨es, -, heq⟩ := Option.map_eq_some_iff.1 h
        obtain ⟨rfl, -⟩ := Prod.mk.inj heq
        apply Begins.other rfl rfl
    split at h
    next hb =>
      obtain ⟨after', htoken, heq⟩ := Option.map_eq_some_iff.1 h
      obtain ⟨rfl, rfl⟩ := Prod.mk.inj heq
      rw [hb, afterToken?_eq_some_iff.1 htoken]
      apply Begins.null
    split at h
    next =>
      obtain ⟨after', -, heq⟩ := Option.map_eq_some_iff.1 h
      obtain ⟨rfl, -⟩ := Prod.mk.inj heq
      apply Begins.other rfl rfl
    split at h
    next =>
      obtain ⟨after', -, heq⟩ := Option.map_eq_some_iff.1 h
      obtain ⟨rfl, -⟩ := Prod.mk.inj heq
      apply Begins.other rfl rfl
    next =>
      obtain ⟨n, rfl⟩ := exists_number_of_number? h
      apply Begins.other rfl rfl

/-- A text or a null that the reader finds is written, after a gap. -/
theorem ValueAt.exists_text {fuel : Nat} {input after : Bytes} {v : Option String}
    (h : ValueAt fuel input v after) :
  ∃ g text, Gap g ∧ NullableText text v ∧ input = encodeChars g ++ (encodeChars text ++ after)
  := by
  obtain ⟨j, hj, hv⟩ := h
  obtain ⟨g, hg, hinput⟩ := exists_gap input
  cases fuel with
  | zero => cases hj
  | succ fuel =>
    have hbegins := begins_of_value? hj
    generalize skipSpace input = start at hbegins hinput
    cases hbegins with
    | null =>
      obtain rfl := Option.some.inj hv
      exact ⟨g, _, hg, .null, hinput⟩
    | string hps =>
      obtain ⟨s, htext, rfl⟩ := Option.map_eq_some_iff.1 hv
      obtain ⟨text, htext, hquoted⟩ := pieces?_iff_quoted.1 ⟨_, hps, htext⟩
      rw [hquoted] at hinput
      exact ⟨g, text, hg, .text htext, hinput⟩
    | empty => cases hv
    | members => cases hv
    | other hnone =>
      rw [hnone] at hv
      cases hv

theorem Quoted.exists_cons {text : List Char} {s : String} (h : Quoted text s) (rest : Bytes) :
  ∃ input, encodeChars text ++ rest = 0x22 :: input
  := by
  obtain ⟨inner, -, rfl⟩ := h
  rw [encodeChars_marks]
  exact ⟨_, rfl⟩

/-- The reader finds a text or a null that is written. -/
theorem NullableText.valueAt {text : List Char} {v : Option String} (h : NullableText text v)
    {g : List Char} (hg : Gap g) (fuel : Nat) (after : Bytes) :
  ValueAt (fuel + 1) (encodeChars g ++ (encodeChars text ++ after)) v after
  := by
  cases h with
  | null =>
    refine ⟨.null, ?_, rfl⟩
    rw [value?, skipSpace_gap hg]
    rfl
  | text htext =>
    obtain ⟨input, hinput⟩ := htext.exists_cons after
    obtain ⟨ps, hps, hs⟩ := pieces?_iff_quoted.2 ⟨text, htext, hinput.symm⟩
    rw [hinput]
    refine ⟨.string (pieceText? ps), ?_, by rw [hs]; rfl⟩
    simp [value?, skipSpace_gap hg, skipSpace_cons (show isSpace 0x22 = false by decide), hps]

/-! ### Members -/

/-- The reader takes the beginning of the input for a member of texts and nulls and comes to the
token after it. -/
def MemberAt (fuel : Nat) (input : Bytes) (e : String × Option String) (next : Bytes) : Prop :=
  ∃ start ps afterKey colon v afterValue,
    skipSpace input = 0x22 :: start ∧ pieces? start = some (ps, afterKey) ∧
    skipSpace afterKey = 0x3A :: colon ∧ value? fuel colon = some (v, afterValue) ∧
    pieceText? ps = some e.1 ∧ nullable? text? v = some e.2 ∧ skipSpace afterValue = next

/-- The reader takes the beginning of the input for the members of an object of texts and nulls. -/
def MembersAt (fuel : Nat) (input : Bytes) (es : List (String × Option String)) (after : Bytes) :
    Prop :=
  ∃ ms, members? fuel input = some (ms, after) ∧ textMembers? (.object ms) = some es

theorem textMembers?_cons {key : Option String} {j : Json} {ms : List (Option String × Json)}
    {es : List (String × Option String)} :
  textMembers? (.object ((key, j) :: ms)) = some es ↔
    ∃ k v es', key = some k ∧ nullable? text? j = some v ∧ textMembers? (.object ms) = some es' ∧
      es = (k, v) :: es'
  := by
  simp only [textMembers?, List.mapM_cons, bind, Option.bind_eq_some_iff, Option.pure_def,
    Option.some.injEq]
  grind

/-- The members of an object are one member, and a closing brace or a comma and other members. -/
theorem membersAt_succ_iff {fuel : Nat} {input after : Bytes}
    {es : List (String × Option String)} :
  MembersAt (fuel + 1) input es after ↔
    ∃ e next, MemberAt fuel input e next ∧ (next = 0x7D :: after ∧ es = [e] ∨
      ∃ rest es', next = 0x2C :: rest ∧ MembersAt fuel rest es' after ∧ es = e :: es')
  := by
  constructor
  · rintro ⟨ms, hms, hes⟩
    simp only [members?, bind, Option.bind_eq_some_iff, afterToken?_eq_some_iff] at hms
    obtain ⟨start, hstart, ⟨ps, afterKey⟩, hps, colon, hcolon, ⟨v, afterValue⟩, hv, hms⟩ := hms
    have hmember {e : String × Option String} (hkey : pieceText? ps = some e.1)
        (hvalue : nullable? text? v = some e.2) : MemberAt fuel input e (skipSpace afterValue) :=
      ⟨start, ps, afterKey, colon, v, afterValue, hstart, hps, hcolon, hv, hkey, hvalue, rfl⟩
    split at hms
    next rest hnext =>
      obtain ⟨⟨ms', after'⟩, hms', heq⟩ := Option.bind_eq_some_iff.1 hms
      obtain ⟨rfl, rfl⟩ := Prod.mk.inj (Option.some.inj heq)
      obtain ⟨k, w, es', hkey, hvalue, hes', rfl⟩ := textMembers?_cons.1 hes
      exact ⟨(k, w), _, hmember hkey hvalue, .inr ⟨rest, es', hnext, ⟨ms', hms', hes'⟩, rfl⟩⟩
    next rest hnext =>
      obtain ⟨rfl, rfl⟩ := Prod.mk.inj (Option.some.inj hms)
      obtain ⟨k, w, es', hkey, hvalue, hes', rfl⟩ := textMembers?_cons.1 hes
      obtain rfl := Option.some.inj hes'
      exact ⟨(k, w), _, hmember hkey hvalue, .inl ⟨hnext, rfl⟩⟩
    next => cases hms
  · rintro ⟨⟨k, w⟩, next, ⟨start, ps, afterKey, colon, v, afterValue, hstart, hps, hcolon, hv, hkey,
      hvalue, rfl⟩, ⟨hnext, rfl⟩ | ⟨rest, es', hnext, ⟨ms, hms, hes'⟩, rfl⟩⟩
    · refine ⟨[(pieceText? ps, v)], ?_, textMembers?_cons.2 ⟨k, w, [], hkey, hvalue, rfl, rfl⟩⟩
      simp [members?, hstart, afterToken?, hps, hcolon, hv, hnext]
    · refine ⟨(pieceText? ps, v) :: ms, ?_,
        textMembers?_cons.2 ⟨k, w, es', hkey, hvalue, hes', rfl⟩⟩
      simp [members?, hstart, afterToken?, hps, hcolon, hv, hnext, hms]

/-! ### Members as they are written -/

theorem encodeChars_memberText (g₁ key g₂ g₃ value g₄ : List Char) (next : Bytes) :
  encodeChars (g₁ ++ key ++ g₂ ++ ':' :: (g₃ ++ value ++ g₄)) ++ next =
    encodeChars g₁ ++ (encodeChars key ++ (encodeChars g₂ ++ 0x3A :: (encodeChars g₃ ++
      (encodeChars value ++ (encodeChars g₄ ++ next)))))
  := by
  have hcolon : String.utf8EncodeChar ':' = [0x3A] := by decide
  simp [encodeChars_append, encodeChars_cons, hcolon]

/-- A member that the reader finds is written. -/
theorem MemberAt.exists_text {fuel : Nat} {input next : Bytes} {e : String × Option String}
    (h : MemberAt fuel input e next) :
  ∃ text, MemberText text e ∧ input = encodeChars text ++ next
  := by
  obtain ⟨start, ps, afterKey, colon, v, afterValue, hstart, hps, hcolon, hv, hkey, hvalue,
    rfl⟩ := h
  obtain ⟨g₁, hg₁, hinput⟩ := exists_gap input
  obtain ⟨key, hkey, hstart'⟩ := pieces?_iff_quoted.1 ⟨ps, hps, hkey⟩
  obtain ⟨g₂, hg₂, hafterKey⟩ := exists_gap afterKey
  obtain ⟨g₃, value, hg₃, hvalue, hcolon'⟩ := ValueAt.exists_text ⟨v, hv, hvalue⟩
  obtain ⟨g₄, hg₄, hafterValue⟩ := exists_gap afterValue
  refine ⟨_, .mk hg₁ hkey hg₂ hg₃ hvalue hg₄, ?_⟩
  rw [encodeChars_memberText, ← hafterValue, ← hcolon', ← hcolon, ← hafterKey, ← hstart', ← hstart,
    ← hinput]

/-- The reader finds a member that is written and comes to the token after it. -/
theorem MemberText.memberAt {text : List Char} {e : String × Option String} (h : MemberText text e)
    (fuel : Nat) {next : Bytes} (hnext : skipSpace next = next) :
  MemberAt (fuel + 1) (encodeChars text ++ next) e next
  := by
  obtain ⟨hg₁, hkey, hg₂, hg₃, hvalue, hg₄⟩ := h
  rw [encodeChars_memberText]
  obtain ⟨start, hstart⟩ := hkey.exists_cons _
  obtain ⟨ps, hps, hkey⟩ := pieces?_iff_quoted.2 ⟨_, hkey, hstart.symm⟩
  obtain ⟨v, hv, hvalue⟩ := hvalue.valueAt hg₃ fuel _
  refine ⟨start, ps, _, _, v, _, ?_, hps, ?_, hv, hkey, hvalue, ?_⟩
  · rw [skipSpace_gap hg₁, hstart, skipSpace_cons (by decide)]
  · rw [skipSpace_gap hg₂, skipSpace_cons (by decide)]
  · rw [skipSpace_gap hg₄, hnext]

/-- Members that the reader finds are written, up to a closing brace. -/
theorem MembersAt.exists_text {fuel : Nat} {input after : Bytes}
    {es : List (String × Option String)} (h : MembersAt fuel input es after) :
  ∃ text, MembersText text es ∧ input = encodeChars text ++ 0x7D :: after
  := by
  induction fuel generalizing input es with
  | zero =>
    obtain ⟨ms, hms, -⟩ := h
    cases hms
  | succ fuel ih =>
    obtain ⟨e, next, hmember, hnext⟩ := membersAt_succ_iff.1 h
    obtain ⟨text, htext, rfl⟩ := hmember.exists_text
    rcases hnext with ⟨rfl, rfl⟩ | ⟨rest, es', rfl, hmembers, rfl⟩
    · exact ⟨text, .last htext, rfl⟩
    · obtain ⟨text', htext', rfl⟩ := ih hmembers
      refine ⟨_, .cons htext htext', ?_⟩
      rw [encodeChars_comma, List.append_assoc, List.cons_append]

/-- The reader finds members that are written, if it has fuel for each of them. -/
theorem MembersText.membersAt {text : List Char} {es : List (String × Option String)}
    (h : MembersText text es) {fuel : Nat} (hfuel : es.length ≤ fuel) (after : Bytes) :
  MembersAt (fuel + 1) (encodeChars text ++ 0x7D :: after) es after
  := by
  induction h generalizing fuel with
  | last htext =>
    obtain ⟨fuel, rfl⟩ := Nat.exists_eq_add_one_of_ne_zero (Nat.ne_of_gt hfuel)
    have hmember := htext.memberAt fuel (skipSpace_cons (b := 0x7D) (by decide) after)
    exact membersAt_succ_iff.2 ⟨_, _, hmember, .inl ⟨rfl, rfl⟩⟩
  | @cons text rest e es' htext hrest ih =>
    rw [List.length_cons] at hfuel
    obtain ⟨fuel, rfl⟩ := Nat.exists_eq_add_one_of_ne_zero (Nat.ne_of_gt (Nat.zero_lt_of_lt hfuel))
    have hmember := htext.memberAt fuel
      (skipSpace_cons (b := 0x2C) (by decide) (encodeChars rest ++ 0x7D :: after))
    rw [encodeChars_comma, List.append_assoc, List.cons_append]
    exact membersAt_succ_iff.2
      ⟨e, _, hmember, .inr ⟨_, es', rfl, ih (Nat.le_of_succ_le_succ hfuel), rfl⟩⟩

/-- Each of the members takes a byte at least. -/
theorem MembersText.length_le {text : List Char} {es : List (String × Option String)}
    (h : MembersText text es) :
  es.length ≤ (encodeChars text).length
  := by
  induction h with
  | last htext =>
    obtain ⟨⟩ := htext
    rw [← List.append_nil (encodeChars _), encodeChars_memberText]
    simp only [List.length_append, List.length_cons, List.length_nil]
    omega
  | cons htext hrest ih =>
    rw [encodeChars_comma, List.length_append, List.length_cons, List.length_cons]
    omega

/-! ### Objects -/

theorem MembersText.gap {g text : List Char} {es : List (String × Option String)} (hg : Gap g)
    (h : MembersText text es) :
  MembersText (g ++ text) es
  := by
  have hmember {text : List Char} {e : String × Option String} (h : MemberText text e) :
      MemberText (g ++ text) e := by
    obtain ⟨h₁, hkey, h₂, h₃, hvalue, h₄⟩ := h
    have hgap := MemberText.mk (hg.append h₁) hkey h₂ h₃ hvalue h₄
    simp only [List.append_assoc] at hgap ⊢
    apply hgap
  cases h with
  | last htext => apply MembersText.last (hmember htext)
  | cons htext hrest =>
    rw [← List.append_assoc]
    apply MembersText.cons (hmember htext) hrest

theorem members?_skipSpace (fuel : Nat) (input : Bytes) :
  members? fuel (skipSpace input) = members? fuel input
  := by
  cases fuel with
  | zero => rfl
  | succ fuel => rw [members?, members?, skipSpace_skipSpace]

theorem encodeChars_braces_append (text : List Char) (after : Bytes) :
  encodeChars ('\x7b' :: (text ++ ['\x7d'])) ++ after = 0x7B :: (encodeChars text ++ 0x7D :: after)
  := by
  rw [encodeChars_braces, List.cons_append, List.append_assoc, List.singleton_append]

/-- The text of an object has more bytes than the object has members. -/
theorem ObjectText.length_lt {text : List Char} {es : List (String × Option String)}
    (h : ObjectText text es) :
  es.length < (encodeChars text).length
  := by
  cases h with
  | empty =>
    rw [encodeChars_braces]
    apply Nat.zero_lt_succ
  | members htext =>
    rw [encodeChars_braces, List.length_cons, List.length_append]
    apply Nat.lt_succ_of_le (Nat.le_trans htext.length_le (Nat.le_add_right _ _))

/-- An object of texts and nulls that the reader finds is written, after a gap. -/
theorem exists_objectText {fuel : Nat} {input after : Bytes} {j : Json}
    {es : List (String × Option String)} (hj : value? fuel input = some (j, after))
    (hes : textMembers? j = some es) :
  ∃ g text, Gap g ∧ ObjectText text es ∧ input = encodeChars g ++ (encodeChars text ++ after)
  := by
  obtain ⟨g, hg, hinput⟩ := exists_gap input
  cases fuel with
  | zero => cases hj
  | succ fuel =>
    have hbegins := begins_of_value? hj
    generalize skipSpace input = start at hbegins hinput
    cases hbegins with
    | null => cases hes
    | string => cases hes
    | @empty rest hclose =>
      obtain rfl := Option.some.inj hes
      obtain ⟨g', hg', hrest⟩ := exists_gap rest
      refine ⟨g, _, hg, .empty hg', ?_⟩
      rw [encodeChars_braces_append, ← hclose, ← hrest, hinput]
    | @members rest ms hms =>
      obtain ⟨g', hg', hrest⟩ := exists_gap rest
      obtain ⟨text, htext, hstart⟩ := MembersAt.exists_text ⟨ms, hms, hes⟩
      refine ⟨g, _, hg, .members (htext.gap hg'), ?_⟩
      rw [encodeChars_braces_append, encodeChars_append, List.append_assoc, ← hstart, ← hrest,
        hinput]
    | other htext hnone =>
      rw [hnone] at hes
      cases hes

/-- The reader finds an object of texts and nulls that is written. -/
theorem ObjectText.exists_value? {text : List Char} {es : List (String × Option String)}
    (h : ObjectText text es) {g : List Char} (hg : Gap g) {fuel : Nat} (hfuel : es.length < fuel)
    (after : Bytes) :
  ∃ j, value? (fuel + 1) (encodeChars g ++ (encodeChars text ++ after)) = some (j, after) ∧
    textMembers? j = some es
  := by
  have hbrace : isSpace 0x7B = false := by decide
  cases h with
  | @empty g' hg' =>
    refine ⟨.object [], ?_, rfl⟩
    rw [encodeChars_braces_append, value?, skipSpace_gap hg, skipSpace_cons hbrace]
    simp [skipSpace_gap hg', skipSpace_cons (show isSpace 0x7D = false by decide)]
  | members htext =>
    obtain ⟨fuel, rfl⟩ := Nat.exists_eq_add_one_of_ne_zero (Nat.ne_of_gt (Nat.zero_lt_of_lt hfuel))
    have hmembers := htext.membersAt (Nat.le_of_lt_succ hfuel) after
    obtain ⟨e, next, ⟨start, ps, afterKey, colon, v, afterValue, hstart, -⟩, -⟩ :=
      membersAt_succ_iff.1 hmembers
    obtain ⟨ms, hms, hes⟩ := hmembers
    rw [← members?_skipSpace, hstart] at hms
    refine ⟨.object ms, ?_, hes⟩
    rw [encodeChars_braces_append, value?, skipSpace_gap hg, skipSpace_cons hbrace]
    simp [hstart, hms]

/-! ### Documents -/

/-- What the reader makes of a written object with more after it. -/
theorem Document.exists_parse?_append {text : List Char} {es : List (String × Option String)}
    (h : Document text es) (more : Bytes) :
  ∃ j, textMembers? j = some es ∧
    parse? (encodeChars text ++ more) = if skipSpace more = [] then some j else none
  := by
  obtain @⟨before, object, after, _, hbefore, hobject, hafter⟩ := h
  have htext : encodeChars (before ++ object ++ after) ++ more =
      encodeChars before ++ (encodeChars object ++ (encodeChars after ++ more)) := by
    simp only [encodeChars_append, List.append_assoc]
  have hlt := hobject.length_lt
  have hfuel : es.length < 2 * (encodeChars (before ++ object ++ after) ++ more).length := by
    rw [htext, List.length_append, List.length_append]
    omega
  obtain ⟨j, hj, hes⟩ := hobject.exists_value? hbefore hfuel (encodeChars after ++ more)
  rw [← htext] at hj
  refine ⟨j, hes, ?_⟩
  rw [parse?, hj]
  simp only [skipSpace_gap hafter]

/-- The reader takes an input for an object of texts and nulls just when the grammar writes it. -/
theorem textMembers?_parse?_iff {input : Bytes} {es : List (String × Option String)} :
  (parse? input).bind textMembers? = some es ↔ ∃ text, Document text es ∧ input = encodeChars text
  := by
  constructor
  · intro h
    obtain ⟨j, hj, hes⟩ := Option.bind_eq_some_iff.1 h
    rw [parse?] at hj
    split at hj
    next v rest hv =>
      split at hj
      next hrest =>
        obtain rfl := Option.some.inj hj
        obtain ⟨g, object, hg, hobject, hinput⟩ := exists_objectText hv hes
        obtain ⟨g', hg', hafter⟩ := exists_gap rest
        rw [hrest, List.append_nil] at hafter
        refine ⟨_, .mk hg hobject hg', ?_⟩
        rw [encodeChars_append, encodeChars_append, List.append_assoc, ← hafter, hinput]
      next => cases hj
    next => cases hj
  · rintro ⟨text, htext, rfl⟩
    obtain ⟨j, hes, hj⟩ := htext.exists_parse?_append []
    rw [List.append_nil] at hj
    rw [hj]
    apply hes

/-- A written object with more than blanks after it is not read. -/
theorem Document.parse?_append {text : List Char} {es : List (String × Option String)}
    (h : Document text es) {more : Bytes} (hmore : skipSpace more ≠ []) :
  parse? (encodeChars text ++ more) = none
  := by
  obtain ⟨j, -, hj⟩ := h.exists_parse?_append more
  rw [hj, if_neg hmore]

/-- The first token of a written object is a brace. -/
theorem Document.skipSpace_eq {text : List Char} {es : List (String × Option String)}
    (h : Document text es) :
  ∃ rest, skipSpace (encodeChars text) = 0x7B :: rest
  := by
  obtain @⟨before, object, after, _, hbefore, hobject, hafter⟩ := h
  rw [encodeChars_append, encodeChars_append, List.append_assoc, skipSpace_gap hbefore]
  cases hobject <;> exact ⟨_, by rw [encodeChars_braces_append, skipSpace_cons (by decide)]⟩

end WireSchemas.Json
