import WireSchemas.Proofs.Json.Text

/-!
# Values, written and read

`Denotes` says that the reader makes a value of a text, whatever follows it.  The text of an object
denotes the object when the texts of its members denote their values: `denotes_objectText`.
-/

namespace WireSchemas.Json

open Text.Utf8

/-- The reader makes the value of the text, if it has as much fuel as the text has bytes. -/
def Denotes (text : List Char) (j : Json) : Prop :=
  ∀ fuel rest, (encodeChars text).length ≤ fuel →
    value? fuel (encodeChars text ++ rest) = some (j, rest)

theorem denotes_null :
  Denotes "null".toList .null
  := by
  intro fuel rest hfuel
  cases fuel with
  | zero => contradiction
  | succ fuel => rfl

theorem encodeChars_marks (text : List Char) :
  encodeChars ('"' :: (text ++ ['"'])) = 0x22 :: (encodeChars text ++ [0x22])
  := by
  have hmark : String.utf8EncodeChar '"' = [0x22] := by decide
  simp [encodeChars_cons, encodeChars_append, hmark]

theorem encodeChars_quoted (s : String) :
  encodeChars (quoted s) = 0x22 :: (encodeChars (s.toList.flatMap escape) ++ [0x22])
  := encodeChars_marks _

theorem denotes_quoted (s : String) :
  Denotes (quoted s) (.string (some s))
  := by
  intro fuel rest hfuel
  obtain ⟨ps, hps, htext⟩ := pieces?_escaped s rest
  rw [encodeChars_quoted] at hfuel ⊢
  cases fuel with
  | zero => contradiction
  | succ fuel => simp [value?, skipSpace, isSpace, hps, htext]

/-! ### Objects -/

theorem separated_cons_cons (item next : List Char) (items : List (List Char)) :
  separated (item :: next :: items) = item ++ ',' :: separated (next :: items)
  := by
  simp [separated]

theorem encodeChars_member (name : String) (text : List Char) :
  encodeChars (quoted name ++ ':' :: text) =
    0x22 :: (encodeChars (name.toList.flatMap escape) ++ 0x22 :: 0x3A :: encodeChars text)
  := by
  have hcolon : String.utf8EncodeChar ':' = [0x3A] := by decide
  simp [encodeChars_append, encodeChars_cons, encodeChars_quoted, hcolon]

theorem length_lt_member (name : String) (text : List Char) :
  (encodeChars text).length < (encodeChars (quoted name ++ ':' :: text)).length
  := by
  rw [encodeChars_member, List.length_cons, List.length_append]
  simp only [List.length_cons]
  omega

/-- A member at the end of an object. -/
theorem members?_last {name : String} {text : List Char} {j : Json} (h : Denotes text j)
    {fuel : Nat} (hfuel : (encodeChars text).length ≤ fuel) (after : Bytes) :
  members? (fuel + 1) (encodeChars (quoted name ++ ':' :: text) ++ 0x7D :: after) =
    some ([(some name, j)], after)
  := by
  obtain ⟨ps, hps, htext⟩ := pieces?_escaped name (0x3A :: (encodeChars text ++ 0x7D :: after))
  rw [encodeChars_member]
  simp [members?, skipSpace, isSpace, afterToken?, hps, htext, h fuel _ hfuel]

/-- A member with others after it. -/
theorem members?_comma {name : String} {text : List Char} {j : Json} (h : Denotes text j)
    {fuel : Nat} (hfuel : (encodeChars text).length ≤ fuel) {rest after : Bytes}
    {ms : List (Option String × Json)} (hms : members? fuel rest = some (ms, after)) :
  members? (fuel + 1) (encodeChars (quoted name ++ ':' :: text) ++ 0x2C :: rest) =
    some ((some name, j) :: ms, after)
  := by
  obtain ⟨ps, hps, htext⟩ := pieces?_escaped name (0x3A :: (encodeChars text ++ 0x2C :: rest))
  rw [encodeChars_member]
  simp [members?, skipSpace, isSpace, afterToken?, hps, htext, h fuel _ hfuel, hms]

variable {α : Type} {write : α → List Char} {value : α → Json}

/-- The text of the members of an object, without the braces. -/
def membersText (write : α → List Char) (members : List (String × α)) : List Char :=
  separated (members.map fun m => quoted m.1 ++ ':' :: write m.2)

theorem membersText_singleton (m : String × α) :
  membersText write [m] = quoted m.1 ++ ':' :: write m.2
  := by
  simp [membersText, separated]

theorem membersText_cons_cons (m m' : String × α) (members : List (String × α)) :
  membersText write (m :: m' :: members) =
    (quoted m.1 ++ ':' :: write m.2) ++ ',' :: membersText write (m' :: members)
  := separated_cons_cons _ _ _

theorem encodeChars_comma (text rest : List Char) :
  encodeChars (text ++ ',' :: rest) = encodeChars text ++ 0x2C :: encodeChars rest
  := by
  have hcomma : String.utf8EncodeChar ',' = [0x2C] := by decide
  simp [encodeChars_append, encodeChars_cons, hcomma]

theorem exists_membersText_cons (write : α → List Char) (m : String × α)
    (members : List (String × α)) :
  ∃ tail, encodeChars (membersText write (m :: members)) = 0x22 :: tail
  := by
  cases members with
  | nil =>
    rw [membersText_singleton, encodeChars_member]
    exact ⟨_, rfl⟩
  | cons m' members =>
    rw [membersText_cons_cons, encodeChars_comma, encodeChars_member]
    exact ⟨_, rfl⟩

/-- The reader goes through the members of an object up to what follows it. -/
theorem members?_membersText {members : List (String × α)} (hne : members ≠ [])
    (hdenotes : ∀ m ∈ members, Denotes (write m.2) (value m.2)) {fuel : Nat}
    (hfuel : (encodeChars (membersText write members)).length ≤ fuel) (after : Bytes) :
  members? fuel (encodeChars (membersText write members) ++ 0x7D :: after) =
    some (members.map fun m => (some m.1, value m.2), after)
  := by
  induction members generalizing fuel with
  | nil => contradiction
  | cons m members ih =>
    obtain ⟨hm, hmembers⟩ := List.forall_mem_cons.1 hdenotes
    cases members with
    | nil =>
      rw [membersText_singleton] at hfuel ⊢
      have hlt := length_lt_member m.1 (write m.2)
      cases fuel with
      | zero => omega
      | succ fuel => apply members?_last hm (by omega)
    | cons m' members =>
      rw [membersText_cons_cons, encodeChars_comma] at hfuel ⊢
      rw [List.length_append, List.length_cons] at hfuel
      have hlt := length_lt_member m.1 (write m.2)
      cases fuel with
      | zero => omega
      | succ fuel =>
        -- a member takes one unit of fuel, and its text is longer than that of its value
        rw [List.append_assoc]
        apply members?_comma hm (by omega)
        apply ih (List.cons_ne_nil m' members) hmembers
        omega

theorem encodeChars_braces (text : List Char) :
  encodeChars ('\x7b' :: (text ++ ['\x7d'])) = 0x7B :: (encodeChars text ++ [0x7D])
  := by
  have hopen : String.utf8EncodeChar '\x7b' = [0x7B] := by decide
  have hclose : String.utf8EncodeChar '\x7d' = [0x7D] := by decide
  simp [encodeChars_cons, encodeChars_append, hopen, hclose]

/-- The text of an object denotes it when the texts of its members denote their values. -/
theorem denotes_objectText {members : List (String × α)}
    (hdenotes : ∀ m ∈ members, Denotes (write m.2) (value m.2)) :
  Denotes (objectText (members.map fun m => (m.1, write m.2)))
    (.object (members.map fun m => (some m.1, value m.2)))
  := by
  intro fuel rest hfuel
  have htext : encodeChars (objectText (members.map fun m => (m.1, write m.2))) =
      0x7B :: (encodeChars (membersText write members) ++ [0x7D]) := by
    rw [objectText, encodeChars_braces, membersText, List.map_map]
    rfl
  rw [htext] at hfuel ⊢
  simp only [List.length_cons, List.length_append, List.length_nil] at hfuel
  cases fuel with
  | zero => omega
  | succ fuel =>
    cases members with
    | nil => simp [value?, skipSpace, isSpace, membersText, separated]
    | cons m members =>
      have hle : (encodeChars (membersText write (m :: members))).length ≤ fuel := by omega
      have hmembers := members?_membersText (List.cons_ne_nil m members) hdenotes hle rest
      obtain ⟨tail, htail⟩ := exists_membersText_cons write m members
      rw [htail] at hmembers ⊢
      simp only [List.cons_append] at hmembers
      simp [value?, skipSpace, isSpace, hmembers]

/-- The reader of a whole input makes the value that its text denotes. -/
theorem parse?_encodeChars {text : List Char} {j : Json} (h : Denotes text j) :
  parse? (encodeChars text) = some j
  := by
  have hvalue := h (2 * (encodeChars text).length + 1) [] (by omega)
  rw [List.append_nil] at hvalue
  simp [parse?, hvalue, skipSpace]

end WireSchemas.Json
