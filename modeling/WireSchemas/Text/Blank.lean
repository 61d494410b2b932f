/-!
# Blank text

`isBlank` is the `White_Space` property of Unicode, which is wider than the four characters of
`Char.isWhitespace`.  `trim` removes blank characters from both ends of a text, and a text is
blank when it has no others.
-/

namespace WireSchemas.Text

/-- The `White_Space` property of Unicode. -/
def isBlank (c : Char) : Bool :=
  let n := c.toNat
  (0x09 ≤ n && n ≤ 0x0D) || n == 0x20 || n == 0x85 || n == 0xA0 || n == 0x1680
    || (0x2000 ≤ n && n ≤ 0x200A) || n == 0x2028 || n == 0x2029 || n == 0x202F
    || n == 0x205F || n == 0x3000

/-- The characters of a list without the blank ones at either end. -/
def trimChars (cs : List Char) : List Char :=
  ((cs.dropWhile isBlank).reverse.dropWhile isBlank).reverse

/-- A text without the blank characters at either end. -/
def trim (s : String) : String :=
  String.ofList (trimChars s.toList)

/-- A text is blank when all its characters are; the empty text is. -/
def Blank (s : String) : Prop :=
  ∀ c ∈ s.toList, isBlank c = true

instance (s : String) : Decidable (Blank s) :=
  List.decidableBAll (fun c => isBlank c = true) s.toList

/-! ### Basic facts -/

theorem blank_empty :
  Blank ""
  := by
  intro c h
  simp at h

theorem dropWhile_isBlank_eq_nil_iff {cs : List Char} :
  cs.dropWhile isBlank = [] ↔ ∀ c ∈ cs, isBlank c = true
  := by
  induction cs with
  | nil => simp
  | cons c cs ih => by_cases h : isBlank c <;> simp [h, ih]

end WireSchemas.Text
