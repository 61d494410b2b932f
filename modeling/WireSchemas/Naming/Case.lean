import WireSchemas.Text.Blank
import WireSchemas.Text.Digit
import WireSchemas.Text.LowerCase

/-!
# Delimited lower case

`UserRegistered` becomes `user-registered` or `user_registered`.  Three passes go over the text,
each from left to right without overlaps, and the result is put in lower case.

* An acronym ends before a capital that starts a word: `HTTPServer` is read as `HTTP_Server`.
* A word ends before a capital that follows a small letter or a digit: `userId` is read as
  `user_Id`.
* A row of hyphens, underscores and blanks becomes one separator.

Dots are letters like any other here.
-/

namespace WireSchemas.Naming

/-- The letters `A` to `Z`. -/
def isCapital (c : Char) : Bool :=
  'A' ≤ c && c ≤ 'Z'

/-- The letters `a` to `z`. -/
def isSmall (c : Char) : Bool :=
  'a' ≤ c && c ≤ 'z'

/-- The end of a word before a capital. -/
def endsWord (c : Char) : Bool :=
  isSmall c || Text.isDecimalDigit c

/-- Hyphens, underscores and blanks. -/
def isSeparator (c : Char) : Bool :=
  c == '-' || c == '_' || Text.isBlank c

/-! ### Acronyms -/

/-- The start of a word: a capital, a small letter, and what follows. -/
def wordStart? : List Char → Option (Char × Char × List Char)
  | u :: l :: after => if isCapital u && isSmall l then some (u, l, after) else none
  | _ => none

/-- A row of capitals before the start of a word, as long as possible. -/
def acronym? : List Char → Option (List Char × Char × Char × List Char)
  | [] => none
  | a :: rest =>
    if isCapital a then
      match acronym? rest with
      | some (row, word) => some (a :: row, word)
      | none => (wordStart? rest).map fun word => ([a], word)
    else none

theorem length_lt_of_wordStart? {cs after : List Char} {u l : Char}
    (h : wordStart? cs = some (u, l, after)) :
  after.length < cs.length
  := by
  unfold wordStart? at h
  split at h
  · split at h
    · cases h
      simp only [List.length_cons]
      omega
    · cases h
  · cases h

theorem length_lt_of_acronym? {cs row after : List Char} {u l : Char}
    (h : acronym? cs = some (row, u, l, after)) :
  after.length < cs.length
  := by
  induction cs generalizing row with
  | nil => simp [acronym?] at h
  | cons a rest ih =>
    rw [acronym?] at h
    split at h
    · split at h
      next hrest =>
        cases h
        have := ih hrest
        simp only [List.length_cons]
        omega
      next =>
        obtain ⟨word, hword, h⟩ := Option.map_eq_some_iff.1 h
        cases h
        have := length_lt_of_wordStart? hword
        simp only [List.length_cons]
        omega
    · cases h

/-- The text with a mark between each acronym and the word after it. -/
def markAcronyms (cs : List Char) : List Char :=
  match _h : acronym? cs with
  | some (row, u, l, after) => row ++ '_' :: u :: l :: markAcronyms after
  | none =>
    match cs with
    | [] => []
    | c :: rest => c :: markAcronyms rest
termination_by cs.length
decreasing_by
  · exact length_lt_of_acronym? _h
  · simp

/-! ### Words and separators -/

/-- The text with a mark between the end of a word and the capital after it. -/
def markWords : List Char → List Char
  | x :: y :: rest =>
    if endsWord x && isCapital y then x :: '_' :: y :: markWords rest
    else x :: markWords (y :: rest)
  | cs => cs

/-- The text with one separator in place of each row of separators; `inside` tells whether the
text continues a row that has had its separator. -/
def joinSeparators (separator : Char) (inside : Bool) : List Char → List Char
  | [] => []
  | c :: rest =>
    if isSeparator c then
      if inside then joinSeparators separator true rest
      else separator :: joinSeparators separator true rest
    else c :: joinSeparators separator false rest

/-- The words of a text in lower case with a separator between them. -/
def delimited (separator : Char) (s : String) : String :=
  String.ofList <|
    Text.lowerChars (joinSeparators separator false (markWords (markAcronyms s.toList)))

/-- Words in lower case with hyphens between them. -/
def kebabCase (s : String) : String :=
  delimited '-' s

/-- Words in lower case with underscores between them. -/
def snakeCase (s : String) : String :=
  delimited '_' s

end WireSchemas.Naming
