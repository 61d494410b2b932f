import WireSchemas.Text.LowerCaseTable

/-!
# Lower-casing

`lowerChars` is full Unicode lower-casing of a text.  Every character is mapped by itself but
one: the capital sigma becomes the final form `ς` at the end of a word and `σ` elsewhere.  The
dotted capital I becomes two characters.  `lowerAscii` touches the letters `A` to `Z` alone.
-/

namespace WireSchemas.Text

/-- The run of the simple mapping that holds a code point. -/
def lowerRun? (n : Nat) : Option LowerRun :=
  lowerRuns.find? fun r => r.first ≤ n && n ≤ r.last && (n - r.first) % r.step == 0

/-- The lower-case form of a character on its own. -/
def lowerChar (c : Char) : List Char :=
  if c.toNat < 0x80 then
    [if 'A' ≤ c ∧ c ≤ 'Z' then Char.ofNat (c.toNat + 32) else c]
  else if c = '\u0130' then
    ['i', '\u0307']
  else
    match lowerRun? c.toNat with
    | some r => [Char.ofNat (c.toNat + r.shift).toNat]
    | none => [c]

/-- Membership in a table of closed ranges. -/
def inRanges (ranges : List (Nat × Nat)) (c : Char) : Bool :=
  ranges.any fun r => r.1 ≤ c.toNat && c.toNat ≤ r.2

/-- Characters that the context of a sigma passes over. -/
def isCaseIgnorable (c : Char) : Bool :=
  inRanges caseIgnorableRanges c

/-- Characters with a case, the ignorable ones aside. -/
def isCased (c : Char) : Bool :=
  inRanges casedRanges c

/-- The first character that is not ignorable exists and has a case. -/
def startsCased (cs : List Char) : Bool :=
  match cs.dropWhile isCaseIgnorable with
  | [] => false
  | c :: _ => isCased c

/-- The lower-case sigma between the reversed text `before` and the text `after`. -/
def lowerSigma (before after : List Char) : Char :=
  if startsCased before && !startsCased after then 'ς' else 'σ'

/-- Lower-casing of the text that follows the reversed text `before`. -/
def lowerAfter (before : List Char) : List Char → List Char
  | [] => []
  | c :: rest =>
    (if c = 'Σ' then [lowerSigma before rest] else lowerChar c) ++ lowerAfter (c :: before) rest

/-- Full Unicode lower-casing. -/
def lowerChars (cs : List Char) : List Char :=
  lowerAfter [] cs

/-- The letters `A` to `Z` in lower case, all else untouched. -/
def lowerAscii (s : String) : String :=
  s.map Char.toLower

end WireSchemas.Text
