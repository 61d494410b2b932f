import WireSchemas.Datum

/-!
# Places in configuration data

A place is a key and a chain of keys and list positions below it, as in `naming.output[0]`.
Assigning a value to a place makes the tables and lists on the way where there are none.  Keys are
kept in lower case; a table is merged into the table at its place entry by entry, and any other
value replaces what was there.
-/

namespace WireSchemas.Datum

/-- A step from a value to one inside it. -/
inductive Step where
  | key (name : String)
  /-- A position in a list, counted from the end when negative. -/
  | index (i : Int)
deriving Repr, DecidableEq

/-! ### Reading places -/

/-- The characters of keys in a written place. -/
def isPlaceChar (c : Char) : Bool :=
  c.isAlphanum || c = ' ' || c = '_' || c = '-'

/-- The integer between brackets, blanks allowed around it. -/
def index? (inside : List Char) : Option Int :=
  let isGap (c : Char) : Bool := c = ' ' || c = '\t'
  let digits := ((inside.dropWhile isGap).reverse.dropWhile isGap).reverse
  if digits.head? = some '+' then none
  else Text.IntegerType.parse? ⟨true, 64⟩ (String.ofList digits)

/-- The steps written by the characters after the first key. -/
def steps? : Nat → List Char → Option (List Step)
  | _, [] => some []
  | 0, _ => none
  | fuel + 1, c :: rest =>
    if c = '.' then
      match rest.takeWhile isPlaceChar with
      | [] => none
      | name =>
        (steps? fuel (rest.dropWhile isPlaceChar)).map fun steps =>
          .key (String.ofList name) :: steps
    else if c = '[' then
      match rest.dropWhile fun c => c != ']' with
      | [] => none
      | _ :: after => do
        let i ← index? (rest.takeWhile fun c => c != ']')
        return .index i :: (← steps? fuel after)
    else none

/-- The place that a text denotes.  A text that is no chain of steps is one key as it stands. -/
def place (s : String) : List Step :=
  let cs := s.toList
  let whole : List Step := [.key s]
  match cs.takeWhile isPlaceChar with
  | [] => whole
  | name =>
    match steps? cs.length (cs.dropWhile isPlaceChar) with
    | some steps => .key (String.ofList name) :: steps
    | none => whole

/-! ### Assignment -/

mutual

/-- What a key holds after `value` is assigned to it: a table goes into what was there. -/
def replaced (old : Option Datum) : Datum → Datum
  | table incoming => mergedInto (old.getD (table [])) incoming
  | value => value

/-- A value after entries are put into it, one after the other. -/
def mergedInto (target : Datum) : List (String × Datum) → Datum
  | [] => target
  | (key, value) :: rest =>
    let name := folded key
    let es := target.entries
    mergedInto (table (SortedMap.insertEntry name (replaced (SortedMap.lookup name es) value) es))
      rest

end

/-- The entries of a table after an assignment to a key. -/
def insertAt (es : List (String × Datum)) (key : String) (value : Datum) : List (String × Datum) :=
  let name := folded key
  SortedMap.insertEntry name (replaced (SortedMap.lookup name es) value) es

/-- The position that an index means in a list. -/
def position (i : Int) (length : Nat) : Nat :=
  if 0 ≤ i then i.toNat else length - i.natAbs

/-- A list with a new value at a position, lengthened as far as needed. -/
def setElement (es : List Datum) (n : Nat) (value : Datum) : List Datum :=
  (es ++ List.replicate (n + 1 - es.length) absent).set n value

/-- A value after an assignment to the place that the steps lead to. -/
def assign (target : Datum) (value : Datum) : List Step → Datum
  | [] => value
  | [.key name] => table (insertAt target.entries name value)
  | .key name :: steps =>
    let es := target.entries
    let inside := (SortedMap.lookup (folded name) es).getD absent
    table (SortedMap.insertEntry (folded name) (assign inside value steps) es)
  | .index i :: steps =>
    let es := target.elements
    let n := position i es.length
    list (setElement es n (assign (es[n]?.getD absent) value steps))

/-- A value after assignments to written places, one after the other. -/
def assignAll (target : Datum) (assignments : List (String × Datum)) : Datum :=
  assignments.foldl (fun d a => d.assign a.2 (place a.1)) target

end WireSchemas.Datum
