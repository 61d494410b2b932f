import WireSchemas.Datum
import WireSchemas.Toml.Key

/-!
# Tables of TOML

A table comes into being in one of three ways, and that decides who may add to it later: a header
may name a table that headers below it have only implied, but no table twice; dotted keys may add
to a table that dotted keys made, and only to such a one; a value is never added to.  A list of
tables grows by headers of its own, and a path through it leads to its last table.
-/

namespace WireSchemas.Toml

/-- How a table came into being. -/
inductive Origin where
  /-- By a header of its own. -/
  | header
  /-- By the header of a table below it. -/
  | implied
  /-- By a dotted key. -/
  | dotted
deriving Repr, DecidableEq

/-- What a key stands for while a document is read. -/
inductive Item where
  | value (d : Datum)
  | table (origin : Origin) (entries : List (String × Item))
  /-- Tables under headers in double brackets. -/
  | tables (elements : List (List (String × Item)))

/-- The entries of a table in the order of their keys. -/
abbrev Entries := List (String × Item)

/-! ### Adding to tables -/

/-- A table after a change of the table that a path of headers leads to.  Tables that are missing
on the way are implied. -/
def change? (f : Entries → Option Entries) : List String → Entries → Option Entries
  | [], t => f t
  | k :: path, t =>
    match SortedMap.lookup k t with
    | none => (change? f path []).map fun s => SortedMap.insertEntry k (.table .implied s) t
    | some (.table origin s) =>
      (change? f path s).map fun s' => SortedMap.insertEntry k (.table origin s') t
    | some (.tables ts) => do
      let s' ← change? f path (← ts.getLast?)
      return SortedMap.insertEntry k (.tables (ts.dropLast ++ [s'])) t
    | some (.value _) => none

/-- A table with one more entry below a path of dotted keys.  The entry may go into the table
reached when that is `open`: the table itself for a key that stands alone, one made by dotted
keys otherwise. -/
def put? (last : String) (d : Datum) : List String → Bool → Entries → Option Entries
  | [], isOpen, t =>
    if isOpen ∧ (SortedMap.lookup last t).isNone then
      some (SortedMap.insertEntry last (.value d) t)
    else none
  | k :: path, _, t =>
    match SortedMap.lookup k t with
    | none => (put? last d path true []).map fun s => SortedMap.insertEntry k (.table .dotted s) t
    | some (.table .header _) => none
    | some (.table origin s) =>
      (put? last d path (origin == .dotted) s).map fun s' =>
        SortedMap.insertEntry k (.table origin s') t
    | some (.tables ts) => do
      let s' ← put? last d path false (← ts.getLast?)
      return SortedMap.insertEntry k (.tables (ts.dropLast ++ [s'])) t
    | some (.value _) => none

/-- A table with a value under a key path. -/
def insert? (path : KeyPath) (d : Datum) (t : Entries) : Option Entries :=
  put? path.last d path.parents true t

/-- A table with a table opened by a header. -/
def openTable? (path : KeyPath) (t : Entries) : Option Entries :=
  let here (t : Entries) : Option Entries :=
    match SortedMap.lookup path.last t with
    | none => some (SortedMap.insertEntry path.last (.table .header []) t)
    | some (.table .implied s) => some (SortedMap.insertEntry path.last (.table .header s) t)
    | _ => none
  change? here path.parents t

/-- A table with one more table in a list, opened by a header in double brackets. -/
def openElement? (path : KeyPath) (t : Entries) : Option Entries :=
  let here (t : Entries) : Option Entries :=
    match SortedMap.lookup path.last t with
    | none => some (SortedMap.insertEntry path.last (.tables [[]]) t)
    | some (.tables ts) => some (SortedMap.insertEntry path.last (.tables (ts ++ [[]])) t)
    | _ => none
  change? here path.parents t

/-! ### The data of a table -/

mutual

/-- What an item says. -/
def Item.datum : Item → Datum
  | .value d => d
  | .table _ es => .table (entryData es)
  | .tables ts => .list (tableData ts)

/-- What the entries of a table say. -/
def entryData : List (String × Item) → List (String × Datum)
  | [] => []
  | (k, i) :: rest => (k, i.datum) :: entryData rest

/-- What the tables of a list say. -/
def tableData : List (List (String × Item)) → List Datum
  | [] => []
  | t :: rest => .table (entryData t) :: tableData rest

end

end WireSchemas.Toml
