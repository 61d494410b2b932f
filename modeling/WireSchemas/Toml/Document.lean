import WireSchemas.Toml.Value

/-!
# Documents of TOML

A document is a list of statements: pairs of a key and a value, and headers that say which table
the following pairs belong to.  It is read statement by statement, and then the statements are
carried out in their order.
-/

namespace WireSchemas.Toml

/-- A line of a document, or several when a value takes them. -/
inductive Statement where
  | pair (path : KeyPath) (d : Datum)
  /-- A header in single brackets. -/
  | header (path : KeyPath)
  /-- A header in double brackets. -/
  | element (path : KeyPath)

/-! ### Reading statements -/

/-- A statement, and what follows it on its line. -/
def statement? : List Char → Option (Statement × List Char)
  | '[' :: '[' :: rest => do
    let (path, after) ← keyPath? nestingLimit rest
    match after with
    | ']' :: ']' :: after => return (.element path, after)
    | _ => none
  | '[' :: rest => do
    let (path, after) ← keyPath? nestingLimit rest
    match after with
    | ']' :: after => return (.header path, after)
    | _ => none
  | cs => do
    let ((path, d), after) ← pair? (value? nestingLimit) cs
    return (.pair path d, after)

/-- The statements of a text, each ending its line. -/
def statements? : Nat → List Char → Option (List Statement)
  | _, [] => some []
  | 0, _ => none
  | fuel + 1, cs =>
    match endLine? cs with
    | some rest => statements? fuel rest
    | none => do
      let (s, after) ← statement? (skipGap cs)
      return s :: (← statements? fuel (← endLine? after))

/-! ### Carrying out statements -/

/-- A document up to some statement: its tables, and the path to the table that pairs go into. -/
structure Document where
  root : Entries := []
  current : List String := []

/-- The document after one more statement. -/
def Document.run? (doc : Document) : Statement → Option Document
  | .pair path d =>
    (change? (insert? path d) doc.current doc.root).map fun root => { doc with root }
  | .header path => (openTable? path doc.root).map fun root => ⟨root, path.keys⟩
  | .element path => (openElement? path doc.root).map fun root => ⟨root, path.keys⟩

/-- The entries that a text sets, a byte order mark before it dropped.  Each round of the reader
ends a line, so the fuel suffices. -/
def read? (text : String) : Option (List (String × Datum)) := do
  let cs := match text.toList with
    | '\uFEFF' :: rest => rest
    | cs => cs
  let statements ← statements? (cs.length + 1) cs
  let doc ← statements.foldlM Document.run? {}
  return entryData doc.root

end WireSchemas.Toml
