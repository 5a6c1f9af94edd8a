import DeliveryDesk.Decimal.Binary64

/-!
# Settings documents

A settings document is a tree of tables. Tables are defined by headers, in passing (as
parents of a header), by dotted keys, or inline within a value, and these four kinds differ in
what may still be added to them: a table with a header of its own is complete, an inline table
is a closed value, and a dotted table grows by dotted keys only. `Toml.insert` and the
functions beside it add to a document under these rules; where they fail, a `KeyClash` tells
which key is in the way.
-/

namespace DeliveryDesk

/-- How a table came to be. -/
inductive TableKind where
  /-- A value between braces. -/
  | inline
  /-- By a header of its own. -/
  | explicit
  /-- As a parent of a header. -/
  | implicit
  /-- By a dotted key. -/
  | dotted
deriving DecidableEq, Repr

/-- A floating-point number of a settings document. -/
inductive FloatValue where
  | finite (x : Binary64)
  | infinite (negative : Bool)
  | notANumber
deriving DecidableEq, Repr

/-- A value of a settings document. No setting is a date or a time of day, so of these only
their presence is kept. -/
inductive Toml where
  | string (s : String)
  | integer (i : Int)
  | boolean (b : Bool)
  | float (x : FloatValue)
  | moment
  | array (items : List Toml)
  | table (kind : TableKind) (entries : List (String × Toml))
  /-- Tables that share a header with doubled brackets. -/
  | tables (items : List (List (String × Toml)))
deriving Repr, Inhabited

namespace Toml

/-- The entries of a table. -/
abbrev Entries := List (String × Toml)

/-- Why a key cannot be added to a document. -/
inductive KeyClash where
  /-- The key is taken, in the table with the given path where one is given. -/
  | taken (key : String) (table : Option (List String))
  /-- The key of a header is taken, in the table with the given path. -/
  | takenByHeader (key : String) (table : List String)
  /-- The path leads through a value of another kind. -/
  | notATable (path : List String) (kind : String)
deriving DecidableEq, Repr

/-- What a path is written for. -/
inductive PathUse where
  | header
  /-- A dotted key of a line. -/
  | line
  /-- A dotted key of an inline table. -/
  | inlineTable
deriving DecidableEq, Repr

/-- How the tables came to be that a path creates. -/
def PathUse.kind : PathUse → TableKind
  | header => .implicit
  | line | inlineTable => .dotted

/-- The name of a value's kind. -/
def kindName : Toml → String
  | string _ => "string"
  | integer _ => "integer"
  | boolean _ => "boolean"
  | float _ => "float"
  | moment => "datetime"
  | array _ => "array"
  | table .inline _ => "inline table"
  | table _ _ => "table"
  | tables _ => "array of tables"

/-- Replaces the value of a key, which comes last if it is new. -/
def replace (key : String) (value : Toml) : Entries → Entries
  | [] => [(key, value)]
  | (k, v) :: rest => if k = key then (k, value) :: rest else (k, v) :: replace key value rest

/-- Changes the table at a path, which is created where it is missing. Within an array of tables
the last one is meant. A dotted key does not reach into a table with a header of its own. `above`
is the path of the entries. -/
def update (use : PathUse) (change : TableKind → Entries → Except KeyClash Entries)
    (kind : TableKind) (above : List String) :
    (path : List String) → Entries → Except KeyClash Entries
  | [], entries => change kind entries
  | key :: path, entries =>
    let here := above ++ [key]
    match entries.lookup key with
    | none =>
      (update use change use.kind here path []).map fun sub =>
        replace key (.table use.kind sub) entries
    | some (.table kind sub) =>
      if use = .inlineTable ∧ kind = .inline then .error (.taken key none)
      else if kind = .inline then .error (.notATable here (kindName (.table kind sub)))
      else if use ≠ .header ∧ kind = .explicit then .error (.taken key none)
      else
        (update use change kind here path sub).map fun sub =>
          replace key (.table kind sub) entries
    | some (.tables items) =>
      let last := items.getLast?.getD []
      (update use change .explicit here path last).map fun last =>
        replace key (.tables (items.dropLast ++ [last])) entries
    | some value => .error (.notATable here value.kindName)

/-- Adds a new entry to a table. `table` is its path as far as it is told. -/
def addEntry (table : Option (List String)) (key : String) (value : Toml) (entries : Entries) :
    Except KeyClash Entries :=
  if (entries.lookup key).isSome then .error (.taken key table)
  else .ok (entries ++ [(key, value)])

/-- Adds an entry with a dotted key to a table. The table that gets the entry must be a dotted
one, unless the key has no dots. -/
def insert (use : PathUse) (table : Option (List String)) (path : List String) (key : String)
    (value : Toml) (entries : Entries) : Except KeyClash Entries :=
  update use (fun kind entries =>
    if path ≠ [] ∧ kind ≠ .dotted then .error (.taken key none)
    else addEntry table key value entries) .explicit [] path entries

/-- Adds an entry with a dotted key to the table of a header. -/
def insertUnder (header path : List String) (key : String) (value : Toml)
    (entries : Entries) : Except KeyClash Entries :=
  update .header (fun _ entries => insert .line (some header) path key value entries) .explicit []
    header entries

/-- Opens a table by its header. The table must be new, or only known as a parent; it comes
last then. -/
def openTable (path : List String) (key : String) (entries : Entries) :
    Except KeyClash Entries :=
  update .header (fun _ entries =>
    match entries.lookup key with
    | none => .ok (entries ++ [(key, .table .explicit [])])
    | some (.table .implicit sub) =>
      .ok (entries.filter (·.1 != key) ++ [(key, .table .explicit sub)])
    | some _ => .error (.takenByHeader key path)) .explicit [] path entries

/-- Opens one more table of an array of tables by its header. -/
def openItem (path : List String) (key : String) (entries : Entries) :
    Except KeyClash Entries :=
  update .header (fun _ entries =>
    match entries.lookup key with
    | none => .ok (entries ++ [(key, .tables [[]])])
    | some (.tables items) => .ok (replace key (.tables (items ++ [[]])) entries)
    | some _ => .error (.takenByHeader key path)) .explicit [] path entries

end Toml

end DeliveryDesk
