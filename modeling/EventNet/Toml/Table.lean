import EventNet.Json.Basic

/-!
The tables of a TOML document while it is read.

A document fills a tree of tables entry by entry.  A table remembers how it came about, because that
decides what may still be added: a table named by a header is not named again, and a table that arose
from a dotted key grows by dotted keys only.
-/

namespace EventNet.Toml

/-- How a table came about. -/
inductive Origin where
  /-- As a part of the path of a header. -/
  | implied
  /-- As a part of a dotted key. -/
  | dotted
  /-- By a header of its own. -/
  | header
  deriving DecidableEq, Repr

/-- What stands under a key. -/
inductive Node where
  | value (j : Json)
  | table (origin : Origin) (entries : List (String × Node))
  /-- An array of tables, which headers extend. -/
  | tables (items : List (List (String × Node)))

/-- The entries of a table in the order of their appearance. -/
abbrev Entries := List (String × Node)

mutual

/-- The tree of a node. -/
def Node.toJson : Node → Json
  | .value j => j
  | .table _ entries => .obj (entriesJson entries)
  | .tables items => .arr (tablesJson items)

/-- The trees of entries. -/
def entriesJson : List (String × Node) → List (String × Json)
  | [] => []
  | (k, n) :: rest => (k, n.toJson) :: entriesJson rest

/-- The trees of an array of tables. -/
def tablesJson : List (List (String × Node)) → List Json
  | [] => []
  | entries :: rest => .obj (entriesJson entries) :: tablesJson rest

end

/-- Change or make what stands under a key. -/
def alter (key : String) (f : Option Node → Option Node) : Entries → Option Entries
  | [] => (f none).map fun n => [(key, n)]
  | (k, n) :: rest =>
    if k == key then (f (some n)).map fun n => (k, n) :: rest
    else (alter key f rest).map ((k, n) :: ·)

/-- Change the entries that a header leads to: those of a table, or of the last one of an array. -/
def within (g : Entries → Option Entries) : Option Node → Option Node
  | none => (g []).map (.table .implied)
  | some (.table origin entries) => (g entries).map (.table origin)
  | some (.tables items) => do
    let last ← items.getLast?
    let last ← g last
    some (.tables (items.dropLast ++ [last]))
  | some (.value _) => none

/-- Change the entries at the end of a path of headers. -/
def atPath : List String → (Entries → Option Entries) → Entries → Option Entries
  | [], g, entries => g entries
  | k :: path, g, entries => alter k (within (atPath path g)) entries

/-- Begin the table of a header. -/
def openTable (path : List String) (key : String) (entries : Entries) : Option Entries :=
  atPath path (alter key fun
    | none => some (.table .header [])
    | some (.table .implied entries) => some (.table .header entries)
    | _ => none) entries

/-- Begin one more table of an array. -/
def openItem (path : List String) (key : String) (entries : Entries) : Option Entries :=
  atPath path (alter key fun
    | none => some (.tables [[]])
    | some (.tables items) => some (.tables (items ++ [[]]))
    | _ => none) entries

/-- Give a key its value; the path in front of it are the parts of a dotted key. -/
def assign (path : List String) (key : String) (j : Json) (entries : Entries) : Option Entries :=
  match path with
  | [] => alter key (fun
    | none => some (.value j)
    | some _ => none) entries
  | k :: path => alter k (fun
    | none => (assign path key j []).map (.table .dotted)
    | some (.table .dotted entries) => (assign path key j entries).map (.table .dotted)
    | some (.table .implied entries) =>
      if path.isEmpty then none else (assign path key j entries).map (.table .implied)
    | _ => none) entries

end EventNet.Toml
