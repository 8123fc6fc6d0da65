import Boundary.Toml.Value
/-!
How the statements of a document make up its tables.

A table is made by its header, or on the way to another one. Of the latter kind some are made by
dotted keys, and these are only added to by dotted keys next to them. A header may complete a
table that headers alone have made on their way; no table is completed twice, and a value is never
added to.
-/
namespace Boundary
namespace Toml

/-- What a key stands for while the document is read. -/
inductive Node where
  | value (v : Toml)
  /-- The tables that headers in double brackets have made, the last one first. -/
  | elements (tables : List (List (String × Node)))
  | table (implicit dotted : Bool) (entries : List (String × Node))
  deriving Inhabited

abbrev Entries := List (String × Node)

inductive Statement where
  | header (path : List String) (name : String)
  | element (path : List String) (name : String)
  | assign (path : List String) (name : String) (v : Toml)
  deriving Inhabited

/-- Where the table that is being read belongs. -/
inductive Target where
  | root
  | header (path : List String) (name : String)
  | element (path : List String) (name : String)
  deriving Inhabited

namespace Entries

/-- The entries with `node` for `name`, in its place if it is there. -/
def put (name : String) (node : Node) : Entries → Entries
  | [] => [(name, node)]
  | (n, old) :: rest => if n = name then (n, node) :: rest else (n, old) :: put name node rest

def remove (name : String) (entries : Entries) : Entries := entries.filter (·.1 ≠ name)

/-- Changes the table that `path` leads to. `change` is also told whether dotted keys have made
it. Tables that are missing on the way are made. -/
def at? (dotted : Bool) (change : Bool → Entries → Option Entries) :
    (path : List String) → (reached : Bool) → Entries → Option Entries
  | [], reached, entries => change reached entries
  | key :: path, _, entries =>
    match entries.lookup key with
    | none => do
      return put key (.table true dotted (← at? dotted change path dotted [])) entries
    | some (.table implicit byDots inner) =>
      if dotted && !implicit then none
      else do
        return put key (.table implicit byDots (← at? dotted change path byDots inner)) entries
    | some (.elements (last :: before)) => do
      return put key (.elements ((← at? dotted change path false last) :: before)) entries
    | some _ => none

/-- Adds `name = v` to the table that the dotted keys of `path` lead to. -/
def assign? (path : List String) (name : String) (v : Toml) (entries : Entries) :
    Option Entries :=
  at? (!path.isEmpty) (fun byDots inner =>
    if byDots = path.isEmpty || (inner.lookup name).isSome then none
    else some (inner ++ [(name, .value v)])) path false entries

/-- The entries of the table for a header, as far as headers below it have made it already, and
the document without it. -/
def open? (path : List String) (name : String) (entries : Entries) :
    Option (Entries × Entries) := do
  let found ← find? path entries
  let rest ← at? false (fun _ inner => some (remove name inner)) path false entries
  match found with
  | none => some ([], rest)
  | some (.table true false inner) => some (inner, rest)
  | some _ => none
where
  /-- What `name` stands for in the table that `path` leads to. -/
  find? : List String → Entries → Option (Option Node)
    | [], entries => some (entries.lookup name)
    | key :: path, entries =>
      match entries.lookup key with
      | none => some none
      | some (.table _ _ inner) => find? path inner
      | some (.elements (last :: _)) => find? path last
      | some _ => none

end Entries

/-- A document while it is read: the table of the last header, so far, and all the rest. -/
structure Draft where
  rest : Entries
  target : Target
  current : Entries

namespace Draft

def start : Draft := ⟨[], .root, []⟩

/-- The whole document, with the current table in its place. -/
def close? (d : Draft) : Option Entries :=
  match d.target with
  | .root => some d.current
  | .header path name =>
    Entries.at? false (fun _ inner => some (Entries.put name (.table false false d.current) inner))
      path false d.rest
  | .element path name =>
    Entries.at? false (fun _ inner =>
      match inner.lookup name with
      | none => some (inner ++ [(name, .elements [d.current])])
      | some (.elements before) => some (Entries.put name (.elements (d.current :: before)) inner)
      | some _ => none) path false d.rest

def add? (d : Draft) : Statement → Option Draft
  | .assign path name v => do
    return { d with current := ← Entries.assign? path name v d.current }
  | .header path name => do
    let (current, rest) ← Entries.open? path name (← d.close?)
    return ⟨rest, .header path name, current⟩
  | .element path name => do
    return ⟨← d.close?, .element path name, []⟩

end Draft

mutual
def Node.toToml : Node → Toml
  | .value v => v
  | .elements tables => .array (tablesToToml tables).reverse
  | .table _ _ entries => .table (entriesToToml entries)
def tablesToToml : List (List (String × Node)) → List Toml
  | [] => []
  | t :: ts => .table (entriesToToml t) :: tablesToToml ts
def entriesToToml : List (String × Node) → List (String × Toml)
  | [] => []
  | (name, node) :: rest => (name, node.toToml) :: entriesToToml rest
end

/-- The entries of the root table. -/
def ofStatements? (statements : List Statement) : Option (List (String × Toml)) := do
  return entriesToToml (← (← statements.foldlM Draft.add? Draft.start).close?)

/-- An inline table. -/
def ofAssignments? (assignments : List (List String × String × Toml)) : Option Toml := do
  let entries ← assignments.foldlM
    (fun entries (path, name, v) => Entries.assign? path name v entries) []
  return .table (entriesToToml entries)

end Toml
end Boundary
