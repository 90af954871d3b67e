import ResourceManager.Toml.Value

/-!
# Tables under construction

A table of a configuration file may come from a header of its own, from the header of a table below
it, or from a dotted key, and what may be added to it depends on that:

* a header may complete only a table that the headers of its parts have implied;
* a dotted key may extend only tables that dotted keys have made, and a key without dots none of
  those;
* a value, which includes every array and table in brackets, is complete.

`Node.insert?` adds an entry and `Node.modify?` goes down a path; both fail where a key would be
defined twice.
-/

set_option autoImplicit false

namespace ResourceManager
namespace Toml

/-- Where a table comes from. -/
inductive Origin where
  | header
  | implied
  | dotted
deriving DecidableEq, Repr

/-- A part of a table under construction. -/
inductive Node where
  | value (v : Toml)
  | table (origin : Origin) (entries : List (String × Node))
  /-- The tables of headers in double brackets, in order; the last one is still open. -/
  | tables (complete : List (List (String × Node))) (last : List (String × Node))

namespace Node

abbrev Entries := List (String × Node)

/-- Puts an entry in the place of the entry of the same name, or behind all others. -/
def set (key : String) (n : Node) : Entries → Entries
  | [] => [(key, n)]
  | (k, m) :: rest => if k = key then (key, n) :: rest else (k, m) :: set key n rest

/-- A table that can be gone into: where it comes from, its entries, and how it is put together
again. -/
structure Opened where
  origin : Origin
  entries : Entries
  close : Entries → Node

/-- Goes into the entry of a key; one that is missing becomes a table. -/
def open? (dotted : Bool) : Option Node → Option Opened
  | none =>
    let origin := if dotted then .dotted else .implied
    some ⟨origin, [], .table origin⟩
  | some (.value _) => none
  | some (.table origin entries) =>
    if dotted ∧ origin = .header then none else some ⟨origin, entries, .table origin⟩
  | some (.tables complete last) => some ⟨.header, last, .tables complete⟩

/-- Changes the table at the end of a path. -/
def modify? (dotted : Bool) (change : Origin → Entries → Option Entries) :
    List String → Origin → Entries → Option Entries
  | [], origin, entries => change origin entries
  | key :: path, _, entries => do
    let child ← open? dotted (entries.lookup key)
    let changed ← modify? dotted change path child.origin child.entries
    return set key (child.close changed) entries

/-- A new entry. -/
def add? (key : String) (n : Node) (entries : Entries) : Option Entries :=
  if (entries.lookup key).isSome then none else some (entries ++ [(key, n)])

/-- Adds a value under a key, which may have dots. -/
def insert? (path : List String) (v : Toml) (entries : Entries) : Option Entries :=
  match path.getLast? with
  | none => none
  | some key =>
    let parents := path.dropLast
    modify? true (fun origin entries ↦
      if (origin = .dotted) ↔ (parents ≠ []) then add? key (.value v) entries else none)
      parents .header entries

mutual

/-- The value of a node. -/
def toValue : Node → Toml
  | .value v => v
  | .table _ entries => .table (toEntries entries)
  | .tables complete last => .array (toTables complete ++ [.table (toEntries last)])

def toEntries : List (String × Node) → List (String × Toml)
  | [] => []
  | (key, n) :: rest => (key, toValue n) :: toEntries rest

def toTables : List (List (String × Node)) → List Toml
  | [] => []
  | entries :: rest => .table (toEntries entries) :: toTables rest

end

end Node
end Toml
end ResourceManager
