import ResourceManager.Toml.Statement

/-!
# Reading TOML

The table that a text stands for.  The entries behind a header belong to the table of the header;
those before the first one belong to the table of the whole text.
-/

set_option autoImplicit false

namespace ResourceManager
namespace Toml

/-- The entries behind a header, and whether the header is in double brackets. -/
structure Section where
  path : List String
  double : Bool
  entries : List (List String × Toml)

/-- The statements before the first header and the sections behind it, both newest first. -/
structure Outline where
  sections : List Section
  top : List (List String × Toml)

def Outline.step (o : Outline) (s : Statement) : Outline :=
  match s, o.sections with
  | .table path, sections => { o with sections := ⟨path, false, []⟩ :: sections }
  | .tables path, sections => { o with sections := ⟨path, true, []⟩ :: sections }
  | .entry path v, [] => { o with top := (path, v) :: o.top }
  | .entry path v, s :: sections =>
    { o with sections := { s with entries := (path, v) :: s.entries } :: sections }

/-- A text in its sections, each with its entries in order. -/
def Outline.ofStatements (statements : List Statement) : Outline :=
  let o := statements.foldl Outline.step ⟨[], []⟩
  { sections := (o.sections.map fun s ↦ { s with entries := s.entries.reverse }).reverse
    top := o.top.reverse }

/-- Adds entries to a table. -/
def fill? (entries : List (List String × Toml)) (table : Node.Entries) : Option Node.Entries :=
  entries.foldlM (fun table e ↦ Node.insert? e.1 e.2 table) table

/-- Adds the table of a section to the table that holds it. -/
def addSection? (s : Section) (key : String) (parent : Node.Entries) : Option Node.Entries :=
  match s.double, parent.lookup key with
  | true, none => do
    return Node.set key (.tables [] (← fill? s.entries [])) parent
  | true, some (.tables complete last) => do
    return Node.set key (.tables (complete ++ [last]) (← fill? s.entries [])) parent
  | false, none => do
    return Node.set key (.table .header (← fill? s.entries [])) parent
  | false, some (.table .implied entries) => do
    return Node.set key (.table .header (← fill? s.entries entries)) parent
  | _, _ => none

/-- Adds a section to the table of the text. -/
def section? (root : Node.Entries) (s : Section) : Option Node.Entries := do
  let key ← s.path.getLast?
  Node.modify? false (fun _ parent ↦ addSection? s key parent) s.path.dropLast .header root

/-- The table of a text in its sections. -/
def Outline.table? (o : Outline) : Option Node.Entries := do
  o.sections.foldlM section? (← fill? o.top [])

/-- The mark that may stand at the start of a text. -/
def byteOrderMark : Char := '\uFEFF'

/-- The text without the mark at its start. -/
def withoutMark (text : List Char) : List Char :=
  match text with
  | c :: rest => if c = byteOrderMark then rest else text
  | [] => []

/-- The table that a text stands for. -/
def parse? (text : List Char) : Option Toml := do
  let statements ← Statement.scan? (withoutMark text)
  let entries ← (Outline.ofStatements statements).table?
  return .table (Node.toEntries entries)

end Toml
end ResourceManager
