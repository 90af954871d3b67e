import ResourceManager.Json.Record
import ResourceManager.Proofs.Numerals

/-!
# Every written value has its tree

A value is put into a text and the text is read as a tree.  `Json.toTree` is that tree, for every
value and whatever it nests (`Json.ofBytes?_write`).

Nothing of a record is lost on the way: the tree lays out a record as the value does
(`Json.layout?_toTree`), and it has the texts and the nulls of the value.
-/

set_option autoImplicit false

namespace ResourceManager
namespace Json

/-- The numeral of a text that is one. -/
def Numeral.ofText (s : List Char) : Numeral := (ofChars? s).getD (.ofNat 0)

theorem Numeral.ofChars?_ofText {s : List Char} (h : ∃ n, ofChars? s = some n) :
    ofChars? s = some (ofText s) := by
  obtain ⟨n, hn⟩ := h
  rw [ofText, hn]
  rfl

mutual

/-- The tree that the text of a value spells out. -/
def toTree : Json → Tree
  | .null => .null
  | .bool b => .bool b
  | .integer n => .number (.ofText (writeInteger n))
  | .double x => .number (.ofText x.text)
  | .string s => .string (some s)
  | .array items => .array (itemTrees items)
  | .object members => .object (namedTrees (memberTrees members))

def itemTrees : List Json → List Tree
  | [] => []
  | item :: items => toTree item :: itemTrees items

def memberTrees : List (String × Json) → List (String × Tree)
  | [] => []
  | (name, value) :: members => (name, toTree value) :: memberTrees members

end

/-! ## Reading -/

theorem spells_numeral {v : Json} (hnumeral : ∃ n, Numeral.ofChars? v.write = some n) :
    Spells v (.number (.ofText v.write)) :=
  ⟨_, Numeral.written (Numeral.ofChars?_ofText hnumeral), fun _ ↦ rfl⟩

mutual

/-- The text of every value is read as its tree. -/
theorem spells_toTree : ∀ v : Json, v.Spells v.toTree
  | .null => by rw [toTree]; exact spells_null
  | .bool b => by rw [toTree]; exact spells_bool b
  | .integer n => by
    have hspells := spells_numeral (v := .integer n)
      (by rw [write]; exact Numeral.exists_ofChars?_writeInteger n)
    rwa [write] at hspells
  | .double x => by
    have hspells := spells_numeral (v := .double x)
      (by rw [write]; exact Double.exists_ofChars?_text x)
    rwa [write] at hspells
  | .string s => by rw [toTree]; exact spells_string s
  | .array items => by rw [toTree]; exact spells_array (spells_itemTrees items)
  | .object members => by rw [toTree]; exact spells_object (spells_memberTrees members)

theorem spells_itemTrees : ∀ items : List Json, List.Forall₂ Spells items (itemTrees items)
  | [] => .nil
  | item :: items => by rw [itemTrees]; exact .cons (spells_toTree item) (spells_itemTrees items)

theorem spells_memberTrees : ∀ members : List (String × Json),
    Datum.MembersRelate Spells members (memberTrees members)
  | [] => .nil
  | (name, value) :: members => by
    rw [memberTrees]
    exact .cons ⟨rfl, spells_toTree value⟩ (spells_memberTrees members)

end

theorem ofBytes?_write (v : Json) : Tree.ofBytes? (Utf8.encode v.write) = some v.toTree := by
  rw [Tree.ofBytes?, Utf8.scan_encode, (spells_toTree v).ofSymbols?]

/-! ## Records -/

theorem itemTrees_eq_map (items : List Json) : itemTrees items = items.map toTree := by
  induction items with
  | nil => rfl
  | cons item items ih => rw [itemTrees, ih, List.map_cons]

theorem memberTrees_eq_map (members : List (String × Json)) :
    memberTrees members = members.map fun m ↦ (m.1, m.2.toTree) := by
  induction members with
  | nil => rfl
  | cons m members ih => rw [memberTrees, ih, List.map_cons]

theorem layout?_toTree (v : Json) :
    Datum.layout? v.toTree = (Datum.layout? v).map (Layout.map toTree) := by
  cases v with
  | array items =>
    rw [toTree, itemTrees_eq_map]
    rfl
  | object members =>
    show (Tree.namedMembers? (namedTrees (memberTrees members))).map Layout.named = _
    rw [Tree.namedMembers?_namedTrees, memberTrees_eq_map]
    rfl
  | _ => rfl

theorem isNull_toTree (v : Json) : Datum.isNull v.toTree = Datum.isNull v := by
  cases v <;> rfl

theorem string?_toTree (v : Json) : Datum.string? v.toTree = Datum.string? v := by
  cases v <;> rfl

theorem optional?_toTree {α : Type} {read : Tree → Option α} {read' : Json → Option α}
    (h : ∀ v, read v.toTree = read' v) (slot : Option Json) :
    Datum.optional? read (slot.map toTree) = Datum.optional? read' slot := by
  cases slot with
  | none => rfl
  | some v => rw [Option.map_some, Datum.optional?, Datum.optional?, isNull_toTree, h]

end Json
end ResourceManager
