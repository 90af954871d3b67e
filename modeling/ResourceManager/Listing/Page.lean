import ResourceManager.Error

/-!
# Pages of listings

A page is an object with the items and perhaps a link to the next page, or just an array of items.
-/

set_option autoImplicit false

namespace ResourceManager

structure Page where
  items : List Json
  nextLink : Option String
deriving BEq, Repr

namespace Page

def empty : Page := ⟨[], none⟩

/-- The items of an object; without any the page is empty but need not be the last. -/
def itemsOf (members : Json) : Except ResponseDefect (List Json) :=
  match members.get? "value" with
  | some (.array items) => .ok items
  | none | some .null => .ok []
  | some other => .error (.itemsNotArray other)

/-- The link of an object, when it is a string that is not empty. -/
def nextLinkOf? (members : Json) : Option String := do
  let link ← (← members.get? "nextLink").string?
  if link = "" then none else some link

/-- The page that a body holds. -/
def ofBody : Option Json → Except ResponseDefect Page
  | none => .ok empty
  | some (.array items) => .ok ⟨items, none⟩
  | some (.object members) => do
    return ⟨← itemsOf (.object members), nextLinkOf? (.object members)⟩
  | some other => .error (.notListing other)

end Page
end ResourceManager
