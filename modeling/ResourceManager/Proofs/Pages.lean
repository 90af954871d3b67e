import ResourceManager.Listing.Page

/-!
# What page a body is

`Page.Describes` says what page a body is, and `Page.Malformed` in what way it is none.  The two are
about the members of the body and do not mention how it is read; `Page.ofBody_eq_ok_iff` and
`Page.ofBody_eq_error_iff` say that the program reads bodies by them, each in one way only.

Bodies are taken generously.  An answer without a body is an empty last page, an array is a last
page of its items, and of an object only the two members count: one that is missing or null has no
items, and a link that is missing, empty or no text leads nowhere.  What is not taken is a member
for the items that is there and is something else, and a body that is neither an array nor an
object.  A listing that meets one of these fails with the value that was found, which is why
`Page.Malformed` holds on to it.
-/

set_option autoImplicit false

namespace ResourceManager

namespace Page

/-- What the member for the items, if there is one, says about them.  There is no constructor for a
member of another kind: such an object is no page. -/
inductive ListsItems : Option Json → List Json → Prop
  | absent : ListsItems none []
  | null : ListsItems (some .null) []
  | array (items : List Json) : ListsItems (some (.array items)) items

/-- What the member for the link, if there is one, says about it.  Every member says something
about it, since whatever is not a text with letters in it says that there is no link. -/
inductive LinksTo : Option Json → Option String → Prop
  | link {link : String} (h : link ≠ "") : LinksTo (some (.string link)) (some link)
  | nowhere {member : Option Json} (h : ∀ link, member = some (.string link) → link = "") :
      LinksTo member none

/-- A body is a page.  An array is a last page. -/
inductive Describes : Option Json → Page → Prop
  | blank : Describes none ⟨[], none⟩
  | array (items : List Json) : Describes (some (.array items)) ⟨items, none⟩
  | object {members : List (String × Json)} {items : List Json} {nextLink : Option String}
      (hitems : ListsItems (members.lookup "value") items)
      (hlink : LinksTo (members.lookup "nextLink") nextLink) :
      Describes (some (.object members)) ⟨items, nextLink⟩

/-- A body is no page, for a reason that names the value at fault: the member for the items, or the
whole body. -/
inductive Malformed : Option Json → ResponseDefect → Prop
  | items {members : List (String × Json)} {member : Json}
      (hmember : members.lookup "value" = some member)
      (h : ∀ items, ¬ ListsItems (some member) items) :
      Malformed (some (.object members)) (.itemsNotArray member)
  | body {body : Json} (harray : ∀ items, body ≠ .array items)
      (hobject : ∀ members, body ≠ .object members) : Malformed (some body) (.notListing body)

/-- The program's reading of the link. -/
theorem nextLinkOf?_eq_iff {members : List (String × Json)} {nextLink : Option String} :
    nextLinkOf? (.object members) = nextLink ↔ LinksTo (members.lookup "nextLink") nextLink := by
  have hget : Json.get? "nextLink" (.object members) = members.lookup "nextLink" := rfl
  rw [nextLinkOf?, hget]
  constructor
  · rintro rfl
    cases members.lookup "nextLink" with
    | none => exact .nowhere nofun
    | some member =>
      cases member with
      | string link =>
        by_cases h : link = ""
        · simpa [Json.string?, h] using LinksTo.nowhere (by simp)
        · simpa [Json.string?, h] using LinksTo.link h
      | _ => exact .nowhere nofun
  · intro h
    generalize members.lookup "nextLink" = member at h ⊢
    cases h with
    | link h => simp [Json.string?, h]
    | nowhere h =>
      cases member with
      | none => rfl
      | some member =>
        cases member with
        | string link => simp [Json.string?, h link rfl]
        | _ => rfl

/-- The program's reading of the items, where they can be read. -/
theorem itemsOf_eq_ok_iff {members : List (String × Json)} {items : List Json} :
    itemsOf (.object members) = .ok items ↔ ListsItems (members.lookup "value") items := by
  have hget : Json.get? "value" (.object members) = members.lookup "value" := rfl
  rw [itemsOf, hget]
  constructor
  · intro h
    split at h
    · rename_i hvalue
      cases h
      exact hvalue ▸ .array items
    · rename_i hvalue
      cases h
      exact hvalue ▸ .absent
    · rename_i hvalue
      cases h
      exact hvalue ▸ .null
    · cases h
  · intro h
    generalize members.lookup "value" = member at h ⊢
    cases h with
    | absent => rfl
    | null => rfl
    | array => rfl

/-- Where they cannot, there is a member for them, and it is the one that is reported. -/
theorem itemsOf_eq_error_iff {members : List (String × Json)} {defect : ResponseDefect} :
    itemsOf (.object members) = .error defect ↔
      ∃ member, members.lookup "value" = some member ∧
        (∀ items, ¬ ListsItems (some member) items) ∧ defect = .itemsNotArray member := by
  have hget : Json.get? "value" (.object members) = members.lookup "value" := rfl
  rw [itemsOf, hget]
  constructor
  · intro h
    split at h
    · cases h
    · cases h
    · cases h
    · rename_i member harray hnull hvalue
      cases h
      refine ⟨member, hvalue, fun items hitems ↦ ?_, rfl⟩
      cases hitems with
      | null => exact hnull rfl
      | array items => exact harray items rfl
  · rintro ⟨member, hvalue, hnone, rfl⟩
    rw [hvalue]
    cases member with
    | null => exact absurd .null (hnone [])
    | array items => exact absurd (.array items) (hnone items)
    | _ => rfl

/-- The pages that are read are those that bodies are.  Since the left side is a function of the
body, a body is at most one page. -/
theorem ofBody_eq_ok_iff {body : Option Json} {page : Page} :
    ofBody body = .ok page ↔ Describes body page := by
  constructor
  · intro h
    rw [ofBody.eq_def] at h
    split at h
    · cases h
      exact .blank
    · cases h
      exact .array _
    · rename_i members
      cases hitems : itemsOf (.object members) with
      | error defect =>
        rw [hitems] at h
        cases h
      | ok items =>
        rw [hitems] at h
        cases h
        exact .object (itemsOf_eq_ok_iff.mp hitems) (nextLinkOf?_eq_iff.mp rfl)
    · cases h
  · intro h
    cases h with
    | blank => rfl
    | array => rfl
    | object hitems hlink =>
      rw [ofBody, itemsOf_eq_ok_iff.mpr hitems, nextLinkOf?_eq_iff.mpr hlink]
      rfl

/-- The bodies that are refused are those that are no page, each for the reason it is none. -/
theorem ofBody_eq_error_iff {body : Option Json} {defect : ResponseDefect} :
    ofBody body = .error defect ↔ Malformed body defect := by
  constructor
  · intro h
    rw [ofBody.eq_def] at h
    split at h
    · cases h
    · cases h
    · rename_i members
      cases hitems : itemsOf (.object members) with
      | error defect' =>
        rw [hitems] at h
        cases h
        obtain ⟨member, hmember, hnone, rfl⟩ := itemsOf_eq_error_iff.mp hitems
        exact .items hmember hnone
      | ok items =>
        rw [hitems] at h
        cases h
    · rename_i body harray hobject
      cases h
      exact .body harray hobject
  · intro h
    cases h with
    | items hmember hnone =>
      rw [ofBody, itemsOf_eq_error_iff.mpr ⟨_, hmember, hnone, rfl⟩]
      rfl
    | @body body harray hobject =>
      cases body with
      | array items => exact absurd rfl (harray items)
      | object members => exact absurd rfl (hobject members)
      | _ => rfl

end Page
end ResourceManager
