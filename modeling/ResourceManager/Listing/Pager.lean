import ResourceManager.Client.Basic
import ResourceManager.Listing.Page

/-!
# Walking listings

A listing is walked page by page: the first page is the reply to a call, every other one is at the
link of the page before.  Whatever goes wrong with a page ends the walk.

Every page has used up an answer of the network, so `Cursor.rounds` steps are as many as there can
be, even where the links lead in a circle.
-/

set_option autoImplicit false

namespace ResourceManager

/-- Where a walk has got to. -/
inductive Cursor where
  | first (spec : OperationSpec)
  | next (url : Url)
  | exhausted
deriving Repr

namespace Cursor

/-- The reply with the next page, if there is one. -/
def reply? (c : Client) : Cursor → Run (Option Reply)
  | first spec => return some (← c.submit spec)
  | next url => return some (← c.getUrl .none url)
  | exhausted => return none

/-- Where the walk goes on behind a page. -/
def behind (page : Page) : Except Error Cursor :=
  match page.nextLink with
  | none => .ok exhausted
  | some link =>
    match Url.parse link with
    | .ok url => .ok (next url)
    | .error cause => .error (.url cause)

/-- The page in a reply and where the walk goes on behind it. -/
def pageOf (reply : Reply) : Except Error (Page × Cursor) :=
  match Page.ofBody reply.body with
  | .ok page => (behind page).map (page, ·)
  | .error defect => .error (.invalidResponse defect)

/-- The next page, if there is one, and where the walk goes on behind it. -/
def fetch (c : Client) (cursor : Cursor) : Run (Option (Page × Cursor)) := do
  match ← cursor.reply? c with
  | none => return none
  | some reply => return some (← Run.ofExcept (pageOf reply))

/-- The next page, if there is one, and where the walk goes on whatever came of it. -/
def nextPage (c : Client) (cursor : Cursor) (s : Session) :
    Except Stop (Option Page) × Cursor × Session :=
  match (cursor.fetch c).outcome s with
  | (.ok (some (page, cursor)), s) => (.ok (some page), cursor, s)
  | (.ok none, s) => (.ok none, exhausted, s)
  | (.error stop, s) => (.error stop, exhausted, s)

/-- How many steps there can be in a session. -/
def rounds (s : Session) : Nat := s.answers.length + 1

/-- The items of the pages that are left, in at most so many steps. -/
def itemsFrom (c : Client) : Nat → Cursor → Run (List Json)
  | 0, _ => throw .stuck
  | rounds + 1, cursor => do
    match ← cursor.fetch c with
    | none => return []
    | some (page, cursor) => return page.items ++ (← itemsFrom c rounds cursor)

/-- The pages that are left, in at most so many steps; an error is the last of them. -/
def pagesFrom (c : Client) : Nat → Cursor → Session → List (Except Stop Page) × Session
  | 0, _, s => ([.error .stuck], s)
  | rounds + 1, cursor, s =>
    match cursor.nextPage c s with
    | (.ok none, _, s) => ([], s)
    | (.error stop, _, s) => ([.error stop], s)
    | (.ok (some page), cursor, s) =>
      let (pages, s) := pagesFrom c rounds cursor s
      (.ok page :: pages, s)

end Cursor

namespace Client

/-- All items of a listing in order. -/
def collect (c : Client) (spec : OperationSpec) : Run (List Json) := do
  let s ← get
  Cursor.itemsFrom c (Cursor.rounds s) (.first spec)

/-- The pages of a listing in order; an error is the last of them. -/
def pages (c : Client) (spec : OperationSpec) (s : Session) : List (Except Stop Page) × Session :=
  Cursor.pagesFrom c (Cursor.rounds s) (.first spec) s

end Client
end ResourceManager
