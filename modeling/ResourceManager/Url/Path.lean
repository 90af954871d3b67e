import ResourceManager.Url.Basic

/-!
# Paths of URLs

A path is cut at its slashes, each segment gets its percent escapes, and dot segments are resolved:
`.` stands for nothing and `..` takes back the segment before it.  The dots may be written as
escapes.  A segment that names a drive, such as `C:`, is not taken back.

`resolve_of_plain` says that a path without dot segments stays as it is.
-/

set_option autoImplicit false

namespace ResourceManager
namespace Url

/-- The characters that stand for themselves in a segment. -/
def isKeptInPath (c : Char) : Bool :=
  0x20 < c.toNat && c.toNat < 0x7F &&
    !(c == '"' || c == '#' || c == '<' || c == '>' || c == '?' || c == '\x60' || c == '\x7b' ||
      c == '\x7d')

/-- The characters that stand for themselves where only controls and characters past ASCII do not.
-/
def isNotControl (c : Char) : Bool :=
  0x20 ≤ c.toNat && c.toNat < 0x7F

/-- Blanks that are left out wherever they stand. -/
def isIgnored (c : Char) : Bool :=
  c == '\t' || c == '\n' || c == '\r'

/-- Whether a character ends a segment. -/
def isSeparator (kind : SchemeKind) (c : Char) : Bool :=
  c == '/' || (c == '\\' && kind.isSpecial)

/-! ## Dot segments -/

/-- A segment with the escapes of dots undone, to be compared with dots only. -/
def plainDots : List Char → List Char
  | c :: a :: b :: rest =>
    if c = '%' ∧ a = '2' ∧ (b = 'e' ∨ b = 'E') then '.' :: plainDots rest
    else c :: plainDots (a :: b :: rest)
  | s => s

/-- The segment that stands for nothing. -/
def isDot (segment : List Char) : Bool :=
  plainDots segment == ['.']

/-- The segment that takes back the one before it. -/
def isDoubleDot (segment : List Char) : Bool :=
  plainDots segment == ['.', '.']

/-- Whether a segment names a drive. -/
def isDrive : List Char → Bool
  | [letter, mark] => letter.isAlpha && (mark == ':' || mark == '|')
  | letter :: mark :: '\\' :: _ => letter.isAlpha && (mark == ':' || mark == '|')
  | _ => false

/-- The segments, newest first, without the newest one. -/
def takeBack : List (List Char) → List (List Char)
  | [] => []
  | segment :: others => if isDrive segment then segment :: others else others

/-- Resolves dot segments; the segments that are done are newest first.  A dot segment at the end
leaves the path of a directory. -/
def resolveFrom (done : List (List Char)) : List (List Char) → List (List Char)
  | [] => done.reverse
  | [last] =>
    if isDoubleDot last then ([] :: takeBack done).reverse
    else if isDot last then ([] :: done).reverse
    else (last :: done).reverse
  | segment :: next :: rest =>
    if isDoubleDot segment then resolveFrom (takeBack done) (next :: rest)
    else if isDot segment then resolveFrom done (next :: rest)
    else resolveFrom (segment :: done) (next :: rest)

/-- The segments of a path with its dot segments resolved. -/
def resolve (segments : List (List Char)) : List (List Char) :=
  resolveFrom [] segments

theorem resolveFrom_of_plain {segments : List (List Char)}
    (h : ∀ s ∈ segments, isDot s = false ∧ isDoubleDot s = false) (done : List (List Char)) :
    resolveFrom done segments = done.reverse ++ segments := by
  induction segments generalizing done with
  | nil => simp [resolveFrom]
  | cons s rest ih =>
    obtain ⟨h1, h2⟩ := h s List.mem_cons_self
    cases rest with
    | nil => simp [resolveFrom, h1, h2]
    | cons t rest =>
      simp [resolveFrom, h1, h2, ih fun x hx ↦ h x (List.mem_cons_of_mem _ hx)]

/-- A path without dot segments stays as it is. -/
theorem resolve_of_plain {segments : List (List Char)}
    (h : ∀ s ∈ segments, isDot s = false ∧ isDoubleDot s = false) :
    resolve segments = segments := by
  simpa [resolve] using resolveFrom_of_plain h []

/-! ## From text to segments -/

/-- A drive segment of a file path has a colon. -/
def normalizeDrive : List Char → List Char
  | [letter, mark] => if isDrive [letter, mark] then [letter, ':'] else [letter, mark]
  | segment => segment

/-- A file path has no empty segments at its start. -/
def dropEmpty : List (List Char) → List (List Char)
  | [] => [[]]
  | [] :: rest => dropEmpty rest
  | segments => segments

/-- The segments of the text behind the first slash of a path. -/
def segmentsOf (kind : SchemeKind) (text : List Char) : List (List Char) :=
  let segments := resolve ((Text.pieces (isSeparator kind) text).map (Percent.encode isKeptInPath))
  if kind = .file then dropEmpty (segments.map normalizeDrive) else segments

/-- The segments of a path; the slash at its start may be missing.  Only a scheme that names no host
leaves an empty path empty. -/
def segmentsOfPath (kind : SchemeKind) (text : List Char) : List (List Char) :=
  match text with
  | [] => if kind = .other then [] else segmentsOf kind []
  | c :: rest =>
    if isSeparator kind c then segmentsOf kind rest
    else if kind = .other ∧ (c = '?' ∨ c = '#') then []
    else segmentsOf kind text

/-- Puts a path in the place of the path of a URL.  An opaque path stays opaque: a slash at its
start is escaped. -/
def setPath (u : Url) (path : String) : Url :=
  match u.path with
  | .opaqueText _ =>
    let text := match path.toList with
      | '/' :: rest => "%2F".toList ++ Percent.encode isNotControl (rest.filter (!isIgnored ·))
      | text => Percent.encode isNotControl (text.filter (!isIgnored ·))
    { u with path := .opaqueText text }
  | .segments _ =>
    { u with path := .segments (segmentsOfPath u.kind (path.toList.filter (!isIgnored ·))) }

end Url
end ResourceManager
