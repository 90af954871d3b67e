import ResourceManager.Text.Whitespace
import ResourceManager.Url.Host

/-!
# Reading URLs

An absolute URL from text.  Blanks and controls at the ends are dropped, tabs and line breaks
anywhere; then come the scheme, the authority of a scheme that has one, the path, and what follows
a question mark and a number sign.
-/

set_option autoImplicit false

namespace ResourceManager
namespace Url

/-- The text without the characters that do not count. -/
def clean (text : List Char) : List Char :=
  (Text.trimBoth (·.toNat ≤ 0x20) text).filter (!isIgnored ·)

/-! ## The scheme -/

def isSchemeChar (c : Char) : Bool :=
  c.isAlphanum || c == '+' || c == '-' || c == '.'

/-- The scheme in lower case and the text behind its colon. -/
def scheme? (text : List Char) : Option (String × List Char) :=
  let name := text.takeWhile isSchemeChar
  match name.head?, text.dropWhile isSchemeChar with
  | some first, ':' :: rest =>
    if first.isAlpha then some (String.ofList (name.map Char.toLower), rest) else none
  | _, _ => none

/-! ## The authority -/

/-- Whether a character ends the authority. -/
def endsAuthority (kind : SchemeKind) (c : Char) : Bool :=
  c == '/' || c == '?' || c == '#' || (c == '\\' && kind.isSpecial)

/-- The characters that stand for themselves in user information. -/
def isKeptInUserInfo (c : Char) : Bool :=
  isKeptInPath c &&
    !(c == '/' || c == ':' || c == ';' || c == '=' || c == '@' || c == '[' || c == '\\' ||
      c == ']' ||
      c == '^' || c == '|')

/-- The text before the last `@` and the text behind it. -/
def splitUserInfo (authority : List Char) : Option (List Char × List Char) :=
  if authority.contains '@' then
    let host := (authority.reverse.takeWhile (· != '@')).reverse
    some (authority.take (authority.length - host.length - 1), host)
  else none

/-- The name and the password of user information; an empty password is none. -/
def userInfo (text : List Char) : List Char × Option (List Char) :=
  let password := (text.dropWhile (· != ':')).tail
  (Percent.encode isKeptInUserInfo (text.takeWhile (· != ':')),
    if password = [] then none else some (Percent.encode isKeptInUserInfo password))

/-- The host of an authority and the text behind it; a colon between brackets is part of a host. -/
def splitHost (inBrackets : Bool) : List Char → List Char × List Char
  | [] => ([], [])
  | c :: rest =>
    if c = ':' ∧ !inBrackets then ([], c :: rest)
    else
      let inBrackets := if c = '[' then true else if c = ']' then false else inBrackets
      let (host, after) := splitHost inBrackets rest
      (c :: host, after)

/-- The number of a port. -/
def portNumber (digits : List Char) : Except UrlError (Option Nat) :=
  if digits = [] then .ok none
  else
    let n := Nat.ofDigitChars 10 digits 0
    if 65535 < n then .error .invalidPort else .ok (some n)

/-- The port behind a host, and the text behind the port. -/
def readPort (scheme : String) (text : List Char) : Except UrlError (Option Nat × List Char) :=
  match text with
  | ':' :: rest => do
    let number ← portNumber (rest.takeWhile Char.isDigit)
    let after := rest.dropWhile Char.isDigit
    let port := if number = defaultPort? scheme then none else number
    match after with
    | [] => .ok (port, [])
    | c :: _ =>
      if c = '/' ∨ c = '\\' ∨ c = '?' ∨ c = '#' then .ok (port, after) else .error .invalidPort
  | text => .ok (none, text)

/-- What an authority says, and the text behind it. -/
structure Authority where
  username : List Char
  password : Option (List Char)
  host : List Char
  port : Option Nat
  rest : List Char

/-- Reads an authority. -/
def readAuthority (kind : SchemeKind) (scheme : String) (text : List Char) :
    Except UrlError Authority := do
  let whole := text.takeWhile (!endsAuthority kind ·)
  let behind := text.dropWhile (!endsAuthority kind ·)
  let (info, hostAndPort) := (splitUserInfo whole).getD ([], whole)
  if whole.head? = some '@' ∧ info = [] ∧ hostAndPort = [] ∧ behind ≠ [] then throw .emptyHost
  let (username, password) := userInfo info
  let (hostText, afterHost) := splitHost false hostAndPort
  if kind.isSpecial ∧ hostText = [] then throw .emptyHost
  let host ← normalHost kind hostText
  if host = [] ∧ afterHost.head? = some ':' then throw .emptyHost
  let (port, rest) ← readPort scheme (afterHost ++ behind)
  if host = [] ∧ (username ≠ [] ∨ password ≠ none) then throw .emptyHost
  return ⟨username, password, host, port, rest⟩

/-! ## Query and fragment -/

/-- The characters that stand for themselves in a fragment. -/
def isKeptInFragment (c : Char) : Bool :=
  0x20 < c.toNat && c.toNat < 0x7F && !(c == '"' || c == '<' || c == '>' || c == '\x60')

/-- The characters that stand for themselves in a query. -/
def isKeptInQuery (kind : SchemeKind) (c : Char) : Bool :=
  0x20 < c.toNat && c.toNat < 0x7F &&
    !(c == '"' || c == '#' || c == '<' || c == '>' || (c == '\'' && kind.isSpecial))

/-- The text behind the first mark, if it is there. -/
def after? (mark : Char) (text : List Char) : Option (List Char) :=
  match text.dropWhile (· != mark) with
  | [] => none
  | _ :: rest => some rest

/-- The path, the query and the fragment as written. -/
def splitPath (text : List Char) : List Char × Option (List Char) × Option (List Char) :=
  let beforeFragment := text.takeWhile (· != '#')
  (beforeFragment.takeWhile (· != '?'), after? '?' beforeFragment, after? '#' text)

/-- The URL with the given query and fragment as written. -/
def withQueryAndFragment (u : Url) (query fragment : Option (List Char)) : Url :=
  { u with
    query := query.map (Percent.encode (isKeptInQuery u.kind))
    fragment := fragment.map (Percent.encode isKeptInFragment) }

/-! ## The whole -/

/-- A URL that has only a scheme. -/
def ofScheme (scheme : String) : Url :=
  ⟨scheme, [], none, none, none, .segments [], none, none⟩

/-- The text behind the scheme of a URL with an authority. -/
def parseAuthority (scheme : String) (text : List Char) : Except UrlError Url := do
  let kind := SchemeKind.ofScheme scheme
  let a ← readAuthority kind scheme text
  let (path, query, fragment) := splitPath a.rest
  let u : Url :=
    { ofScheme scheme with
      username := a.username
      password := a.password
      host := some a.host
      port := a.port
      path := .segments (segmentsOfPath kind path) }
  return u.withQueryAndFragment query fragment

/-- The host of a file URL and the text behind it.  A drive is no host. -/
def fileHost (text : List Char) : Except UrlError (List Char × List Char) := do
  let ends (c : Char) : Bool := c == '/' || c == '\\' || c == '?' || c == '#'
  let name := text.takeWhile (!ends ·)
  if name = [] ∨ (isDrive name ∧ name.length = 2) then return ([], text)
  let host ← networkHost name
  return (if host = "localhost".toList then [] else host, text.dropWhile (!ends ·))

/-- The text behind the scheme of a file URL.  Next to a drive there is no host. -/
def parseFile (text : List Char) : Except UrlError Url := do
  let isSlash (c : Char) : Bool := c == '/' || c == '\\'
  let (host, rest) ← match text with
    | a :: b :: rest => if isSlash a && isSlash b then fileHost rest else .ok ([], text)
    | _ => .ok ([], text)
  let (path, query, fragment) := splitPath rest
  let segments := segmentsOfPath .file path
  let hasDrive := segments.any fun s ↦ isDrive s && s.length == 2
  let u : Url :=
    { ofScheme "file" with
      host := some (if hasDrive then [] else host)
      path := .segments segments }
  return u.withQueryAndFragment query fragment

/-- The text behind any other scheme. -/
def parseOther (scheme : String) (text : List Char) : Except UrlError Url :=
  match text with
  | '/' :: '/' :: rest => parseAuthority scheme rest
  | _ =>
    let (path, query, fragment) := splitPath text
    let path : Path := match path with
      | '/' :: rest => .segments (segmentsOf .other rest)
      | path => .opaqueText (Percent.encode isNotControl path)
    .ok ({ ofScheme scheme with path := path }.withQueryAndFragment query fragment)

/-- Reads an absolute URL. -/
def parse (text : String) : Except UrlError Url :=
  match scheme? (clean text.toList) with
  | none => .error .relative
  | some (scheme, rest) =>
    match SchemeKind.ofScheme scheme with
    | .network => parseAuthority scheme (rest.dropWhile fun c ↦ c == '/' || c == '\\')
    | .file => parseFile rest
    | .other => parseOther scheme rest

end Url
end ResourceManager
