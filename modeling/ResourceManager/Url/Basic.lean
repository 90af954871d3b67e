import ResourceManager.Text.Form

/-!
# URLs

An absolute URL in its parts, and its text.  The parts are in normal form: percent escapes are in
place, dot segments are resolved and a default port is left out, so two URLs with the same text are
the same.
-/

set_option autoImplicit false

namespace ResourceManager

/-- Why a text is no absolute URL. -/
inductive UrlError where
  | relative
  | emptyHost
  | invalidPort
  | invalidDomain
  | invalidIpv4
  | invalidIpv6
  | invalidHostCharacter
deriving DecidableEq, Repr

namespace UrlError

def message : UrlError → String
  | relative => "relative URL without a base"
  | emptyHost => "empty host"
  | invalidPort => "invalid port number"
  | invalidDomain => "invalid international domain name"
  | invalidIpv4 => "invalid IPv4 address"
  | invalidIpv6 => "invalid IPv6 address"
  | invalidHostCharacter => "invalid domain character"

end UrlError

namespace Url

/-- The three kinds of scheme, which differ in how the rest of a URL is read. -/
inductive SchemeKind where
  /-- A scheme whose URLs name a host: `http`, `https`, `ws`, `wss` and `ftp`. -/
  | network
  | file
  | other
deriving DecidableEq, Repr

/-- The kind of a scheme in lower case. -/
def SchemeKind.ofScheme (scheme : String) : SchemeKind :=
  if scheme = "file" then .file
  else if scheme ∈ ["http", "https", "ws", "wss", "ftp"] then .network
  else .other

/-- Whether a backslash is as good as a slash. -/
def SchemeKind.isSpecial : SchemeKind → Bool
  | .other => false
  | _ => true

/-- The port that need not be written. -/
def defaultPort? (scheme : String) : Option Nat :=
  match scheme with
  | "http" | "ws" => some 80
  | "https" | "wss" => some 443
  | "ftp" => some 21
  | _ => none

/-- The path of a URL. -/
inductive Path where
  /-- Text that is no sequence of segments. -/
  | opaqueText (text : List Char)
  /-- Segments, each written with a slash before it. -/
  | segments (list : List (List Char))
deriving DecidableEq, Repr

namespace Path

def text : Path → List Char
  | .opaqueText text => text
  | .segments list => list.flatMap ('/' :: ·)

end Path
end Url

/-- An absolute URL. -/
structure Url where
  scheme : String
  username : List Char
  password : Option (List Char)
  /-- The host as written; none when the URL has no authority. -/
  host : Option (List Char)
  port : Option Nat
  path : Url.Path
  query : Option (List Char)
  fragment : Option (List Char)
deriving DecidableEq, Repr

namespace Url

def kind (u : Url) : SchemeKind :=
  SchemeKind.ofScheme u.scheme

/-- The user information and the mark behind it. -/
def userInfoText (u : Url) : List Char :=
  match u.username, u.password with
  | [], none => []
  | name, none => name ++ ['@']
  | name, some password => name ++ ':' :: (password ++ ['@'])

/-- The part from the two slashes up to the path.  A path that begins with two slashes but follows
no authority is kept apart by a dot. -/
def authorityText (u : Url) : List Char :=
  match u.host with
  | some host =>
    '/' :: '/' :: (u.userInfoText ++ host ++
      match u.port with
      | some port => ':' :: Nat.toDigits 10 port
      | none => [])
  | none =>
    match u.path with
    | .segments ([] :: _ :: _) => ['/', '.']
    | _ => []

/-- A part with its mark, when it is there. -/
def markedText (mark : Char) : Option (List Char) → List Char
  | some part => mark :: part
  | none => []

def toList (u : Url) : List Char :=
  u.scheme.toList ++ ':' :: (u.authorityText ++ u.path.text ++ markedText '?' u.query ++
    markedText '#' u.fragment)

/-- The text of a URL. -/
def text (u : Url) : String :=
  String.ofList u.toList

/-- The URL as it is sent: without the fragment. -/
def withoutFragment (u : Url) : Url :=
  { u with fragment := none }

/-- The URL with form fields added to its query. -/
def appendQuery (u : Url) (pairs : List (String × String)) : Url :=
  let fields := Form.encode pairs
  match u.query with
  | none | some [] => { u with query := some fields }
  | some query => { u with query := some (query ++ '&' :: fields) }

end Url
end ResourceManager
