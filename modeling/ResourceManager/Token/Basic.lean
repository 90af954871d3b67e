import ResourceManager.Timestamp

/-!
# Access tokens

A token with the point in time from which it is no longer valid.  A token is given up some minutes
earlier, so that it does not run out on its way.
-/

set_option autoImplicit false

namespace ResourceManager

structure AccessToken where
  secret : String
  expiresAt : Timestamp
deriving DecidableEq, Repr

namespace AccessToken

/-- How long before its end a token is given up. -/
def margin : Duration := Duration.ofSeconds 300

/-- A token that never ends. -/
def unlimited (secret : String) : AccessToken :=
  ⟨secret, Timestamp.greatest⟩

/-- The end of a lifetime in seconds from now on.  One that is no span of time, or that leads past
the last point in time, ends with that point. -/
def expiry (now : Timestamp) (seconds : Nat) : Timestamp :=
  (((signedWord? seconds).bind Timespan.ofSeconds?).bind now.later?).getD .greatest

/-- A token that is valid for a number of seconds from now on. -/
def issued (secret : String) (now : Timestamp) (seconds : Nat) : AccessToken :=
  ⟨secret, expiry now seconds⟩

/-- Whether a token is still to be used. -/
def isFresh (t : AccessToken) (now : Timestamp) : Bool :=
  (now.add margin).isBefore t.expiresAt

/-- A description that keeps the token to itself. -/
def description (t : AccessToken) : String :=
  "AccessToken " ++ String.ofList ['\x7b'] ++ " token: \"<redacted>\", expires_at: " ++
    t.expiresAt.text ++ " " ++ String.ofList ['\x7d']

end AccessToken

/-- A token and the scope that it was issued for. -/
structure ScopedToken where
  scope : String
  token : AccessToken
deriving DecidableEq, Repr

namespace ScopedToken

/-- The token, when it was issued for a scope and is still to be used. -/
def usable? (t : ScopedToken) (scope : String) (now : Timestamp) : Option AccessToken :=
  if t.scope = scope ∧ t.token.isFresh now then some t.token else none

end ScopedToken
end ResourceManager
