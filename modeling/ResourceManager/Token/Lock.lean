import ResourceManager.Token.Source

/-!
# One source of tokens for many callers

The clients of a factory share a source of tokens, and their calls may go on side by side.  A lock
stands before the token at hand: one caller at a time is let in, looks at the token and, when that
is of no use, stays inside until the request for another one has been answered.

`TokenLock.Step` lists all that can happen next.  Those who wait are let in in any order, a caller
may give up at any moment, and time passes between any two steps.  What comes of a request is
settled when it is made and has its place in the log from then on, but it comes in its own time:
others may come, go and be busy elsewhere until then.  `TokenLock.Execution` is any number of such
steps, with what happened in them.
-/

set_option autoImplicit false

namespace ResourceManager

/-- A call for a token; no two calls have the same number. -/
structure TokenCall where
  number : Nat
  scope : String
deriving DecidableEq, Repr

/-- A call that has requested a token, what will come of the request, and when. -/
structure TokenFlight where
  call : TokenCall
  coming : Except Stop Delivery
  time : Timestamp
deriving Repr

inductive TokenEvent where
  | called (call : TokenCall)
  /-- The token at hand was returned. -/
  | handed (call : TokenCall) (token : AccessToken)
  /-- A token was requested. -/
  | asked (call : TokenCall) (coming : Except Stop Delivery)
  /-- The token that was requested has come, and was kept and returned. -/
  | issued (call : TokenCall) (token : AccessToken)
  | failed (call : TokenCall) (cause : CredentialError)
  /-- The caller has given up. -/
  | dropped (call : TokenCall)
  /-- Something else went on. -/
  | elsewhere
deriving Repr

namespace TokenEvent

/-- The call that an event is about. -/
def call? : TokenEvent → Option TokenCall
  | called call | handed call _ | asked call _ | issued call _ | failed call _ | dropped call =>
    some call
  | elsewhere => none

/-- The token that was issued, with its scope. -/
def issued? : TokenEvent → Option ScopedToken
  | issued call token => some ⟨call.scope, token⟩
  | _ => none

/-- The call that requested a token. -/
def asked? : TokenEvent → Option TokenCall
  | asked call _ => some call
  | _ => none

/-- What happened to one call. -/
def about (call : TokenCall) (events : List TokenEvent) : List TokenEvent :=
  events.filter (·.call? = some call)

/-- The token that was issued last, with its scope. -/
def lastIssued (events : List TokenEvent) : Option ScopedToken :=
  (events.filterMap issued?).getLast?

end TokenEvent

/-- What goes on besides the calls for tokens: it takes time, and the log may grow by requests that
carry a token. -/
structure Session.Beside (s t : Session) : Prop where
  token : t.token = s.token
  now : s.now.nanoseconds ≤ t.now.nanoseconds
  exchanges : ∃ more, t.exchanges = s.exchanges ++ more ∧ ∀ x ∈ more, x.request.token.isSome

/-- The token at hand, if it is of use for a scope. -/
def Session.usable? (s : Session) (scope : String) : Option AccessToken :=
  s.token.bind (·.usable? scope s.now)

structure TokenLock where
  session : Session
  waiting : List TokenCall
  /-- The one who is inside. -/
  holder : Option TokenFlight
  /-- How many calls there have been. -/
  calls : Nat
deriving Repr

namespace TokenLock

/-- A lock that nobody has come to yet. -/
def free (s : Session) : TokenLock := ⟨s, [], none, 0⟩

/-- The calls that have not ended. -/
def present (lock : TokenLock) : List TokenCall :=
  lock.holder.toList.map TokenFlight.call ++ lock.waiting

/-- What can happen next. -/
inductive Step (source : TokenSource) (lock : TokenLock) : TokenEvent → TokenLock → Prop
  | called (scope : String) :
      Step source lock (.called ⟨lock.calls, scope⟩)
        { lock with waiting := lock.waiting ++ [⟨lock.calls, scope⟩], calls := lock.calls + 1 }
  /-- A caller is let in and finds a token. -/
  | handed {call : TokenCall} {token : AccessToken} (hfree : lock.holder = none)
      (hcall : call ∈ lock.waiting) (htoken : lock.session.usable? call.scope = some token) :
      Step source lock (.handed call token) { lock with waiting := lock.waiting.erase call }
  /-- A caller is let in and finds none.  Anything may call off its request. -/
  | asked {call : TokenCall} {tenantId clientId secret : String} {w : Watch}
      {coming : Except Stop Delivery} {s : Session} (hfree : lock.holder = none)
      (hcall : call ∈ lock.waiting)
      (htoken : lock.session.usable? call.scope = none)
      (hsource : source.credentials = .clientSecret tenantId clientId secret)
      (hask : (source.ask tenantId clientId secret call.scope w).outcome lock.session =
        (coming, s)) :
      Step source lock (.asked call coming)
        { lock with
          session := { s with now := lock.session.now }
          waiting := lock.waiting.erase call
          holder := some ⟨call, coming, s.now⟩ }
  | issued {call : TokenCall} {d : Delivery} {time : Timestamp} {token : AccessToken} {s : Session}
      (hholder : lock.holder = some ⟨call, .ok d, time⟩)
      (hcome : time.nanoseconds ≤ lock.session.now.nanoseconds)
      (hkeep : (TokenSource.keep call.scope d).outcome lock.session = (.ok token, s)) :
      Step source lock (.issued call token) { lock with session := s, holder := none }
  | failed {call : TokenCall} {d : Delivery} {time : Timestamp} {cause : CredentialError}
      {s : Session} (hholder : lock.holder = some ⟨call, .ok d, time⟩)
      (hcome : time.nanoseconds ≤ lock.session.now.nanoseconds)
      (hkeep : (TokenSource.keep call.scope d).outcome lock.session =
        (.error (.error (.credential cause)), s)) :
      Step source lock (.failed call cause) { lock with session := s, holder := none }
  | droppedWaiting {call : TokenCall} (hcall : call ∈ lock.waiting) :
      Step source lock (.dropped call) { lock with waiting := lock.waiting.erase call }
  | droppedInside {call : TokenCall} {coming : Except Stop Delivery} {time : Timestamp}
      (hholder : lock.holder = some ⟨call, coming, time⟩) :
      Step source lock (.dropped call) { lock with holder := none }
  | elsewhere {s : Session} (h : lock.session.Beside s) :
      Step source lock .elsewhere { lock with session := s }

/-- Any number of steps, with what happened in them, the first event first. -/
inductive Execution (source : TokenSource) (lock : TokenLock) : List TokenEvent → TokenLock → Prop
  | start : Execution source lock [] lock
  | next {events : List TokenEvent} {event : TokenEvent} {lock₁ lock₂ : TokenLock}
      (h : Execution source lock events lock₁) (hstep : Step source lock₁ event lock₂) :
      Execution source lock (events ++ [event]) lock₂

end TokenLock
end ResourceManager
