import ResourceManager.Http.Redirect
import ResourceManager.Operation.Event
import ResourceManager.Token.Basic

/-!
# Sessions

All that a run of calls goes by and leaves behind: the time, the answers that the network still has
in store, the requests that were sent, the progress that was reported and the token at hand.

A session is a value, so a run of calls is a function of it.  The list of answers may be any list;
each request that is sent uses up one answer, whatever it asks, and an answer may take its time.

The log of a session keeps each request together with the moment at which it was made and with what
has become of it: why it could not be sent, the redirects that it was led through, and the answer
with the time at which it came.  What has not arrived is not in the log.
-/

set_option autoImplicit false

namespace ResourceManager

/-! ## Answers -/

/-- What comes back to a request. -/
inductive Answer where
  | response (r : Response)
  /-- A response whose body ends too early. -/
  | truncated (r : Response)
  /-- The connection is closed before a response. -/
  | dropped
deriving DecidableEq, Repr

/-- What the network has in store for a request. -/
inductive Arrival where
  | after (delay : Duration) (answer : Answer)
  /-- No answer, and no end of the connection either. -/
  | never
deriving DecidableEq, Repr

/-! ## The log -/

/-- How far a session has got: the time, and how many requests were sent and reports made. -/
structure Moment where
  time : Timestamp
  requests : Nat
  reports : Nat
deriving DecidableEq, Repr

/-- A response that sent a request on, and the request that was then made. -/
structure Redirect where
  response : Response
  moment : Moment
  request : Request
deriving Repr

/-- What has become of a request. -/
inductive Fate where
  | unsent (cause : TransportError)
  | underway
  | answered (time : Timestamp) (answer : Answer)
deriving DecidableEq, Repr

/-- A request with the moment at which it was made, the redirects that it was led through, the first
one first, and what has become of it. -/
structure Exchange where
  moment : Moment
  request : Request
  redirects : List Redirect
  fate : Fate
deriving Repr

namespace Exchange

/-- The requests that were sent, the first one first. -/
def requests (x : Exchange) : List Request :=
  match x.fate with
  | .unsent _ => []
  | _ => x.request :: x.redirects.map Redirect.request

/-- The request that was made last. -/
def lastRequest (x : Exchange) : Request :=
  (x.redirects.getLast?.map Redirect.request).getD x.request

/-- The moments at which the requests were made. -/
def moments (x : Exchange) : List Moment :=
  x.moment :: x.redirects.map Redirect.moment

/-- The exchange with one more redirect. -/
def redirected (x : Exchange) (redirect : Redirect) : Exchange :=
  { x with redirects := x.redirects ++ [redirect] }

/-- The exchange with an answer. -/
def answered (x : Exchange) (time : Timestamp) (answer : Answer) : Exchange :=
  { x with fate := .answered time answer }

end Exchange

/-! ## Sessions -/

structure Session where
  now : Timestamp
  /-- The last point in time that the clock of deadlines can tell. -/
  horizon : Timestamp
  /-- Whether connections can be made.  No request is sent and no answer used up where not. -/
  reachable : Bool
  answers : List Arrival
  /-- The requests that were made, the first one first. -/
  exchanges : List Exchange
  events : List ProgressEvent
  /-- The token that was issued last. -/
  token : Option ScopedToken
deriving Repr

namespace Session

/-- How far a clock can tell the time whose seconds are a signed word of 64 bits. -/
def clockRange : Duration := ⟨Nat.pow 2 63 * Duration.perSecond - 1⟩

/-- A session in which nothing has happened yet.  The clock of deadlines begins with it. -/
def start (now : Timestamp) (answers : List Arrival) : Session :=
  ⟨now, now.add clockRange, true, answers, [], [], none⟩

/-- A session without a network. -/
def offline (now : Timestamp) : Session :=
  { start now [] with reachable := false }

/-- The requests that were sent, the first one first. -/
def requests (s : Session) : List Request :=
  s.exchanges.flatMap Exchange.requests

/-- The moment that a session has come to. -/
def moment (s : Session) : Moment :=
  ⟨s.now, s.requests.length, s.events.length⟩

/-- What the next request meets with.  Behind the last answer all connections are closed. -/
def nextArrival (s : Session) : Arrival :=
  s.answers.head?.getD (.after ⟨0⟩ .dropped)

/-- The session with a request sent. -/
def sent (s : Session) (r : Request) : Session :=
  { s with
    exchanges := s.exchanges ++ [⟨s.moment, r, [], .underway⟩]
    answers := s.answers.tail }

/-- The session with a request that could not be sent. -/
def refused (s : Session) (r : Request) (cause : TransportError) : Session :=
  { s with exchanges := s.exchanges ++ [⟨s.moment, r, [], .unsent cause⟩] }

/-- The session with its last exchange brought up to date. -/
def updated (s : Session) (f : Exchange → Exchange) : Session :=
  { s with exchanges := s.exchanges.dropLast ++ s.exchanges.getLast?.toList.map f }

/-- The session with the last request sent on by a response. -/
def redirected (s : Session) (response : Response) (r : Request) : Session :=
  { s.updated (·.redirected ⟨response, s.moment, r⟩) with answers := s.answers.tail }

/-- The session with the last request answered. -/
def answered (s : Session) (answer : Answer) : Session :=
  s.updated (·.answered s.now answer)

/-- The session with progress reported. -/
def reported (s : Session) (e : ProgressEvent) : Session :=
  { s with events := s.events ++ [e] }

/-- The session at a later point in time. -/
def advancedTo (s : Session) (t : Timestamp) : Session :=
  { s with now := t }

/-- Whether the clock of deadlines can tell when a limit that counts from now is reached. -/
def canTime (s : Session) (limit : Option Duration) : Bool :=
  limit.all fun d ↦ !s.horizon.isBefore (s.now.add d)

end Session
end ResourceManager
