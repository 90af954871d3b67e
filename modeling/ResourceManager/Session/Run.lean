import ResourceManager.Session.Watch

/-!
# Runs

A run takes a session to its result and to the session that it leaves behind, whether it succeeds or
not.  A run that waits for what never comes is stuck; nothing but such a wait is.  A run crashes
when it is to wait until a point in time that no clock can tell.

`Request.send` is how requests are made: it sends one, waits for the answer and follows redirects.
-/

set_option autoImplicit false

namespace ResourceManager

/-- Why a run has no result. -/
inductive Stop where
  | error (e : Error)
  /-- The run waits for ever. -/
  | stuck
  /-- There is no telling when a limit is reached. -/
  | crashed
deriving BEq, Repr

abbrev Run := ExceptT Stop (StateM Session)

namespace Run

variable {α : Type}

/-- A run in which an error ends the run. -/
def ofExcept : Except Error α → Run α
  | .ok a => pure a
  | .error e => throw (.error e)

/-- The result of a run and the session behind it. -/
def outcome (r : Run α) (s : Session) : Except Stop α × Session :=
  (ExceptT.run r).run s

end Run

namespace Watch

/-- Ends the run when the wait is called off. -/
def check (w : Watch) : Run Unit := do
  match w.interruption? (← get).moment with
  | some e => throw (.error e)
  | .none => return

/-- Lets time pass until the given point, or for ever.  What calls the wait off comes first, also
when it is due at the same time. -/
def sleep (w : Watch) (wakeUp : Option Timestamp) : Run Unit := do
  w.check
  match earliest? (wakeUp.toList ++ w.times) with
  | some t =>
    modify fun s ↦ if s.now.isBefore t then s.advancedTo t else s
    w.check
  | .none => throw .stuck

end Watch

/-! ## Exchanges -/

/-- What an exchange brings. -/
inductive Delivery where
  | response (r : Response)
  /-- The body of the response is not complete. -/
  | incomplete
  | failed (cause : TransportError)
deriving DecidableEq, Repr

/-- What the answer to a request brings. -/
def Delivery.ofAnswer (r : Request) : Answer → Delivery
  | .response a => .response (a.received r.method)
  | .truncated a => if a.hasBody r.method then .incomplete else .response (a.received r.method)
  | .dropped => .failed .noResponse

/-- Waits for an answer.  What calls the wait off comes first, also when the answer comes at the
same time. -/
def Arrival.receive (w : Watch) : Arrival → Run Answer
  | .after delay answer => do
    w.sleep (some ((← get).now.add delay))
    return answer
  | .never => do
    w.sleep none
    throw .stuck

namespace Request

/-- The response in an answer that sends the request on, and the request that is to be made. -/
def redirect? (r : Request) : Answer → Option (Response × Request)
  | .response a | .truncated a => (r.redirected? a).map (a, ·)
  | .dropped => none

/-- What there is to be done about an answer. -/
inductive Reaction where
  | ends (d : Delivery)
  | goesOn (response : Response) (next : Request)

/-- What there is to be done about the answer to a request when so many redirects may be followed.
One that may not be is an error. -/
def reaction (r : Request) (left : Nat) (answer : Answer) : Reaction :=
  match r.redirect? answer with
  | none => .ends (.ofAnswer r answer)
  | some (response, next) =>
    match next.barrier? left with
    | some cause => .ends (.failed cause)
    | none => .goesOn response next

/-- Does what there is to be done about an answer; the request that is to be made next is handed
on. -/
def react (goOn : Request → Arrival → Run Delivery) (answer : Answer) : Reaction → Run Delivery
  | .ends d => do
    modify (·.answered answer)
    return d
  | .goesOn response next => do
    let s ← get
    set (s.redirected response next)
    goOn next s.nextArrival

/-- Waits for what comes of a request that was sent, and follows at most so many redirects. -/
def await (w : Watch) : Nat → Request → Arrival → Run Delivery
  | 0, r, arrival => do
    let answer ← arrival.receive w
    react (fun _ _ ↦ throw .stuck) answer (r.reaction 0 answer)
  | left + 1, r, arrival => do
    let answer ← arrival.receive w
    react (await w left) answer (r.reaction (left + 1) answer)

/-- Sends a request that has no defect.  It counts as sent before it is answered, and a signal that
fires then is heeded. -/
def exchange (r : Request) (w : Watch) : Run Delivery := do
  let s ← get
  set (s.sent r)
  await w redirectLimit r s.nextArrival

/-- A request that is not sent. -/
def refuse (r : Request) (cause : TransportError) : Run Delivery := do
  modify (·.refused r cause)
  return .failed cause

/-- Sends a request. -/
def send (r : Request) (w : Watch) : Run Delivery := do
  match r.defect? with
  | some cause => r.refuse cause
  | none =>
    if (← get).reachable then r.exchange w
    else r.refuse .noResponse

end Request
end ResourceManager
