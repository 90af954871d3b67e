import ResourceManager.Session.Basic

/-!
# Calling off

A wait can be called off by a signal and by a deadline.  A signal fires at a point in time, or when
something has happened: a number of reports or a number of requests.

`Watch.interruption?` says whether a wait is called off by a moment; the signal comes before the
deadline.
-/

set_option autoImplicit false

namespace ResourceManager

/-- What makes a signal fire. -/
inductive Trigger where
  | time (t : Timestamp)
  | events (count : Nat)
  | requests (count : Nat)
deriving DecidableEq, Repr

namespace Trigger

/-- Whether a trigger has been reached. -/
def isReached (m : Moment) : Trigger → Bool
  | time t => t.nanoseconds ≤ m.time.nanoseconds
  | events count => count ≤ m.reports
  | requests count => count ≤ m.requests

/-- The point in time at which a trigger is reached by itself. -/
def time? : Trigger → Option Timestamp
  | time t => some t
  | _ => none

end Trigger

/-- A signal fires as soon as one of its triggers is reached, and does not go back. -/
abbrev Signal := List Trigger

namespace Signal

def never : Signal := []

def isFired (signal : Signal) (m : Moment) : Bool :=
  signal.any (Trigger.isReached m)

end Signal

/-- When to give up, and after how long that is. -/
structure Deadline where
  time : Timestamp
  limit : Duration
deriving DecidableEq, Repr

/-- What a wait can be called off by. -/
structure Watch where
  signal : Signal
  deadline : Option Deadline
deriving DecidableEq, Repr

namespace Watch

/-- Nothing calls the wait off. -/
def none : Watch := ⟨.never, .none⟩

/-- The watch over a wait that begins now. -/
def start (signal : Signal) (limit : Option Duration) (now : Timestamp) : Watch :=
  ⟨signal, limit.map fun limit ↦ ⟨now.add limit, limit⟩⟩

/-- Whether the wait is called off by a moment, and by what. -/
def interruption? (w : Watch) (m : Moment) : Option Error :=
  if w.signal.isFired m then some .canceled
  else
    match w.deadline with
    | some d =>
      if d.time.nanoseconds ≤ m.time.nanoseconds then some (.pollTimeout d.limit) else .none
    | .none => .none

/-- The points in time at which the wait may be called off while nothing happens. -/
def times (w : Watch) : List Timestamp :=
  (w.deadline.map Deadline.time).toList ++ w.signal.filterMap Trigger.time?

/-- The first of some points in time. -/
def earliest? : List Timestamp → Option Timestamp
  | [] => .none
  | t :: rest =>
    match earliest? rest with
    | some u => some (if u.isBefore t then u else t)
    | .none => some t

end Watch
end ResourceManager
