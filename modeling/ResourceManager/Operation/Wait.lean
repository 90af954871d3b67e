import ResourceManager.Operation.Completion
import ResourceManager.Operation.Poller

/-!
# Waiting for operations

A wait looks after an operation at a fixed interval until it ends, a limit of time has passed or a
signal calls the wait off.  An operation that has ended already is not looked after again, so
neither the limit nor the signal has a part in it then.

Every look that leaves an operation running has used up an answer of the network, which is why
`Poller.rounds` looks are as many as there can be.
-/

set_option autoImplicit false

namespace ResourceManager

/-- How a caller waits. -/
structure PollOptions where
  policy : PollPolicy
  signal : Signal
  /-- Whether progress is reported. -/
  reports : Bool
deriving DecidableEq, Repr

namespace PollOptions

/-- Wait by a policy, without a signal and without reports. -/
def ofPolicy (policy : PollPolicy) : PollOptions :=
  ⟨policy, .never, false⟩

/-- The description of a span of time that may be missing. -/
def limitText : Option Duration → String
  | some d => "Some(" ++ d.text ++ ")"
  | none => "None"

def flagText (b : Bool) : String :=
  if b then "true" else "false"

/-- A description, in which a signal is told by whether it has fired. -/
def description (o : PollOptions) (s : Session) : String :=
  let left := String.ofList ['\x7b']
  let right := String.ofList ['\x7d']
  "PollOptions " ++ left ++ " policy: PollPolicy " ++ left ++ " interval: " ++
    o.policy.interval.text ++ ", timeout: " ++ limitText o.policy.timeout ++ " " ++ right ++
    ", cancelled: " ++ flagText (o.signal.isFired s.moment) ++ ", on_progress: " ++
    flagText o.reports ++ " " ++ right

end PollOptions

namespace Poller

/-- Reports progress to a caller who asks for it. -/
def report (o : PollOptions) (e : ProgressEvent) : Run Unit :=
  if o.reports then modify (·.reported e) else return

/-- One look, after the interval unless the operation has ended. -/
def look (c : Client) (o : PollOptions) (w : Watch) (p : Poller) : Run Progress := do
  if p.isDone then p.poll c w
  else
    w.sleep (some ((← get).now.add o.policy.interval))
    p.poll c w

/-- Looks after an operation until it ends. -/
def follow (c : Client) (o : PollOptions) (w : Watch) (p : Poller) : Nat → Run (Option Json)
  | 0 => throw .stuck
  | rounds + 1 => do
    match ← p.look c o w with
    | .done body => return body
    | .failed failure => throw (.error (.operationFailed failure))
    | .pending status =>
      report o (.polling p.path status)
      p.follow c o w rounds

/-- How many looks there can be in a session. -/
def rounds (s : Session) : Nat := s.answers.length + 1

/-- Follows an operation, with a report before and a report behind that says how it ended. -/
def followReported (c : Client) (o : PollOptions) (w : Watch) (p : Poller) (rounds : Nat) :
    Run (Option Json) := do
  report o (.started p.path)
  try
    let body ← p.follow c o w rounds
    report o (.completed p.path)
    pure body
  catch
    | .error e =>
      report o (.failed p.path e.message)
      throw (.error e)
    | stop => throw stop

/-- Waits for an operation to end.  The result is the final payload, if there is one.  The limit
counts from the beginning, also for an operation that has ended already: where the clock cannot tell
when it is reached, there is not even a report. -/
def wait (c : Client) (o : PollOptions) (p : Poller) : Run (Option Json) := do
  let s ← get
  if s.canTime o.policy.timeout then
    p.followReported c o (.start o.signal o.policy.timeout s.now) (rounds s)
  else throw .crashed

end Poller

namespace Client

/-- Submits an operation and, if it is a long-running one, waits for its end. -/
def invoke (c : Client) (o : PollOptions) (spec : OperationSpec) : Run Completion := do
  if spec.longRunning then
    let poller ← c.begin spec
    return ⟨spec.path, ← poller.wait c o⟩
  else
    let reply ← c.submit spec
    return ⟨spec.path, reply.body⟩

/-- The payload of a call that is answered at once. -/
def fetch (c : Client) (spec : OperationSpec) : Run Json := do
  return ((← c.submit spec).body).getD .null

end Client
end ResourceManager
