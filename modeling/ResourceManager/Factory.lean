import ResourceManager.Catalogue.Operation

/-!
# Factories

A factory is built from settings.  Its clients share one client of the service, so they share its
tokens too.  `Call` lists what can be asked of them, and `Factory.performAll` asks for one thing
after another.

Settings and factories have descriptions, as they end up in logs; none of them tells a secret.
-/

set_option autoImplicit false

namespace ResourceManager

/-! ## Descriptions -/

namespace Cloud

def description : Cloud → String
  | .publicCloud => "Public"
  | .china => "China"
  | .usGovernment => "UsGovernment"

end Cloud

/-- The description of a text that may be missing. -/
def Text.quotedOption : Option String → String
  | some s => "Some(" ++ Text.quoted s ++ ")"
  | none => "None"

/-- The description of a record: its name, and the names of its fields with their descriptions. -/
def Text.describedRecord (name : String) (fields : List (String × String)) : String :=
  name ++ " " ++ String.ofList ['\x7b'] ++ " " ++
    ", ".intercalate (fields.map fun field ↦ field.1 ++ ": " ++ field.2) ++ " " ++
    String.ofList ['\x7d']

def PollPolicy.description (p : PollPolicy) : String :=
  Text.describedRecord "PollPolicy"
    [("interval", p.interval.text), ("timeout", PollOptions.limitText p.timeout)]

namespace Settings

def description (s : Settings) : String :=
  Text.describedRecord "Settings"
    [("subscription_id", Text.quoted s.subscriptionId),
      ("resource_group", Text.quotedOption s.resourceGroup),
      ("location", Text.quoted s.location),
      ("cloud", s.cloud.description),
      ("credentials", s.credentials.description),
      ("poll", s.poll.description),
      ("user_agent", Text.quotedOption s.userAgent),
      ("endpoint", Text.quotedOption s.endpoint),
      ("authority_host", Text.quotedOption s.authority)]

end Settings

/-! ## Factories -/

structure Factory where
  client : Client
  subscriptionId : String
  location : String
  resourceGroup : Option String
  /-- How to wait, unless a call says otherwise. -/
  poll : PollOptions
deriving DecidableEq, Repr

namespace Factory

/-- The factory that settings describe. -/
def new (s : Settings) : Except Error Factory := do
  let client ← Client.ofSettings s
  return ⟨client, s.subscriptionId, s.location, s.resourceGroup, .ofPolicy s.poll⟩

/-- Builds a factory in the course of a run. -/
def build (s : Settings) : Run Factory := Run.ofExcept (new s)

def description (f : Factory) (s : Session) : String :=
  Text.describedRecord "ClientFactory"
    [("client", f.client.description),
      ("subscription_id", Text.quoted f.subscriptionId),
      ("location", Text.quoted f.location),
      ("resource_group", Text.quotedOption f.resourceGroup),
      ("poll", f.poll.description s)]

end Factory

/-! ## Calls -/

/-- What can be asked of the clients of a factory. -/
inductive Call where
  /-- An operation on a kind of resources. -/
  | operation (op : Operation) (names : List String) (value : op.extra.Value) (o : PollOptions)
  | submit (spec : OperationSpec)
  | get (url : Url)
  | begin (spec : OperationSpec)
  | invoke (spec : OperationSpec) (o : PollOptions)
  | fetch (spec : OperationSpec)
  /-- One poll, which its caller may give up. -/
  | poll (p : Poller) (w : Watch)
  | wait (p : Poller) (o : PollOptions)
  | page (cursor : Cursor)
  | collect (spec : OperationSpec)

namespace Call

/-- The type of what a call gives back. -/
abbrev Result : Call → Type
  | operation .. => CallResult
  | submit _ => Reply
  | get _ => Reply
  | begin _ => Poller
  | invoke .. => Completion
  | fetch _ => Json
  | poll .. => Progress
  | wait .. => Option Json
  | page _ => Option (Page × Cursor)
  | collect _ => List Json

end Call

/-- A call with what it gave back. -/
structure Returned where
  call : Call
  result : Except Stop call.Result

/-- What stopped a call, if it gave no value back. -/
def Returned.stop? (r : Returned) : Option Stop :=
  match r.result with
  | .ok _ => none
  | .error stop => some stop

namespace Factory

/-- Carries out a call. -/
def perform (f : Factory) : (call : Call) → Run call.Result
  | .operation op names value o => op.call f.client o f.subscriptionId names value
  | .submit spec => f.client.submit spec
  | .get url => f.client.getUrl .none url
  | .begin spec => f.client.begin spec
  | .invoke spec o => f.client.invoke o spec
  | .fetch spec => f.client.fetch spec
  | .poll p w => p.poll f.client w
  | .wait p o => p.wait f.client o
  | .page cursor => cursor.fetch f.client
  | .collect spec => f.client.collect spec

/-- Carries out a call at a point in time, or at once when that is past. -/
def performAt (f : Factory) (t : Timestamp) (call : Call) : Run call.Result := do
  Watch.none.sleep (some t)
  f.perform call

/-- Carries out one call after another.  Whatever comes of a call, the next one is made. -/
def performAll (f : Factory) : List (Timestamp × Call) → Session → List Returned × Session
  | [], s => ([], s)
  | (t, call) :: calls, s =>
    let (result, s) := (f.performAt t call).outcome s
    let (returned, s) := f.performAll calls s
    (⟨call, result⟩ :: returned, s)

end Factory
end ResourceManager
