import ResourceManager.Error
import ResourceManager.Text.Case

/-!
# Status of operations

The status that an operation or a resource reports.  Three words end an operation; anything else
means that it is still running, and is kept as it was written.

`OperationFailure.ofStatus` is the report of an operation that ended without success.
-/

set_option autoImplicit false

namespace ResourceManager

inductive OperationStatus where
  | inProgress (word : String)
  | succeeded
  | failed
  | canceled
deriving DecidableEq, Repr

namespace OperationStatus

/-- The status of a word, in any case of its letters. -/
def parse (word : String) : OperationStatus :=
  match Text.lowerAscii word with
  | "succeeded" => succeeded
  | "failed" => failed
  | "canceled" | "cancelled" => canceled
  | _ => inProgress word

/-- Whether an operation with this status has ended. -/
def isTerminal : OperationStatus → Bool
  | inProgress _ => false
  | _ => true

/-- The word by which a resource says how its creation or update is getting on. -/
def stateWord? (body : Option Json) : Option String := do
  (← (← (← body).get? "properties").get? "provisioningState").string?

/-- The status of such a resource. -/
def ofResource? (body : Option Json) : Option OperationStatus :=
  (stateWord? body).map parse

end OperationStatus

namespace OperationFailure

/-- The word for an end without success. -/
def statusWord : OperationStatus → String
  | .canceled => "Canceled"
  | _ => "Failed"

/-- The detail in the member `error` of a body, if there is one that reads as a whole. -/
def detail (body : Option Json) : ErrorDetail :=
  ((body.bind (·.get? "error")).bind ErrorDetail.decode?).getD .empty

/-- The failure that a status and the body around it report. -/
def ofStatus (status : OperationStatus) (body : Option Json) : OperationFailure :=
  let word := statusWord status
  let d := detail body
  { status := word
    code := d.code.getD word
    message := d.message.getD ("operation finished with status " ++ word) }

end OperationFailure
end ResourceManager
