/-!
# Methods

The methods of requests.  Those that matter here have names of their own; any other word is a method
too.
-/

set_option autoImplicit false

namespace ResourceManager

inductive Method where
  | get
  | put
  | patch
  | post
  | delete
  | head
  | other (name : String)
deriving DecidableEq, Repr, Inhabited

namespace Method

def name : Method → String
  | get => "GET"
  | put => "PUT"
  | patch => "PATCH"
  | post => "POST"
  | delete => "DELETE"
  | head => "HEAD"
  | other name => name

def ofName (name : String) : Method :=
  match name with
  | "GET" => get
  | "PUT" => put
  | "PATCH" => patch
  | "POST" => post
  | "DELETE" => delete
  | "HEAD" => head
  | _ => other name

/-- Whether the method leaves a resource behind whose state is the result. -/
def yieldsResource : Method → Bool
  | put | patch => true
  | _ => false

end Method
end ResourceManager
