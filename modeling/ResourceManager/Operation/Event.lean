/-!
# Progress

What is reported while an operation is waited for: once that the wait began, once for every look at
an operation that is still running, and once how it ended.  Each report names the path that was
called.
-/

set_option autoImplicit false

namespace ResourceManager

inductive ProgressEvent where
  | started (path : String)
  | polling (path status : String)
  | completed (path : String)
  | failed (path error : String)
deriving DecidableEq, Repr

end ResourceManager
