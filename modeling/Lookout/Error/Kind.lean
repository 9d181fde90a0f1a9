/-
The kinds of error that the watch reports, and the words each of them stands behind.

What went wrong is told by a cause of its own type in the module where it can go wrong; a
kind only says how the reason is introduced.
-/

namespace Lookout

/-- The kinds of error. -/
inductive ErrorKind where
  /-- A malformed action or alert. -/
  | decode
  /-- The search backend was unreachable or refused the query. -/
  | query
  /-- The condition faulted, or its slot failed. -/
  | script
  /-- A cycle ran past its deadline. -/
  | timeout
  /-- Actions failed. -/
  | actions
  /-- An invalid configuration. -/
  | config
  /-- The interpreter pool could not be started. -/
  | poolInit
  /-- The alert file has the wrong shape. -/
  | serialization
deriving DecidableEq, Repr

/-- The message of an error of a kind, given the reason. -/
def ErrorKind.message (reason : String) : ErrorKind → String
  | .decode => "decode error: " ++ reason
  | .query => "query failed: " ++ reason
  | .script => "script error: " ++ reason
  | .timeout => "cycle timed out after " ++ reason
  | .actions => reason
  | .config => "invalid configuration: " ++ reason
  | .poolInit => "interpreter pool initialization failed: " ++ reason
  | .serialization => "serialization error: " ++ reason

end Lookout
