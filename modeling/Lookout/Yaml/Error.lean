/-
What can be wrong with the data of a document, and where.

The place of a fault is the way to it from the root: through items by their number and
through entries by the text of their key.
-/
import Lookout.Yaml.Data
import Lookout.Yaml.Scalar

namespace Lookout.Yaml

/-- A step into a collection. -/
inductive Step where
  | item (index : Nat)
  /-- Into an entry, whose key may have no text of its own. -/
  | entry (label : Option String)

/-- The text of a way; that of no steps at all is a point. -/
def pathText (steps : List Step) : String :=
  let add (before : Option String) (step : Step) : Option String :=
    match before, step with
    | none, .item i => some (".[" ++ toString i ++ "]")
    | some p, .item i => some (p ++ "[" ++ toString i ++ "]")
    | none, .entry label => some (label.getD "?")
    | some p, .entry label => some (p ++ "." ++ label.getD "?")
  (steps.foldl add none).getD "."

/-- What is found where something else is expected. -/
inductive Found where
  | scalar (s : Scalar)
  | sequence
  | mapping

/-- What is found, in words. -/
def Found.described : Found → String
  | scalar s => s.described
  | sequence => "sequence"
  | mapping => "map"

/-- What is wrong with data. -/
inductive Cause where
  /-- It goes beyond a bound. -/
  | excess (limit : Excess)
  | wrongType (found : Found) (expected : String)
  /-- A text is not of the kind that its tag asks for. -/
  | wrongText (text : String) (wanted : Scalar.Wanted)
  | missingField (name : String)
  | duplicateField (name : String)
  /-- Two entries have the same key, which is shown by its text if it has one. -/
  | duplicateKey (shown : String)

/-- A cause in words. -/
def Cause.reason : Cause → String
  | excess limit => limit.reason
  | wrongType found expected => "invalid type: " ++ found.described ++ ", expected " ++ expected
  | wrongText text wanted =>
    "invalid value: string " ++ quoted text ++ ", expected " ++ wanted.name
  | missingField name => "missing field `" ++ name ++ "`"
  | duplicateField name => "duplicate field `" ++ name ++ "`"
  | duplicateKey shown => "duplicate entry " ++ shown

/-- Why a text is not what it is read as. -/
inductive Error where
  /-- It is not a document. -/
  | malformed
  /-- Its data is not of the wanted form. -/
  | unfit (path : List Step) (cause : Cause)

namespace Error

/-- An error at the place itself. -/
def here (cause : Cause) : Error := .unfit [] cause

/-- The error as seen from one step further out. -/
def under (step : Step) : Error → Error
  | malformed => malformed
  | unfit path cause => unfit (step :: path) cause

/-- The message of an error: the place, unless it is the root, and the reason.  Where a bound
was passed is not told. -/
def message : Error → String
  | malformed => "(syntax)"
  | unfit _ (.excess limit) => limit.reason
  | unfit path cause =>
    let place := pathText path
    if place = "." then cause.reason else place ++ ": " ++ cause.reason

end Error

end Lookout.Yaml
