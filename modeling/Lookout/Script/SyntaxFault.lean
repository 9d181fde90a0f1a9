/-
What can be wrong with a script before it runs.
-/

namespace Lookout.Script

/-- A fault of the text of a script. -/
inductive SyntaxFault where
  /-- The text does not follow the grammar. -/
  | unreadable
  | formattedString
  | invalidTarget
  | augmentedMany
  | annotatedAugmented
  | annotatedMany
  | positionalAfterNamed
  | namedAfterSpread
  | repeatedArgument
  | spreadAfterSpread
  | spreadNamedTwice
  | duplicateParam
  | plainAfterFallback
  | restAfterRest
  | afterRestNamed
  | restNamedTwice
  | lonelyStar
  | misplacedSlash
  | returnOutside
  | breakOutside
  | continueOutside
  | loadInside
deriving DecidableEq, Repr

/-- The message of a fault. -/
def SyntaxFault.message : SyntaxFault → String
  | unreadable => "Parse error"
  | formattedString => "Your Starlark dialect must enable f-strings to use them"
  | invalidTarget => "left-hand-side of assignment must take the form `a`, `a.b` or `a[b]`"
  | augmentedMany => "left-hand-side of modifying assignment cannot be a list or tuple"
  | annotatedAugmented => "type annotations not allowed on augmented assignments"
  | annotatedMany => "type annotations not allowed on multiple assignments"
  | positionalAfterNamed => "positional argument after non positional"
  | namedAfterSpread => "named argument after *args or **kwargs"
  | repeatedArgument => "repeated named argument"
  | spreadAfterSpread => "Args array after another args or kwargs"
  | spreadNamedTwice => "Multiple kwargs dictionary in arguments"
  | duplicateParam => "duplicated parameter name"
  | plainAfterFallback => "positional parameter after non positional"
  | restAfterRest => "Args parameter after another args or kwargs parameter"
  | afterRestNamed => "Default parameter after args array or kwargs array"
  | restNamedTwice => "Multiple kwargs dictionary in parameters"
  | lonelyStar => "`*` parameter must be followed by named parameter"
  | misplacedSlash => "`/` cannot be first parameter"
  | returnOutside => "`return` cannot be used outside of a `def` function"
  | breakOutside => "`break` cannot be used outside of a `for` loop"
  | continueOutside => "`continue` cannot be used outside of a `for` loop"
  | loadInside => "`load` must only occur at the top of a module"

end Lookout.Script
