/-
Types as annotations give them.

A type accepts data by their own type, and the parts of lists, dictionaries and tuples by the
types of the parts.
-/
import Lookout.Script.Machine

namespace Lookout.Script
namespace TypeSpec

mutual

/-- A type as it is written. -/
def text : TypeSpec → String
  | .any => "typing.Any"
  | .none => "None"
  | .bool => "bool"
  | .int => "int"
  | .float => "float"
  | .string => "str"
  | .range => "range"
  | .struct => "struct"
  | .list .any => "list"
  | .list item => "list[" ++ text item ++ "]"
  | .dict .any .any => "dict"
  | .dict key value => "dict[" ++ text key ++ ", " ++ text value ++ "]"
  | .tupleOf items => "tuple[" ++ ", ".intercalate (texts items) ++ "]"
  | .tupleEach .any => "tuple"
  | .tupleEach item => "tuple[" ++ text item ++ ", ...]"
  | .union options => " | ".intercalate (texts options)

/-- Types as they are written. -/
def texts : List TypeSpec → List String
  | [] => []
  | t :: ts => text t :: texts ts

end

mutual

/-- Whether a type accepts a datum. -/
def accepts (m : Machine) : TypeSpec → Datum → Bool
  | .any, _ => true
  | .none, .none => true
  | .bool, .bool _ => true
  | .int, .int _ => true
  | .float, .float _ => true
  | .string, .string _ => true
  | .range, .range _ _ _ => true
  | .struct, .struct _ => true
  | .list item, .list a => (m.items a).all (accepts m item)
  | .dict key value, .dict a =>
    (m.entries a).all fun (k, v) => accepts m key k && accepts m value v
  | .tupleOf items, .tuple ds => acceptsEach m items ds
  | .tupleEach item, .tuple ds => ds.all (accepts m item)
  | .union options, d => acceptsSome m options d
  | _, _ => false

/-- Whether types accept data one by one. -/
def acceptsEach (m : Machine) : List TypeSpec → List Datum → Bool
  | [], [] => true
  | t :: ts, d :: ds => accepts m t d && acceptsEach m ts ds
  | _, _ => false

/-- Whether one of some types accepts a datum. -/
def acceptsSome (m : Machine) : List TypeSpec → Datum → Bool
  | [], _ => false
  | t :: ts, d => accepts m t d || acceptsSome m ts d

end

/-- The options of a type. -/
def options : TypeSpec → List TypeSpec
  | .union options => options
  | t => [t]

/-- The type that accepts what either of two accepts; its options stand in the order of their
texts. -/
def either (a b : TypeSpec) : TypeSpec :=
  let all := a.options ++ b.options.filter fun t => !a.options.any fun s => s.text = t.text
  match all.mergeSort fun s t => !(t.text < s.text) with
  | [t] => t
  | options => .union options

end TypeSpec

/-- The type that a datum stands for in an annotation. -/
def TypeSpec.ofDatum? : Datum → Option TypeSpec
  | .none => some .none
  | .builtin .bool => some .bool
  | .builtin .int => some .int
  | .builtin .float => some .float
  | .builtin .str => some .string
  | .builtin .range => some .range
  | .builtin .struct => some .struct
  | .builtin .list => some (.list .any)
  | .builtin .dict => some (.dict .any .any)
  | .builtin .tuple => some (.tupleEach .any)
  | _ => none

end Lookout.Script
