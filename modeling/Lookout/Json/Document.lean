/-
JSON documents: a text as it is written, and its readings.

A document keeps the members of an object in the order of the text, repeated names and all.
Reading a text gives a document; a document is then decoded into a value directly, or into
a native tree that is converted afterwards.  In both a repeated name keeps its last member.
-/
import Lookout.Json.Number

namespace Lookout

/-- A JSON text as written. -/
inductive JsonDocument where
  | null
  | bool (b : Bool)
  | number (n : Number)
  | string (s : String)
  | array (items : List JsonDocument)
  | object (members : List (String × JsonDocument))

instance : Inhabited JsonDocument := ⟨.null⟩

/-- The native tree of JSON: like a document, with the members of an object as entries. -/
inductive JsonTree where
  | null
  | bool (b : Bool)
  | number (n : Number)
  | string (s : String)
  | array (items : List JsonTree)
  | object (members : List (String × JsonTree))

instance : Inhabited JsonTree := ⟨.null⟩

namespace JsonDocument

mutual

/-- A document decoded into a value. -/
def toValue : JsonDocument → Value
  | null => .null
  | bool b => .bool b
  | number n => .number n
  | string s => .string s
  | array items => .list (toValues items)
  | object members => .map (toEntries [] members)

/-- The items of an array, decoded in order. -/
def toValues : List JsonDocument → List Value
  | [] => []
  | item :: items => toValue item :: toValues items

/-- The members of an object, entered one after the other. -/
def toEntries (entries : List (String × Value)) :
    List (String × JsonDocument) → List (String × Value)
  | [] => entries
  | (name, member) :: members => toEntries (Entries.insert name (toValue member) entries) members

end

mutual

/-- A document decoded into a native tree. -/
def toTree : JsonDocument → JsonTree
  | null => .null
  | bool b => .bool b
  | number n => .number n
  | string s => .string s
  | array items => .array (toTrees items)
  | object members => .object (toTreeEntries [] members)

/-- The items of an array, decoded in order. -/
def toTrees : List JsonDocument → List JsonTree
  | [] => []
  | item :: items => toTree item :: toTrees items

/-- The members of an object, entered one after the other. -/
def toTreeEntries (entries : List (String × JsonTree)) :
    List (String × JsonDocument) → List (String × JsonTree)
  | [] => entries
  | (name, member) :: members =>
    toTreeEntries (Entries.insert name (toTree member) entries) members

end

end JsonDocument

namespace Value

mutual

/-- The value of a native tree; the members of an object are entered anew. -/
def ofTree : JsonTree → Value
  | .null => .null
  | .bool b => .bool b
  | .number n => .number n
  | .string s => .string s
  | .array items => .list (ofTrees items)
  | .object members => .map (ofTreeEntries [] members)

/-- The items of an array, in order. -/
def ofTrees : List JsonTree → List Value
  | [] => []
  | item :: items => ofTree item :: ofTrees items

/-- The members of an object, entered one after the other. -/
def ofTreeEntries (entries : List (String × Value)) :
    List (String × JsonTree) → List (String × Value)
  | [] => entries
  | (name, member) :: members => ofTreeEntries (Entries.insert name (ofTree member) entries) members

end

mutual

/-- The native tree of a value; the entries of a map are entered anew. -/
def toTree : Value → JsonTree
  | .null => .null
  | .bool b => .bool b
  | .number n => .number n
  | .string s => .string s
  | .list items => .array (toTrees items)
  | .map entries => .object (toTreeEntries [] entries)

/-- The items of a list, in order. -/
def toTrees : List Value → List JsonTree
  | [] => []
  | item :: items => toTree item :: toTrees items

/-- The entries of a map, entered one after the other. -/
def toTreeEntries (members : List (String × JsonTree)) :
    List (String × Value) → List (String × JsonTree)
  | [] => members
  | (key, value) :: entries => toTreeEntries (Entries.insert key (toTree value) members) entries

end

end Value

end Lookout
