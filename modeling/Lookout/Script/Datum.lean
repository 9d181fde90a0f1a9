/-
The data that scripts work on.

What can be changed after it was made lives in cells: lists, dictionaries, the variables of a
call, and functions, which keep the variables around them.  Data refer to cells by address.
Everything else is data in full.
-/
import Lookout.Script.Syntax

namespace Lookout.Script

/-- The functions that every script can use. -/
inductive Builtin where
  | abs | all | any | bool | chr | dict | dir | enumerate | fail | filter | float | getattr
  | hasattr | hash | int | jsonDecode | jsonEncode | len | list | map | max | min | ord | range
  | repr | reversed | sorted | str | struct | tuple | type | zip
deriving DecidableEq, Repr

/-- The methods of text. -/
inductive TextMethod where
  | capitalize | codepoints | count | elems | endswith | find | format | index | isalnum
  | isalpha | isdigit | islower | isspace | istitle | isupper | join | lower | lstrip
  | partition | withoutStart | withoutEnd | replace | rfind | rindex | rpartition | rsplit
  | rstrip | split | splitlines | startswith | strip | title | upper
deriving DecidableEq, Repr

/-- The methods of lists. -/
inductive ListMethod where
  | append | clear | extend | index | insert | pop | remove
deriving DecidableEq, Repr

/-- The methods of dictionaries. -/
inductive DictMethod where
  | clear | get | items | keys | pop | popitem | setdefault | update | values
deriving DecidableEq, Repr

namespace Builtin

/-- The functions with their names; those of `json` are reached through it. -/
def named : List (String × Builtin) :=
  [("abs", .abs), ("all", .all), ("any", .any), ("bool", .bool), ("chr", .chr), ("dict", .dict),
    ("dir", .dir), ("enumerate", .enumerate), ("fail", .fail), ("filter", .filter),
    ("float", .float), ("getattr", .getattr), ("hasattr", .hasattr), ("hash", .hash),
    ("int", .int), ("len", .len), ("list", .list), ("map", .map), ("max", .max), ("min", .min),
    ("ord", .ord), ("range", .range), ("repr", .repr), ("reversed", .reversed),
    ("sorted", .sorted), ("str", .str), ("struct", .struct), ("tuple", .tuple),
    ("type", .type), ("zip", .zip)]

/-- The name of a function. -/
def name (b : Builtin) : String :=
  match b with
  | .jsonDecode => "decode"
  | .jsonEncode => "encode"
  | _ => ((named.find? fun entry => entry.2 = b).map (·.1)).getD ""

end Builtin

/-- The methods of text with their names, in order. -/
def TextMethod.named : List (String × TextMethod) :=
  [("capitalize", .capitalize), ("codepoints", .codepoints), ("count", .count),
    ("elems", .elems), ("endswith", .endswith), ("find", .find), ("format", .format),
    ("index", .index), ("isalnum", .isalnum), ("isalpha", .isalpha), ("isdigit", .isdigit),
    ("islower", .islower), ("isspace", .isspace), ("istitle", .istitle), ("isupper", .isupper),
    ("join", .join), ("lower", .lower), ("lstrip", .lstrip), ("partition", .partition),
    ("removeprefix", .withoutStart), ("removesuffix", .withoutEnd), ("replace", .replace),
    ("rfind", .rfind), ("rindex", .rindex), ("rpartition", .rpartition), ("rsplit", .rsplit),
    ("rstrip", .rstrip), ("split", .split), ("splitlines", .splitlines),
    ("startswith", .startswith), ("strip", .strip), ("title", .title), ("upper", .upper)]

/-- The methods of lists with their names, in order. -/
def ListMethod.named : List (String × ListMethod) :=
  [("append", .append), ("clear", .clear), ("extend", .extend), ("index", .index),
    ("insert", .insert), ("pop", .pop), ("remove", .remove)]

/-- The methods of dictionaries with their names, in order. -/
def DictMethod.named : List (String × DictMethod) :=
  [("clear", .clear), ("get", .get), ("items", .items), ("keys", .keys), ("pop", .pop),
    ("popitem", .popitem), ("setdefault", .setdefault), ("update", .update),
    ("values", .values)]

/-- The name under which a table holds an entry. -/
def nameIn {α : Type} [DecidableEq α] (table : List (String × α)) (x : α) : String :=
  ((table.find? fun entry => entry.2 = x).map (·.1)).getD ""

/-- The place of a cell. -/
abbrev Addr : Type := Nat

/-- A datum. -/
inductive Datum where
  | none
  | bool (b : Bool)
  | int (n : Int)
  | float (x : Float)
  | string (s : String)
  | ellipsis
  | tuple (items : List Datum)
  | range (start stop step : Int)
  | struct (fields : List (String × Datum))
  /-- What is left to go through. -/
  | iterator (items : List Datum)
  | builtin (b : Builtin)
  | textMethod (owner : String) (m : TextMethod)
  | list (a : Addr)
  | dict (a : Addr)
  | listMethod (owner : Addr) (m : ListMethod)
  | dictMethod (owner : Addr) (m : DictMethod)
  | function (a : Addr)

instance : Inhabited Datum := ⟨.none⟩

/-- The name of the type of a datum. -/
def Datum.typeName : Datum → String
  | none => "NoneType"
  | bool _ => "bool"
  | int _ => "int"
  | float _ => "float"
  | string _ => "string"
  | ellipsis => "ellipsis"
  | tuple _ => "tuple"
  | range _ _ _ => "range"
  | struct _ => "struct"
  | iterator _ => "iterator"
  | builtin _ => "function"
  | textMethod _ _ => "function"
  | list _ => "list"
  | dict _ => "dict"
  | listMethod _ _ => "function"
  | dictMethod _ _ => "function"
  | function _ => "function"

/-- A type as an annotation gives it. -/
inductive TypeSpec where
  | any | none | bool | int | float | string | range | struct
  | list (item : TypeSpec)
  | dict (key value : TypeSpec)
  | tupleOf (items : List TypeSpec)
  | tupleEach (item : TypeSpec)
  | union (options : List TypeSpec)

instance : Inhabited TypeSpec := ⟨.any⟩

/-- A parameter with its default and its type worked out. -/
structure BoundParam where
  kind : ParamKind
  name : String
  type : Option TypeSpec
  fallback : Option Datum

/-- What a function does. -/
inductive FunctionBody where
  | block (statements : List Stmt)
  | value (e : Expr)

/-- A function made by a script. -/
structure Closure where
  /-- The name of the script it stands in. -/
  script : String
  name : String
  params : List BoundParam
  result : Option TypeSpec
  body : FunctionBody
  /-- The names that a call binds. -/
  locals : List String
  /-- The variables around it. -/
  scope : Addr

/-- The name of a function together with its script. -/
def Closure.fullName (c : Closure) : String :=
  c.script ++ "." ++ c.name

/-- A cell. -/
inductive Cell where
  /-- The items of a list, and how many loops are going through them. -/
  | list (items : Array Datum) (readers : Nat)
  /-- The entries of a dictionary in the order they were entered, and how many loops are going
  through them. -/
  | dict (entries : List (Datum × Datum)) (readers : Nat)
  /-- Variables, and the frame around them; a variable without a value is not assigned yet. -/
  | frame (parent : Option Addr) (bindings : List (String × Option Datum))
  | function (closure : Closure)

instance : Inhabited Cell := ⟨.list #[] 0⟩

end Lookout.Script
