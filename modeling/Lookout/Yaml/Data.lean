/-
The data of a document, with every alias replaced by what it stands for.

Collections nest 128 deep at most, and aliases are followed a hundred times for each part of
the document at most.  Where data goes beyond, a fault stands in its place, so a document
may hold it as long as nobody reads it.
-/
import Lookout.Yaml.Node

namespace Lookout.Yaml

/-- A bound on documents that data goes beyond. -/
inductive Excess where
  /-- Collections nest too deep. -/
  | depth
  /-- Aliases are followed too often. -/
  | repetition
deriving DecidableEq, Repr

/-- A bound in words. -/
def Excess.reason : Excess → String
  | depth => "recursion limit exceeded"
  | repetition => "repetition limit exceeded"

/-- Data without aliases.  The pairs of a mapping keep the text of their key, where the key is
a scalar itself and not an alias of one. -/
inductive Data where
  | scalar (tag : Option String) (plain : Bool) (text : String)
  | sequence (tag : Option String) (items : List Data)
  | mapping (tag : Option String) (pairs : List (Option String × Data × Data))
  | excess (limit : Excess)
deriving Inhabited

/-- The text of a node that is a scalar. -/
def Node.label? : Node → Option String
  | scalar _ _ _ text => some text
  | _ => none

/-- What aliases stand for in a document, and how many of them may be followed. -/
structure Anchors where
  nodes : List (Nat × Node)
  bound : Nat

namespace Anchors

/-- The anchors below a node.  Of several with one number the last counts. -/
def ofRoot (root : Node) : Anchors :=
  ⟨root.anchored.reverse, 100 * root.size⟩

/-- What a node stands for, and how many aliases were followed so far. -/
def follow (a : Anchors) : Node → StateM Nat (Except Excess Node)
  | .aliasOf number => do
    modify (· + 1)
    if a.bound < (← get) then return .error .repetition
    else match a.nodes.lookup number with
      | some node => return .ok node
      | none => return .error .repetition
  | node => return .ok node

/-- The data of a node, with `depth` collections inside one another. -/
def expand (a : Anchors) : Nat → Node → StateM Nat Data
  | 0, node => do
    match ← a.follow node with
    | .error limit => return .excess limit
    | .ok (.scalar _ tag plain text) => return .scalar tag plain text
    | .ok _ => return .excess .depth
  | depth + 1, node => do
    match ← a.follow node with
    | .error limit => return .excess limit
    | .ok (.scalar _ tag plain text) => return .scalar tag plain text
    | .ok (.sequence _ tag items) => return .sequence tag (← items.mapM (a.expand depth))
    | .ok (.mapping _ tag pairs) =>
      return .mapping tag (← pairs.mapM fun (key, value) => do
        return (key.label?, ← a.expand depth key, ← a.expand depth value))
    | .ok (.aliasOf _) => return .excess .repetition

end Anchors

/-- How deep collections may nest. -/
def depthBound : Nat := 128

/-- The data of a document, given its root. -/
def Node.data (root : Node) : Data :=
  (((Anchors.ofRoot root).expand depthBound root).run 0).1

/-- The data of the only document of a text, if the text is well formed. -/
def Data.ofText? (text : String) : Option Data :=
  (Node.ofText? text).map Node.data

end Lookout.Yaml
