import BuildTargets.Package

/-!
# Raw target nodes

A raw node is one rule invocation as the build-file parser produced it: the package it claims
to come from, the name of its rule type, its visibility patterns and licenses, and its
attributes. Attributes keep the order in which their keys were first written; writing a key
again replaces its value in place.
-/

namespace BuildTargets

/-- Attributes in the order of their keys' first appearance. -/
structure AttrMap where
  entries : List (String × String)
  deriving DecidableEq, Repr

namespace AttrMap

def empty : AttrMap := ⟨[]⟩

/-- Sets `key` to `value`: in place when the key is there, at the end otherwise. -/
def insert (m : AttrMap) (key value : String) : AttrMap :=
  if m.entries.any (·.1 == key) then
    ⟨m.entries.map fun (k, v) => if k == key then (k, value) else (k, v)⟩
  else ⟨m.entries ++ [(key, value)]⟩

/-- The map of the pairs, written in order. -/
def ofList (kvs : List (String × String)) : AttrMap :=
  kvs.foldl (fun m (k, v) => m.insert k v) empty

def get? (m : AttrMap) (key : String) : Option String :=
  (m.entries.find? (·.1 == key)).map (·.2)

def size (m : AttrMap) : Nat := m.entries.length

end AttrMap

/-- One rule invocation from a build file, before its attributes are checked. -/
structure RawNode where
  basePath : PackagePath
  ruleName : String
  visibility : List String
  licenses : List String
  attrs : AttrMap
  deriving DecidableEq, Repr

namespace RawNode

/-- The attribute that holds the short name of a target. -/
def nameAttribute : String := "name"

/-- The rule type of a node built for tests. -/
def testingRule : String := "java_library"

/-- A node of type `java_library` with no visibility and no licenses. -/
def testing (basePath : PackagePath) (attrs : List (String × String)) : RawNode :=
  ⟨basePath, testingRule, [], [], AttrMap.ofList attrs⟩

def get? (n : RawNode) (key : String) : Option String := n.attrs.get? key

/-- The `name` attribute, which every well-formed node has. -/
def name? (n : RawNode) : Option String := n.get? nameAttribute

end RawNode

end BuildTargets
