import Reroute.FileSystem.Host
import Reroute.Path.Lexical

set_option autoImplicit false

namespace Reroute

/-- Files and directories by the names on the way to them, innermost first. -/
structure FileTree where
  nodes : List (List Text × Entry)

namespace FileTree

def placeOf (path : Text) : List Text :=
  ((Path.segments path).filter fun s => !Path.isBlank s).reverse

def ofPaths (nodes : List (Text × Entry)) : FileTree :=
  ⟨nodes.map fun (path, entry) => (placeOf path, entry)⟩

/-- What is at a place. A directory is also what lies above a node. -/
def entryAt? (tree : FileTree) (place : List Text) : Option Entry :=
  match tree.nodes.find? fun node => node.1 == place with
  | some (_, entry) => some entry
  | none =>
    if place.isEmpty || tree.nodes.any fun node => place.isSuffixOf node.1 then some .directory
    else none

def isDirectory (tree : FileTree) (place : List Text) : Bool :=
  tree.entryAt? place == some .directory

def step (tree : FileTree) (place : List Text) (segment : Text) : Option (List Text) :=
  if !tree.isDirectory place then none
  else if Path.isBlank segment then some place
  else if segment = Path.up then
    match place with
    | _ :: above => some above
    | [] => none
  else some (segment :: place)

def find? (tree : FileTree) (directory path : Text) : Option Entry := do
  let start := if Path.rooted path then [] else placeOf directory
  tree.entryAt? (← (Path.segments path).foldlM tree.step start)

end FileTree

end Reroute
