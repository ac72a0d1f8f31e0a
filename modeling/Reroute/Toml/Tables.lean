import Reroute.Toml.Value

set_option autoImplicit false

/-!
# Building tables

A document is a list of statements: headers, which open a table or add one to an array, and
entries, which belong to the table that was opened last. The root table is built from them one by
one; a statement that would define something twice is refused.
-/

namespace Reroute.Toml

/-- Whether a table can be passed through on the way to another, or is where an entry is added.
Keys with dots can only add to tables that such keys have made. -/
def TableKind.admits (byDots isTarget : Bool) : TableKind → Bool
  | .inline => false
  | .dotted => true
  | .implied => !byDots || !isTarget
  | .header => !byDots

namespace Entries

/-- Changes the entries of the table at a path. Tables that are missing on the way are made, and an
array of tables stands for the last of them. -/
def changeAt? (byDots : Bool) (change : Entries → Option Entries) :
    List Text → Entries → Option Entries
  | [], entries => change entries
  | key :: path, entries =>
    match find? key entries with
    | none => do
      let made ← changeAt? byDots change path []
      return set key (.table (if byDots then .dotted else .implied) made) entries
    | some (.table kind inner) => do
      if !kind.admits byDots path.isEmpty then failure
      return set key (.table kind (← changeAt? byDots change path inner)) entries
    | some (.array true items) => do
      if byDots && path.isEmpty then failure
      match items.getLast? with
      | some (.table kind inner) =>
        let last := Value.table kind (← changeAt? byDots change path inner)
        return set key (.array true (items.dropLast ++ [last])) entries
      | _ => failure
    | some _ => none

def changeLast? (byDots : Bool) (change : Option Value → Option Value) (path : List Text)
    (entries : Entries) : Option Entries := do
  let key ← path.getLast?
  changeAt? byDots (fun inner => do return set key (← change (find? key inner)) inner)
    path.dropLast entries

def addPair? (path : List Text) (value : Value) (entries : Entries) : Option Entries :=
  changeLast? true (fun | none => some value | some _ => none) path entries

def openTable? (path : List Text) (entries : Entries) : Option Entries :=
  changeLast? false
    (fun
      | none => some (.table .header [])
      | some (.table .implied inner) => some (.table .header inner)
      | some _ => none)
    path entries

def addElement? (path : List Text) (entries : Entries) : Option Entries :=
  changeLast? false
    (fun
      | none => some (.array true [.table .header []])
      | some (.array true items) => some (.array true (items ++ [.table .header []]))
      | some _ => none)
    path entries

def ofPairs? (pairs : List (List Text × Value)) : Option Entries :=
  pairs.foldlM (fun entries pair => addPair? pair.1 pair.2 entries) []

end Entries

inductive Statement where
  | table (path : List Text)
  | element (path : List Text)
  | entry (path : List Text) (value : Value)
  deriving Repr

structure Building where
  root : Entries
  current : List Text

def Building.step (b : Building) : Statement → Option Building
  | .table path => do return ⟨← b.root.openTable? path, path⟩
  | .element path => do return ⟨← b.root.addElement? path, path⟩
  | .entry path value => do
    return { b with root := ← b.root.changeAt? false (Entries.addPair? path value) b.current }

def build? (statements : List Statement) : Option Entries := do
  let b ← statements.foldlM Building.step ⟨[], []⟩
  return b.root

end Reroute.Toml
