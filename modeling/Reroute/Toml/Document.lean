import Reroute.Toml.Reader
import Reroute.Toml.Tables

set_option autoImplicit false

namespace Reroute.Toml

namespace Reader

/-- Items with commas between them, from behind the opening bracket. A comma may follow the last
item. -/
def items {α : Type} (item : Reader α) (closing : Char) : Nat → Reader (List α)
  | 0 => failure
  | steps + 1 => do
    skipFiller
    if ← accept [closing] then return []
    let first ← item
    skipFiller
    if ← accept [','] then return first :: (← items item closing steps)
    expect [closing]
    return [first]

def itemsUpTo {α : Type} (item : Reader α) (closing : Char) : Reader (List α) := do
  items item closing ((← get).length + 1)

def plainValue : Reader Value := do
  match ← string? with
  | some t => return .string t
  | none =>
    match scalar? (← scalarWord) with
    | some v => return v
    | none => failure

def pair (value : Reader Value) : Reader (List Text × Value) := do
  let path ← keyPath
  expect ['=']
  skipBlanks
  return (path, ← value)

def value : Nat → Reader Value
  | 0 => plainValue
  | nesting + 1 => do
    if ← accept ['['] then return .array false (← itemsUpTo (value nesting) ']')
    else if ← accept ['\x7b'] then
      let pairs ← itemsUpTo (pair (value nesting)) '\x7d'
      match Entries.ofPairs? pairs with
      | some entries => return .table .inline entries
      | none => failure
    else plainValue

def maxNesting : Nat :=
  80

def statement : Reader Statement := do
  if ← accept ['[', '['] then
    let path ← keyPath
    expect [']', ']']
    return .element path
  else if ← accept ['['] then
    let path ← keyPath
    expect [']']
    return .table path
  else
    let (path, v) ← pair (value maxNesting)
    return .entry path v

def atBlankLine : Reader Bool := do
  skipBlanks
  match ← get with
  | [] | '#' :: _ | '\n' :: _ | '\r' :: _ => return true
  | _ => return false

def statements : Nat → Reader (List Statement)
  | 0 => failure
  | steps + 1 => do
    if (← get).isEmpty then return []
    else if ← atBlankLine then
      lineEnd
      statements steps
    else
      let first ← statement
      lineEnd
      return first :: (← statements steps)

end Reader

/-- Reads a document, if it is one. A byte order mark may precede it. -/
def parse? (t : Text) : Option Entries := do
  let t := match t with
    | '\ufeff' :: rest => rest
    | _ => t
  let (statements, _) ← (Reader.statements (t.length + 1)).run t
  build? statements

end Reroute.Toml
