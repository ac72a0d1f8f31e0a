import Reroute.Text

set_option autoImplicit false

namespace Reroute.Toml

inductive TableKind where
  | inline
  /-- Implied by the header of a table below it. -/
  | implied
  | dotted
  | header
  deriving DecidableEq, Repr

inductive Value where
  | string (t : Text)
  | integer (i : Int)
  /-- A number with a fraction or an exponent, or an infinity or none at all: whether it lies in
  the range of floating-point numbers. -/
  | float (inRange : Bool)
  | boolean (b : Bool)
  | dateTime
  /-- An array, which can be extended if it was made by headers in double brackets. -/
  | array (ofHeaders : Bool) (items : List Value)
  | table (kind : TableKind) (entries : List (Text × Value))
  deriving Inhabited, Repr

abbrev Entries := List (Text × Value)

namespace Entries

def find? (key : Text) : Entries → Option Value
  | [] => none
  | (k, v) :: rest => if k = key then some v else find? key rest

def set (key : Text) (value : Value) : Entries → Entries
  | [] => [(key, value)]
  | (k, v) :: rest => if k = key then (k, value) :: rest else (k, v) :: set key value rest

end Entries

mutual

/-- Whether all numbers in a value can be represented: integers in 128 bits, signed or unsigned, and
numbers with a fraction as floating-point numbers. -/
def Value.isRepresentable : Value → Bool
  | .integer i => -2 ^ 127 ≤ i && i < 2 ^ 128
  | .float inRange => inRange
  | .string _ | .boolean _ | .dateTime => true
  | .array _ items => areRepresentable items
  | .table _ entries => entriesRepresentable entries

def areRepresentable : List Value → Bool
  | [] => true
  | v :: rest => v.isRepresentable && areRepresentable rest

def entriesRepresentable : List (Text × Value) → Bool
  | [] => true
  | (_, v) :: rest => v.isRepresentable && entriesRepresentable rest

end

end Reroute.Toml
