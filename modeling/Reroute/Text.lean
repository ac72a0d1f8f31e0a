set_option autoImplicit false

namespace Reroute

/-- A text is the list of its characters (Unicode scalar values). -/
abbrev Text := List Char

namespace Text

/-- The pieces between the separators. There is always one piece more than separators. -/
def split (sep : Char) : Text → List Text
  | [] => [[]]
  | c :: t =>
    if c = sep then [] :: split sep t
    else
      match split sep t with
      | [] => [[c]]
      | piece :: pieces => (c :: piece) :: pieces

def join (sep : Char) : List Text → Text
  | [] => []
  | [piece] => piece
  | piece :: next :: pieces => piece ++ sep :: join sep (next :: pieces)

def dropPrefix? : Text → Text → Option Text
  | [], t => some t
  | _ :: _, [] => none
  | p :: ps, c :: t => if p = c then dropPrefix? ps t else none

def trimEndWhere (drop : Char → Bool) (t : Text) : Text :=
  (t.reverse.dropWhile drop).reverse

def trimWhere (drop : Char → Bool) (t : Text) : Text :=
  trimEndWhere drop (t.dropWhile drop)

def trimSlashes (t : Text) : Text :=
  trimEndWhere (· == '/') t

/-- The lines of a text: a line feed ends a line, a carriage return before it belongs to the line
end, and nothing follows a final line feed. -/
def lines (t : Text) : List Text :=
  let pieces := split '\n' t
  let ended := pieces.dropLast.map fun line =>
    match line.reverse with
    | '\r' :: rest => rest.reverse
    | _ => line
  match pieces.getLast? with
  | none | some [] => ended
  | some last => ended ++ [last]

def digitValue (c : Char) : Nat :=
  c.toNat - '0'.toNat

def decimalValue (digits : Text) : Nat :=
  digits.foldl (fun value c => value * 10 + digitValue c) 0

def decimal (n : Nat) : Text :=
  Nat.toDigits 10 n

end Text

def line (t : Text) : Text :=
  t ++ ['\n']

end Reroute
