import Reroute.Text

set_option autoImplicit false

/-!
# Lexical normal forms of paths

Import paths are segments with slashes between them. Their normal form has no empty segment and no
`.`, and a `..` removes the segment before it. Nothing is looked up: the normal form depends on the
text alone.
-/

namespace Reroute.Path

def segments (p : Text) : List Text :=
  Text.split '/' p

def rooted (p : Text) : Bool :=
  p.head? == some '/'

def isBlank (segment : Text) : Bool :=
  segment == [] || segment == ['.']

def up : Text :=
  ['.', '.']

/-- Adds a segment to a normal form whose segments are given last first. A `..` removes the segment
before it. Where there is none, it is dropped below the root and kept in a relative path. -/
def push (atRoot : Bool) (stack : List Text) (segment : Text) : List Text :=
  if isBlank segment then stack
  else if segment = up then
    match stack with
    | last :: below =>
      if last = up then (if atRoot then stack else segment :: stack) else below
    | [] => if atRoot then [] else [segment]
  else segment :: stack

def stack (p : Text) : List Text :=
  (segments p).foldl (push (rooted p)) []

/-- The normal form. The relative path that stays where it is is written `.`. -/
def clean (p : Text) : Text :=
  let joined := Text.join '/' (stack p).reverse
  if rooted p then '/' :: joined
  else if joined.isEmpty then ['.']
  else joined

end Reroute.Path
