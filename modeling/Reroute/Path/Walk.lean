import Reroute.Path.Lexical

set_option autoImplicit false

namespace Reroute.Path

/-- One step of a walk: empty segments and `.` stay, `..` goes up if it can, any other segment goes
down. -/
def walkStep (stack : List Text) (segment : Text) : List Text :=
  if isBlank segment then stack
  else if segment = up then stack.tail
  else segment :: stack

def walk (p : Text) (start : List Text) : List Text :=
  (segments p).foldl walkStep (if rooted p then [] else start)

/-- How far a list of segments ends below its start, if it never climbs above it. -/
def depthFrom : Nat → List Text → Option Nat
  | depth, [] => some depth
  | depth, segment :: rest =>
    if isBlank segment then depthFrom depth rest
    else if segment = up then
      match depth with
      | 0 => none
      | depth + 1 => depthFrom depth rest
    else depthFrom (depth + 1) rest

/-- A remainder none of whose `..` segments climbs out of the place where it starts. -/
def StaysBelow (p : Text) : Prop :=
  (depthFrom 0 (segments p)).isSome = true

end Reroute.Path
