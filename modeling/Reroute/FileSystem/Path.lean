import Reroute.Path.Lexical

set_option autoImplicit false

namespace Reroute.FilePath

inductive Anchor where
  | root
  | here
  | none
  deriving DecidableEq, Repr

namespace Anchor

def text : Anchor → Text
  | .root => ['/']
  | .here => ['.']
  | .none => []

end Anchor

def splitAnchor (p : Text) : Anchor × Text :=
  match p with
  | '/' :: body => (.root, body)
  | ['.'] => (.here, [])
  | '.' :: '/' :: body => (.here, '/' :: body)
  | _ => (.none, p)

def names (p : Text) : List Text :=
  (Path.segments (splitAnchor p).2).filter fun s => !Path.isBlank s

/-- Whether two paths are written the same but for what counts for nothing. -/
def same (p q : Text) : Bool :=
  (splitAnchor p).1 == (splitAnchor q).1 && names p == names q

def parent? (p : Text) : Option Text :=
  let (anchor, body) := splitAnchor p
  match (Path.segments body).reverse.dropWhile Path.isBlank with
  | [] => if anchor = .here then some [] else none
  | _ :: before =>
    some (anchor.text ++ Text.join '/' (before.dropWhile Path.isBlank).reverse)

/-- A path and its parents, the nearest first. Each is shorter than the one before it. -/
def withParents (p : Text) : List Text :=
  go (p.length + 1) p
where
  go : Nat → Text → List Text
    | 0, _ => []
    | steps + 1, p =>
      match parent? p with
      | some parent => p :: go steps parent
      | none => [p]

def join (dir name : Text) : Text :=
  match dir.getLast? with
  | none => name
  | some '/' => dir ++ name
  | some _ => dir ++ '/' :: name

end Reroute.FilePath
