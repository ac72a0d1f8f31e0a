import Reroute.Path.Lexical
import Reroute.Rule.Basic

set_option autoImplicit false

/-!
# Raising the major version of a path

The major version of an import path is its last segment if that is `vN`; a path without such a
segment is at version 1. A `VersionBump` moves a base path and everything below it:

* with base `host/project` and jump 1, `host/project/data` becomes `host/project/v2/data`, and
  `host/project/v3/data` is left alone because it belongs to another major version;
* with base `host/project/v2` and jump 1, `host/project/v2/data` becomes `host/project/v3/data`.
-/

namespace Reroute

namespace Version

def suffixValue? : Text → Option Nat
  | 'v' :: digits =>
    if digits.isEmpty || !digits.all Char.isDigit then none else some (Text.decimalValue digits)
  | _ => none

/-- The major version that a segment declares: a number that is too large declares none. -/
def suffix? (segment : Text) : Option Nat :=
  (suffixValue? segment).filter (· ≤ maxMajor)

def splitLast (p : Text) : Text × Text :=
  let tail := (p.reverse.takeWhile (· != '/')).reverse
  let before := p.take (p.length - tail.length)
  (before.dropLast, tail)

def segment (major : Nat) : Text :=
  'v' :: Text.decimal major

end Version

inductive VersionError where
  | invalidJump (base : Text)
  | invalidSuffix (base : Text) (major : Nat)
  | overflow (base : Text) (jump : Nat)
  deriving DecidableEq, Repr

structure VersionBump where
  base : Text
  head : Text
  /-- The version that the base declares, 0 if it declares none. -/
  current : Nat
  target : Nat
  deriving DecidableEq, Repr

namespace VersionBump

/-- The new version, unless it is too large. A base that declares no version is at version 1. -/
def newMajor? (current jump : Nat) : Option Nat :=
  let major := (if current = 0 then 1 else current) + jump
  if major ≤ maxMajor then some major else none

def headOf (dir : Text) (major : Nat) : Text :=
  if dir.isEmpty then Version.segment major else dir ++ '/' :: Version.segment major

def make (base : Text) (jump : Nat) : Except VersionError VersionBump :=
  if jump = 0 then .error (.invalidJump base)
  else
    let trimmed := Text.trimSlashes base
    let (before, last) := Version.splitLast trimmed
    match Version.suffix? last with
    | some major =>
      if major < 2 then .error (.invalidSuffix trimmed major)
      else ofParts trimmed (Text.trimSlashes before) major
    | none => ofParts trimmed trimmed 0
where
  ofParts (trimmed dir : Text) (current : Nat) : Except VersionError VersionBump :=
    match newMajor? current jump with
    | some target => .ok ⟨trimmed, headOf dir target, current, target⟩
    | none => .error (.overflow trimmed jump)

def declaresMajor (rest : Text) : Bool :=
  match (Path.segments rest).head? with
  | some first => (Version.suffix? first).isSome
  | none => false

/-- The new path, if the path is the base or lies below it. Below a base that declares no version,
another major version is left alone. -/
def replacement? (b : VersionBump) (path : Text) : Option Text :=
  match Text.dropPrefix? (b.base ++ ['/']) path with
  | some rest =>
    if b.current = 0 ∧ declaresMajor rest then none
    else some (Path.clean (b.head ++ '/' :: rest))
  | none => if path = b.base then some b.head else none

end VersionBump

end Reroute
