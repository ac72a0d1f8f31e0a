import Reroute.Regex.Replace
import Reroute.Renaming.Leading
import Reroute.Renaming.Version

set_option autoImplicit false

namespace Reroute

structure Substitution where
  pattern : Regex
  template : List Regex.Piece

def Substitution.replacement? (s : Substitution) (path : Text) : Option Text :=
  s.pattern.replaceAll? s.template path

inductive Renamer where
  | leading (r : Leading)
  | version (b : VersionBump)
  | substitution (s : Substitution)

inductive PrepareError where
  | version (e : VersionError)
  | pattern (text : Text) (cause : Regex.CompileError)
  deriving DecidableEq, Repr

def PrepareError.message : PrepareError → Text
  | .version (.invalidJump base) =>
    "Version jump for ".toList ++ base ++ " must be positive".toList
  | .version (.invalidSuffix base major) =>
    "Major version suffix v".toList ++ Text.decimal major ++ " in ".toList ++ base ++
      " is not allowed, suffixes start at v2".toList
  | .version (.overflow base jump) =>
    "Version jump of ".toList ++ Text.decimal jump ++ " for ".toList ++ base ++
      " overflows the major version".toList
  | .pattern text _ => "Invalid from regexp for regexp matcher: ".toList ++ text

def PrepareError.cause : PrepareError → List Text
  | .version _ => []
  | .pattern _ cause => [cause.message]

namespace Renamer

def ofRule : Rule → Except PrepareError Renamer
  | .replace source target => .ok (.leading ⟨source, target⟩)
  | .bump base jump =>
    match VersionBump.make base jump with
    | .ok b => .ok (.version b)
    | .error e => .error (.version e)
  | .substitute pattern template =>
    match Regex.compile pattern with
    | .ok r => .ok (.substitution ⟨r, Regex.pieces template⟩)
    | .error cause => .error (.pattern pattern cause)

def replacement? : Renamer → Text → Option Text
  | .leading r, path => r.replacement? path
  | .version b, path => b.replacement? path
  | .substitution s, path => s.replacement? path

end Renamer

end Reroute
