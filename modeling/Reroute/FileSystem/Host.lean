import Reroute.Text

set_option autoImplicit false

namespace Reroute

inductive Entry where
  | file (content : Text)
  | binary
  | directory
  | locked (reason : Text)
  deriving DecidableEq, Repr

namespace Entry

def directoryReason : Text :=
  "Is a directory (os error 21)".toList

def binaryReason : Text :=
  "stream did not contain valid UTF-8".toList

def read : Entry → Except Text Text
  | .file content => .ok content
  | .binary => .error binaryReason
  | .directory => .error directoryReason
  | .locked reason => .error reason

end Entry

abbrev FileSystem := Text → Option Entry

abbrev Environment := Text → Option Text

namespace Environment

/-- The environment with the given bindings. A name stands for what follows it and an equals sign
in the first binding that begins with them; the empty name stands for nothing. -/
def ofBindings (bindings : List (Text × Text)) : Environment := fun name =>
  if name.isEmpty then none
  else
    bindings.findSome? fun (key, value) =>
      Text.dropPrefix? (name ++ ['=']) (key ++ '=' :: value)

end Environment

structure Host where
  files : FileSystem
  environment : Environment
  home : Option Text

end Reroute
