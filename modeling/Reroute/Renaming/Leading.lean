import Reroute.Text

set_option autoImplicit false

namespace Reroute

structure Leading where
  source : Text
  target : Text
  deriving DecidableEq, Repr

def Leading.replacement? (r : Leading) (path : Text) : Option Text :=
  match Text.dropPrefix? r.source path with
  | some rest => some (r.target ++ rest)
  | none =>
    if path = Text.trimSlashes r.source then some (Text.trimSlashes r.target) else none

end Reroute
