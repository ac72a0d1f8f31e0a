import Reroute.Text

set_option autoImplicit false

namespace Reroute

structure Style where
  bold : Bool
  red : Bool
  deriving DecidableEq, Repr

structure Cell where
  char : Char
  style : Style
  deriving DecidableEq, Repr

namespace Terminal

def noStyle : Style :=
  ⟨false, false⟩

/-- What is printed of a text, and the styles that are on behind it. An escape character that begins
no known sequence is printed like any other. -/
def print (style : Style) : Text → List Cell × Style
  | '\x1b' :: '[' :: '1' :: 'm' :: t => print { style with bold := true } t
  | '\x1b' :: '[' :: '3' :: '1' :: 'm' :: t => print { style with red := true } t
  | '\x1b' :: '[' :: '3' :: '9' :: 'm' :: t => print { style with red := false } t
  | '\x1b' :: '[' :: '0' :: 'm' :: t => print noStyle t
  | c :: t =>
    let (cells, last) := print style t
    (⟨c, style⟩ :: cells, last)
  | [] => ([], style)

end Terminal

end Reroute
