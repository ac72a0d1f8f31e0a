import Reroute.Diagnostic.Basic

set_option autoImplicit false

namespace Reroute

inductive StyleChange where
  | boldOn
  | redOn
  | redOff
  | allOff
  deriving DecidableEq, Repr

/-- Each sequence is the escape character, `[`, a number and `m`. -/
def StyleChange.sequence : StyleChange → Text
  | .boldOn => ['\x1b', '[', '1', 'm']
  | .redOn => ['\x1b', '[', '3', '1', 'm']
  | .redOff => ['\x1b', '[', '3', '9', 'm']
  | .allOff => ['\x1b', '[', '0', 'm']

namespace Segment

def bold (t : Text) : Text :=
  StyleChange.sequence .boldOn ++ t ++ StyleChange.sequence .allOff

def red (t : Text) : Text :=
  StyleChange.sequence .redOn ++ t ++ StyleChange.sequence .redOff

def styled (s : Segment) : Text :=
  match s.kind with
  | .text => bold s.text
  | .control | .separator => s.text
  | .marked => bold (red s.text)
  | .markedControl | .filler => red s.text

end Segment

def Diagnostic.ansi (d : Diagnostic) : Text :=
  d.segments.flatMap Segment.styled

end Reroute
