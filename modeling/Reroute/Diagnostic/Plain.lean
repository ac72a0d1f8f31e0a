import Reroute.Diagnostic.Basic

set_option autoImplicit false

namespace Reroute.Diagnostic

def shownLine (d : Diagnostic) : Text :=
  d.segments.flatMap Segment.text

/-- One mark per shown character: a caret where the diagnostic points, else a space. -/
def caretLine (d : Diagnostic) : Text :=
  d.segments.flatMap fun s => List.replicate s.text.length (if s.kind.isMarked then '^' else ' ')

/-- The shown line and the caret line without trailing spaces, or the shown line alone if the
diagnostic points at nothing. -/
def plain (d : Diagnostic) : Text :=
  match Text.trimEndWhere (· == ' ') d.caretLine with
  | [] => d.shownLine
  | carets => d.shownLine ++ '\n' :: carets

end Reroute.Diagnostic
