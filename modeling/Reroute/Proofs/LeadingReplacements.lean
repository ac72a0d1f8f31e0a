import Reroute.Proofs.Pieces
import Reroute.Renaming.Leading

set_option autoImplicit false

namespace Reroute.Leading

variable {r : Leading} {path result : Text}

def inverse (r : Leading) : Leading :=
  ⟨r.target, r.source⟩

theorem replacement?_append (r : Leading) (rest : Text) :
    r.replacement? (r.source ++ rest) = some (r.target ++ rest) := by
  have hdrop : Text.dropPrefix? r.source (r.source ++ rest) = some rest :=
    Text.dropPrefix?_eq_some_iff.2 rfl
  rw [replacement?, hdrop]

theorem replacement?_of_not_append (h : ∀ rest, path ≠ r.source ++ rest) :
    r.replacement? path =
      if path = Text.trimSlashes r.source then some (Text.trimSlashes r.target) else none := by
  have hdrop : Text.dropPrefix? r.source path = none := by
    rw [Option.eq_none_iff_forall_ne_some]
    intro rest hrest
    exact h rest (Text.dropPrefix?_eq_some_iff.1 hrest)
  rw [replacement?, hdrop]

theorem replacement?_bare (h : r.source.getLast? = some '/') :
    r.replacement? (Text.trimSlashes r.source) = some (Text.trimSlashes r.target) := by
  rw [replacement?_of_not_append (Text.trimSlashes_ne_append h), if_pos rfl]

theorem replacement?_eq_some_iff :
    r.replacement? path = some result ↔
      (∃ rest, path = r.source ++ rest ∧ result = r.target ++ rest) ∨
        (r.source.getLast? = some '/' ∧ path = Text.trimSlashes r.source ∧
          result = Text.trimSlashes r.target) := by
  constructor
  · intro h
    by_cases hbegins : ∃ rest, path = r.source ++ rest
    · obtain ⟨rest, rfl⟩ := hbegins
      rw [replacement?_append] at h
      exact .inl ⟨rest, rfl, (Option.some.inj h).symm⟩
    · rw [not_exists] at hbegins
      rw [replacement?_of_not_append hbegins] at h
      split_ifs at h with hbare
      refine .inr ⟨?_, hbare, (Option.some.inj h).symm⟩
      -- Without a slash at the end nothing is trimmed, and the path begins with all of the source.
      by_contra hlast
      rw [Text.trimSlashes_eq_self hlast] at hbare
      exact hbegins [] (by rw [hbare, List.append_nil])
  · rintro (⟨rest, rfl, rfl⟩ | ⟨hlast, rfl, rfl⟩)
    · exact replacement?_append r rest
    · exact replacement?_bare hlast

/-- The bare directory that comes back with a slash, if the target has none that could be trimmed. -/
theorem inverse_adds_slash (hsource : r.source.getLast? = some '/')
    (htarget : r.target.getLast? ≠ some '/') :
    r.replacement? (Text.trimSlashes r.source) = some r.target ∧
      r.inverse.replacement? r.target = some r.source := by
  constructor
  · rw [replacement?_bare hsource, Text.trimSlashes_eq_self htarget]
  · have hback := replacement?_append r.inverse []
    rw [List.append_nil, List.append_nil] at hback
    exact hback

/-- Whatever a rule replaces can be replaced back, unless the rule is for a directory and its target
is not. -/
theorem undone_by_inverse_iff (r : Leading) :
    (∀ path result, r.replacement? path = some result →
      r.inverse.replacement? result = some path) ↔
    (r.source.getLast? = some '/' → r.target.getLast? = some '/') := by
  constructor
  · intro hundone hsource
    by_contra htarget
    obtain ⟨hthere, hback⟩ := inverse_adds_slash hsource htarget
    have hsame : r.source = Text.trimSlashes r.source :=
      Option.some.inj (hback.symm.trans (hundone _ _ hthere))
    exact Text.getLast?_trimSlashes r.source (hsame ▸ hsource)
  · intro hslash path result h
    rcases replacement?_eq_some_iff.1 h with ⟨rest, rfl, rfl⟩ | ⟨hsource, rfl, rfl⟩
    · exact replacement?_append r.inverse rest
    · have htarget : r.inverse.source.getLast? = some '/' := hslash hsource
      exact replacement?_bare htarget

example : (Leading.mk "gen/".toList "out".toList).replacement? "gen".toList = some "out".toList ∧
    (Leading.mk "out".toList "gen/".toList).replacement? "out".toList = some "gen/".toList := by
  decide

end Reroute.Leading
