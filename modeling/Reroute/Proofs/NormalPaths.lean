import Reroute.Proofs.CleanPaths

set_option autoImplicit false

namespace Reroute.Path

structure IsName (s : Text) : Prop where
  not_blank : ¬ isBlank s = true
  ne_up : s ≠ up
  no_slash : '/' ∉ s

/-- A stack in normal form, last segment first. -/
inductive NormalStack (atRoot : Bool) : List Text → Prop where
  | ups (n : Nat) (h : atRoot = true → n = 0) : NormalStack atRoot (List.replicate n up)
  | name {s : Text} {st : List Text} (hs : IsName s) (h : NormalStack atRoot st) :
      NormalStack atRoot (s :: st)

theorem NormalStack.nil (atRoot : Bool) : NormalStack atRoot [] :=
  .ups 0 fun _ => rfl

theorem IsName.push {s : Text} (h : IsName s) (atRoot : Bool) (st : List Text) :
    push atRoot st s = s :: st :=
  push_plain atRoot st h.not_blank h.ne_up

theorem foldl_push_names {segs : List Text} (h : ∀ s ∈ segs, IsName s) (atRoot : Bool)
    (st : List Text) : segs.foldl (push atRoot) st = segs.reverse ++ st := by
  induction segs generalizing st with
  | nil => rfl
  | cons s segs ih =>
    obtain ⟨hs, hsegs⟩ := List.forall_mem_cons.1 h
    rw [List.foldl_cons, hs.push, ih hsegs, List.reverse_cons, List.append_assoc]
    rfl

theorem foldl_push_replicate_nil (atRoot : Bool) (st : List Text) (n : Nat) :
    (List.replicate n []).foldl (push atRoot) st = st := by
  induction n with
  | zero => rfl
  | succ n ih =>
    rw [List.replicate_succ, List.foldl_cons, push_blank atRoot st rfl]
    exact ih

theorem push_up_replicate (n : Nat) :
    push false (List.replicate n up) up = List.replicate (n + 1) up := by
  cases n with
  | zero => rfl
  | succ n => exact push_up_up false _

theorem NormalStack.push {atRoot : Bool} {st : List Text} (h : NormalStack atRoot st) {s : Text}
    (hslash : '/' ∉ s) : NormalStack atRoot (push atRoot st s) := by
  by_cases hblank : isBlank s = true
  · rw [push_blank _ _ hblank]
    exact h
  by_cases hup : s = up
  · subst hup
    cases h with
    | ups n hn =>
      -- There is nothing to remove: the `..` is dropped at the root and kept elsewhere.
      cases atRoot with
      | true =>
        obtain rfl := hn rfl
        exact .nil true
      | false =>
        rw [push_up_replicate]
        exact .ups (n + 1) (by simp)
    | name hs hst =>
      rw [push_up_cons _ hs.ne_up]
      exact hst
  · have hname : IsName s := ⟨hblank, hup, hslash⟩
    rw [hname.push]
    exact .name hname h

theorem NormalStack.foldl_push {atRoot : Bool} {st : List Text} (h : NormalStack atRoot st)
    {segs : List Text} (hslash : ∀ s ∈ segs, '/' ∉ s) :
    NormalStack atRoot (segs.foldl (Path.push atRoot) st) := by
  induction segs generalizing st with
  | nil => exact h
  | cons s segs ih =>
    obtain ⟨hs, hsegs⟩ := List.forall_mem_cons.1 hslash
    exact ih (h.push hs) hsegs

theorem normalStack_stack (p : Text) : NormalStack (rooted p) (stack p) :=
  (NormalStack.nil _).foldl_push fun _ hs => slash_not_mem_of_mem_segments hs

theorem NormalStack.of_cons {atRoot : Bool} {st : List Text} {s : Text}
    (h : NormalStack atRoot (s :: st)) :
    NormalStack atRoot st ∧ (IsName s ∨ ∀ t ∈ s :: st, t = up) := by
  generalize hcons : s :: st = whole at h
  cases h with
  | ups n hn =>
    cases n with
    | zero => cases hcons
    | succ n =>
      have htail : st = List.replicate n up := (List.cons.inj hcons).2
      refine ⟨?_, .inr fun t ht => List.eq_of_mem_replicate ht⟩
      rw [htail]
      exact .ups n fun hroot => absurd (hn hroot) (Nat.succ_ne_zero n)
  | name hs hst =>
    obtain ⟨rfl, rfl⟩ := List.cons.inj hcons
    exact ⟨hst, .inl hs⟩

theorem NormalStack.of_append {atRoot : Bool} {top st : List Text}
    (h : NormalStack atRoot (top ++ st)) : NormalStack atRoot st := by
  induction top with
  | nil => exact h
  | cons s top ih => exact ih h.of_cons.1

theorem NormalStack.isName_of_mem {atRoot : Bool} {top st : List Text} {s : Text}
    (h : NormalStack atRoot (top ++ s :: st)) (hs : s ≠ up) : ∀ t ∈ top, IsName t := by
  induction top with
  | nil => simp
  | cons t top ih =>
    obtain ⟨hrest, hname | hups⟩ := NormalStack.of_cons h
    · exact List.forall_mem_cons.2 ⟨hname, ih hrest⟩
    · exact absurd (hups s (by simp)) hs

theorem NormalStack.not_blank {atRoot : Bool} {st : List Text} (h : NormalStack atRoot st) :
    ∀ s ∈ st, ¬ isBlank s = true := by
  induction h with
  | ups n _ =>
    intro s hs
    rw [List.eq_of_mem_replicate hs]
    decide
  | name hs _ ih => exact List.forall_mem_cons.2 ⟨hs.not_blank, ih⟩

theorem NormalStack.no_slash {atRoot : Bool} {st : List Text} (h : NormalStack atRoot st) :
    ∀ s ∈ st, '/' ∉ s := by
  induction h with
  | ups n _ =>
    intro s hs
    rw [List.eq_of_mem_replicate hs]
    decide
  | name hs _ ih => exact List.forall_mem_cons.2 ⟨hs.no_slash, ih⟩

theorem foldl_push_replicate_up (n : Nat) :
    (List.replicate n up).foldl (push false) [] = List.replicate n up := by
  induction n with
  | zero => rfl
  | succ n ih =>
    rw [List.replicate_succ', List.foldl_append, ih, List.foldl_cons, List.foldl_nil,
      push_up_replicate, List.replicate_succ']

/-- Nothing of a stack in normal form is lost when its segments are pushed again. -/
theorem NormalStack.foldl_push_reverse {atRoot : Bool} {st : List Text}
    (h : NormalStack atRoot st) : st.reverse.foldl (Path.push atRoot) [] = st := by
  induction h with
  | ups n hn =>
    rw [List.reverse_replicate]
    cases atRoot with
    | true =>
      obtain rfl := hn rfl
      rfl
    | false => exact foldl_push_replicate_up n
  | name hs _ ih =>
    rw [List.reverse_cons, List.foldl_append, ih, List.foldl_cons, List.foldl_nil, hs.push]

def written (atRoot : Bool) (st : List Text) : Text :=
  if atRoot then '/' :: Text.join '/' st.reverse
  else if st = [] then ['.'] else Text.join '/' st.reverse

theorem clean_eq_written (p : Text) : clean p = written (rooted p) (stack p) := by
  cases h : rooted p with
  | true =>
    obtain ⟨rest, rfl⟩ := exists_of_rooted h
    rw [clean_slash, stack, h, segments_slash]
    rfl
  | false =>
    rw [clean_relative h, stack, h]
    rfl

theorem written_ne_nil {atRoot : Bool} {st : List Text} (h : NormalStack atRoot st) :
    written atRoot st ≠ [] := by
  cases atRoot with
  | true => simp [written]
  | false =>
    by_cases hst : st = []
    · simp [written, hst]
    · simp only [written, hst, if_false, Bool.false_eq_true]
      refine Text.join_ne_nil (by simpa using hst) fun hmem => ?_
      exact h.not_blank _ (List.mem_reverse.1 hmem) rfl

theorem segments_written {atRoot : Bool} {st : List Text} (h : NormalStack atRoot st)
    (hst : st ≠ []) :
    segments (written atRoot st) = (if atRoot then [[]] else []) ++ st.reverse := by
  have hjoin : segments (Text.join '/' st.reverse) = st.reverse :=
    Text.split_join (by simpa using hst) fun s hs => h.no_slash s (List.mem_reverse.1 hs)
  cases atRoot with
  | true =>
    change segments ('/' :: Text.join '/' st.reverse) = _
    rw [segments_slash, hjoin]
    rfl
  | false =>
    rw [written, if_neg Bool.false_ne_true, if_neg hst, hjoin]
    rfl

theorem segments_injective : Function.Injective segments := by
  intro p q h
  have hjoin := congrArg (Text.join '/') h
  rwa [join_segments, join_segments] at hjoin

theorem rooted_eq_true_iff {p : Text} : rooted p = true ↔ ∃ segs, segs ≠ [] ∧
    segments p = [] :: segs := by
  constructor
  · intro h
    obtain ⟨rest, rfl⟩ := exists_of_rooted h
    exact ⟨_, segments_ne_nil rest, segments_slash rest⟩
  · rintro ⟨segs, hsegs, hp⟩
    obtain ⟨next, segs, rfl⟩ := List.exists_cons_of_ne_nil hsegs
    rw [← join_segments p, hp]
    rfl

theorem rooted_written {atRoot : Bool} {st : List Text} (h : NormalStack atRoot st) :
    rooted (written atRoot st) = atRoot := by
  cases atRoot with
  | true => rfl
  | false =>
    by_cases hst : st = []
    · subst hst
      rfl
    · rw [Bool.eq_false_iff]
      intro hrooted
      obtain ⟨segs, -, hsegs⟩ := rooted_eq_true_iff.1 hrooted
      rw [segments_written h hst] at hsegs
      have hmem : [] ∈ st.reverse := by
        rw [show st.reverse = [] :: segs from hsegs]
        exact List.mem_cons_self
      exact h.not_blank _ (List.mem_reverse.1 hmem) rfl

theorem stack_written {atRoot : Bool} {st : List Text} (h : NormalStack atRoot st) :
    stack (written atRoot st) = st := by
  rw [stack, rooted_written h]
  by_cases hst : st = []
  · subst hst
    cases atRoot <;> rfl
  · rw [segments_written h hst, List.foldl_append]
    cases atRoot <;> exact h.foldl_push_reverse

theorem clean_written {atRoot : Bool} {st : List Text} (h : NormalStack atRoot st) :
    clean (written atRoot st) = written atRoot st := by
  rw [clean_eq_written, rooted_written h, stack_written h]

theorem rooted_clean (p : Text) : rooted (clean p) = rooted p := by
  rw [clean_eq_written, rooted_written (normalStack_stack p)]

theorem stack_clean (p : Text) : stack (clean p) = stack p := by
  rw [clean_eq_written, stack_written (normalStack_stack p)]

theorem clean_idem (p : Text) : clean (clean p) = clean p := by
  rw [clean_eq_written p]
  exact clean_written (normalStack_stack p)

theorem NormalStack.eq_append_of_segments {atRoot : Bool} {st : List Text}
    (h : NormalStack atRoot st) (hst : st ≠ []) {front back : List Text} (hfront : front ≠ [])
    (hsegs : segments (written atRoot st) = front ++ back) :
    st = back.reverse ++ front.foldl (Path.push atRoot) [] := by
  rw [segments_written h hst] at hsegs
  -- The empty segment in front of a rooted path pushes nothing.
  obtain ⟨kept, hfold, hkept⟩ : ∃ kept, front.foldl (Path.push atRoot) [] =
      kept.foldl (Path.push atRoot) [] ∧ st.reverse = kept ++ back := by
    cases atRoot with
    | false => exact ⟨front, rfl, hsegs⟩
    | true =>
      obtain ⟨s, kept, rfl⟩ := List.exists_cons_of_ne_nil hfront
      obtain ⟨rfl, hkept⟩ := List.cons.inj (show [] :: st.reverse = s :: (kept ++ back) from hsegs)
      exact ⟨kept, rfl, hkept⟩
  have hst : st = back.reverse ++ kept.reverse := by
    rw [← List.reverse_append, ← hkept, List.reverse_reverse]
  rw [hst] at h
  have hnormal := h.of_append.foldl_push_reverse
  rw [List.reverse_reverse] at hnormal
  rw [hfold, hnormal]
  exact hst

theorem rooted_append {p : Text} (hp : p ≠ []) (q : Text) : rooted (p ++ q) = rooted p := by
  obtain ⟨c, p, rfl⟩ := List.exists_cons_of_ne_nil hp
  rfl

theorem stack_append_slash {p : Text} (hp : p ≠ []) (q : Text) :
    stack (p ++ '/' :: q) = (segments q).foldl (push (rooted p)) (stack p) := by
  rw [stack, rooted_append hp, segments_append_slash, List.foldl_append]
  rfl

theorem clean_append_slash {p : Text} (hp : p ≠ []) (q : Text) : clean (p ++ '/' :: q) =
    written (rooted p) ((segments q).foldl (push (rooted p)) (stack p)) := by
  rw [clean_eq_written, rooted_append hp, stack_append_slash hp]

theorem written_append {atRoot : Bool} {top st : List Text} (htop : top ≠ []) (hst : st ≠ []) :
    written atRoot (top ++ st) = written atRoot st ++ '/' :: Text.join '/' top.reverse := by
  have hjoin : Text.join '/' (top ++ st).reverse =
      Text.join '/' st.reverse ++ '/' :: Text.join '/' top.reverse := by
    rw [List.reverse_append]
    exact Text.join_append (by simpa using hst) (by simpa using htop)
  cases atRoot with
  | true => exact congrArg ('/' :: ·) hjoin
  | false =>
    have hboth : top ++ st ≠ [] := by simp [htop]
    simp only [written, hst, hboth, hjoin, if_false, Bool.false_eq_true]

theorem written_nil_ne {atRoot : Bool} {p : Text} (hp : p ≠ []) (q : Text) :
    written atRoot [] ≠ p ++ '/' :: q := by
  intro h
  have hlen := congrArg List.length h
  have hpos := List.length_pos_of_ne_nil hp
  rw [List.length_append, List.length_cons] at hlen
  have hone : (written atRoot []).length = 1 := by
    cases atRoot <;> rfl
  omega

theorem clean_name {s : Text} (h : IsName s) : clean s = s :=
  clean_written (.name h (.nil false))

theorem stack_append_slash_of_clean {p rest : Text} (hp : p ≠ [])
    (h : clean (p ++ '/' :: rest) = p ++ '/' :: rest) :
    stack (p ++ '/' :: rest) ≠ [] ∧
      stack (p ++ '/' :: rest) = (segments rest).reverse ++ stack p := by
  have hnormal := normalStack_stack (p ++ '/' :: rest)
  have hwritten := clean_eq_written (p ++ '/' :: rest)
  rw [h, rooted_append hp] at hwritten
  rw [rooted_append hp] at hnormal
  have hne : stack (p ++ '/' :: rest) ≠ [] := by
    intro hempty
    rw [hempty] at hwritten
    exact written_nil_ne hp rest hwritten.symm
  have hsegs := segments_append_slash p rest
  rw [hwritten] at hsegs
  exact ⟨hne, hnormal.eq_append_of_segments hne (segments_ne_nil p) hsegs⟩

/-- The beginning of a path in normal form is in normal form. -/
theorem clean_of_clean_append_slash {p rest : Text} (hp : p ≠ [])
    (h : clean (p ++ '/' :: rest) = p ++ '/' :: rest) : stack p ≠ [] ∧ clean p = p := by
  obtain ⟨hne, hstack⟩ := stack_append_slash_of_clean hp h
  have hsegs := segments_written (normalStack_stack (p ++ '/' :: rest)) hne
  rw [← clean_eq_written, h, segments_append_slash, rooted_append hp, hstack,
    List.reverse_append, List.reverse_reverse, ← List.append_assoc] at hsegs
  have hfront := List.append_cancel_right hsegs
  have hstackNe : stack p ≠ [] := by
    intro hempty
    rw [hempty] at hfront
    apply hp
    rw [← join_segments p, hfront]
    cases rooted p <;> rfl
  refine ⟨hstackNe, ?_⟩
  rw [clean_eq_written]
  apply segments_injective
  rw [segments_written (normalStack_stack p) hstackNe, hfront]

theorem getLast?_segments_of_clean {p : Text} (h : clean p = p) (hstack : stack p ≠ []) :
    (segments p).getLast? = (stack p).head? := by
  have hsegs := segments_written (normalStack_stack p) hstack
  rw [← clean_eq_written, h] at hsegs
  rw [hsegs, List.getLast?_append_of_ne_nil _ (by simpa using hstack), List.getLast?_reverse]

theorem trimSlashes_of_clean {p : Text} (h : clean p = p) (hstack : stack p ≠ []) :
    Text.trimSlashes p = p := by
  obtain ⟨n, hn⟩ := Text.eq_trimSlashes_append p
  cases n with
  | zero => simpa using hn.symm
  | succ n =>
    have hlast := getLast?_segments_of_clean h hstack
    rw [List.replicate_succ', ← List.append_assoc] at hn
    rw [hn, segments_append_slash, ← hn,
      List.getLast?_append_of_ne_nil _ (segments_ne_nil [])] at hlast
    have hmem : [] ∈ stack p := List.mem_of_head? hlast.symm
    exact absurd rfl ((normalStack_stack p).not_blank _ hmem)

theorem stack_ne_nil_of_clean {p : Text} (h : clean p = p) (hdot : p ≠ ['.'])
    (htrim : Text.trimSlashes p = p) : stack p ≠ [] := by
  intro hempty
  rw [clean_eq_written, hempty] at h
  cases hroot : rooted p with
  | true =>
    rw [hroot] at h
    rw [← h] at htrim
    exact absurd htrim (by decide)
  | false =>
    rw [hroot] at h
    exact hdot h.symm

end Reroute.Path
