import Reroute.FileSystem.Path
import Reroute.Proofs.CleanPaths

set_option autoImplicit false

namespace Reroute.FilePath

theorem text_append_body (p : Text) : (splitAnchor p).1.text ++ (splitAnchor p).2 = p := by
  unfold splitAnchor
  split <;> rfl

theorem splitAnchor_text (a : Anchor) : splitAnchor a.text = (a, []) := by
  cases a <;> rfl

theorem splitAnchor_append_slash {p : Text} (hp : p ≠ []) (rest : Text) :
    splitAnchor (p ++ '/' :: rest) = ((splitAnchor p).1, (splitAnchor p).2 ++ '/' :: rest) := by
  obtain ⟨c, body, rfl⟩ := List.exists_cons_of_ne_nil hp
  by_cases hslash : c = '/'
  · subst hslash
    rfl
  by_cases hdot : c = '.'
  · subst hdot
    cases body with
    | nil => rfl
    | cons d body =>
      by_cases hd : d = '/'
      · subst hd
        rfl
      · simp [splitAnchor, hd]
  · simp [splitAnchor, hslash, hdot]

theorem filter_dropWhile_isBlank (l : List Text) :
    (l.dropWhile Path.isBlank).filter (fun s => !Path.isBlank s) =
      l.filter fun s => !Path.isBlank s := by
  induction l with
  | nil => rfl
  | cons s l ih =>
    by_cases hs : Path.isBlank s = true
    · rw [List.dropWhile_cons_of_pos hs, ih, List.filter_cons_of_neg (by simp [hs])]
    · rw [List.dropWhile_cons_of_neg hs]

/-- The segments in front of the last name of a path, as far as the last name among them. -/
structure Front (p : Text) (front : List Text) : Prop where
  rest : ∃ rest, rest ≠ [] ∧ Path.segments (splitAnchor p).2 = front ++ rest
  last : ∀ s ∈ front.getLast?, ¬ Path.isBlank s = true

theorem Front.slash_not_mem {p : Text} {front : List Text} (h : Front p front) :
    ∀ s ∈ front, '/' ∉ s := by
  obtain ⟨rest, -, hsegs⟩ := h.rest
  intro s hs
  exact Path.slash_not_mem_of_mem_segments (hsegs ▸ List.mem_append_left rest hs)

theorem Front.join_ne_nil {p : Text} {front : List Text} (h : Front p front) (hne : front ≠ []) :
    Text.join '/' front ≠ [] := by
  intro hjoin
  have hsegs := Text.split_join hne h.slash_not_mem
  rw [hjoin, Text.split_nil] at hsegs
  subst hsegs
  exact h.last [] rfl rfl

theorem Front.splitAnchor_eq {p : Text} {front : List Text} (h : Front p front) :
    splitAnchor ((splitAnchor p).1.text ++ Text.join '/' front) =
      ((splitAnchor p).1, Text.join '/' front) := by
  by_cases hne : front = []
  · subst hne
    rw [Text.join, List.append_nil]
    exact splitAnchor_text _
  obtain ⟨rest, hrest, hsegs⟩ := h.rest
  have hbody : (splitAnchor p).2 = Text.join '/' front ++ '/' :: Text.join '/' rest := by
    rw [← Text.join_append hne hrest, ← hsegs]
    exact (Text.join_split '/' _).symm
  -- The path goes on behind its front with a slash, so both have the same anchor.
  have hsplit := splitAnchor_append_slash
    (p := (splitAnchor p).1.text ++ Text.join '/' front)
    (by simp [h.join_ne_nil hne]) (Text.join '/' rest)
  rw [List.append_assoc, ← hbody, text_append_body] at hsplit
  rw [Prod.ext_iff] at hsplit
  obtain ⟨hanchor, hrest⟩ := hsplit
  rw [hbody] at hrest
  exact Prod.ext hanchor.symm (List.append_cancel_right hrest).symm

theorem Front.names_eq {p : Text} {front : List Text} (h : Front p front) :
    names ((splitAnchor p).1.text ++ Text.join '/' front) =
      front.filter fun s => !Path.isBlank s := by
  rw [names, h.splitAnchor_eq]
  by_cases hne : front = []
  · subst hne
    rfl
  · exact congrArg _ (Text.split_join hne h.slash_not_mem)

/-- A parent has all names but the last, behind the same anchor. Only a `.` has no name to lose. -/
theorem names_of_parent? {p q : Text} (h : parent? p = some q) :
    ((splitAnchor p).1 = .here ∧ names p = [] ∧ q = []) ∨
    ((splitAnchor q).1 = (splitAnchor p).1 ∧ ∃ last, names p = names q ++ [last]) := by
  have hnames : names p = (((Path.segments (splitAnchor p).2).reverse.dropWhile
      Path.isBlank).filter fun s => !Path.isBlank s).reverse := by
    rw [filter_dropWhile_isBlank, ← List.filter_reverse, List.reverse_reverse]
    rfl
  have hsplit := List.takeWhile_append_dropWhile (p := Path.isBlank)
    (l := (Path.segments (splitAnchor p).2).reverse)
  simp only [parent?] at h
  cases hback : (Path.segments (splitAnchor p).2).reverse.dropWhile Path.isBlank with
  | nil =>
    rw [hback] at h hnames
    simp only [Option.ite_none_right_eq_some, Option.some.injEq] at h
    exact .inl ⟨h.1, hnames, h.2.symm⟩
  | cons last before =>
    rw [hback] at h hnames hsplit
    obtain rfl := Option.some.inj h
    have hlast : ¬ Path.isBlank last = true := by
      simpa [hback] using List.head_dropWhile_not Path.isBlank
        (l := (Path.segments (splitAnchor p).2).reverse) (by simp [hback])
    have hfront : Front p (before.dropWhile Path.isBlank).reverse := by
      constructor
      · have hbefore := List.takeWhile_append_dropWhile (p := Path.isBlank) (l := before)
        rw [← hbefore] at hsplit
        have hsegs := congrArg List.reverse hsplit
        rw [List.reverse_reverse] at hsegs
        simp only [List.reverse_append, List.reverse_cons, List.append_assoc] at hsegs
        exact ⟨_, by simp, hsegs.symm⟩
      · intro s hs
        rw [List.getLast?_reverse, Option.mem_def] at hs
        simpa [hs] using List.head?_dropWhile_not Path.isBlank before
    refine .inr ⟨(Prod.ext_iff.1 hfront.splitAnchor_eq).1, last, ?_⟩
    rw [hfront.names_eq, List.filter_reverse, filter_dropWhile_isBlank, hnames,
      List.filter_cons_of_pos (by simp [hlast]), List.reverse_cons]

def depth (p : Text) : Nat :=
  (names p).length + if (splitAnchor p).1 = .here then 1 else 0

theorem depth_of_parent? {p q : Text} (h : parent? p = some q) : depth p = depth q + 1 := by
  rcases names_of_parent? h with ⟨hanchor, hnames, rfl⟩ | ⟨hanchor, last, hnames⟩
  · rw [depth, hanchor, hnames]
    rfl
  · rw [depth, depth, hanchor, hnames, List.length_append, List.length_singleton]
    omega

theorem length_names_split_le (t : Text) :
    ((Text.split '/' t).filter fun s => !Path.isBlank s).length ≤ t.length := by
  induction t with
  | nil => exact Nat.zero_le _
  | cons c t ih =>
    by_cases hc : c = '/'
    · subst hc
      rw [Text.split_cons_sep, List.filter_cons_of_neg (by decide)]
      exact ih.trans (Nat.le_succ _)
    · cases hsplit : Text.split '/' t with
      | nil => exact absurd hsplit (Text.split_ne_nil '/' t)
      | cons first rest =>
        simp only [Text.split, hc, if_false, hsplit]
        rw [hsplit, List.filter_cons] at ih
        rw [List.filter_cons]
        split_ifs at ih ⊢ <;> simp only [List.length_cons] at ih ⊢ <;> omega

theorem depth_le_length (p : Text) : depth p ≤ p.length := by
  have hnames : (names p).length ≤ (splitAnchor p).2.length := length_names_split_le _
  have hlen := congrArg List.length (text_append_body p)
  rw [List.length_append] at hlen
  rw [depth]
  split_ifs with hanchor
  · rw [hanchor, Anchor.text, List.length_singleton] at hlen
    omega
  · omega

/-- A path, its parent, the parent of that, and so on, up to a path without a parent. -/
inductive WayUp : Text → List Text → Prop where
  | top {p : Text} (h : parent? p = none) : WayUp p [p]
  | next {p q : Text} {above : List Text} (h : parent? p = some q) (rest : WayUp q above) :
      WayUp p (p :: above)

theorem wayUp_go {p : Text} {steps : Nat} (h : depth p < steps) :
    WayUp p (withParents.go steps p) := by
  induction steps generalizing p with
  | zero => exact absurd h (Nat.not_lt_zero _)
  | succ steps ih =>
    rw [withParents.go]
    cases hparent : parent? p with
    | none => exact .top hparent
    | some q =>
      have hdepth := depth_of_parent? hparent
      exact .next hparent (ih (by omega))

theorem wayUp_withParents (p : Text) : WayUp p (withParents p) :=
  wayUp_go (Nat.lt_succ_of_le (depth_le_length p))

theorem WayUp.depth_le {p : Text} {dirs : List Text} (h : WayUp p dirs) :
    ∀ dir ∈ dirs, depth dir ≤ depth p := by
  induction h with
  | top _ => simp
  | next hparent _ ih =>
    have hdepth := depth_of_parent? hparent
    refine List.forall_mem_cons.2 ⟨Nat.le_refl _, fun dir hdir => ?_⟩
    have hle := ih dir hdir
    omega

theorem WayUp.depth_lt {p : Text} {dirs : List Text} (h : WayUp p dirs) :
    dirs.Pairwise fun a b => depth b < depth a := by
  induction h with
  | top _ => exact List.pairwise_singleton _ _
  | next hparent way ih =>
    have hdepth := depth_of_parent? hparent
    refine List.pairwise_cons.2 ⟨fun dir hdir => ?_, ih⟩
    have hle := way.depth_le dir hdir
    omega

theorem splitAnchor_name {name : Text} (hblank : ¬ Path.isBlank name = true)
    (hslash : '/' ∉ name) : splitAnchor name = (.none, name) := by
  unfold splitAnchor
  split
  · exact absurd List.mem_cons_self hslash
  · exact absurd rfl hblank
  · exact absurd (List.mem_cons_of_mem _ List.mem_cons_self) hslash
  · rfl

theorem filter_segments_name {name : Text} (hblank : ¬ Path.isBlank name = true)
    (hslash : '/' ∉ name) :
    ((Path.segments name).filter fun s => !Path.isBlank s) = [name] := by
  rw [Path.segments, Text.split_eq_singleton hslash, List.filter_cons_of_pos (by simp [hblank]),
    List.filter_nil]

theorem names_append_slash {dir : Text} (hdir : dir ≠ []) (rest : Text) :
    names (dir ++ '/' :: rest) =
      names dir ++ (Path.segments rest).filter fun s => !Path.isBlank s := by
  rw [names, splitAnchor_append_slash hdir, Path.segments_append_slash, List.filter_append, names]

theorem join_append_slash (front name : Text) :
    join (front ++ ['/']) name = front ++ '/' :: name := by
  rw [join, List.getLast?_concat]
  exact List.append_assoc front ['/'] name

theorem join_append_singleton (front name : Text) {c : Char} (hc : c ≠ '/') :
    join (front ++ [c]) name = front ++ [c] ++ '/' :: name := by
  rw [join, List.getLast?_concat]
  split
  · contradiction
  · exact absurd (Option.some.inj ‹_›) hc
  · rfl

theorem names_join (dir : Text) {name : Text} (hblank : ¬ Path.isBlank name = true)
    (hslash : '/' ∉ name) :
    (splitAnchor (join dir name)).1 = (splitAnchor dir).1 ∧
      names (join dir name) = names dir ++ [name] := by
  have hname := filter_segments_name hblank hslash
  rcases List.eq_nil_or_concat' dir with rfl | ⟨front, c, rfl⟩
  · have hsplit := splitAnchor_name hblank hslash
    rw [join, List.getLast?_nil, names, hsplit]
    exact ⟨rfl, hname⟩
  by_cases hc : c = '/'
  · subst hc
    rw [join_append_slash]
    by_cases hfront : front = []
    · subst hfront
      exact ⟨rfl, hname⟩
    · rw [splitAnchor_append_slash hfront, splitAnchor_append_slash hfront,
        names_append_slash hfront, names_append_slash hfront, hname]
      exact ⟨rfl, by simp [Path.segments, Path.isBlank]⟩
  · have hdir : front ++ [c] ≠ [] := by simp
    rw [join_append_singleton front name hc, splitAnchor_append_slash hdir,
      names_append_slash hdir, hname]
    exact ⟨rfl, rfl⟩

theorem depth_join (dir : Text) {name : Text} (hblank : ¬ Path.isBlank name = true)
    (hslash : '/' ∉ name) : depth (join dir name) = depth dir + 1 := by
  obtain ⟨hanchor, hnames⟩ := names_join dir hblank hslash
  rw [depth, depth, hanchor, hnames, List.length_append, List.length_singleton]
  omega

theorem same_self (p : Text) : same p p = true := by
  simp [same]

theorem depth_eq_of_same {p q : Text} (h : same p q = true) : depth p = depth q := by
  simp only [same, Bool.and_eq_true, beq_iff_eq] at h
  rw [depth, depth, h.1, h.2]

end Reroute.FilePath
