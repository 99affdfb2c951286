import SpringRoutes.Proofs.Segments
import SpringRoutes.Proofs.TextForms

/-!
# `SpringRoutes.Proofs.NormalForms` — normalising a fragment again

Blanks are trimmed before slashes are. A slash at the end therefore protects the blanks in front of it:
`a /` has the normal form `/a` with a blank after it, and that blank is at the end now. Normalising again
takes it away.

What the second time does is seen on the segments (`segments_normalize`): the last one loses the blanks
at its end, and is lost itself if it has nothing else (`endTrimmed`). Since a normal form determines its
segments (`slashed_injective`), nothing is lost exactly when the last segment does not end with a blank
(`endsBlank`).
-/

namespace SpringRoutes

open Text

namespace RoutePath

/-! ## From normal forms to segments -/

/-- The pieces of a normal form are its segments. -/
theorem filter_splitOn_slashed {ps : List (List Char)} (h : AreSegments ps) :
    (splitOn '/' (slashed ps)).filter (· ≠ []) = ps := by
  induction ps using List.reverseRecOn with
  | nil => rfl
  | append_singleton ps p ih =>
    obtain ⟨hne, hp⟩ := h p (by simp)
    have hps : AreSegments ps := fun q hq => h q (by simp [hq])
    rw [slashed_append, slashed_cons, slashed_nil, List.append_nil, splitOn_append_sep,
      splitOn_of_not_mem hp, List.filter_append, ih hps, List.filter_cons_of_pos (by simpa using hne)]
    rfl

theorem slashed_injective {ps qs : List (List Char)} (hp : AreSegments ps) (hq : AreSegments qs)
    (h : slashed ps = slashed qs) : ps = qs := by
  rw [← filter_splitOn_slashed hp, h, filter_splitOn_slashed hq]

/-- The segments without the blanks at the end of the last one, which goes with them if it has nothing
    else. -/
def endTrimmed (ps : List (List Char)) : List (List Char) :=
  ps.dropLast ++ (ps.getLast?.toList.map trimEnd).filter (· ≠ [])

@[simp] theorem endTrimmed_nil : endTrimmed [] = [] := rfl

theorem endTrimmed_concat (ps : List (List Char)) (p : List Char) :
    endTrimmed (ps ++ [p]) = ps ++ [trimEnd p].filter (· ≠ []) := by
  simp [endTrimmed]

theorem length_endTrimmed_le (ps : List (List Char)) : (endTrimmed ps).length ≤ ps.length := by
  rcases List.eq_nil_or_concat ps with rfl | ⟨qs, p, rfl⟩
  · exact Nat.le_refl 0
  · have hlast := List.length_filter_le (fun p : List Char => decide (p ≠ [])) [trimEnd p]
    rw [List.concat_eq_append, endTrimmed_concat, List.length_append, List.length_append]
    exact Nat.add_le_add_left hlast _

/-- Trimming a normal form trims its last segment. -/
theorem trim_slashed_concat (ps : List (List Char)) (p : List Char) :
    trim (slashed (ps ++ [p])) = slashed ps ++ '/' :: trimEnd p := by
  have hform : slashed (ps ++ [p]) = slashed ps ++ '/' :: p := by simp [slashed_append]
  have hstart : trimStart (slashed (ps ++ [p])) = slashed (ps ++ [p]) := by
    cases ps with
    | nil => exact trimStart_cons (by decide) _
    | cons q qs => exact trimStart_cons (by decide) _
  rw [trim, hstart, hform, trimEnd_append_cons (by decide)]

/-- **The segments of a normal form** are those of the fragment, the last one without the blanks at its
    end. -/
theorem segments_normalize (x : Option String) :
    segments (some (normalize x)) = endTrimmed (segments x) := by
  have hsegs := areSegments_segments x
  rw [segments, normalize_eq, Option.getD_some, String.toList_ofList]
  rcases List.eq_nil_or_concat (segments x) with hnil | ⟨ps, p, hps⟩
  · rw [hnil]
    rfl
  · rw [List.concat_eq_append] at hps
    rw [hps] at hsegs ⊢
    have hinit : AreSegments ps := fun q hq => hsegs q (by simp [hq])
    have hslash : '/' ∉ trimEnd p := fun hmem =>
      (hsegs p (by simp)).2 ((trimEnd_isPrefix p).subset hmem)
    rw [trim_slashed_concat, splitOn_append_sep, splitOn_of_not_mem hslash, List.filter_append,
      filter_splitOn_slashed hinit, endTrimmed_concat]

/-! ## Fragments that stay -/

/-- Whether the last segment of a fragment ends with a blank. -/
def endsBlank (fragment : Option String) : Bool :=
  ((segments fragment).getLast?.bind List.getLast?).any isBlank

theorem endTrimmed_segments_eq_iff (x : Option String) :
    endTrimmed (segments x) = segments x ↔ endsBlank x = false := by
  have hsegs := areSegments_segments x
  unfold endsBlank
  rcases List.eq_nil_or_concat (segments x) with hnil | ⟨ps, p, hps⟩
  · rw [hnil]
    exact iff_of_true rfl rfl
  · rw [List.concat_eq_append] at hps
    rw [hps] at hsegs ⊢
    have hne : p ≠ [] := (hsegs p (by simp)).1
    rw [endTrimmed_concat, List.getLast?_concat, Option.bind_some, ← trimEnd_eq_self_iff,
      List.append_cancel_left_eq]
    constructor
    · intro h
      have hmem : p ∈ [trimEnd p].filter (· ≠ []) := h ▸ List.mem_singleton_self p
      exact (List.mem_singleton.mp (List.mem_filter.mp hmem).1).symm
    · intro h
      rw [h, List.filter_cons_of_pos (by simpa using hne)]
      rfl

theorem normalize_eq_iff {x y : Option String} :
    normalize x = normalize y ↔ segments x = segments y := by
  rw [normalize_eq, normalize_eq, String.ofList_inj]
  constructor
  · exact slashed_injective (areSegments_segments x) (areSegments_segments y)
  · exact congrArg slashed

theorem normalize_eq_empty_iff {x : Option String} : normalize x = "" ↔ segments x = [] := by
  rw [normalize_eq, ← slashed_eq_nil_iff, ← String.toList_inj, String.toList_ofList]
  rfl

/-- No full path of segments is the root path. -/
theorem slashed_ne_root {ps : List (List Char)} (h : AreSegments ps) : slashed ps ≠ ['/'] := by
  cases ps with
  | nil => exact (List.cons_ne_nil _ _).symm
  | cons p ps =>
    intro hroot
    rw [slashed_cons, List.cons.injEq, List.append_eq_nil_iff] at hroot
    exact (h p (by simp)).1 hroot.2.1

theorem join_eq_iff {a b a' b' : Option String} :
    join a b = join a' b' ↔ segments a ++ segments b = segments a' ++ segments b' := by
  have hsegs := (areSegments_segments a).append (areSegments_segments b)
  have hsegs' := (areSegments_segments a').append (areSegments_segments b')
  have hroot : ∀ {ps}, AreSegments ps → String.ofList (slashed ps) ≠ "/" := by
    intro ps hps heq
    exact slashed_ne_root hps (String.ofList_inj.mp heq)
  rw [join_eq, join_eq]
  constructor
  · intro h
    split at h
    · next hnil =>
      split at h
      · next hnil' => rw [hnil, hnil']
      · exact absurd h.symm (hroot hsegs')
    · split at h
      · exact absurd h (hroot hsegs)
      · exact slashed_injective hsegs hsegs' (String.ofList_inj.mp h)
  · intro h
    rw [h]

/-- **Normalising again changes a fragment exactly when its last segment ends with a blank**, and then it
    takes away the blanks there. Joining normal forms gives the path of the fragments exactly when neither
    ends so, and a normal form becomes empty only if it was empty or one blank segment. -/
theorem normalize_again (x y : Option String) :
    segments (some (normalize x)) = endTrimmed (segments x) ∧
    (normalize (some (normalize x)) = normalize x ↔ endsBlank x = false) ∧
    (join (some (normalize x)) (some (normalize y)) = join x y ↔
      endsBlank x = false ∧ endsBlank y = false) ∧
    (normalize (some (normalize x)) = "" ↔
      normalize x = "" ∨ ∃ p, segments x = [p] ∧ AllBlank p) := by
  refine ⟨segments_normalize x, ?_, ?_, ?_⟩
  · rw [normalize_eq_iff, segments_normalize, endTrimmed_segments_eq_iff]
  · rw [join_eq_iff, segments_normalize, segments_normalize, ← endTrimmed_segments_eq_iff x,
      ← endTrimmed_segments_eq_iff y]
    constructor
    · intro h
      -- neither list gets longer, so neither gets shorter
      have hlen := congrArg List.length h
      rw [List.length_append, List.length_append] at hlen
      have hx := length_endTrimmed_le (segments x)
      have hy := length_endTrimmed_le (segments y)
      exact List.append_inj h (by omega)
    · rintro ⟨hx, hy⟩
      rw [hx, hy]
  · rw [normalize_eq_empty_iff, normalize_eq_empty_iff, segments_normalize]
    rcases List.eq_nil_or_concat (segments x) with hnil | ⟨ps, p, hps⟩
    · simp [hnil]
    · simp [hps, endTrimmed_concat, trimEnd_eq_nil_iff, List.append_eq_singleton_iff]

example : normalize (some "a /") = "/a " ∧ normalize (some "/a ") = "/a" := by decide

end RoutePath

end SpringRoutes
