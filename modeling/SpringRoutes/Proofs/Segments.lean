import SpringRoutes.Proofs.Linking
import SpringRoutes.Proofs.Paths

/-!
# `SpringRoutes.Proofs.Segments` — full paths are made of segments

Normalising a fragment trims it, puts a slash in front, collapses runs of slashes and drops those at
the end. What comes out is simpler than the way there: **each segment of the fragment after one
slash** (`normalizeChars_eq`), where the segments are the pieces between slashes that are not empty.

The argument goes over the pieces and not over the characters. A text with a slash in front is all of
its pieces, the empty ones included, each after a slash (`slashed_splitOn`); an empty piece only
lengthens a run of slashes, and any other piece is left as it is (`trimmed_slashed`).

Joining two fragments then concatenates two lists of segments, and `IsFullPath` says what such a text
can look like. Every path that linking or resolving clients puts into a table is joined that way
(`join_segments`).
-/

namespace SpringRoutes

open Text

namespace RoutePath

/-- The text of segments, each after a slash. -/
def slashed (segs : List (List Char)) : List Char :=
  segs.flatMap ('/' :: ·)

@[simp] theorem slashed_nil : slashed [] = [] := rfl

@[simp] theorem slashed_cons (p : List Char) (ps : List (List Char)) :
    slashed (p :: ps) = '/' :: (p ++ slashed ps) := rfl

theorem slashed_append (ps qs : List (List Char)) :
    slashed (ps ++ qs) = slashed ps ++ slashed qs :=
  List.flatMap_append

/-- The pieces of a text, each after a slash, are the text after a slash. -/
theorem slashed_splitOn (s : List Char) : slashed (splitOn '/' s) = '/' :: s := by
  induction s with
  | nil => rfl
  | cons c cs ih =>
    obtain ⟨p, ps, hps⟩ := List.exists_cons_of_ne_nil (splitOn_ne_nil '/' cs)
    rw [hps, slashed_cons] at ih
    rw [splitOn, hps]
    by_cases hc : c = '/'
    · rw [if_pos hc, slashed_cons, slashed_cons, ih, hc]
      rfl
    · rw [if_neg hc, slashed_cons, List.cons_append, (List.cons.inj ih).2]

/-! ## Runs of slashes -/

theorem collapse_cons_of_ne {c : Char} (hc : c ≠ '/') (s : List Char) :
    collapse (c :: s) = c :: collapse s := by
  rw [collapse]
  exact fun _ h => absurd h hc

/-- A slash joins the run that follows it, if there is one. -/
theorem collapse_slash (s : List Char) :
    collapse ('/' :: s) = if ['/'] <+: collapse s then collapse s else '/' :: collapse s := by
  cases h : collapse s with
  | nil => simp [collapse, h]
  | cons c r =>
    by_cases hc : c = '/'
    · simp [collapse, h, hc]
    · simp [collapse, h, hc, Ne.symm hc]

theorem collapse_slash_slash (s : List Char) :
    collapse ('/' :: '/' :: s) = collapse ('/' :: s) := by
  have hstarts : ['/'] <+: collapse ('/' :: s) := by
    rw [collapse_slash]
    split
    · assumption
    · exact ⟨_, rfl⟩
  rw [collapse_slash ('/' :: s), if_pos hstarts]

/-- A piece without slashes is left as it is. -/
theorem collapse_append {p : List Char} (hp : '/' ∉ p) (s : List Char) :
    collapse (p ++ s) = p ++ collapse s := by
  induction p with
  | nil => rfl
  | cons c p ih =>
    rw [List.mem_cons, not_or] at hp
    rw [List.cons_append, collapse_cons_of_ne (Ne.symm hp.1), ih hp.2]
    rfl

theorem collapse_slash_piece {p : List Char} (hne : p ≠ []) (hp : '/' ∉ p) (s : List Char) :
    collapse ('/' :: (p ++ s)) = '/' :: (p ++ collapse s) := by
  rw [collapse_slash, collapse_append hp, if_neg]
  obtain ⟨c, q, rfl⟩ := List.exists_cons_of_ne_nil hne
  rintro ⟨r, hr⟩
  exact hp (List.mem_cons.mpr (Or.inl (List.cons.inj hr).1))

/-- What follows a piece is trimmed alone, since a piece does not end with a slash. -/
theorem dropTrailingSlashes_append {p : List Char} (hne : p ≠ []) (hp : '/' ∉ p)
    (a s : List Char) : dropTrailingSlashes (a ++ p ++ s) = a ++ p ++ dropTrailingSlashes s := by
  obtain ⟨q, c, rfl⟩ := (List.eq_nil_or_concat p).resolve_left hne
  have hc : c ≠ '/' := by
    rintro rfl
    exact hp (by simp)
  unfold dropTrailingSlashes
  rw [List.reverse_append, List.dropWhile_append]
  split
  · next hempty =>
    have hall : s.reverse.dropWhile (· == '/') = [] := List.isEmpty_iff.mp hempty
    have hstop : (a ++ q.concat c).reverse.dropWhile (· == '/') = (a ++ q.concat c).reverse := by
      simp [hc]
    rw [hall, hstop, List.reverse_reverse]
    simp
  · rw [List.reverse_append, List.reverse_reverse]

/-- **Collapsing and trimming keep the segments.** -/
theorem trimmed_slashed {ps : List (List Char)} (h : ∀ p ∈ ps, '/' ∉ p) :
    dropTrailingSlashes (collapse (slashed ps)) = slashed (ps.filter (· ≠ [])) := by
  induction ps with
  | nil => rfl
  | cons p ps ih =>
    obtain ⟨hp, hps⟩ := List.forall_mem_cons.mp h
    rw [slashed_cons]
    by_cases hne : p = []
    · -- one more slash before another one, or a slash at the end
      subst hne
      rw [List.filter_cons_of_neg (by simp), ← ih hps, List.nil_append]
      cases ps with
      | nil => rfl
      | cons q qs => rw [slashed_cons, collapse_slash_slash]
    · rw [List.filter_cons_of_pos (by simpa using hne), slashed_cons,
        collapse_slash_piece hne hp, ← ih hps]
      exact dropTrailingSlashes_append hne hp ['/'] _

/-! ## Normal forms -/

theorem slashed_splitOn_withLeadingSlash (s : List Char) :
    slashed ((splitOn '/' (withLeadingSlash s)).filter (· ≠ []))
      = slashed ((splitOn '/' s).filter (· ≠ [])) := by
  unfold withLeadingSlash
  split
  · rfl
  · rw [splitOn, if_pos rfl, List.filter_cons_of_neg (by simp)]

theorem exists_withLeadingSlash (s : List Char) : ∃ r, withLeadingSlash s = '/' :: r := by
  unfold withLeadingSlash
  split
  · exact ⟨_, rfl⟩
  · exact ⟨_, rfl⟩

/-- **A normal fragment is its segments, each after a slash.** -/
theorem normalizeChars_eq (s : List Char) :
    normalizeChars s = slashed ((splitOn '/' (trim s)).filter (· ≠ [])) := by
  unfold normalizeChars
  split
  · next h => rw [h]; rfl
  · next c cs h =>
    rw [h, ← slashed_splitOn_withLeadingSlash]
    obtain ⟨r, hr⟩ := exists_withLeadingSlash (c :: cs)
    rw [hr, ← slashed_splitOn r, trimmed_slashed fun p hp => not_mem_of_mem_splitOn hp,
      slashed_splitOn, splitOn, if_pos rfl, List.filter_cons_of_neg (by simp)]

theorem normalize_eq (fragment : Option String) :
    normalize fragment = String.ofList (slashed (segments fragment)) := by
  rw [normalize, normalizeChars_eq, segments]

theorem slashed_eq_nil_iff {ps : List (List Char)} : slashed ps = [] ↔ ps = [] := by
  cases ps <;> simp

theorem join_eq (base route : Option String) :
    join base route =
      if segments base ++ segments route = [] then "/"
      else String.ofList (slashed (segments base ++ segments route)) := by
  have hfull : normalize base ++ normalize route
      = String.ofList (slashed (segments base ++ segments route)) := by
    rw [normalize_eq, normalize_eq, slashed_append, String.ofList_append]
  have hempty : normalize base ++ normalize route = "" ↔ segments base ++ segments route = [] := by
    rw [hfull, ← slashed_eq_nil_iff, ← String.toList_inj, String.toList_ofList]
    rfl
  unfold join
  simp only [hempty]
  rw [hfull]

/-! ## The shape of full paths -/

/-- The text starts with a slash, has no two slashes in a row, and ends with a slash only if it is
    nothing else. -/
structure IsFullPath (path : String) : Prop where
  starts : ['/'] <+: path.toList
  single : ¬ ['/', '/'] <:+: path.toList
  ends : ['/'] <:+ path.toList → path = "/"

/-- Pieces that are not empty and have no slashes. -/
def AreSegments (ps : List (List Char)) : Prop :=
  ∀ p ∈ ps, p ≠ [] ∧ '/' ∉ p

theorem areSegments_segments (fragment : Option String) : AreSegments (segments fragment) := by
  intro p hp
  obtain ⟨hsplit, hne⟩ := List.mem_filter.mp hp
  exact ⟨of_decide_eq_true hne, not_mem_of_mem_splitOn hsplit⟩

theorem AreSegments.append {ps qs : List (List Char)} (hp : AreSegments ps)
    (hq : AreSegments qs) : AreSegments (ps ++ qs) := by
  intro p hmem
  exact (List.mem_append.mp hmem).elim (hp p) (hq p)

/-- A segment follows every slash. -/
theorem segment_after_slash {ps : List (List Char)} (h : AreSegments ps) {a b : List Char}
    (heq : slashed ps = a ++ '/' :: b) : ∃ p ∈ ps, p <+: b := by
  induction ps generalizing a with
  | nil => simp at heq
  | cons p ps ih =>
    obtain ⟨⟨_, hp⟩, hps⟩ := List.forall_mem_cons.mp h
    rw [slashed_cons] at heq
    have hlater : ∀ a, slashed ps = a ++ '/' :: b → ∃ q ∈ p :: ps, q <+: b := by
      intro a ha
      obtain ⟨q, hq, hprefix⟩ := ih hps ha
      exact ⟨q, List.mem_cons_of_mem _ hq, hprefix⟩
    cases a with
    | nil => exact ⟨p, List.mem_cons_self .., _, (List.cons.inj heq).2⟩
    | cons x a =>
      -- the slash stands after the first segment, since it is not in it
      rcases List.append_eq_append_iff.mp (List.cons.inj heq).2 with ⟨a', _, ha⟩ | ⟨c, hc, ha⟩
      · exact hlater a' ha
      · cases c with
        | nil => exact hlater [] ha.symm
        | cons y c =>
          obtain ⟨rfl, _⟩ := List.cons.inj ha
          exact absurd (by simp [hc]) hp

theorem isFullPath_join (base route : Option String) : IsFullPath (join base route) := by
  have hsegs := (areSegments_segments base).append (areSegments_segments route)
  rw [join_eq]
  split
  · exact ⟨⟨[], rfl⟩, by decide, fun _ => rfl⟩
  · next hne =>
    obtain ⟨p, ps, hps⟩ := List.exists_cons_of_ne_nil hne
    refine ⟨?_, ?_, ?_⟩
    · rw [String.toList_ofList, hps]
      exact ⟨p ++ slashed ps, rfl⟩
    · rintro ⟨a, b, hab⟩
      rw [String.toList_ofList, List.append_assoc] at hab
      obtain ⟨q, hq, r, hr⟩ := segment_after_slash hsegs hab.symm
      obtain ⟨hqne, hslash⟩ := hsegs q hq
      obtain ⟨c, t, rfl⟩ := List.exists_cons_of_ne_nil hqne
      exact hslash (List.mem_cons.mpr (Or.inl (List.cons.inj hr).1.symm))
    · rintro ⟨a, ha⟩
      rw [String.toList_ofList] at ha
      obtain ⟨q, hq, hnil⟩ := segment_after_slash hsegs ha.symm
      exact absurd (List.prefix_nil.mp hnil) (hsegs q hq).1

end RoutePath

/-! ## The paths of a table -/

open RoutePath

theorem isFullPath_inheritedRoute (controller interface : Outline) (m : Method) :
    IsFullPath (inheritedRoute controller interface m).path := by
  dsimp only [inheritedRoute]
  apply isFullPath_join

theorem isFullPath_ownRoute (controller : Outline) (interface : Option Outline) (m : Method) :
    IsFullPath (ownRoute controller interface m).path := by
  dsimp only [ownRoute]
  apply isFullPath_join

theorem isFullPath_clientRoute (client declaring : Outline) (base : Option String) (m : Method) :
    IsFullPath (clientRoute client declaring base m).path := by
  dsimp only [clientRoute]
  apply isFullPath_join

theorem isFullPath_of_mem_link {sources : List (Option Outline)} {r : Route}
    (h : r ∈ link sources) : IsFullPath r.path := by
  rw [link_eq] at h
  obtain ⟨controller, _, hr⟩ := List.mem_flatMap.mp h
  rcases List.mem_append.mp hr with hinherited | hown
  · obtain ⟨interface, _, hr⟩ := List.mem_flatMap.mp hinherited
    obtain ⟨m, _, rfl⟩ := List.mem_map.mp hr
    apply isFullPath_inheritedRoute
  · obtain ⟨m, _, rfl⟩ := List.mem_map.mp hown
    apply isFullPath_ownRoute

theorem isFullPath_of_mem_candidates {sources : List (Option Outline)} {r : Route}
    (h : r ∈ candidates sources) : IsFullPath r.path := by
  obtain ⟨client, _, hr⟩ := List.mem_flatMap.mp h
  rcases List.mem_append.mp hr with hextended | hown
  · obtain ⟨interface, _, hr⟩ := List.mem_flatMap.mp hextended
    obtain ⟨m, _, rfl⟩ := List.mem_map.mp hr
    apply isFullPath_clientRoute
  · obtain ⟨path, _, hr⟩ := List.mem_flatMap.mp hown
    obtain ⟨m, _, rfl⟩ := List.mem_map.mp hr
    apply isFullPath_clientRoute

/-- **Joining concatenates segments.** A full path is the segments of the two fragments, each after a
    slash, and the root path when there are none. So every path that linking emits, and every path
    that resolving clients adds to a table, is a full path. -/
theorem RoutePath.join_segments :
    (∀ base route : Option String,
      join base route =
        if segments base ++ segments route = [] then "/"
        else String.ofList ((segments base ++ segments route).flatMap ('/' :: ·))) ∧
    ∀ sources : List (Option Outline),
      (∀ r ∈ link sources, IsFullPath r.path) ∧
      ∀ table : List Route, ∃ new, resolveClients sources table = table ++ new ∧
        ∀ r ∈ new, IsFullPath r.path := by
  refine ⟨join_eq, fun sources => ⟨fun r => isFullPath_of_mem_link, fun table => ?_⟩⟩
  refine ⟨_, resolveClients_eq_append sources table, ?_⟩
  intro r hr
  exact isFullPath_of_mem_candidates ((firstNew_sublist _ _).subset hr)

example : RoutePath.join (some " api//v1/ ") (some "/ a b //") = "/api/v1/ a b " := by decide

end SpringRoutes
