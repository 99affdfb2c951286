import SpringRoutes.Ignore.Rule
import SpringRoutes.Proofs.Recognisers
import SpringRoutes.Proofs.Segments

/-!
# `SpringRoutes.Proofs.LiteralPatterns` — patterns without wildcards match whole segments

A pattern line is cut from both ends: blanks, the mark of an exception, slashes behind and slashes in
front. Whether it holds for the whole path or for single segments depends on what is left in between.
For a line that is written from segments without wildcards (`LiteralPattern`) the cuts give the parts
back that it was written from (`LiteralPattern.parse?_line`).

Such a pattern covers one text only (`Glob.isMatch_literal`). Matching is on texts all the same, and
one text may go on in the middle of a segment of another. That never happens to pass for a match,
since the slash that ends the pattern is looked for, too: **a text and a slash start a path exactly if
the segments of the text start the segments of the path** (`prefix_iff`).
-/

namespace SpringRoutes

open Text RoutePath

/-! ## Segments joined by slashes -/

/-- Segments with slashes between them. -/
def joined (ps : List (List Char)) : List Char :=
  List.intercalate ['/'] ps

@[simp] theorem joined_singleton (p : List Char) : joined [p] = p :=
  List.intercalate_singleton

theorem cons_joined {ps : List (List Char)} (h : ps ≠ []) : '/' :: joined ps = slashed ps := by
  induction ps with
  | nil => exact absurd rfl h
  | cons p ps ih =>
    cases ps with
    | nil => simp
    | cons q qs =>
      rw [slashed_cons, ← ih (List.cons_ne_nil q qs), joined, List.intercalate_cons_cons,
        List.append_assoc]
      rfl

theorem joined_append {ps : List (List Char)} (h : ps ≠ []) (qs : List (List Char)) :
    joined (ps ++ qs) = joined ps ++ slashed qs := by
  have hcons := slashed_append ps qs
  rw [← cons_joined h, ← cons_joined (List.append_ne_nil_of_left_ne_nil h qs)] at hcons
  exact (List.cons.inj hcons).2

/-- The segments of a path come back from its text. -/
theorem splitOn_joined {ps : List (List Char)} (hne : ps ≠ []) (h : AreSegments ps) :
    splitOn '/' (joined ps) = ps := by
  induction ps with
  | nil => exact absurd rfl hne
  | cons p ps ih =>
    obtain ⟨⟨_, hp⟩, hps⟩ := List.forall_mem_cons.mp h
    have hfirst : joined (p :: ps) = p ++ slashed ps := by
      rw [← List.singleton_append, joined_append (List.cons_ne_nil p []), joined_singleton]
    rw [hfirst]
    cases ps with
    | nil => rw [slashed_nil, List.append_nil, splitOn_of_not_mem hp]
    | cons q qs =>
      have hqs := List.cons_ne_nil q qs
      rw [← cons_joined hqs, splitOn_append_sep, splitOn_of_not_mem hp, ih hqs hps]
      rfl

theorem joined_ne_nil {ps : List (List Char)} (hne : ps ≠ []) (h : AreSegments ps) :
    joined ps ≠ [] := by
  intro hnil
  have hsplit := splitOn_joined hne h
  rw [hnil] at hsplit
  exact (h [] (by rw [← hsplit]; exact List.mem_singleton_self [])).1 rfl

instance (ps : List (List Char)) : Decidable (AreSegments ps) :=
  inferInstanceAs (Decidable (∀ p ∈ ps, _ ∧ _))

/-- A text and a slash start a path exactly if the segments of the text start those of the path. -/
theorem prefix_iff {ps path : List (List Char)} (hne : ps ≠ []) (h : AreSegments ps)
    (hpath : AreSegments path) :
    (joined path = joined ps ∨ ∃ r, joined path = joined ps ++ '/' :: r) ↔ ps <+: path := by
  constructor
  · intro hstarts
    have hpathne : path ≠ [] := by
      rintro rfl
      have hempty : joined ps = [] := by
        rcases hstarts with heq | ⟨r, heq⟩
        · exact heq.symm
        · exact (List.append_eq_nil_iff.mp heq.symm).1
      exact joined_ne_nil hne h hempty
    -- splitting undoes joining, and the slash after the text is where the first pieces end
    rw [← splitOn_joined hpathne hpath]
    rcases hstarts with heq | ⟨r, heq⟩
    · exact ⟨[], by rw [List.append_nil, heq, splitOn_joined hne h]⟩
    · rw [heq, splitOn_append_sep, splitOn_joined hne h]
      exact List.prefix_append _ _
  · rintro ⟨rest, rfl⟩
    rw [joined_append hne]
    cases rest with
    | nil => exact .inl (by simp)
    | cons q qs => exact .inr ⟨_, rfl⟩

/-- There is a slash in a text of segments exactly if there are several. -/
theorem slash_mem_joined_iff {ps : List (List Char)} (hne : ps ≠ []) (h : AreSegments ps) :
    '/' ∈ joined ps ↔ 1 < ps.length := by
  cases ps with
  | nil => exact absurd rfl hne
  | cons p ps =>
    rw [← List.singleton_append, joined_append (List.cons_ne_nil p []), joined_singleton]
    have hp := (h p (List.mem_cons_self ..)).2
    cases ps with
    | nil => simp [hp]
    | cons q qs => simp

/-! ## Patterns that cover one text -/

namespace Glob

/-- Without wildcards every character stands for itself. -/
theorem parseWithin_literal {s : List Char} (h : ∀ c ∈ s, c ≠ '*' ∧ c ≠ '?' ∧ c ≠ '[') {fuel : Nat}
    (hfuel : s.length ≤ fuel) : parseWithin fuel s = s.map .literal := by
  induction s generalizing fuel with
  | nil => cases fuel <;> rfl
  | cons c s ih =>
    obtain ⟨⟨hstar, hany, hbracket⟩, hs⟩ := List.forall_mem_cons.mp h
    cases fuel with
    | zero => exact absurd hfuel (Nat.not_succ_le_zero _)
    | succ fuel =>
      rw [parseWithin, ih hs (Nat.le_of_succ_le_succ hfuel), List.map_cons] <;> assumption

theorem matchItems_literal (s t : List Char) : matchItems (s.map .literal) t = true ↔ t = s := by
  induction s generalizing t with
  | nil => simp [matchItems]
  | cons c s ih =>
    cases t with
    | nil => simp [matchItems]
    | cons d t =>
      simp only [List.map_cons, matchItems, Item.accepts, Bool.and_eq_true, beq_iff_eq, ih,
        List.cons.injEq, eq_comm (a := c)]

theorem isMatch_literal {s : List Char} (h : ∀ c ∈ s, c ≠ '*' ∧ c ≠ '?' ∧ c ≠ '[') (t : List Char) :
    isMatch s t = true ↔ t = s := by
  rw [isMatch, parse, parseWithin_literal h (Nat.le_refl _), matchItems_literal]

end Glob

/-- What a rule is about: directories only, if it says so, and either the whole path or its start up
    to a slash, or one of the segments. -/
theorem IgnoreRule.appliesTo_iff {rule : IgnoreRule} {path : List Char} {isDir : Bool} :
    rule.appliesTo path isDir = true ↔
      (rule.dirsOnly = false ∨ isDir = true) ∧
        if rule.rooted = true then
          Glob.isMatch rule.glob path = true ∨ ∃ r, path = rule.glob ++ '/' :: r
        else ∃ t ∈ splitOn '/' path, Glob.isMatch rule.glob t = true := by
  have hafter : (afterLiteral (rule.glob ++ ['/']) path).isSome = true ↔
      ∃ r, path = rule.glob ++ '/' :: r := by
    rw [Option.isSome_iff_exists]
    simp only [afterLiteral_eq_some_iff, List.append_assoc, List.singleton_append]
  unfold appliesTo
  cases rule.dirsOnly <;> cases isDir <;> cases rule.rooted <;>
    simp [hafter, List.any_eq_true]

/-! ## Lines of segments -/

theorem Text.trim_of_forall {s : List Char} (h : ∀ c ∈ s, isBlank c = false) : trim s = s := by
  have hkeep : ∀ {t : List Char}, (∀ c ∈ t, isBlank c = false) → t.dropWhile isBlank = t :=
    fun ht => dropWhile_of_head? fun c hc => ht c (List.mem_of_head? hc)
  have hreverse : ∀ c ∈ s.reverse, isBlank c = false := fun c hc => h c (List.mem_reverse.mp hc)
  rw [trim, trimStart, hkeep h, trimEnd, hkeep hreverse, List.reverse_reverse]

/-- A character that is neither a wildcard, nor a slash, nor blank. -/
def IsLiteral (c : Char) : Prop :=
  c ≠ '/' ∧ c ≠ '*' ∧ c ≠ '?' ∧ c ≠ '[' ∧ isBlank c = false

instance : DecidablePred IsLiteral := fun _ =>
  inferInstanceAs (Decidable (_ ∧ _))

/-- A pattern of segments without wildcards, and the marks around it. -/
structure LiteralPattern where
  segments : List (List Char)
  /-- With an exclamation mark at the start. -/
  isNegated : Bool
  /-- With a slash in front of the segments. -/
  isAnchored : Bool
  /-- With a slash after the segments. -/
  isForDirs : Bool
  ne_nil : segments ≠ []
  literal : ∀ s ∈ segments, s ≠ [] ∧ ∀ c ∈ s, IsLiteral c
  /-- The first segment starts with nothing that would be taken for a mark. -/
  start : ∀ s ∈ segments.head?, ∀ c ∈ s.head?, c ≠ '!' ∧ c ≠ '#'

namespace LiteralPattern

/-- A mark that may be missing. -/
def mark (isThere : Bool) (c : Char) : List Char :=
  if isThere then [c] else []

/-- The text of a pattern without the mark of an exception. -/
def body (p : LiteralPattern) : List Char :=
  mark p.isAnchored '/' ++ joined p.segments ++ mark p.isForDirs '/'

/-- The line that a pattern is written as. -/
def line (p : LiteralPattern) : List Char :=
  mark p.isNegated '!' ++ p.body

variable (p : LiteralPattern)

theorem areSegments : AreSegments p.segments := by
  intro s hs
  obtain ⟨hne, hall⟩ := p.literal s hs
  exact ⟨hne, fun hslash => (hall _ hslash).1 rfl⟩

/-- The text of the segments starts with a literal character that is no mark. -/
theorem exists_joined_eq_cons :
    ∃ c r, joined p.segments = c :: r ∧ IsLiteral c ∧ c ≠ '!' ∧ c ≠ '#' := by
  obtain ⟨s, rest, hs⟩ := List.exists_cons_of_ne_nil p.ne_nil
  obtain ⟨hne, hall⟩ := p.literal s (by rw [hs]; exact List.mem_cons_self ..)
  obtain ⟨c, t, rfl⟩ := List.exists_cons_of_ne_nil hne
  refine ⟨c, t ++ slashed rest, ?_, hall c (List.mem_cons_self ..), ?_⟩
  · rw [hs, ← List.singleton_append, joined_append (List.cons_ne_nil _ []), joined_singleton]
    rfl
  · exact p.start (c :: t) (by rw [hs]; rfl) c rfl

/-- The text of the segments ends with a text without slashes. -/
theorem exists_joined_eq_append :
    ∃ a s, joined p.segments = a ++ s ∧ s ≠ [] ∧ '/' ∉ s := by
  obtain ⟨init, s, hs⟩ := (List.eq_nil_or_concat p.segments).resolve_left p.ne_nil
  obtain ⟨hne, hslash⟩ := p.areSegments s (by rw [hs]; simp)
  rw [hs, List.concat_eq_append]
  cases init with
  | nil => exact ⟨[], s, by simp, hne, hslash⟩
  | cons q qs =>
    refine ⟨joined (q :: qs) ++ ['/'], s, ?_, hne, hslash⟩
    rw [joined_append (List.cons_ne_nil q qs)]
    simp

theorem isLiteral_or_slash {c : Char} (hc : c ∈ joined p.segments) : IsLiteral c ∨ c = '/' := by
  have hmem : c ∈ slashed p.segments := by
    rw [← cons_joined p.ne_nil]
    exact List.mem_cons_of_mem _ hc
  obtain ⟨s, hs, hin⟩ := List.mem_flatMap.mp hmem
  rcases List.mem_cons.mp hin with rfl | hin
  · exact .inr rfl
  · exact .inl ((p.literal s hs).2 c hin)

theorem mem_mark {isThere : Bool} {c d : Char} (h : d ∈ mark isThere c) : d = c := by
  unfold mark at h
  split at h
  · exact List.mem_singleton.mp h
  · exact absurd h List.not_mem_nil

/-! ## Reading a line back -/

theorem not_isBlank_line {c : Char} (hc : c ∈ p.line) : isBlank c = false := by
  unfold line body at hc
  simp only [List.mem_append] at hc
  rcases hc with hmark | (hmark | hjoined) | hmark
  · rw [mem_mark hmark]
    decide
  · rw [mem_mark hmark]
    decide
  · rcases p.isLiteral_or_slash hjoined with hliteral | rfl
    · exact hliteral.2.2.2.2
    · decide
  · rw [mem_mark hmark]
    decide

/-- What is looked for in front is the mark, if there is one. -/
theorem dropWhile_mark {isThere : Bool} {c : Char} {q : Char → Bool} (hc : q c = true)
    {s : List Char} (hs : ∀ d ∈ s.head?, q d = false) : (mark isThere c ++ s).dropWhile q = s := by
  have hstop : s.dropWhile q = s := dropWhile_of_head? hs
  cases isThere with
  | false => exact hstop
  | true => exact (List.dropWhile_cons_of_pos hc).trans hstop

theorem head?_body {d : Char} (hd : d ∈ p.body.head?) : d ≠ '!' ∧ d ≠ '#' := by
  obtain ⟨c, r, hjoined, _, hmarks⟩ := p.exists_joined_eq_cons
  unfold body mark at hd
  rw [hjoined] at hd
  cases hanchored : p.isAnchored with
  | true =>
    rw [hanchored] at hd
    cases hd
    decide
  | false =>
    rw [hanchored] at hd
    cases hd
    exact hmarks

theorem body_ne_nil : p.body ≠ [] := by
  obtain ⟨c, r, hjoined, _⟩ := p.exists_joined_eq_cons
  simp [body, hjoined]

theorem dropTrailingSlashes_body :
    dropTrailingSlashes p.body = mark p.isAnchored '/' ++ joined p.segments := by
  obtain ⟨a, s, hjoined, hne, hslash⟩ := p.exists_joined_eq_append
  have htrail : dropTrailingSlashes (mark p.isForDirs '/') = [] := by
    cases p.isForDirs <;> rfl
  rw [body, hjoined, ← List.append_assoc, dropTrailingSlashes_append hne hslash, htrail,
    List.append_nil]

theorem getLast?_body : p.body.getLast? = some '/' ↔ p.isForDirs = true := by
  obtain ⟨a, s, hjoined, hne, hslash⟩ := p.exists_joined_eq_append
  rw [body, hjoined]
  cases p.isForDirs with
  | true => simp [mark]
  | false =>
    obtain ⟨t, c, rfl⟩ := (List.eq_nil_or_concat s).resolve_left hne
    have hc : c ≠ '/' := by
      rintro rfl
      exact hslash (by simp)
    simp [mark, hc]

/-- The rule of a pattern. -/
def rule : IgnoreRule where
  glob := joined p.segments
  negate := p.isNegated
  dirsOnly := p.isForDirs
  rooted := p.isAnchored || decide (1 < p.segments.length)

theorem contains_slash :
    (mark p.isAnchored '/' ++ joined p.segments).contains '/' = p.rule.rooted := by
  have hslash := slash_mem_joined_iff p.ne_nil p.areSegments
  rw [Bool.eq_iff_iff, List.contains_iff_mem, List.mem_append, hslash, rule, Bool.or_eq_true,
    decide_eq_true_iff]
  refine or_congr_left ?_
  cases p.isAnchored <;> simp [mark]

theorem head?_line : p.line.head? = some '!' ↔ p.isNegated = true := by
  obtain ⟨d, r, hbody⟩ := List.exists_cons_of_ne_nil p.body_ne_nil
  have hd := (p.head?_body (d := d) (by rw [hbody]; rfl)).1
  rw [line, hbody]
  cases p.isNegated <;> simp [mark, hd]

/-- **Reading a line gives the pattern back.** -/
theorem parse?_line : IgnoreRule.parse? p.line = some p.rule := by
  have htrim : trim p.line = p.line := trim_of_forall fun c hc => p.not_isBlank_line hc
  have hbang : p.line.dropWhile (· == '!') = p.body :=
    dropWhile_mark rfl fun d hd => by simpa using (p.head?_body hd).1
  have hglob : (mark p.isAnchored '/' ++ joined p.segments).dropWhile (· == '/')
      = joined p.segments := by
    obtain ⟨c, r, hjoined, hliteral, _⟩ := p.exists_joined_eq_cons
    refine dropWhile_mark rfl ?_
    rw [hjoined]
    rintro d hd
    cases hd
    simpa using hliteral.1
  have hhead : ∀ d ∈ p.line.head?, d ≠ '#' := by
    intro d hd
    cases hnegated : p.isNegated with
    | true =>
      rw [p.head?_line.mpr hnegated] at hd
      cases hd
      decide
    | false =>
      rw [line, hnegated] at hd
      exact (p.head?_body hd).2
  -- the cuts in the order in which they are made; no line of segments is empty or a comment
  unfold IgnoreRule.parse?
  rw [htrim]
  split
  · next hnil =>
    rw [line, List.append_eq_nil_iff] at hnil
    exact absurd hnil.2 p.body_ne_nil
  · next hcomment => exact absurd rfl (hhead '#' (by rw [hcomment]; rfl))
  · have hcore : (p.body.reverse.dropWhile (· == '/')).reverse = _ := p.dropTrailingSlashes_body
    simp only [hbang, hcore, hglob, p.contains_slash]
    split
    · next hnil => exact absurd hnil (joined_ne_nil p.ne_nil p.areSegments)
    · simp [p.head?_line, p.getLast?_body, rule]

/-! ## Paths that a pattern covers -/

theorem isMatch_joined (t : List Char) :
    Glob.isMatch (joined p.segments) t = true ↔ t = joined p.segments := by
  refine Glob.isMatch_literal ?_ t
  intro c hc
  rcases p.isLiteral_or_slash hc with hliteral | rfl
  · exact ⟨hliteral.2.1, hliteral.2.2.1, hliteral.2.2.2.1⟩
  · decide

section Paths

variable {path : List (List Char)} (hpath : AreSegments path)

include hpath

/-- A rule for whole paths is about their start. -/
theorem matches_start :
    (Glob.isMatch (joined p.segments) (joined path) = true ∨
      ∃ r, joined path = joined p.segments ++ '/' :: r) ↔ p.segments <+: path := by
  rw [p.isMatch_joined, prefix_iff p.ne_nil p.areSegments hpath]

/-- A rule for single segments is about each of them. -/
theorem matches_segment (hsingle : ¬ 1 < p.segments.length) :
    (∃ t ∈ splitOn '/' (joined path), Glob.isMatch (joined p.segments) t = true) ↔
      ∃ s ∈ path, p.segments = [s] := by
  obtain ⟨s, hs⟩ : ∃ s, p.segments = [s] := by
    have hlength := List.length_pos_iff.mpr p.ne_nil
    exact List.length_eq_one_iff.mp (by omega)
  simp only [p.isMatch_joined]
  rw [hs, joined_singleton]
  by_cases hne : path = []
  · -- the text of the empty path has one piece, which is empty
    subst hne
    have hsegment := (p.areSegments s (by simp [hs])).1
    simpa [joined, splitOn] using Ne.symm hsegment
  · rw [splitOn_joined hne hpath]
    exact exists_congr fun t => and_congr_right fun _ =>
      ⟨fun heq => congrArg ([·]) heq.symm, fun heq => (List.cons.inj heq).1.symm⟩

end Paths

/-- **Literal patterns match whole segments.** The line of a pattern without wildcards is a rule, which
    is an exception exactly if the line says so. The rule applies to a path of segments exactly if the
    path is a directory, when that is asked for, and its segments start with those of the pattern, or,
    for a single segment without a slash in front, the pattern is one of them. -/
theorem applies_to_segments :
    ∃ rule, IgnoreRule.parse? p.line = some rule ∧ rule.negate = p.isNegated ∧
      ∀ path : List (List Char), AreSegments path → ∀ isDir : Bool,
        rule.appliesTo (joined path) isDir = true ↔
          (p.isForDirs = false ∨ isDir = true) ∧
            if p.isAnchored = true ∨ 1 < p.segments.length then p.segments <+: path
            else ∃ s ∈ path, p.segments = [s] := by
  refine ⟨p.rule, p.parse?_line, rfl, fun path hpath isDir => ?_⟩
  have hrooted : p.rule.rooted = true ↔ p.isAnchored = true ∨ 1 < p.segments.length := by
    simp [rule]
  rw [IgnoreRule.appliesTo_iff]
  refine and_congr_right fun _ => ?_
  by_cases hstart : p.isAnchored = true ∨ 1 < p.segments.length
  · rw [if_pos (hrooted.mpr hstart), if_pos hstart]
    exact p.matches_start hpath
  · rw [if_neg (mt hrooted.mp hstart), if_neg hstart]
    exact p.matches_segment hpath (not_or.mp hstart).2

/-- The directory `src/gen` is taken back in with what is below it, but neither a file of that name nor
    a directory whose name only starts alike. -/
theorem applies_to_segments_src :
    ∃ p : LiteralPattern, p.line = "!src/gen/".toList ∧
      ∃ rule, IgnoreRule.parse? p.line = some rule ∧ rule.negate = true ∧
        rule.appliesTo "src/gen".toList true = true ∧
        rule.appliesTo "src/gen/v1".toList true = true ∧
        rule.appliesTo "src/gen".toList false = false ∧
        rule.appliesTo "src/generated".toList true = false ∧
        rule.appliesTo "web/src/gen".toList true = false := by
  let p : LiteralPattern :=
    { segments := [['s', 'r', 'c'], ['g', 'e', 'n']]
      isNegated := true
      isAnchored := false
      isForDirs := true
      ne_nil := by decide
      literal := by
        simp only [List.forall_mem_cons, List.not_mem_nil, false_implies, implies_true, and_true]
        decide
      start := by
        rintro s hs c hc
        cases hs
        cases hc
        decide }
  obtain ⟨rule, hparse, hnegate, happlies⟩ := p.applies_to_segments
  refine ⟨p, by decide, rule, hparse, hnegate, ?_, ?_, ?_, ?_, ?_⟩
  · exact (happlies (["src", "gen"].map String.toList) (by decide) true).mpr (by decide)
  · exact (happlies (["src", "gen", "v1"].map String.toList) (by decide) true).mpr (by decide)
  · refine Bool.eq_false_iff.mpr (mt (happlies (["src", "gen"].map String.toList)
      (by decide) false).mp ?_)
    decide
  · refine Bool.eq_false_iff.mpr (mt (happlies (["src", "generated"].map String.toList)
      (by decide) true).mp ?_)
    decide
  · refine Bool.eq_false_iff.mpr (mt (happlies (["web", "src", "gen"].map String.toList)
      (by decide) true).mp ?_)
    decide

end LiteralPattern

end SpringRoutes
