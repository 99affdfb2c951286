import SpringRoutes.Proofs.Recognisers

/-!
# `SpringRoutes.Proofs.RoutingAnnotations` — which lines carry a routing annotation, and what it says

A routing annotation is a marker, such as `@GetMapping`, which the edge of a word ends. The first
marker of a line decides (`FirstMarkerIn`). It gives an annotation unless a parenthesis follows it that
is not closed on the line (`Unclosed`), and `parse?_eq_none_iff` says that nothing else is refused.

The arguments between the parentheses are ordinary text, and what they say is found by searching them.
`NamesPath` lists the ways to write a path such that the search finds it, whatever the path is. The
delicate case is the path that is assigned to `path`, since `value` is searched for first: the path may
itself read `value =`, but then the quote that follows is the closing one, and no other comes after it
(`assigned?_value_eq_none`). `VerbOf` says which verb the annotation has.
-/

namespace SpringRoutes

open Text

/-! ## Markers -/

/-- A marker of the line, ended by the edge of a word, between `before` and `rest`. -/
structure MarkerIn (line before : List Char) (k : MappingKind) (rest : List Char) : Prop where
  eq : line = before ++ (k.marker ++ rest)
  closed : closesWord rest = true

/-- No marker stands on the line. -/
def Unmarked (line : List Char) : Prop :=
  ∀ before k rest, ¬ MarkerIn line before k rest

/-- The leftmost marker of the line. -/
structure FirstMarkerIn (line before : List Char) (k : MappingKind) (rest : List Char) : Prop
    extends MarkerIn line before k rest where
  first : ∀ before' k' rest', MarkerIn line before' k' rest' → before.length ≤ before'.length

namespace MappingKind

theorem mem_all (k : MappingKind) : k ∈ all := by
  cases k <;> decide

/-- The kinds differ within the first three characters of their markers. -/
theorem eq_of_take_marker {k k' : MappingKind} (h : k.marker.take 3 = k'.marker.take 3) :
    k = k' := by
  revert h
  cases k <;> cases k' <;> decide

theorem eq_of_marker_append {k k' : MappingKind} {r r' : List Char}
    (h : k.marker ++ r = k'.marker ++ r') : k = k' ∧ r = r' := by
  have hlen : ∀ k : MappingKind, 3 ≤ k.marker.length := fun k => by cases k <;> decide
  have htake := congrArg (List.take 3) h
  rw [List.take_append_of_le_length (hlen k), List.take_append_of_le_length (hlen k')] at htake
  obtain rfl := eq_of_take_marker htake
  exact ⟨rfl, List.append_cancel_left h⟩

/-- A marker starts with an at sign and has no other. -/
theorem marker_eq (k : MappingKind) : ∃ t, k.marker = '@' :: t ∧ '@' ∉ t := by
  cases k <;> exact ⟨_, rfl, by decide⟩

end MappingKind

theorem afterMarker?_eq_some_iff {m s r : List Char} :
    afterMarker? m s = some r ↔ s = m ++ r ∧ closesWord r = true := by
  rw [afterMarker?, Option.filter_eq_some_iff, afterLiteral_eq_some_iff]

theorem eq_append_of_markerAt? {s r : List Char} {k : MappingKind}
    (h : markerAt? s = some (k, r)) : s = k.marker ++ r ∧ closesWord r = true := by
  obtain ⟨k', _, hk'⟩ := List.exists_of_findSome?_eq_some h
  obtain ⟨t, ht, heq⟩ := Option.map_eq_some_iff.mp hk'
  cases heq
  exact afterMarker?_eq_some_iff.mp ht

theorem markerAt?_eq_some_iff {s r : List Char} {k : MappingKind} :
    markerAt? s = some (k, r) ↔ s = k.marker ++ r ∧ closesWord r = true := by
  refine ⟨eq_append_of_markerAt?, ?_⟩
  rintro ⟨rfl, hclosed⟩
  cases hfind : markerAt? (k.marker ++ r) with
  | none =>
    have hk := List.findSome?_eq_none_iff.mp hfind k k.mem_all
    rw [afterMarker?_eq_some_iff.mpr ⟨rfl, hclosed⟩] at hk
    cases hk
  | some m =>
    -- what is found is a marker at the same place, and there is only one
    obtain ⟨hs, _⟩ := eq_append_of_markerAt? hfind
    obtain ⟨hkind, hrest⟩ := MappingKind.eq_of_marker_append hs
    rw [hkind, hrest]

/-! ## The first marker of a line -/

theorem finalLine?_of_not_mem {s : List Char} (h : '\n' ∉ s) : finalLine? s = some s := by
  have hne : ∀ c ∈ s, decide (c ≠ '\n') = true := by
    intro c hc
    refine decide_eq_true ?_
    rintro rfl
    exact h hc
  have hdrop : (s ++ []).dropWhile _ = _ := List.dropWhile_append_of_pos hne
  rw [List.append_nil] at hdrop
  unfold finalLine?
  rw [hdrop]
  rfl

theorem markedLine?_eq_some_iff {s r : List Char} (hs : '\n' ∉ s) {k : MappingKind} :
    markedLine? s = some (k, r) ↔ s = k.marker ++ r ∧ closesWord r = true := by
  unfold markedLine?
  rw [← markerAt?_eq_some_iff]
  cases h : markerAt? s with
  | none => simp
  | some m =>
    obtain ⟨k', r'⟩ := m
    have hr' : '\n' ∉ r' := by
      rw [(eq_append_of_markerAt? h).1, List.mem_append, not_or] at hs
      exact hs.2
    simp [finalLine?_of_not_mem hr']

section FirstMarker

variable {line : List Char} (hline : '\n' ∉ line)

include hline

theorem markedLine?_eq_none_iff {a b : List Char} (hab : line = a ++ b) :
    markedLine? b = none ↔ ∀ k rest, ¬ MarkerIn line a k rest := by
  have hb : '\n' ∉ b := by
    rw [hab, List.mem_append, not_or] at hline
    exact hline.2
  constructor
  · intro h k rest hmarker
    have hrest : b = k.marker ++ rest := List.append_cancel_left (hab ▸ hmarker.eq)
    rw [(markedLine?_eq_some_iff hb).mpr ⟨hrest, hmarker.closed⟩] at h
    cases h
  · intro h
    cases hm : markedLine? b with
    | none => rfl
    | some m =>
      obtain ⟨hrest, hclosed⟩ := (markedLine?_eq_some_iff (k := m.1) (r := m.2) hb).mp hm
      exact absurd ⟨by rw [hab, hrest], hclosed⟩ (h m.1 m.2)

theorem firstMarker?_eq_none_iff : firstMarker? line = none ↔ Unmarked line := by
  rw [firstMarker?, firstMatch_eq_none_iff]
  constructor
  · intro h before k rest hmarker
    exact (markedLine?_eq_none_iff hline hmarker.eq).mp (h before _ hmarker.eq) k rest hmarker
  · intro h a b hab
    exact (markedLine?_eq_none_iff hline hab).mpr (h a)

theorem firstMarker?_eq_some_iff {k : MappingKind} {rest : List Char} :
    firstMarker? line = some (k, rest) ↔ ∃ before, FirstMarkerIn line before k rest := by
  rw [firstMarker?, firstMatch_eq_some_iff]
  constructor
  · rintro ⟨a, b, hab, hsome, hfirst⟩
    have hb : '\n' ∉ b := by
      rw [hab, List.mem_append, not_or] at hline
      exact hline.2
    obtain ⟨hrest, hclosed⟩ := (markedLine?_eq_some_iff hb).mp hsome
    refine ⟨a, ⟨by rw [hab, hrest], hclosed⟩, ?_⟩
    intro before k' rest' hmarker
    refine Nat.le_of_not_lt fun hlt => ?_
    exact (markedLine?_eq_none_iff hline hmarker.eq).mp (hfirst before _ hmarker.eq hlt) k' rest'
      hmarker
  · rintro ⟨before, hmarker, hfirst⟩
    have hb : '\n' ∉ k.marker ++ rest := by
      rw [hmarker.eq, List.mem_append, not_or] at hline
      exact hline.2
    refine ⟨before, k.marker ++ rest, hmarker.eq,
      (markedLine?_eq_some_iff hb).mpr ⟨rfl, hmarker.closed⟩, ?_⟩
    intro a b hab hlt
    refine (markedLine?_eq_none_iff hline hab).mpr fun k' rest' hother => ?_
    exact Nat.not_lt.mpr (hfirst a k' rest' hother) hlt

end FirstMarker

/-! ## Lines without an annotation -/

/-- A parenthesis opens after blanks and is not closed. -/
def Unclosed (rest : List Char) : Prop :=
  ∃ w r, AllBlank w ∧ rest = w ++ '(' :: r ∧ ')' ∉ r

theorem Mapping.after?_eq_none_iff {k : MappingKind} {rest : List Char} :
    Mapping.after? k rest = none ↔ Unclosed rest := by
  unfold Mapping.after? Unclosed
  constructor
  · intro h
    split at h
    · next r hr =>
      obtain ⟨w, hw, hrest⟩ := (trimStart_eq_cons_iff (by decide)).mp hr
      rw [Option.map_eq_none_iff, parenthesized?, hr] at h
      have hclose : ')' ∉ r := splitAtFirst_eq_none_iff.mp (Option.map_eq_none_iff.mp h)
      exact ⟨w, r, hw, hrest, hclose⟩
    · cases h
  · rintro ⟨w, r, hw, rfl, hclose⟩
    rw [parenthesized?, trimStart_append_cons hw (by decide)]
    simp [splitAtFirst_eq_none_iff.mpr hclose]

theorem Mapping.parse?_eq_none_iff {line : List Char} (hline : '\n' ∉ line) :
    Mapping.parse? line = none ↔
      Unmarked line ∨ ∃ before k rest, FirstMarkerIn line before k rest ∧ Unclosed rest := by
  unfold Mapping.parse?
  cases h : firstMarker? line with
  | none => simp [(firstMarker?_eq_none_iff hline).mp h]
  | some m =>
    obtain ⟨before, hfirst⟩ := (firstMarker?_eq_some_iff hline).mp h
    have hmarked : ¬ Unmarked line := fun hnone => hnone before m.1 m.2 hfirst.toMarkerIn
    rw [Option.bind_some, Mapping.after?_eq_none_iff]
    constructor
    · intro hopen
      exact .inr ⟨before, m.1, m.2, hfirst, hopen⟩
    · rintro (hnone | ⟨before', k', rest', hfirst', hopen⟩)
      · exact absurd hnone hmarked
      · -- the first marker of a line is one
        have hm := (firstMarker?_eq_some_iff hline).mpr ⟨before', hfirst'⟩
        rw [h, Option.some.injEq] at hm
        rw [hm]
        exact hopen

/-! ## Lines with one annotation and its arguments -/

/-- A line on which a marker with arguments follows a text without markers. -/
def annotated (pre : List Char) (k : MappingKind) (gap args suffix : List Char) : List Char :=
  pre ++ (k.marker ++ (gap ++ '(' :: (args ++ ')' :: suffix)))

/-- No marker starts in a text without markers, even if more text follows it: a marker has one at sign,
    so it does not reach into the next one. -/
theorem firstMarkerIn_annotated {pre gap : List Char} (hpre : Unmarked pre) (hgap : AllBlank gap)
    (k : MappingKind) (args suffix : List Char) :
    FirstMarkerIn (annotated pre k gap args suffix) pre k
      (gap ++ '(' :: (args ++ ')' :: suffix)) := by
  refine ⟨⟨rfl, closesWord_append hgap (by decide) _⟩, ?_⟩
  intro before' k' rest' hmarker
  refine Nat.le_of_not_lt fun hlt => ?_
  obtain ⟨t, ht, _⟩ := k.marker_eq
  obtain ⟨t', ht', hat⟩ := k'.marker_eq
  rcases List.append_eq_append_iff.mp hmarker.eq with ⟨x, hx, _⟩ | ⟨x, rfl, hx⟩
  · rw [hx, List.length_append] at hlt
    omega
  · rcases List.append_eq_append_iff.mp hx with ⟨y, rfl, hy⟩ | ⟨y, hy, hrest⟩
    · -- the whole marker is in `pre`
      refine hpre before' k' y ⟨rfl, ?_⟩
      have hclosed := hmarker.closed
      rw [hy] at hclosed
      cases y with
      | nil => rfl
      | cons c y => exact hclosed
    · -- the marker would end in the next one, and have its at sign inside
      cases y with
      | nil =>
        rw [List.append_nil] at hy
        exact hpre before' k' [] ⟨by rw [hy, List.append_nil], rfl⟩
      | cons c y =>
        rw [ht] at hrest
        obtain ⟨rfl, _⟩ := List.cons.inj hrest
        rw [ht'] at hy
        cases x with
        | nil =>
          rw [List.append_nil] at hlt
          omega
        | cons d x => exact hat (by simp [(List.cons.inj hy).2])

theorem parse?_annotated {pre gap args suffix : List Char} {k : MappingKind} (hpre : Unmarked pre)
    (hgap : AllBlank gap) (hargs : ')' ∉ args) (hline : '\n' ∉ annotated pre k gap args suffix) :
    Mapping.parse? (annotated pre k gap args suffix)
      = some ⟨(pathArgument? args).getD "", k.verb?.getD (requestVerb args)⟩ := by
  have hfirst := firstMarkerIn_annotated hpre hgap k args suffix
  have hparen : parenthesized? (gap ++ '(' :: (args ++ ')' :: suffix)) = some args :=
    parenthesized?_eq_some_iff.mpr ⟨gap, suffix, hgap, rfl, hargs⟩
  rw [Mapping.parse?, (firstMarker?_eq_some_iff hline).mpr ⟨pre, hfirst⟩, Option.bind_some]
  unfold Mapping.after?
  rw [trimStart_append_cons hgap (by decide)]
  simp [hparen]

/-! ## The path among the arguments -/

/-- Blanks, perhaps with a closing brace among them. -/
def IsClosing (c : List Char) : Prop :=
  AllBlank c ∨ ∃ w w', AllBlank w ∧ AllBlank w' ∧ c = w ++ '\x7d' :: w'

/-- The arguments name the path `p`. -/
inductive NamesPath (p : List Char) : List Char → Prop
  /-- The path comes first. -/
  | bare {o tail : List Char} (opening : IsOpening o) :
      NamesPath p (o ++ '"' :: (p ++ '"' :: tail))
  /-- The path is assigned to `value`, which comes first. -/
  | value {w w' o tail : List Char} (blank : AllBlank w) (blank' : AllBlank w')
      (opening : IsOpening o) :
      NamesPath p (w ++ ("value".toList ++ (w' ++ '=' :: (o ++ '"' :: (p ++ '"' :: tail)))))
  /-- The path is assigned to `path`, which stands alone. -/
  | path {w w' o c : List Char} (blank : AllBlank w) (blank' : AllBlank w')
      (opening : IsOpening o) (closing : IsClosing c) :
      NamesPath p (w ++ ("path".toList ++ (w' ++ '=' :: (o ++ '"' :: (p ++ '"' :: c)))))

/-- An assignment after blanks is found. -/
theorem assigned?_append {name : String} {n : Char} {ns : List Char}
    (hname : name.toList = n :: ns) (hn : isBlank n = false) {w w' o p : List Char}
    (hw : AllBlank w) (hw' : AllBlank w') (ho : IsOpening o) (hp : '"' ∉ p) (tail : List Char) :
    assigned? name (w ++ (name.toList ++ (w' ++ '=' :: (o ++ '"' :: (p ++ '"' :: tail)))))
      = some (String.ofList p) := by
  rw [assigned?, firstMatch_append_of_forall]
  · refine firstMatch_of_some (assignedHere?_eq_some_iff.mpr ⟨opensWord_charBefore rfl hw, ?_⟩)
    exact ⟨w', o, p, tail, hw', ho, hp, rfl, rfl⟩
  · intro c hc before r
    refine assignedHere?_cons_of_ne hname ?_ before r
    rintro rfl
    exact hw.not_mem hn hc

/-- A text with one part in quotes can be cut around a part in quotes in one way only. -/
theorem eq_of_two_quotes {a p c a' p' c' : List Char}
    (h : a ++ '"' :: (p ++ '"' :: c) = a' ++ '"' :: (p' ++ '"' :: c'))
    (ha : '"' ∉ a) (hp : '"' ∉ p) (hc : '"' ∉ c) : a' = a := by
  have hcount := congrArg (List.count '"') h
  simp only [List.count_append, List.count_cons_self, List.count_eq_zero_of_not_mem ha,
    List.count_eq_zero_of_not_mem hp, List.count_eq_zero_of_not_mem hc] at hcount
  have ha' : '"' ∉ a' := List.count_eq_zero.mp (by omega)
  exact (eq_of_append_cons h ha ha').1.symm

theorem IsClosing.not_mem {c : List Char} (hc : IsClosing c) : '"' ∉ c := by
  rcases hc with hc | ⟨w, w', hw, hw', rfl⟩
  · exact hc.not_mem (by decide)
  · rw [List.mem_append, List.mem_cons, not_or, not_or]
    exact ⟨hw.not_mem (by decide), by decide, hw'.not_mem (by decide)⟩

/-- **A path may read like an assignment.** The quote that would open the value closes the path, and
    no further quote closes the value. -/
theorem assigned?_value_eq_none {w w' o p c : List Char} (hw : AllBlank w) (hw' : AllBlank w')
    (ho : IsOpening o) (hp : '"' ∉ p) (hc : IsClosing c) :
    assigned? "value" (w ++ ("path".toList ++ (w' ++ '=' :: (o ++ '"' :: (p ++ '"' :: c)))))
      = none := by
  -- nothing before the first quote has the letter with which `value` starts
  have hnot : ∀ x, isBlank x = false → x ≠ '\x7b' → x ∉ "path".toList → x ≠ '=' →
      x ∉ w ++ ("path".toList ++ (w' ++ '=' :: o)) := by
    intro x hblank hbrace hpath heq hmem
    rcases List.mem_append.mp hmem with hmem | hmem
    · exact hw.not_mem hblank hmem
    rcases List.mem_append.mp hmem with hmem | hmem
    · exact hpath hmem
    rcases List.mem_append.mp hmem with hmem | hmem
    · exact hw'.not_mem hblank hmem
    rcases List.mem_cons.mp hmem with hmem | hmem
    · exact heq hmem
    · exact ho.not_mem hblank hbrace hmem
  cases h : assigned? "value"
      (w ++ ("path".toList ++ (w' ++ '=' :: (o ++ '"' :: (p ++ '"' :: c))))) with
  | none => rfl
  | some v =>
    unfold assigned? at h
    obtain ⟨a, b, hab, hb, _⟩ := firstMatch_eq_some_iff.mp h
    obtain ⟨_, u, o', p', r, _, _, _, _, rfl⟩ := assignedHere?_eq_some_iff.mp hb
    have hcut : (w ++ ("path".toList ++ (w' ++ '=' :: o))) ++ '"' :: (p ++ '"' :: c)
        = (a ++ ("value".toList ++ (u ++ '=' :: o'))) ++ '"' :: (p' ++ '"' :: r) := by
      simpa using hab
    have heq := eq_of_two_quotes hcut (hnot '"' (by decide) (by decide) (by decide) (by decide)) hp
      hc.not_mem
    refine absurd ?_ (hnot 'v' (by decide) (by decide) (by decide) (by decide))
    rw [← heq]
    simp

theorem pathArgument?_of_namesPath {p args : List Char} (hp : '"' ∉ p) (h : NamesPath p args) :
    pathArgument? args = some (String.ofList p) := by
  unfold pathArgument?
  cases h with
  | bare ho =>
    rw [bracedQuoted?_eq_some_iff.mpr ⟨_, p, _, ho, rfl, hp, rfl⟩]
    rfl
  | value hw hw' ho =>
    have hname : "value".toList = 'v' :: "alue".toList := rfl
    rw [bracedQuoted?_word hw hname (by decide), assigned?_append hname (by decide) hw hw' ho hp]
    rfl
  | path hw hw' ho hc =>
    have hname : "path".toList = 'p' :: "ath".toList := rfl
    rw [bracedQuoted?_word hw hname (by decide), assigned?_value_eq_none hw hw' ho hp hc,
      assigned?_append hname (by decide) hw hw' ho hp]
    rfl

/-! ## The verb among the arguments -/

theorem closesWord_dropWhile (r : List Char) : closesWord (r.dropWhile isWord) = true := by
  cases h : r.dropWhile isWord with
  | nil => rfl
  | cons c t =>
    have hhead := List.head?_dropWhile_not isWord r
    rw [h] at hhead
    simpa [closesWord] using hhead

theorem takeWhile_isWord_eq_nil_iff {r : List Char} :
    r.takeWhile isWord = [] ↔ closesWord r = true := by
  cases r with
  | nil => simp [closesWord]
  | cons c t => simp [List.takeWhile_cons, closesWord]

theorem verbHere?_eq_none_iff {s : List Char} :
    verbHere? s = none ↔ ∀ r, s = verbMark ++ r → closesWord r = true := by
  unfold verbHere?
  cases h : afterLiteral verbMark s with
  | none =>
    refine iff_of_true rfl ?_
    intro r hr
    rw [afterLiteral_eq_some_iff.mpr hr] at h
    cases h
  | some t =>
    obtain rfl := afterLiteral_eq_some_iff.mp h
    have hr : ∀ r, verbMark ++ t = verbMark ++ r ↔ r = t := fun r => by
      rw [List.append_cancel_left_eq, eq_comm]
    simp only [hr, forall_eq, ← takeWhile_isWord_eq_nil_iff, Option.map_some]
    cases t.takeWhile isWord <;> simp

theorem verbHere?_eq_some {s : List Char} {v : String} (h : verbHere? s = some v) :
    ∃ word after, s = verbMark ++ (word ++ after) ∧ word ≠ [] ∧ (∀ c ∈ word, isWord c = true) ∧
      closesWord after = true ∧ v = String.ofList (upper word) := by
  unfold verbHere? at h
  split at h
  · next c cs heq =>
    cases h
    obtain ⟨t, ht, htake⟩ := Option.map_eq_some_iff.mp heq
    refine ⟨c :: cs, t.dropWhile isWord, ?_, List.cons_ne_nil _ _, ?_, closesWord_dropWhile t, rfl⟩
    · rw [← htake, List.takeWhile_append_dropWhile]
      exact afterLiteral_eq_some_iff.mp ht
    · rw [← htake]
      exact List.all_eq_true.mp List.all_takeWhile
  · cases h

/-- The verb of an annotation of kind `k` with the given arguments. -/
inductive VerbOf (k : MappingKind) (args : List Char) : String → Prop
  /-- The kind fixes the verb. -/
  | fixed {v : String} (verb : k.verb? = some v) : VerbOf k args v
  /-- A request mapping has the word after the first verb mark that a word follows. -/
  | named {before word after : List Char} (kind : k = .request)
      (eq : args = before ++ (verbMark ++ (word ++ after))) (word_ne : word ≠ [])
      (word_chars : ∀ c ∈ word, isWord c = true) (word_ends : closesWord after = true)
      (first : ∀ b r, args = b ++ (verbMark ++ r) → closesWord r = false →
        before.length ≤ b.length) :
      VerbOf k args (String.ofList (upper word))
  /-- Without such a word it has any verb. -/
  | any (kind : k = .request)
      (unnamed : ∀ b r, args = b ++ (verbMark ++ r) → closesWord r = true) :
      VerbOf k args "REQUEST"

theorem verbOf_request (args : List Char) : VerbOf .request args (requestVerb args) := by
  unfold requestVerb
  cases h : firstMatch (fun _ s => verbHere? s) none args with
  | none =>
    refine .any rfl fun b r hr => ?_
    exact verbHere?_eq_none_iff.mp (firstMatch_eq_none_iff.mp h b _ hr) r rfl
  | some v =>
    obtain ⟨before, b, hab, hv, hfirst⟩ := firstMatch_eq_some_iff.mp h
    obtain ⟨word, after, rfl, hne, hword, hends, rfl⟩ := verbHere?_eq_some hv
    refine .named rfl hab hne hword hends fun b r hr hopen => ?_
    refine Nat.le_of_not_lt fun hlt => ?_
    have hclosed := verbHere?_eq_none_iff.mp (hfirst b _ hr hlt) r rfl
    rw [hclosed] at hopen
    cases hopen

theorem verbOf_getD (k : MappingKind) (args : List Char) :
    VerbOf k args (k.verb?.getD (requestVerb args)) := by
  cases k with
  | request => exact verbOf_request args
  | get | post | put | delete | patch => exact .fixed rfl

/-! ## Main result -/

/-- **Routing annotations are recognised exactly, and their paths are recovered.** A line has no
    annotation only if it has no marker or a parenthesis after the first marker is left open. An
    annotation whose arguments name a path has that path, whatever else the arguments and the line
    have in them, and it has the verb of its kind or of its arguments. -/
theorem Mapping.parse?_exact :
    (∀ line : List Char, '\n' ∉ line →
      (Mapping.parse? line = none ↔
        Unmarked line ∨ ∃ before k rest, FirstMarkerIn line before k rest ∧ Unclosed rest)) ∧
    ∀ (pre : List Char) (k : MappingKind) (gap args suffix p : List Char),
      Unmarked pre → AllBlank gap → NamesPath p args → '"' ∉ p → ')' ∉ args →
      '\n' ∉ annotated pre k gap args suffix →
      ∃ verb, Mapping.parse? (annotated pre k gap args suffix) = some ⟨String.ofList p, verb⟩ ∧
        VerbOf k args verb := by
  refine ⟨fun line hline => Mapping.parse?_eq_none_iff hline, ?_⟩
  intro pre k gap args suffix p hpre hgap hpath hquote hparen hline
  refine ⟨k.verb?.getD (requestVerb args), ?_, verbOf_getD k args⟩
  rw [parse?_annotated hpre hgap hparen hline, pathArgument?_of_namesPath hquote hpath]
  rfl

/-- A path that reads like another assignment and has a verb in it, after a word that is no marker;
    and a parenthesis that is left open. -/
theorem Mapping.parse?_exact_decoy :
    let pre := "// @GetMappings ".toList
    let p := "value = RequestMethod.delete".toList
    let args := " path = \x7b \"value = RequestMethod.delete\" \x7d ".toList
    let line := annotated pre .request [' '] args " )".toList
    let unclosed := "@PutMapping (\"/a\"".toList
    Unmarked pre ∧ AllBlank [' '] ∧ NamesPath p args ∧ '"' ∉ p ∧ ')' ∉ args ∧ '\n' ∉ line ∧
      Mapping.parse? line = some ⟨"value = RequestMethod.delete", "DELETE"⟩ ∧
      (∃ verb, Mapping.parse? line = some ⟨String.ofList p, verb⟩ ∧ VerbOf .request args verb) ∧
      '\n' ∉ unclosed ∧ Mapping.parse? unclosed = none ∧
      (Unmarked unclosed ∨ ∃ before k rest, FirstMarkerIn unclosed before k rest ∧ Unclosed rest) := by
  intro pre p args line unclosed
  have hpre : Unmarked pre := (firstMarker?_eq_none_iff (by decide +kernel)).mp (by decide +kernel)
  have hblank : AllBlank [' '] := by decide
  have hpath : NamesPath p args := by
    have hargs : args = [' '] ++ ("path".toList ++ ([' '] ++ '=' ::
        (([' '] ++ '\x7b' :: [' ']) ++ '"' :: (p ++ '"' :: ([' '] ++ '\x7d' :: [' ']))))) := by
      decide +kernel
    rw [hargs]
    exact .path hblank hblank (.inr ⟨_, _, hblank, hblank, rfl⟩) (.inr ⟨_, _, hblank, hblank, rfl⟩)
  have hquote : '"' ∉ p := by decide +kernel
  have hparen : ')' ∉ args := by decide +kernel
  have hline : '\n' ∉ line := by decide +kernel
  have hopen : '\n' ∉ unclosed := by decide +kernel
  have hnone : Mapping.parse? unclosed = none := by decide +kernel
  refine ⟨hpre, hblank, hpath, hquote, hparen, hline, by decide +kernel, ?_, hopen, hnone, ?_⟩
  · exact Mapping.parse?_exact.2 pre .request [' '] args " )".toList p hpre hblank hpath hquote
      hparen hline
  · exact (Mapping.parse?_exact.1 unclosed hopen).mp hnone

end SpringRoutes
