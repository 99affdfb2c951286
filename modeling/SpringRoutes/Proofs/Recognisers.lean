import SpringRoutes.Outline.Annotation

/-!
# `SpringRoutes.Proofs.Recognisers` — what the recognisers of annotations accept

Annotations are found by small recognisers, each of which reads from the start of a text, and by a
search for the leftmost place where one of them succeeds. This module says of each what it accepts, as
a way to write the text: `quoted?` finds a text in quotes, `afterAssign?` finds a name, blanks and an
equals sign, and so on. Later proofs cut texts into parts and never open a recogniser.

* `firstMatch_eq_some_iff` and `firstMatch_eq_none_iff` say where a search succeeds;
  `firstMatch_append` and `firstMatch_append_of_forall` let it pass over a start in which nothing
  matches.
* `assignedHere?` is what the search for an assigned text tries at each place.
* `AllBlank` is a text of blanks, `IsWordText` one of word characters, and `IsOpening` what may stand
  between an equals sign and a quote.
-/

namespace SpringRoutes

namespace Text

/-! ## Places in a text -/

/-- The character before what follows `pre`, if `before` is the one before `pre`. -/
def charBefore (before : Option Char) (pre : List Char) : Option Char :=
  pre.getLast?.or before

@[simp] theorem charBefore_nil (before : Option Char) : charBefore before [] = before := rfl

@[simp] theorem charBefore_cons (before : Option Char) (c : Char) (cs : List Char) :
    charBefore before (c :: cs) = charBefore (some c) cs := by
  cases cs with
  | nil => rfl
  | cons d ds => simp [charBefore, List.getLast?_cons]

theorem charBefore_append (before : Option Char) (a b : List Char) :
    charBefore before (a ++ b) = charBefore (charBefore before a) b := by
  induction a generalizing before with
  | nil => rfl
  | cons c cs ih => rw [List.cons_append, charBefore_cons, charBefore_cons, ih]

theorem charBefore_concat (before : Option Char) (a : List Char) (c : Char) :
    charBefore before (a ++ [c]) = some c := by
  rw [charBefore_append, charBefore_cons, charBefore_nil]

theorem exists_charBefore (c : Char) (a : List Char) : ∃ d, charBefore (some c) a = some d := by
  induction a generalizing c with
  | nil => exact ⟨c, rfl⟩
  | cons d a ih => exact charBefore_cons (some c) d a ▸ ih d

/-! ## Searching -/

section Search

variable {α : Type} {p : Option Char → List Char → Option α} {before : Option Char}

theorem firstMatch_cons_of_none {c : Char} {cs : List Char} (h : p before (c :: cs) = none) :
    firstMatch p before (c :: cs) = firstMatch p (some c) cs := by
  rw [firstMatch, h]

theorem firstMatch_of_some {s : List Char} {x : α} (h : p before s = some x) :
    firstMatch p before s = some x := by
  cases s with
  | nil => exact h
  | cons c cs => rw [firstMatch, h]

/-- A search passes over a start without a match. -/
theorem firstMatch_append {pre s : List Char}
    (h : ∀ a b, pre = a ++ b → b ≠ [] → p (charBefore before a) (b ++ s) = none) :
    firstMatch p before (pre ++ s) = firstMatch p (charBefore before pre) s := by
  induction pre generalizing before with
  | nil => rfl
  | cons c cs ih =>
    have hhere : p before (c :: (cs ++ s)) = none := h [] (c :: cs) rfl (List.cons_ne_nil _ _)
    rw [List.cons_append, firstMatch_cons_of_none hhere, ih, charBefore_cons]
    intro a b hab hb
    have hcons := h (c :: a) b (by rw [hab, List.cons_append]) hb
    rwa [charBefore_cons] at hcons

/-- A search passes over characters with which no match starts. -/
theorem firstMatch_append_of_forall {pre s : List Char}
    (h : ∀ c ∈ pre, ∀ b r, p b (c :: r) = none) :
    firstMatch p before (pre ++ s) = firstMatch p (charBefore before pre) s := by
  refine firstMatch_append ?_
  intro a b hab hb
  obtain ⟨c, r, rfl⟩ := List.exists_cons_of_ne_nil hb
  exact h c (by simp [hab]) _ _

/-- The same past the start of the text, where every place has a character before it. -/
theorem exists_firstMatch_append {c : Char} {pre s : List Char}
    (h : ∀ d ∈ pre, ∀ b r, p (some b) (d :: r) = none) :
    ∃ d, firstMatch p (some c) (pre ++ s) = firstMatch p (some d) s := by
  obtain ⟨d, hd⟩ := exists_charBefore c pre
  refine ⟨d, hd ▸ firstMatch_append ?_⟩
  intro x y hxy hy
  obtain ⟨e, y, rfl⟩ := List.exists_cons_of_ne_nil hy
  obtain ⟨b, hb⟩ := exists_charBefore c x
  rw [hb]
  exact h e (by simp [hxy]) b (y ++ s)

theorem firstMatch_eq_none_iff {s : List Char} :
    firstMatch p before s = none ↔ ∀ a b, s = a ++ b → p (charBefore before a) b = none := by
  constructor
  · intro h a b hab
    induction s generalizing before a with
    | nil =>
      obtain ⟨rfl, rfl⟩ := List.append_eq_nil_iff.mp hab.symm
      exact h
    | cons c cs ih =>
      rw [firstMatch] at h
      split at h
      · cases h
      · next hnone =>
        cases a with
        | nil =>
          rw [List.nil_append] at hab
          exact hab ▸ hnone
        | cons d a =>
          obtain ⟨rfl, hcs⟩ := List.cons.inj hab
          rw [charBefore_cons]
          exact ih h a hcs
  · intro h
    have hskip : firstMatch p before (s ++ []) = firstMatch p (charBefore before s) [] := by
      refine firstMatch_append fun a b hab _ => ?_
      rw [List.append_nil]
      exact h a b hab
    rw [List.append_nil] at hskip
    rw [hskip]
    exact h s [] (List.append_nil s).symm

theorem firstMatch_eq_some_iff {s : List Char} {x : α} :
    firstMatch p before s = some x ↔
      ∃ a b, s = a ++ b ∧ p (charBefore before a) b = some x ∧
        ∀ a' b', s = a' ++ b' → a'.length < a.length → p (charBefore before a') b' = none := by
  constructor
  · intro h
    induction s generalizing before with
    | nil => exact ⟨[], [], rfl, h, fun _ _ _ hlt => absurd hlt (Nat.not_lt_zero _)⟩
    | cons c cs ih =>
      rw [firstMatch] at h
      split at h
      · next y hy =>
        exact ⟨[], c :: cs, rfl, hy.trans h, fun _ _ _ hlt => absurd hlt (Nat.not_lt_zero _)⟩
      · next hnone =>
        obtain ⟨a, b, rfl, hx, hfirst⟩ := ih h
        refine ⟨c :: a, b, rfl, by rwa [charBefore_cons], ?_⟩
        intro a' b' hab hlt
        cases a' with
        | nil =>
          rw [List.nil_append] at hab
          exact hab ▸ hnone
        | cons d a' =>
          obtain ⟨rfl, hcs⟩ := List.cons.inj hab
          rw [charBefore_cons]
          exact hfirst a' b' hcs (Nat.lt_of_succ_lt_succ hlt)
  · rintro ⟨a, b, rfl, hx, hfirst⟩
    rw [firstMatch_append, firstMatch_of_some hx]
    intro a' b' hab hb
    refine hfirst a' (b' ++ b) (by rw [hab, List.append_assoc]) ?_
    rw [hab, List.length_append]
    exact Nat.lt_add_of_pos_right (List.length_pos_iff.mpr hb)

end Search

/-! ## Fixed texts and separators -/

theorem afterLiteral_eq_some_iff {lit s r : List Char} :
    afterLiteral lit s = some r ↔ s = lit ++ r := by
  constructor
  · exact eq_append_of_afterLiteral
  · rintro rfl
    exact afterLiteral_append lit r

theorem splitAtFirst_append {q : Char} {a : List Char} (h : q ∉ a) (b : List Char) :
    splitAtFirst q (a ++ q :: b) = some (a, b) := by
  induction a with
  | nil => simp [splitAtFirst]
  | cons c a ih =>
    rw [List.mem_cons, not_or] at h
    rw [List.cons_append, splitAtFirst, if_neg (Ne.symm h.1), ih h.2]
    rfl

theorem splitAtFirst_eq_some_iff {q : Char} {s a b : List Char} :
    splitAtFirst q s = some (a, b) ↔ s = a ++ q :: b ∧ q ∉ a := by
  constructor
  · intro h
    induction s generalizing a with
    | nil => cases h
    | cons c cs ih =>
      rw [splitAtFirst] at h
      split at h
      · next hc =>
        cases h
        exact ⟨by rw [hc]; rfl, List.not_mem_nil⟩
      · next hc =>
        obtain ⟨⟨a', b'⟩, h', heq⟩ := Option.map_eq_some_iff.mp h
        cases heq
        obtain ⟨rfl, hnot⟩ := ih h'
        refine ⟨rfl, ?_⟩
        rw [List.mem_cons, not_or]
        exact ⟨Ne.symm hc, hnot⟩
  · rintro ⟨rfl, h⟩
    exact splitAtFirst_append h b

theorem splitAtFirst_eq_none_iff {q : Char} {s : List Char} :
    splitAtFirst q s = none ↔ q ∉ s := by
  induction s with
  | nil => simp [splitAtFirst]
  | cons c cs ih =>
    by_cases hc : c = q
    · simp [splitAtFirst, hc]
    · simp [splitAtFirst, hc, Ne.symm hc, ih]

/-- The first separator is in one place only. -/
theorem eq_of_append_cons {q : Char} {a b a' b' : List Char} (h : a ++ q :: b = a' ++ q :: b')
    (ha : q ∉ a) (ha' : q ∉ a') : a = a' ∧ b = b' := by
  have hsplit := splitAtFirst_append ha b
  rw [h, splitAtFirst_append ha'] at hsplit
  cases hsplit
  exact ⟨rfl, rfl⟩

/-! ## Blanks -/

/-- A text of blanks. -/
def AllBlank (w : List Char) : Prop :=
  ∀ c ∈ w, isBlank c = true

instance (w : List Char) : Decidable (AllBlank w) :=
  decidable_of_iff (w.all isBlank = true) List.all_eq_true

theorem AllBlank.not_mem {w : List Char} (hw : AllBlank w) {c : Char} (hc : isBlank c = false) :
    c ∉ w := by
  intro hmem
  rw [hw c hmem] at hc
  cases hc

theorem blankRanges_not_word :
    ∀ r ∈ blankRanges, ∀ k ∈ List.range (r.2 - r.1 + 1),
      isWord (Char.ofNat (r.1 + k)) = false := by
  decide +kernel

/-- No blank belongs to a word. -/
theorem isWord_of_isBlank {c : Char} (h : isBlank c = true) : isWord c = false := by
  obtain ⟨r, hr, hlo, hhi⟩ := Ranges.contains_iff.mp h
  have hk : c.toNat - r.1 ∈ List.range (r.2 - r.1 + 1) := List.mem_range.mpr (by omega)
  have hword := blankRanges_not_word r hr _ hk
  rwa [Nat.add_sub_cancel' hlo, Char.ofNat_toNat] at hword

theorem isBlank_of_isWord {c : Char} (h : isWord c = true) : isBlank c = false := by
  cases hc : isBlank c with
  | false => rfl
  | true =>
    rw [isWord_of_isBlank hc] at h
    cases h

/-- A word has ended before blanks and a character that belongs to none. -/
theorem closesWord_append {w : List Char} (hw : AllBlank w) {c : Char} (hc : isWord c = false)
    (r : List Char) : closesWord (w ++ c :: r) = true := by
  cases w with
  | nil => simp [closesWord, hc]
  | cons d w => simp [closesWord, isWord_of_isBlank (hw d (List.mem_cons_self ..))]

/-- A word can start after blanks where it can start before them. -/
theorem opensWord_charBefore {before : Option Char} (h : opensWord before = true) {w : List Char}
    (hw : AllBlank w) : opensWord (charBefore before w) = true := by
  rcases List.eq_nil_or_concat w with rfl | ⟨v, c, rfl⟩
  · exact h
  · rw [List.concat_eq_append, charBefore_concat]
    simp [opensWord, isWord_of_isBlank (hw c (by simp))]

theorem exists_trimStart (s : List Char) : ∃ w, AllBlank w ∧ s = w ++ trimStart s :=
  ⟨s.takeWhile isBlank, List.all_eq_true.mp List.all_takeWhile,
    List.takeWhile_append_dropWhile.symm⟩

theorem trimStart_append {w : List Char} (hw : AllBlank w) (s : List Char) :
    trimStart (w ++ s) = trimStart s :=
  List.dropWhile_append_of_pos hw

theorem trimStart_cons {c : Char} (hc : isBlank c = false) (s : List Char) :
    trimStart (c :: s) = c :: s :=
  List.dropWhile_cons_of_neg (by simp [hc])

theorem trimStart_append_cons {w : List Char} (hw : AllBlank w) {c : Char}
    (hc : isBlank c = false) (s : List Char) : trimStart (w ++ c :: s) = c :: s := by
  rw [trimStart_append hw, trimStart_cons hc]

theorem trimStart_eq_cons_iff {s r : List Char} {c : Char} (hc : isBlank c = false) :
    trimStart s = c :: r ↔ ∃ w, AllBlank w ∧ s = w ++ c :: r := by
  constructor
  · intro h
    obtain ⟨w, hw, hs⟩ := exists_trimStart s
    rw [h] at hs
    exact ⟨w, hw, hs⟩
  · rintro ⟨w, hw, rfl⟩
    exact trimStart_append_cons hw hc r

end Text

open Text

/-! ## Words -/

/-- A text that is one word. -/
def IsWordText (s : List Char) : Prop :=
  s ≠ [] ∧ ∀ c ∈ s, isWord c = true

instance (s : List Char) : Decidable (IsWordText s) :=
  decidable_of_iff ((!s.isEmpty && s.all isWord) = true) (by simp [IsWordText])

theorem IsWordText.not_mem {w : List Char} (hw : IsWordText w) {c : Char} (hc : isWord c = false) :
    c ∉ w := by
  intro hmem
  rw [hw.2 c hmem] at hc
  cases hc

/-- A word ends in one place only. -/
theorem eq_of_word_append {m n s t : List Char} (hm : IsWordText m) (hn : IsWordText n)
    (hs : closesWord s = true) (ht : closesWord t = true) (h : m ++ s = n ++ t) :
    m = n ∧ s = t := by
  have htake : ∀ {w r : List Char}, IsWordText w → closesWord r = true →
      (w ++ r).takeWhile isWord = w := by
    intro w r hw hr
    rw [List.takeWhile_append_of_pos hw.2]
    cases r with
    | nil => simp
    | cons c r =>
      have hc : isWord c = false := by simpa [closesWord] using hr
      rw [List.takeWhile_cons_of_neg (by simp [hc]), List.append_nil]
  have hmn : m = n := by rw [← htake hm hs, h, htake hn ht]
  subst hmn
  exact ⟨rfl, List.append_cancel_left h⟩

theorem trimStart_word {w m s : List Char} (hw : AllBlank w) (hm : IsWordText m) :
    trimStart (w ++ (m ++ s)) = m ++ s := by
  obtain ⟨c, m, rfl⟩ := List.exists_cons_of_ne_nil hm.1
  exact trimStart_append_cons hw (isBlank_of_isWord (hm.2 c (by simp))) (m ++ s)

/-! ## Texts in quotes -/

theorem quoted?_eq_some_iff {s : List Char} {v : String} :
    quoted? s = some v ↔ ∃ p r, s = '"' :: (p ++ '"' :: r) ∧ '"' ∉ p ∧ v = String.ofList p := by
  constructor
  · intro h
    unfold quoted? at h
    split at h
    · next t =>
      obtain ⟨⟨p, r⟩, hsplit, rfl⟩ := Option.map_eq_some_iff.mp h
      obtain ⟨rfl, hp⟩ := splitAtFirst_eq_some_iff.mp hsplit
      exact ⟨p, r, rfl, hp, rfl⟩
    · cases h
  · rintro ⟨p, r, rfl, hp, rfl⟩
    rw [quoted?, splitAtFirst_append hp]
    rfl

/-- A text in quotes does not come first where a word does. -/
theorem quoted?_word {n : Char} (hn : isWord n = true) (s : List Char) :
    quoted? (n :: s) = none := by
  cases h : quoted? (n :: s) with
  | none => rfl
  | some v =>
    obtain ⟨p, r, heq, _⟩ := quoted?_eq_some_iff.mp h
    rw [(List.cons.inj heq).1] at hn
    exact absurd hn (by decide)

/-- Blanks, perhaps with a brace among them. -/
def IsOpening (o : List Char) : Prop :=
  AllBlank o ∨ ∃ w w', AllBlank w ∧ AllBlank w' ∧ o = w ++ '\x7b' :: w'

theorem IsOpening.not_mem {o : List Char} (ho : IsOpening o) {c : Char} (hc : isBlank c = false)
    (hbrace : c ≠ '\x7b') : c ∉ o := by
  rcases ho with ho | ⟨w, w', hw, hw', rfl⟩
  · exact ho.not_mem hc
  · rw [List.mem_append, List.mem_cons, not_or, not_or]
    exact ⟨hw.not_mem hc, hbrace, hw'.not_mem hc⟩

/-- What `bracedQuoted?` does after the blanks at the start. -/
theorem bracedQuoted?_append {w : List Char} (hw : AllBlank w) {c : Char}
    (hc : isBlank c = false) (s : List Char) :
    bracedQuoted? (w ++ c :: s) =
      if c = '\x7b' then quoted? (trimStart s) else quoted? (c :: s) := by
  unfold bracedQuoted?
  rw [trimStart_append_cons hw hc]
  split
  · next heq =>
    obtain ⟨rfl, rfl⟩ := List.cons.inj heq
    rw [if_pos rfl]
  · next hne =>
    rw [if_neg]
    rintro rfl
    exact hne s rfl

theorem bracedQuoted?_word {w name ns : List Char} {n : Char} (hw : AllBlank w)
    (hname : name = n :: ns) (hn : isWord n = true) (s : List Char) :
    bracedQuoted? (w ++ (name ++ s)) = none := by
  have hbrace : n ≠ '\x7b' := by
    rintro rfl
    exact absurd hn (by decide)
  rw [hname, List.cons_append, bracedQuoted?_append hw (isBlank_of_isWord hn), if_neg hbrace,
    quoted?_word hn]

theorem bracedQuoted?_of_opening {o : List Char} (ho : IsOpening o) (s : List Char) :
    bracedQuoted? (o ++ '"' :: s) = quoted? ('"' :: s) := by
  rcases ho with ho | ⟨w, w', hw, hw', rfl⟩
  · rw [bracedQuoted?_append ho (by decide), if_neg (by decide)]
  · rw [List.append_assoc, List.cons_append, bracedQuoted?_append hw (by decide), if_pos rfl,
      trimStart_append_cons hw' (by decide)]

theorem bracedQuoted?_eq_some_iff {s : List Char} {v : String} :
    bracedQuoted? s = some v ↔
      ∃ o p r, IsOpening o ∧ s = o ++ '"' :: (p ++ '"' :: r) ∧ '"' ∉ p ∧ v = String.ofList p := by
  constructor
  · intro h
    obtain ⟨w, hw, hs⟩ := exists_trimStart s
    unfold bracedQuoted? at h
    split at h
    · next t ht =>
      obtain ⟨p, r, hr, hp, rfl⟩ := quoted?_eq_some_iff.mp h
      obtain ⟨w', hw', rfl⟩ := (trimStart_eq_cons_iff (by decide)).mp hr
      rw [ht] at hs
      exact ⟨w ++ '\x7b' :: w', p, r, .inr ⟨w, w', hw, hw', rfl⟩, by simp [hs], hp, rfl⟩
    · obtain ⟨p, r, hr, hp, rfl⟩ := quoted?_eq_some_iff.mp h
      rw [hr] at hs
      exact ⟨w, p, r, .inl hw, hs, hp, rfl⟩
  · rintro ⟨o, p, r, ho, rfl, hp, rfl⟩
    rw [bracedQuoted?_of_opening ho]
    exact quoted?_eq_some_iff.mpr ⟨p, r, rfl, hp, rfl⟩

/-! ## Assignments and parentheses -/

theorem afterAssign?_eq_some_iff {name s r : List Char} :
    afterAssign? name s = some r ↔ ∃ w, AllBlank w ∧ s = name ++ (w ++ '=' :: r) := by
  constructor
  · intro h
    unfold afterAssign? at h
    split at h
    · next t heq =>
      cases h
      obtain ⟨u, hu, ht⟩ := Option.map_eq_some_iff.mp heq
      obtain ⟨w, hw, rfl⟩ := (trimStart_eq_cons_iff (by decide)).mp ht
      exact ⟨w, hw, afterLiteral_eq_some_iff.mp hu⟩
    · cases h
  · rintro ⟨w, hw, rfl⟩
    have htrim : trimStart (w ++ '=' :: r) = '=' :: r := trimStart_append_cons hw (by decide) r
    simp only [afterAssign?, afterLiteral_append, Option.map_some, htrim]

theorem assignedHere?_eq_some_iff {name : String} {before : Option Char} {s : List Char}
    {v : String} :
    assignedHere? name before s = some v ↔ opensWord before = true ∧
      ∃ w o p r, AllBlank w ∧ IsOpening o ∧ '"' ∉ p ∧ v = String.ofList p ∧
        s = name.toList ++ (w ++ '=' :: (o ++ '"' :: (p ++ '"' :: r))) := by
  unfold assignedHere?
  by_cases hopens : opensWord before = true
  · rw [if_pos hopens, Option.bind_eq_some_iff]
    constructor
    · rintro ⟨t, ht, hv⟩
      obtain ⟨w, hw, rfl⟩ := afterAssign?_eq_some_iff.mp ht
      obtain ⟨o, p, r, ho, rfl, hp, rfl⟩ := bracedQuoted?_eq_some_iff.mp hv
      exact ⟨hopens, w, o, p, r, hw, ho, hp, rfl, rfl⟩
    · rintro ⟨_, w, o, p, r, hw, ho, hp, rfl, rfl⟩
      exact ⟨_, afterAssign?_eq_some_iff.mpr ⟨w, hw, rfl⟩,
        bracedQuoted?_eq_some_iff.mpr ⟨o, p, r, ho, rfl, hp, rfl⟩⟩
  · rw [if_neg hopens]
    refine iff_of_false (by simp) ?_
    rintro ⟨h, _⟩
    exact hopens h

/-- A name is not assigned where another character stands. -/
theorem assignedHere?_cons_of_ne {name : String} {n : Char} {ns : List Char}
    (hname : name.toList = n :: ns) {c : Char} (hc : c ≠ n) (before : Option Char)
    (r : List Char) : assignedHere? name before (c :: r) = none := by
  cases h : assignedHere? name before (c :: r) with
  | none => rfl
  | some v =>
    obtain ⟨_, w, o, p, t, _, _, _, _, heq⟩ := assignedHere?_eq_some_iff.mp h
    rw [hname] at heq
    exact absurd (List.cons.inj heq).1 hc

theorem parenthesized?_eq_some_iff {s args : List Char} :
    parenthesized? s = some args ↔
      ∃ w r, AllBlank w ∧ s = w ++ '(' :: (args ++ ')' :: r) ∧ ')' ∉ args := by
  constructor
  · intro h
    unfold parenthesized? at h
    split at h
    · next t ht =>
      obtain ⟨w, hw, rfl⟩ := (trimStart_eq_cons_iff (by decide)).mp ht
      obtain ⟨⟨a, r⟩, hsplit, rfl⟩ := Option.map_eq_some_iff.mp h
      obtain ⟨rfl, hnot⟩ := splitAtFirst_eq_some_iff.mp hsplit
      exact ⟨w, r, hw, rfl, hnot⟩
    · cases h
  · rintro ⟨w, r, hw, rfl, hnot⟩
    unfold parenthesized?
    rw [trimStart_append_cons hw (by decide)]
    simp only
    rw [splitAtFirst_append hnot]
    rfl

end SpringRoutes
