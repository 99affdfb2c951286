import SpringRoutes.Proofs.TypeHeaders

/-!
# `SpringRoutes.Proofs.MethodNames` — which name a line declares

The method on a line is looked for from the left: a blank, a name, optional blanks and a parenthesis. Seen
from the parentheses, a parenthesis is good when the text before it ends with a blank, a name and optional
blanks (`EndsWithName`), and **the first good parenthesis decides** (`Names`).

The two agree since names cannot overlap. A name that starts later starts after the parenthesis of the
earlier one (`NamedAt.separate`), because after a blank inside it there is another blank or that
parenthesis, and neither starts a name; and names that start together are one (`NamedAt.unique`).
-/

namespace SpringRoutes

open Text

/-- A character that is not in the first part stands in the second. -/
theorem Text.exists_of_append_eq {a b t e : List Char} {d : Char} (h : a ++ b = t ++ d :: e)
    (hd : d ∉ a) : ∃ t', t = a ++ t' ∧ b = t' ++ d :: e := by
  rcases List.append_eq_append_iff.mp h with ⟨t', ht, hb⟩ | ⟨u, ha, hu⟩
  · exact ⟨t', ht, hb⟩
  · cases u with
    | nil => exact ⟨[], by simpa using ha.symm, hu.symm⟩
    | cons x u =>
      obtain ⟨rfl, _⟩ := List.cons.inj hu
      exact absurd (by simp [ha]) hd

/-! ## Names -/

/-- A name: an ASCII letter, an underscore or a dollar sign, and then word characters and dollar signs. -/
def IsMethodName (name : List Char) : Prop :=
  ∃ c cs, name = c :: cs ∧ isIdentStart c = true ∧ ∀ d ∈ cs, isIdentPart d = true

theorem isIdentPart_of_isIdentStart {c : Char} (h : isIdentStart c = true) : isIdentPart c = true := by
  simp only [isIdentStart, Bool.or_eq_true, beq_iff_eq] at h
  rcases h with (halpha | rfl) | rfl
  · have hword : isWord c = true := isWord_of_isAsciiWord (by simp [isAsciiWord, Char.isAlphanum, halpha])
    simp [isIdentPart, hword]
  · decide
  · decide

theorem not_isIdentPart_of_isBlank {c : Char} (h : isBlank c = true) : isIdentPart c = false := by
  have hpart := not_isNamePart_of_isBlank h
  rw [isNamePart, Bool.or_eq_false_iff] at hpart
  exact hpart.1

namespace IsMethodName

variable {name : List Char}

theorem forall_isIdentPart (h : IsMethodName name) : ∀ c ∈ name, isIdentPart c = true := by
  obtain ⟨c, cs, rfl, hc, hcs⟩ := h
  exact List.forall_mem_cons.mpr ⟨isIdentPart_of_isIdentStart hc, hcs⟩

theorem not_mem (h : IsMethodName name) {c : Char} (hc : isIdentPart c = false) : c ∉ name := by
  intro hmem
  rw [h.forall_isIdentPart c hmem] at hc
  cases hc

end IsMethodName

theorem identifier?_eq_some_iff {s name rest : List Char} :
    identifier? s = some (name, rest) ↔
      s = name ++ rest ∧ IsMethodName name ∧ rest.head?.any isIdentPart = false := by
  constructor
  · intro h
    unfold identifier? at h
    split at h
    · next c cs =>
      split at h
      · next hc =>
        cases h
        have hpart := isIdentPart_of_isIdentStart hc
        refine ⟨List.takeWhile_append_dropWhile.symm, ?_, ?_⟩
        · refine ⟨c, cs.takeWhile isIdentPart, List.takeWhile_cons_of_pos hpart, hc, ?_⟩
          exact List.all_eq_true.mp List.all_takeWhile
        · have hhead := List.head?_dropWhile_not isIdentPart (c :: cs)
          cases hrest : ((c :: cs).dropWhile isIdentPart).head? with
          | none => rfl
          | some d =>
            rw [hrest] at hhead
            simpa using hhead
      · cases h
    · cases h
  · rintro ⟨rfl, hname, hedge⟩
    have htake := takeWhile_edge hname.forall_isIdentPart hedge
    have hdrop := dropWhile_edge hname.forall_isIdentPart hedge
    obtain ⟨c, cs, rfl, hc, _⟩ := hname
    rw [List.cons_append] at htake hdrop ⊢
    rw [identifier?, if_pos hc, htake, hdrop]

theorem called?_eq_some_iff {s : List Char} {v : String} :
    called? s = some v ↔ ∃ name gap after, s = name ++ (gap ++ '(' :: after) ∧ IsMethodName name ∧
      AllBlank gap ∧ v = String.ofList name := by
  constructor
  · intro h
    unfold called? at h
    split at h
    · next name rest hident =>
      obtain ⟨rfl, hname, _⟩ := identifier?_eq_some_iff.mp hident
      split at h
      · next after hafter =>
        cases h
        obtain ⟨gap, hgap, rfl⟩ := (trimStart_eq_cons_iff (by decide)).mp hafter
        exact ⟨name, gap, after, rfl, hname, hgap, rfl⟩
      · cases h
    · cases h
  · rintro ⟨name, gap, after, rfl, hname, hgap, rfl⟩
    have hedge : (gap ++ '(' :: after).head?.any isIdentPart = false := by
      cases gap with
      | nil => rfl
      | cons c gap => exact not_isIdentPart_of_isBlank (hgap c (List.mem_cons_self ..))
    unfold called?
    rw [identifier?_eq_some_iff.mpr ⟨rfl, hname, hedge⟩]
    simp only [trimStart_append_cons hgap (show isBlank '(' = false by decide)]

/-! ## Places of names -/

/-- After `pre` the line has a blank, a name and optional blanks, and then, after `before`, a
    parenthesis. -/
def NamedAt (line pre before name : List Char) : Prop :=
  ∃ c gap after, before = pre ++ c :: (name ++ gap) ∧ line = before ++ '(' :: after ∧
    isBlank c = true ∧ IsMethodName name ∧ AllBlank gap

theorem calledHere?_eq_some_iff {line pre s : List Char} (hline : line = pre ++ s) {v : String} :
    calledHere? s = some v ↔ ∃ before name, NamedAt line pre before name ∧ v = String.ofList name := by
  subst hline
  constructor
  · intro h
    unfold calledHere? at h
    split at h
    · next c r =>
      split at h
      · next hc =>
        obtain ⟨name, gap, after, rfl, hname, hgap, rfl⟩ := called?_eq_some_iff.mp h
        exact ⟨_, name, ⟨c, gap, after, rfl, by simp, hc, hname, hgap⟩, rfl⟩
      · cases h
    · cases h
  · rintro ⟨before, name, ⟨c, gap, after, rfl, hline, hc, hname, hgap⟩, rfl⟩
    rw [List.append_assoc, List.cons_append, List.append_assoc] at hline
    obtain rfl := List.append_cancel_left hline
    rw [calledHere?, if_pos hc]
    exact called?_eq_some_iff.mpr ⟨name, gap, after, rfl, hname, hgap, rfl⟩

namespace NamedAt

variable {line pre before name pre' before' name' : List Char}

theorem length_lt (h : NamedAt line pre before name) : pre.length < before.length := by
  obtain ⟨c, gap, after, rfl, _⟩ := h
  simp

theorem exists_rest (h : NamedAt line pre before name) : ∃ s, line = pre ++ s := by
  obtain ⟨c, gap, after, rfl, rfl, _⟩ := h
  exact ⟨_, List.append_assoc ..⟩

/-- Names that start together are one: between its start and its parenthesis a name has no other
    parenthesis. -/
theorem unique (h : NamedAt line pre before name) (h' : NamedAt line pre' before' name')
    (hlen : pre.length = pre'.length) : before = before' ∧ name = name' := by
  obtain ⟨s, hs⟩ := h.exists_rest
  obtain ⟨s', hs'⟩ := h'.exists_rest
  obtain rfl : pre = pre' := List.append_inj_left (hs.symm.trans hs') hlen
  constructor
  · obtain ⟨c, gap, after, rfl, rfl, hc, hname, hgap⟩ := h
    obtain ⟨c', gap', after', rfl, hline, hc', hname', hgap'⟩ := h'
    have hfree : ∀ {c name gap}, isBlank c = true → IsMethodName name → AllBlank gap →
        '(' ∉ c :: (name ++ gap) := by
      intro c name gap hc hname hgap hmem
      rcases List.mem_cons.mp hmem with rfl | hmem
      · exact absurd hc (by decide)
      · exact (List.mem_append.mp hmem).elim (hname.not_mem (by decide)) (hgap.not_mem (by decide))
    rw [List.append_assoc, List.append_assoc] at hline
    have hrest := List.append_cancel_left hline
    rw [(eq_of_append_cons hrest (hfree hc hname hgap) (hfree hc' hname' hgap')).1]
  · have hcalled := (calledHere?_eq_some_iff hs).mpr ⟨before, name, h, rfl⟩
    rw [(calledHere?_eq_some_iff hs).mpr ⟨before', name', h', rfl⟩] at hcalled
    exact (String.ofList_inj.mp (Option.some.inj hcalled)).symm

/-- **Names do not overlap**: one that starts later starts after the parenthesis of the earlier one. -/
theorem separate (h : NamedAt line pre before name) (h' : NamedAt line pre' before' name')
    (hlt : pre.length < pre'.length) : before.length ≤ pre'.length := by
  obtain ⟨c, gap, after, rfl, rfl, _, hname, hgap⟩ := h
  obtain ⟨c', gap', after', rfl, hline, hc', ⟨n, ns, rfl, hn, _⟩, _⟩ := h'
  simp only [List.append_assoc, List.cons_append] at hline
  obtain ⟨p, rfl, hp⟩ : ∃ p, pre' = pre ++ p ∧ _ :=
    (List.append_eq_append_iff.mp hline).resolve_right fun ⟨q, hq, _⟩ => by
      rw [hq, List.length_append] at hlt
      omega
  cases p with
  | nil => simp at hlt
  | cons d t =>
    -- the later start is no character of the name, and the one after it no blank
    have hstart := (List.cons.inj hp).2
    obtain ⟨u, rfl, hgaps⟩ := exists_of_append_eq hstart (hname.not_mem (not_isIdentPart_of_isBlank hc'))
    rw [List.append_cons u c'] at hgaps
    have hnblank : isBlank n = false := by
      rw [← Bool.not_eq_true]
      intro hblank
      have hpart := isIdentPart_of_isIdentStart hn
      rw [not_isIdentPart_of_isBlank hblank] at hpart
      cases hpart
    obtain ⟨v, hv, hparen⟩ := exists_of_append_eq hgaps (hgap.not_mem hnblank)
    have hne : v ≠ [] := by
      rintro rfl
      rw [← (List.cons.inj hparen).1] at hn
      exact absurd hn (by decide)
    have hlen := congrArg List.length hv
    have hpos := List.length_pos_iff.mpr hne
    simp only [List.length_append, List.length_cons, List.length_nil] at hlen ⊢
    omega

end NamedAt

/-! ## Parentheses -/

/-- The text before a parenthesis ends with a blank, a name and optional blanks. -/
def EndsWithName (before name : List Char) : Prop :=
  ∃ pre c gap, before = pre ++ c :: (name ++ gap) ∧ isBlank c = true ∧ IsMethodName name ∧
    AllBlank gap

theorem NamedAt.endsWithName {line pre before name : List Char} (h : NamedAt line pre before name) :
    EndsWithName before name := by
  obtain ⟨c, gap, _, hbefore, _, hc, hname, hgap⟩ := h
  exact ⟨pre, c, gap, hbefore, hc, hname, hgap⟩

theorem EndsWithName.exists_namedAt {line before after name : List Char} (h : EndsWithName before name)
    (hline : line = before ++ '(' :: after) : ∃ pre, NamedAt line pre before name := by
  obtain ⟨pre, c, gap, hbefore, hc, hname, hgap⟩ := h
  exact ⟨pre, c, gap, after, hbefore, hline, hc, hname, hgap⟩

/-- The parenthesis after `before` is the first one with a name before it. -/
structure IsFirstNamed (line before name : List Char) : Prop where
  paren : ∃ after, line = before ++ '(' :: after
  named : EndsWithName before name
  first : ∀ before' after' name', line = before' ++ '(' :: after' → EndsWithName before' name' →
    before.length ≤ before'.length

/-- The name that a line declares, judged by its parentheses. -/
inductive Names (line : List Char) : Option String → Prop
  | nothing (unnamed : ∀ before after name, line = before ++ '(' :: after → ¬ EndsWithName before name) :
      Names line none
  | keyword {before name : List Char} (first : IsFirstNamed line before name)
      (excluded : String.ofList name ∈ notMethods) : Names line none
  | method {before name : List Char} (first : IsFirstNamed line before name)
      (allowed : String.ofList name ∉ notMethods) : Names line (some (String.ofList name))

/-- The leftmost name belongs to the first good parenthesis. -/
theorem NamedAt.isFirstNamed {line pre before name : List Char} (h : NamedAt line pre before name)
    (hleft : ∀ pre' before' name', NamedAt line pre' before' name' → pre.length ≤ pre'.length) :
    IsFirstNamed line before name := by
  have hparen : ∃ after, line = before ++ '(' :: after := by
    obtain ⟨_, _, after, _, hline, _⟩ := h
    exact ⟨after, hline⟩
  refine ⟨hparen, h.endsWithName, ?_⟩
  intro before' after' name' hline hends
  obtain ⟨pre', h'⟩ := hends.exists_namedAt hline
  rcases Nat.lt_or_eq_of_le (hleft pre' before' name' h') with hlt | heq
  · exact Nat.le_trans (h.separate h' hlt) (Nat.le_of_lt h'.length_lt)
  · rw [(h.unique h' heq).1]

theorem names_methodName? (line : List Char) : Names line (methodName? line) := by
  unfold methodName? firstCalled?
  cases h : firstMatch (fun _ s => calledHere? s) none line with
  | none =>
    refine .nothing fun before after name hline hends => ?_
    obtain ⟨pre, hat⟩ := hends.exists_namedAt hline
    obtain ⟨s, hs⟩ := hat.exists_rest
    have hnone := firstMatch_eq_none_iff.mp h pre s hs
    rw [(calledHere?_eq_some_iff hs).mpr ⟨before, name, hat, rfl⟩] at hnone
    cases hnone
  | some v =>
    obtain ⟨pre, s, hs, hv, hleft⟩ := firstMatch_eq_some_iff.mp h
    obtain ⟨before, name, hat, rfl⟩ := (calledHere?_eq_some_iff hs).mp hv
    have hfirst : IsFirstNamed line before name := by
      refine hat.isFirstNamed fun pre' before' name' hat' => Nat.le_of_not_lt fun hlt => ?_
      obtain ⟨s', hs'⟩ := hat'.exists_rest
      have hnone := hleft pre' s' hs' hlt
      rw [(calledHere?_eq_some_iff hs').mpr ⟨before', name', hat', rfl⟩] at hnone
      cases hnone
    by_cases hkeyword : String.ofList name ∈ notMethods
    · rw [Option.filter_some_neg (by simpa using hkeyword)]
      exact .keyword hfirst hkeyword
    · rw [Option.filter_some_pos (by simpa using hkeyword)]
      exact .method hfirst hkeyword

theorem IsFirstNamed.unique {line before name before' name' : List Char}
    (h : IsFirstNamed line before name) (h' : IsFirstNamed line before' name') : name = name' := by
  obtain ⟨after, hline⟩ := h.paren
  obtain ⟨after', hline'⟩ := h'.paren
  have hle := h.first before' after' name' hline' h'.named
  have hge := h'.first before after name hline h.named
  obtain ⟨pre, hat⟩ := h.named.exists_namedAt hline
  obtain ⟨pre', hat'⟩ := h'.named.exists_namedAt hline'
  have hlt := hat.length_lt
  have hlt' := hat'.length_lt
  -- were one start later, its parenthesis would be later too
  rcases Nat.lt_trichotomy pre.length pre'.length with hless | heq | hless
  · have hsep := hat.separate hat' hless
    omega
  · exact (hat.unique hat' heq).2
  · have hsep := hat'.separate hat hless
    omega

theorem Names.unique {line : List Char} {r r' : Option String} (h : Names line r)
    (h' : Names line r') : r = r' := by
  have hfound : ∀ {before name}, IsFirstNamed line before name →
      ¬ ∀ before after name, line = before ++ '(' :: after → ¬ EndsWithName before name := by
    intro before name hfirst hnone
    obtain ⟨after, hline⟩ := hfirst.paren
    exact hnone before after name hline hfirst.named
  cases h with
  | nothing hnone =>
    cases h' with
    | nothing => rfl
    | keyword => rfl
    | method hfirst => exact absurd hnone (hfound hfirst)
  | keyword hfirst hin =>
    cases h' with
    | nothing => rfl
    | keyword => rfl
    | method hfirst' hout =>
      rw [hfirst.unique hfirst'] at hin
      exact absurd hin hout
  | method hfirst hout =>
    cases h' with
    | nothing hnone => exact absurd hnone (hfound hfirst)
    | keyword hfirst' hin =>
      rw [hfirst'.unique hfirst] at hin
      exact absurd hin hout
    | method hfirst' => rw [hfirst.unique hfirst']

/-- The first parenthesis of a line is the first good one when a name stands before it. -/
theorem EndsWithName.isFirstNamed {before name : List Char} (h : EndsWithName before name)
    (hfree : '(' ∉ before) (after : List Char) :
    IsFirstNamed (before ++ '(' :: after) before name := by
  refine ⟨⟨after, rfl⟩, h, ?_⟩
  intro before' after' name' hline _
  obtain ⟨t, rfl, _⟩ := exists_of_append_eq hline hfree
  simp

/-- **The name on a line is the one before its first good parenthesis**, unless that is a keyword. A name
    after blanks and any text without parentheses is such a name. -/
theorem methodName?_exact :
    (∀ line r, methodName? line = r ↔ Names line r) ∧
    ∀ pre blanks name rest, '(' ∉ pre → blanks ≠ [] → AllBlank blanks → IsMethodName name →
      String.ofList name ∉ notMethods →
      methodName? (pre ++ (blanks ++ (name ++ '(' :: rest))) = some (String.ofList name) := by
  have hiff : ∀ line r, methodName? line = r ↔ Names line r := by
    intro line r
    constructor
    · rintro rfl
      exact names_methodName? line
    · exact (names_methodName? line).unique
  refine ⟨hiff, ?_⟩
  intro pre blanks name rest hpre hne hblanks hname hallowed
  obtain ⟨init, c, rfl⟩ := (List.eq_nil_or_concat blanks).resolve_left hne
  rw [List.concat_eq_append] at hblanks ⊢
  have hends : EndsWithName (pre ++ (init ++ [c] ++ name)) name :=
    ⟨pre ++ init, c, [], by simp, hblanks c (by simp), hname, by simp [AllBlank]⟩
  have hfree : '(' ∉ pre ++ (init ++ [c] ++ name) := by
    rw [List.mem_append, List.mem_append, not_or, not_or]
    exact ⟨hpre, hblanks.not_mem (by decide), hname.not_mem (by decide)⟩
  have hfirst := hends.isFirstNamed hfree rest
  rw [hiff]
  simpa using Names.method hfirst hallowed

/-- A keyword before the first good parenthesis hides the call after it; and a name of several scripts,
    after an annotation without arguments. -/
theorem methodName?_exact_branch :
    let branch := "\x7d else if (ready) stop (now);".toList
    let pre := "@Override public Map<K, V>".toList
    let name := "für_alle$".toList
    let rest := "int n) \x7b while (n > 0) next(n);".toList
    methodName? branch = none ∧ Names branch none ∧
      '(' ∉ pre ∧ AllBlank [' ', '\t'] ∧ IsMethodName name ∧ String.ofList name ∉ notMethods ∧
      methodName? (pre ++ ([' ', '\t'] ++ (name ++ '(' :: rest))) = some "für_alle$" := by
  intro branch pre name rest
  have hbranch : methodName? branch = none := by decide +kernel
  have hpre : '(' ∉ pre := by decide +kernel
  have hblanks : AllBlank [' ', '\t'] := by decide
  have hname : IsMethodName name :=
    ⟨'f', "ür_alle$".toList, rfl, by decide, List.all_eq_true.mp (by decide +kernel)⟩
  have hallowed : String.ofList name ∉ notMethods := by decide +kernel
  refine ⟨hbranch, (methodName?_exact.1 branch none).mp hbranch, hpre, hblanks, hname, hallowed, ?_⟩
  exact methodName?_exact.2 pre [' ', '\t'] name rest hpre (List.cons_ne_nil _ _) hblanks hname hallowed

end SpringRoutes
