import SpringRoutes.Proofs.HeaderSyntax
import SpringRoutes.Proofs.Methods
import SpringRoutes.Proofs.Paths

/-!
# `SpringRoutes.Proofs.TypeHeaders` — what is read off a type header

A header is not parsed: modifiers are dropped, the declared name is what follows the keyword, and
the contract of the type is what follows the first clause word after that name. This module compares
that with the syntax of headers.

* `clause_spelled` — the search for a clause word finds what stands after the first one among the
  tokens. It goes token by token: a name is passed over because none of its parts is a clause word
  (`firstMatch_name`), and a clause word opens a clause if a word follows it (`clauseHere?_clause`).
* `TypeHeader.parse?_written` — kind and name of a header are read correctly, and so is what a class
  implements. What an interface extends is the first type of its clause **unless a type parameter
  has a bound**, which comes first and is taken for it.
* `Outline.ofText_header` says so of whole sources.
-/

namespace SpringRoutes

open Text

/-! ## The characters of tokens -/

theorem isWord_of_isAsciiWord {c : Char} (h : isAsciiWord c = true) : isWord c = true := by
  have hascii : c.toNat < 128 := by
    delta isAsciiWord Char.isAlphanum Char.isAlpha Char.isUpper Char.isLower Char.isDigit at h
    simp only [Bool.or_eq_true, Bool.and_eq_true, decide_eq_true_eq, beq_iff_eq, ge_iff_le,
      UInt32.le_iff_toNat_le] at h
    rcases h with ((⟨_, hz⟩ | ⟨_, hz⟩) | ⟨_, hz⟩) | rfl
    · exact Nat.lt_of_le_of_lt hz (by decide)
    · exact Nat.lt_of_le_of_lt hz (by decide)
    · exact Nat.lt_of_le_of_lt hz (by decide)
    · decide
  rw [isWord, if_pos hascii, h]

theorem isNamePart_of_isWord {c : Char} (h : isWord c = true) : isNamePart c = true := by
  simp [isNamePart, isIdentPart, h]

theorem not_isNamePart_of_isBlank {c : Char} (h : isBlank c = true) : isNamePart c = false := by
  have hdollar : c ≠ '$' := by
    rintro rfl
    exact absurd h (by decide)
  have hdot : c ≠ '.' := by
    rintro rfl
    exact absurd h (by decide)
  simp [isNamePart, isIdentPart, isWord_of_isBlank h, hdollar, hdot]

theorem Mark.isNamePart_char (m : Mark) : isNamePart m.char = false := by
  cases m <;> decide

theorem Mark.isBlank_char (m : Mark) : isBlank m.char = false := by
  cases m <;> decide

theorem ClauseWord.isWordText (w : ClauseWord) : IsWordText w.text.toList := by
  cases w <;> decide

theorem ClauseWord.eq_of_text {v w : ClauseWord} : v.text.toList = w.text.toList → v = w := by
  cases v <;> cases w <;> decide

namespace Identifier

theorem isWordText (i : Identifier) : IsWordText i.chars := by
  have h := i.valid
  simp only [isIdentifier, Bool.and_eq_true, List.all_eq_true] at h
  obtain ⟨⟨⟨hstart, hall⟩, _⟩, _⟩ := h
  refine ⟨?_, fun c hc => isWord_of_isAsciiWord (hall c hc)⟩
  intro hnil
  rw [hnil] at hstart
  cases hstart

theorem exists_start (i : Identifier) : ∃ c cs, i.chars = c :: cs ∧ isIdentStart c = true := by
  obtain ⟨c, cs, hcs⟩ := List.exists_cons_of_ne_nil i.isWordText.1
  have h := i.valid
  simp only [isIdentifier, hcs, List.head?_cons, Option.any_some, List.all_cons, isAsciiWord,
    Char.isAlphanum, Bool.and_eq_true, Bool.or_eq_true, Bool.not_eq_true'] at h
  obtain ⟨⟨⟨hdigit, hword, _⟩, _⟩, _⟩ := h
  refine ⟨c, cs, hcs, ?_⟩
  rw [hdigit] at hword
  have hstart : c.isAlpha = true ∨ c = '_' := by simpa using hword
  simp only [isIdentStart, Bool.or_eq_true, beq_iff_eq]
  exact .inl hstart

/-- An identifier opens no clause. -/
theorem ne_clauseWord (i : Identifier) (w : ClauseWord) : i.chars ≠ w.text.toList := by
  have h := i.valid
  simp only [isIdentifier, Bool.and_eq_true, bne_iff_ne] at h
  cases w with
  | ofExtends => exact h.1.2
  | ofImplements => exact h.2

end Identifier

namespace TypeName

theorem isNamePart_chars (n : TypeName) : ∀ c ∈ n.chars, isNamePart c = true := by
  have hpart : ∀ (i : Identifier), ∀ c ∈ i.chars, isNamePart c = true :=
    fun i c hc => isNamePart_of_isWord (i.isWordText.2 c hc)
  intro c hc
  rcases List.mem_append.mp hc with hc | hc
  · obtain ⟨i, _, hc⟩ := List.mem_flatMap.mp hc
    rcases List.mem_append.mp hc with hc | hc
    · exact hpart i c hc
    · rw [List.mem_singleton.mp hc]
      decide
  · exact hpart n.simple c hc

theorem chars_ne_nil (n : TypeName) : n.chars ≠ [] := by
  intro h
  exact n.simple.isWordText.1 (List.append_eq_nil_iff.mp h).2

/-- The parts of a name are what its dots divide. -/
theorem splitOn_chars (n : TypeName) :
    splitOn '.' n.chars = n.qualifier.map (·.chars) ++ [n.simple.chars] := by
  have hpart : ∀ i : Identifier, splitOn '.' i.chars = [i.chars] :=
    fun i => splitOn_of_not_mem (i.isWordText.not_mem (by decide))
  obtain ⟨qualifier, simple⟩ := n
  unfold chars
  induction qualifier with
  | nil => exact hpart simple
  | cons i qualifier ih =>
    rw [List.flatMap_cons, List.append_assoc, List.append_assoc, List.singleton_append,
      splitOn_append_sep, ih, hpart]
    rfl

theorem simpleName_chars (n : TypeName) : simpleName n.chars = String.ofList n.simple.chars := by
  unfold simpleName
  congr 1
  simp [splitOn_chars]

end TypeName

namespace HeaderToken

theorem exists_cons (t : HeaderToken) : ∃ c cs, t.chars = c :: cs ∧ isBlank c = false := by
  have hname : ∀ s : List Char, s ≠ [] → (∀ c ∈ s, isNamePart c = true) →
      ∃ c cs, s = c :: cs ∧ isBlank c = false := by
    intro s hne hall
    obtain ⟨c, cs, rfl⟩ := List.exists_cons_of_ne_nil hne
    refine ⟨c, cs, rfl, ?_⟩
    by_contra hblank
    have hpart := hall c (List.mem_cons_self ..)
    rw [not_isNamePart_of_isBlank (by simpa using hblank)] at hpart
    cases hpart
  cases t with
  | clause w =>
    exact hname _ w.isWordText.1 fun c hc => isNamePart_of_isWord (w.isWordText.2 c hc)
  | name n => exact hname _ n.chars_ne_nil n.isNamePart_chars
  | mark m => exact ⟨m.char, [], rfl, m.isBlank_char⟩

theorem trimStart_gap (t : HeaderToken) {gap : List Char} (hgap : AllBlank gap)
    (rest : List Char) : trimStart (gap ++ (t.chars ++ rest)) = t.chars ++ rest := by
  obtain ⟨c, cs, hcs, hc⟩ := t.exists_cons
  rw [hcs]
  exact trimStart_append_cons hgap hc (cs ++ rest)

end HeaderToken

/-! ## Spelled tokens

Whether a text spells given tokens can be computed. -/

/-- Whether the tokens are written as the text. -/
def spells : Bool → List HeaderToken → List Char → Bool
  | _, [], s => s.isEmpty
  | afterWord, t :: ts, s =>
    (!(afterWord && t.isWord) || s.head?.any isBlank) &&
      (afterLiteral t.chars (trimStart s)).any (spells t.isWord ts)

theorem spelled_of_spells {afterWord : Bool} {ts : List HeaderToken} {s : List Char}
    (h : spells afterWord ts s = true) : Spelled afterWord ts s := by
  induction ts generalizing afterWord s with
  | nil =>
    rw [spells, List.isEmpty_iff] at h
    rw [h]
    exact .nil
  | cons t ts ih =>
    rw [spells, Bool.and_eq_true, Option.any_eq_true] at h
    obtain ⟨hapart, rest, hafter, hrest⟩ := h
    obtain ⟨gap, hgap, hs⟩ := exists_trimStart s
    rw [afterLiteral_eq_some_iff.mp hafter] at hs
    subst hs
    refine .cons hgap ?_ (ih hrest)
    rintro rfl hword rfl
    -- without a gap the text starts with the token, and a token starts with no blank
    obtain ⟨c, cs, hcs, hc⟩ := t.exists_cons
    simp [hword, hcs, hc] at hapart

theorem spells_of_spelled {afterWord : Bool} {ts : List HeaderToken} {s : List Char}
    (h : Spelled afterWord ts s) : spells afterWord ts s = true := by
  induction h with
  | nil => rfl
  | @cons afterWord t ts gap rest hgap hapart _ ih =>
    rw [spells, t.trimStart_gap hgap, afterLiteral_append, Option.any_some, ih, Bool.and_true]
    cases hboth : afterWord && t.isWord with
    | false => rfl
    | true =>
      obtain ⟨hafter, hword⟩ := Bool.and_eq_true_iff.mp hboth
      obtain ⟨b, gap, rfl⟩ := List.exists_cons_of_ne_nil (hapart hafter hword)
      exact hgap b (List.mem_cons_self ..)

instance (afterWord : Bool) (ts : List HeaderToken) (s : List Char) :
    Decidable (Spelled afterWord ts s) :=
  decidable_of_iff (spells afterWord ts s = true) ⟨spelled_of_spells, spells_of_spelled⟩

/-- **What follows a word does not continue it.** -/
theorem Spelled.edge {ts : List HeaderToken} {s : List Char} (h : Spelled true ts s) :
    s.head?.any isNamePart = false := by
  cases h with
  | nil => rfl
  | @cons _ t ts gap rest hgap hapart _ =>
    cases gap with
    | nil =>
      cases t with
      | clause w => exact absurd rfl (hapart rfl rfl)
      | name n => exact absurd rfl (hapart rfl rfl)
      | mark m => exact m.isNamePart_char
    | cons b gap => exact not_isNamePart_of_isBlank (hgap b (List.mem_cons_self ..))

theorem closesWord_of_edge {s : List Char} (h : s.head?.any isNamePart = false) :
    closesWord s = true := by
  cases s with
  | nil => rfl
  | cons c s =>
    have hc : isWord c = false := by
      by_contra hword
      have hpart : isNamePart c = true := isNamePart_of_isWord (by simpa using hword)
      simp [hpart] at h
    simp [closesWord, hc]

theorem takeWhile_edge {p : Char → Bool} {u rest : List Char} (hu : ∀ c ∈ u, p c = true)
    (hrest : rest.head?.any p = false) : (u ++ rest).takeWhile p = u := by
  rw [List.takeWhile_append_of_pos hu]
  cases rest with
  | nil => simp
  | cons c rest => simpa [List.takeWhile_cons] using hrest

theorem dropWhile_edge {p : Char → Bool} {u rest : List Char} (hu : ∀ c ∈ u, p c = true)
    (hrest : rest.head?.any p = false) : (u ++ rest).dropWhile p = rest := by
  rw [List.dropWhile_append_of_pos hu]
  cases rest with
  | nil => rfl
  | cons c rest => exact List.dropWhile_cons_of_neg (by simpa using hrest)

/-! ## Keywords -/

theorem afterKeyword?_append (w : String) (b : Char) (t : List Char) :
    afterKeyword? w (w.toList ++ b :: t) = if isBlank b then some (trimStart t) else none := by
  unfold afterKeyword?
  rw [afterLiteral_append]

theorem afterKeyword?_eq_some_iff {w : String} {s r : List Char} :
    afterKeyword? w s = some r ↔
      ∃ b t, isBlank b = true ∧ s = w.toList ++ b :: t ∧ r = trimStart t := by
  constructor
  · intro h
    unfold afterKeyword? at h
    split at h
    · next b t ht =>
      split at h
      · next hb =>
        cases h
        exact ⟨b, t, hb, afterLiteral_eq_some_iff.mp ht, rfl⟩
      · cases h
    · cases h
  · rintro ⟨b, t, hb, rfl, rfl⟩
    rw [afterKeyword?_append, if_pos hb]

/-- A keyword is what stands before the first blank. -/
theorem afterKeyword?_blank {w : String} (hw : ∀ c ∈ w.toList, isBlank c = false) {u : List Char}
    (hu : ∀ c ∈ u, isBlank c = false) {b : Char} (hb : isBlank b = true) (t : List Char) :
    afterKeyword? w (u ++ b :: t) = if u = w.toList then some (trimStart t) else none := by
  split
  · next heq => rw [heq, afterKeyword?_append, if_pos hb]
  · next hne =>
    cases h : afterKeyword? w (u ++ b :: t) with
    | none => rfl
    | some r =>
      obtain ⟨b', t', hb', heq, _⟩ := afterKeyword?_eq_some_iff.mp h
      have htake : ∀ {v : List Char} {c : Char} (x : List Char), (∀ c ∈ v, isBlank c = false) →
          isBlank c = true → (v ++ c :: x).takeWhile (fun c => !isBlank c) = v := by
        intro v c x hv hc
        exact takeWhile_edge (fun d hd => by simp [hv d hd]) (by simp [hc])
      refine absurd ?_ hne
      rw [← htake t hu hb, heq, htake t' hw hb']

/-- A word that is not the keyword is not mistaken for it. -/
theorem afterKeyword?_of_ne {w : String} (hw : IsWordText w.toList) {u rest : List Char}
    (hu : IsWordText u) (hne : u ≠ w.toList) (hrest : closesWord rest = true) :
    afterKeyword? w (u ++ rest) = none := by
  cases h : afterKeyword? w (u ++ rest) with
  | none => rfl
  | some r =>
    obtain ⟨b, t, hb, heq, _⟩ := afterKeyword?_eq_some_iff.mp h
    have hclosed : closesWord (b :: t) = true := by simp [closesWord, isWord_of_isBlank hb]
    exact absurd (eq_of_word_append hu hw hrest hclosed heq).1 hne

/-! ## The search for a clause -/

section Search

variable {w : ClauseWord} {before : Option Char}

theorem clauseHere?_of_none {s : List Char} (h : afterKeyword? w.text s = none) :
    clauseHere? w.text before s = none := by
  unfold clauseHere?
  rw [h]
  split <;> rfl

/-- No clause opens with a character that belongs to no word. -/
theorem clauseHere?_cons {c : Char} (hc : isWord c = false) (s : List Char) :
    clauseHere? w.text before (c :: s) = none := by
  refine clauseHere?_of_none ?_
  cases h : afterKeyword? w.text (c :: s) with
  | none => rfl
  | some r =>
    obtain ⟨b, t, _, heq, _⟩ := afterKeyword?_eq_some_iff.mp h
    obtain ⟨d, ds, hds⟩ := List.exists_cons_of_ne_nil w.isWordText.1
    have hd : isWord d = true := w.isWordText.2 d (by simp [hds])
    rw [hds] at heq
    rw [← (List.cons.inj heq).1, hc] at hd
    cases hd

/-- No clause opens inside a word. -/
theorem firstMatch_word {u rest : List Char} (hu : ∀ c ∈ u, isWord c = true)
    (hhere : clauseHere? w.text before (u ++ rest) = none) :
    firstMatch (clauseHere? w.text) before (u ++ rest)
      = firstMatch (clauseHere? w.text) (charBefore before u) rest := by
  refine firstMatch_append ?_
  intro a b hab hb
  rcases List.eq_nil_or_concat a with rfl | ⟨a, c, rfl⟩
  · rw [List.nil_append] at hab
    rw [← hab]
    exact hhere
  · rw [List.concat_eq_append] at hab ⊢
    have hc : isWord c = true := hu c (by simp [hab])
    rw [charBefore_concat]
    unfold clauseHere?
    rw [if_neg (by simp [opensWord, hc])]

/-- **A name is passed over**: none of its parts is a clause word, and its dots belong to no
    word. -/
theorem firstMatch_name (n : TypeName) {rest : List Char} (hrest : closesWord rest = true) :
    ∃ before', firstMatch (clauseHere? w.text) before (n.chars ++ rest)
      = firstMatch (clauseHere? w.text) before' rest := by
  have hpart : ∀ (i : Identifier) {before : Option Char} {rest : List Char},
      closesWord rest = true →
      firstMatch (clauseHere? w.text) before (i.chars ++ rest)
        = firstMatch (clauseHere? w.text) (charBefore before i.chars) rest := by
    intro i before rest hrest
    refine firstMatch_word i.isWordText.2 (clauseHere?_of_none ?_)
    exact afterKeyword?_of_ne w.isWordText i.isWordText (i.ne_clauseWord w) hrest
  obtain ⟨qualifier, simple⟩ := n
  unfold TypeName.chars
  induction qualifier generalizing before with
  | nil => exact ⟨_, hpart simple hrest⟩
  | cons i qualifier ih =>
    rw [List.flatMap_cons, List.append_assoc, List.append_assoc, List.append_assoc,
      List.singleton_append, hpart i rfl, firstMatch_cons_of_none (clauseHere?_cons (by decide) _),
      ← List.append_assoc]
    exact ih

theorem clauseHere?_of_some (hopens : opensWord before = true) {s t n : List Char}
    (h : afterKeyword? w.text s = some t) (hn : t.takeWhile isNamePart = n) :
    clauseHere? w.text before s = if n = [] then none else some n := by
  unfold clauseHere?
  rw [if_pos hopens, h, Option.map_some, hn]
  cases n <;> rfl

/-- **A clause word opens a clause if a word follows it**, and the clause names that word. -/
theorem clauseHere?_clause (hopens : opensWord before = true) {ts : List HeaderToken}
    {rest : List Char} (h : Spelled true ts rest) :
    clauseHere? w.text before (w.text.toList ++ rest) = ts.head?.bind HeaderToken.wordText? := by
  cases h with
  | nil =>
    refine clauseHere?_of_none ?_
    unfold afterKeyword?
    rw [afterLiteral_append]
  | @cons _ t ts gap rest hgap hapart hrest =>
    cases gap with
    | nil =>
      cases t with
      | clause v => exact absurd rfl (hapart rfl rfl)
      | name n => exact absurd rfl (hapart rfl rfl)
      | mark m =>
        refine clauseHere?_of_none ?_
        show afterKeyword? w.text (w.text.toList ++ m.char :: rest) = none
        rw [afterKeyword?_append, m.isBlank_char]
        rfl
    | cons b gap =>
      have hb : isBlank b = true := hgap b (List.mem_cons_self ..)
      have hafter : afterKeyword? w.text (w.text.toList ++ (b :: gap ++ (t.chars ++ rest)))
          = some (t.chars ++ rest) := by
        rw [List.cons_append, afterKeyword?_append, if_pos hb,
          t.trimStart_gap fun c hc => hgap c (List.mem_cons_of_mem b hc)]
      cases t with
      | clause v =>
        have hchars := fun c hc => isNamePart_of_isWord (v.isWordText.2 c hc)
        exact (clauseHere?_of_some hopens hafter (takeWhile_edge hchars hrest.edge)).trans
          (if_neg v.isWordText.1)
      | name n =>
        exact (clauseHere?_of_some hopens hafter
          (takeWhile_edge n.isNamePart_chars hrest.edge)).trans (if_neg n.chars_ne_nil)
      | mark m =>
        have hnone : (m.char :: rest).takeWhile isNamePart = [] :=
          List.takeWhile_cons_of_neg (by simp [m.isNamePart_char])
        rw [clauseHere?_of_some hopens hafter hnone, if_pos rfl]
        rfl

end Search

/-- **The search finds what stands after the first clause word among the tokens**, by induction on
    the tokens. Where no word stands before the text, a word can start. -/
theorem clause_spelled {w : ClauseWord} {afterWord : Bool} {ts : List HeaderToken} {s : List Char}
    (h : Spelled afterWord ts s) {before : Option Char}
    (hbefore : afterWord = false → opensWord before = true) :
    firstMatch (clauseHere? w.text) before s = textAfter? w ts := by
  induction h generalizing before with
  | nil =>
    refine clauseHere?_of_none ?_
    cases w <;> rfl
  | @cons afterWord t ts gap rest hgap hapart hrest ih =>
    rw [firstMatch_append_of_forall fun c hc b r =>
      clauseHere?_cons (isWord_of_isBlank (hgap c hc)) r]
    cases t with
    | mark m =>
      have hmark : isWord m.char = false := by cases m <;> decide
      show firstMatch _ _ (m.char :: rest) = textAfter? w ts
      rw [firstMatch_cons_of_none (clauseHere?_cons hmark rest)]
      exact ih fun _ => by simp [opensWord, hmark]
    | name n =>
      obtain ⟨before', hname⟩ : ∃ before',
          firstMatch (clauseHere? w.text) (charBefore before gap) (n.chars ++ rest)
            = firstMatch (clauseHere? w.text) before' rest :=
        firstMatch_name n (closesWord_of_edge hrest.edge)
      exact hname.trans (ih fun hword => by cases hword)
    | clause v =>
      show firstMatch _ _ (v.text.toList ++ rest) = _
      rw [textAfter?]
      by_cases hv : v = w
      · subst hv
        -- a word can start here: after a mark, or after the blanks that keep two words apart
        have hopens : opensWord (charBefore before gap) = true := by
          cases afterWord with
          | false => exact opensWord_charBefore (hbefore rfl) hgap
          | true =>
            obtain ⟨b, gap, rfl⟩ := List.exists_cons_of_ne_nil (hapart rfl rfl)
            have hb : isBlank b = true := hgap b (List.mem_cons_self ..)
            rw [charBefore_cons]
            exact opensWord_charBefore (by simp [opensWord, isWord_of_isBlank hb])
              fun c hc => hgap c (List.mem_cons_of_mem b hc)
        have hhere := clauseHere?_clause (w := v) hopens hrest
        rw [if_pos rfl]
        cases hnext : ts.head?.bind HeaderToken.wordText? with
        | some x => exact firstMatch_of_some (hhere.trans hnext)
        | none =>
          rw [firstMatch_word v.isWordText.2 (hhere.trans hnext)]
          exact ih fun hword => by cases hword
      · have hne : v.text.toList ≠ w.text.toList := fun heq => hv (ClauseWord.eq_of_text heq)
        rw [if_neg hv, firstMatch_word v.isWordText.2 (clauseHere?_of_none
          (afterKeyword?_of_ne w.isWordText v.isWordText hne (closesWord_of_edge hrest.edge)))]
        exact ih fun hword => by cases hword

/-! ## Modifiers and the declared name -/

theorem modifiers_unblank : ∀ m ∈ typeModifiers, ∀ c ∈ m.toList, isBlank c = false := by
  have hall : ∀ m ∈ typeModifiers, m.toList.all (fun c => !isBlank c) = true := by decide +kernel
  intro m hm c hc
  simpa using List.all_eq_true.mp (hall m hm) c hc

theorem TypeKind.keyword_unblank (k : TypeKind) : ∀ c ∈ k.keyword.toList, isBlank c = false := by
  have hall : k.keyword.toList.all (fun c => !isBlank c) = true := by cases k <;> decide
  intro c hc
  simpa using List.all_eq_true.mp hall c hc

theorem TypeKind.eq_of_keyword {k k' : TypeKind} :
    k.keyword.toList = k'.keyword.toList → k = k' := by
  cases k <;> cases k' <;> decide

/-- Modifiers and a keyword start with a word. -/
theorem IsModifiers.exists_cons {ms : List Char} (h : IsModifiers ms) (k : TypeKind)
    (s : List Char) : ∃ c r, ms ++ (k.keyword.toList ++ s) = c :: r ∧ isWord c = true := by
  cases h with
  | nil =>
    cases k with
    | ofClass => exact ⟨'c', _, rfl, by decide⟩
    | ofInterface => exact ⟨'i', _, rfl, by decide⟩
  | @cons m b gap ms hm _ _ _ =>
    have hall : ∀ m ∈ typeModifiers, m.toList.head?.any isWord = true := by decide
    have hhead := hall m hm
    cases hchars : m.toList with
    | nil =>
      rw [hchars] at hhead
      cases hhead
    | cons c cs =>
      rw [hchars] at hhead
      exact ⟨c, _, rfl, hhead⟩

theorem dropModifiers_of_some {s r : List Char} (h : afterModifier? s = some r) :
    dropModifiers s = dropModifiers r := by
  rw [dropModifiers]
  split
  · next hr =>
    rw [h] at hr
    cases hr
    rfl
  · next hnone =>
    rw [h] at hnone
    cases hnone

theorem dropModifiers_of_none {s : List Char} (h : afterModifier? s = none) :
    dropModifiers s = s := by
  rw [dropModifiers]
  split
  · next hr =>
    rw [h] at hr
    cases hr
  · rfl

theorem afterModifier?_modifier {m : String} (hm : m ∈ typeModifiers) {b : Char}
    (hb : isBlank b = true) (t : List Char) :
    afterModifier? (m.toList ++ b :: t) = some (trimStart t) := by
  have hword : ∀ v ∈ typeModifiers, afterKeyword? v (m.toList ++ b :: t)
      = if m.toList = v.toList then some (trimStart t) else none :=
    fun v hv => afterKeyword?_blank (modifiers_unblank v hv) (modifiers_unblank m hm) hb t
  have hfound : (afterModifier? (m.toList ++ b :: t)).isSome = true := by
    unfold afterModifier?
    rw [List.findSome?_isSome_iff]
    exact ⟨m, hm, by rw [hword m hm, if_pos rfl]; rfl⟩
  obtain ⟨r, hr⟩ := Option.isSome_iff_exists.mp hfound
  obtain ⟨v, hv, hsome⟩ := List.exists_of_findSome?_eq_some hr
  rw [hword v hv] at hsome
  split at hsome
  · rw [hr, hsome]
  · cases hsome

theorem afterModifier?_keyword (k : TypeKind) {b : Char} (hb : isBlank b = true) (t : List Char) :
    afterModifier? (k.keyword.toList ++ b :: t) = none := by
  have hne : ∀ v ∈ typeModifiers, k.keyword.toList ≠ v.toList := by
    cases k <;> decide
  unfold afterModifier?
  rw [List.findSome?_eq_none_iff]
  intro v hv
  rw [afterKeyword?_blank (modifiers_unblank v hv) k.keyword_unblank hb, if_neg (hne v hv)]

/-- **All modifiers are dropped**, in any number and order. -/
theorem dropModifiers_append {ms : List Char} (h : IsModifiers ms) (k : TypeKind) {b : Char}
    (hb : isBlank b = true) (t : List Char) :
    dropModifiers (ms ++ (k.keyword.toList ++ b :: t)) = k.keyword.toList ++ b :: t := by
  induction h with
  | nil => exact dropModifiers_of_none (afterModifier?_keyword k hb t)
  | @cons m c gap ms hm hc hgap hms ih =>
    obtain ⟨d, r, heq, hd⟩ := hms.exists_cons k (b :: t)
    have hnext : afterModifier? (m.toList ++ c :: (gap ++ ms) ++ (k.keyword.toList ++ b :: t))
        = some (ms ++ (k.keyword.toList ++ b :: t)) := by
      rw [List.append_assoc, List.cons_append, List.append_assoc, afterModifier?_modifier hm hc,
        heq, trimStart_append_cons hgap (isBlank_of_isWord hd)]
    rw [dropModifiers_of_some hnext, ih]

theorem identifier?_append (i : Identifier) {rest : List Char}
    (hrest : rest.head?.any isNamePart = false) :
    identifier? (i.chars ++ rest) = some (i.chars, rest) := by
  have hpart : ∀ c ∈ i.chars, isIdentPart c = true :=
    fun c hc => by simp [isIdentPart, i.isWordText.2 c hc]
  have hedge : rest.head?.any isIdentPart = false := by
    cases rest with
    | nil => rfl
    | cons c rest =>
      simp only [List.head?_cons, Option.any_some, isNamePart, Bool.or_eq_false_iff] at hrest ⊢
      exact hrest.1
  obtain ⟨c, cs, hcs, hstart⟩ := i.exists_start
  have htake := takeWhile_edge hpart hedge
  have hdrop := dropWhile_edge hpart hedge
  rw [hcs] at htake hdrop ⊢
  rw [List.cons_append] at htake hdrop ⊢
  rw [identifier?, if_pos hstart, htake, hdrop]

/-- The type that a header declares, looked for with either keyword. -/
theorem declared?_written {ms gap rest : List Char} {b : Char} (hms : IsModifiers ms)
    (hb : isBlank b = true) (hgap : AllBlank gap) (i : Identifier)
    (hrest : rest.head?.any isNamePart = false) (k k' : TypeKind) :
    declared? k'.keyword (ms ++ (k.keyword.toList ++ b :: (gap ++ (i.chars ++ rest))))
      = if k = k' then some (i.chars, rest) else none := by
  unfold declared?
  rw [dropModifiers_append hms k hb, afterKeyword?_blank k'.keyword_unblank k.keyword_unblank hb]
  by_cases hk : k = k'
  · subst hk
    rw [if_pos rfl, if_pos rfl, trimStart_word hgap i.isWordText, Option.bind_some,
      identifier?_append i hrest]
  · have hne : k.keyword.toList ≠ k'.keyword.toList := fun heq => hk (TypeKind.eq_of_keyword heq)
    rw [if_neg hne, if_neg hk]
    rfl

/-! ## Headers -/

namespace Header

/-- The simple name of what a class implements: the first type of the clause. -/
def implementedName (h : Header) : Option String :=
  match h.supertypes with
  | .ofInterface _ => none
  | .ofClass _ implemented => implemented.head?.map (·.simpleName)

/-- The simple name that is taken for what an interface extends: that of the first type that an
    `extends` opens, be it a bound or the clause. -/
def extendedName (h : Header) : Option String :=
  match h.supertypes with
  | .ofInterface extended => (h.bounds ++ extended).head?.map (·.simpleName)
  | .ofClass _ _ => none

end Header

theorem map_simpleName (t : Option ClassType) :
    (t.map (·.name.chars)).map simpleName = t.map (·.simpleName) := by
  cases t with
  | none => rfl
  | some t => exact congrArg some t.name.simpleName_chars

/-- **What is read off a header.** -/
theorem TypeHeader.parse?_written {h : Header} {line : List Char} (hw : h.IsWritten line) :
    TypeHeader.parse? line
      = some ⟨h.supertypes.kind, String.ofList h.name.chars, h.implementedName,
          h.extendedName⟩ := by
  obtain @⟨_, _, rest, _, hmodifiers, hb, hgap, hrest⟩ := hw
  have hclause : ∀ w : ClauseWord, clause? w.text rest = textAfter? w h.tokens := by
    intro w
    exact clause_spelled hrest nofun
  have hdeclared := declared?_written hmodifiers hb hgap h.name hrest.edge h.supertypes.kind
  have hinterface := hdeclared .ofInterface
  have hclass := hdeclared .ofClass
  unfold TypeHeader.parse? Header.implementedName Header.extendedName
  change declared? "interface" _ = _ at hinterface
  change declared? "class" _ = _ at hclass
  rw [hinterface, hclass]
  cases hkind : h.supertypes with
  | ofInterface extended =>
    have hextends : clause? "extends" rest = _ := hclause .ofExtends
    rw [Header.textAfter?_extends hkind] at hextends
    simp only [Supertypes.kind, if_pos, hextends, map_simpleName]
  | ofClass extended implemented =>
    have himplements : clause? "implements" rest = _ := hclause .ofImplements
    rw [Header.textAfter?_implements hkind] at himplements
    simp only [Supertypes.kind, reduceCtorEq, if_false, if_true, himplements, map_simpleName]

/-! ## Sources -/

/-- A line that starts with a word is neither blank nor a comment. -/
theorem isSignificant_cons {c : Char} (hc : isWord c = true) (s : List Char) :
    isSignificant (c :: s) = true := by
  have hne : ∀ d : Char, isWord d = false → c ≠ d := by
    rintro d hd rfl
    rw [hc] at hd
    cases hd
  have hslash := hne '/' (by decide)
  have hstar := hne '*' (by decide)
  rw [isSignificant_iff]
  refine ⟨List.cons_ne_nil _ _, ?_⟩
  intro mark hmark hprefix
  simp only [commentMarks, List.mem_cons, List.not_mem_nil, or_false] at hmark
  rcases hmark with rfl | rfl | rfl
  · exact hslash (List.cons_prefix_cons.mp hprefix).1.symm
  · exact hslash (List.cons_prefix_cons.mp hprefix).1.symm
  · exact hstar (List.cons_prefix_cons.mp hprefix).1.symm

theorem Header.IsWritten.isSignificant {h : Header} {line : List Char} (hw : h.IsWritten line) :
    isSignificant line = true := by
  obtain ⟨hmodifiers, _, _, _⟩ := hw
  obtain ⟨c, r, heq, hc⟩ := hmodifiers.exists_cons h.supertypes.kind _
  rw [heq]
  exact isSignificant_cons hc r

/-- The first line that declares a type gives the header, from that line on. -/
theorem header_readingAfter {text : String} {d : Nat} {t : TypeHeader}
    (hfirst : ∀ k < d, headerAt? text k = none) (hat : headerAt? text d = some t) (n : Nat) :
    (readingAfter text n).header = if d ≤ n then some t else none := by
  induction n with
  | zero =>
    have hd : ¬ d ≤ 0 := by
      intro hd
      rw [Nat.le_zero.mp hd] at hat
      cases hat
    rw [readingAfter_zero, if_neg hd]
  | succ n ih =>
    have hstep : (readingAfter text (n + 1)).header
        = (readingAfter text n).header.or (headerAt? text (n + 1)) := by
      rw [readingAfter_succ]
      unfold headerAt?
      cases significantAt? text (n + 1) with
      | none => simp
      | some line => exact Reading.step_header ..
    rw [hstep, ih]
    by_cases hle : d ≤ n
    · rw [if_pos hle, if_pos (Nat.le_succ_of_le hle)]
      rfl
    · rw [if_neg hle, Option.none_or]
      by_cases heq : d = n + 1
      · rw [if_pos (Nat.le_of_eq heq), ← heq, hat]
      · rw [if_neg (by omega), hfirst (n + 1) (by omega)]

theorem ofText_of_header {text : String} {t : TypeHeader}
    (h : (readingAfter text (lineCount text)).header = some t) (path : String) :
    (Outline.ofText path text).typeName = some t.name ∧ (Outline.ofText path text).kind = t.kind ∧
      (Outline.ofText path text).implemented = t.implemented ∧
      (Outline.ofText path text).extended = t.extended := by
  rw [toOutline_readingAfter]
  unfold Reading.toOutline
  rw [h]
  exact ⟨rfl, rfl, rfl, rfl⟩

/-- **Type headers are read correctly, but for bounded type parameters.** In a source whose first
    declaration is a header on line `d`, the outline has its name and kind. What a class implements
    is the first type of its clause, or nothing without one. So is what an interface extends, as long
    as no type parameter has a bound; otherwise it is the first bound, whatever the clause says. -/
theorem Outline.ofText_header {path text : String} {d : Nat} {line : List Char} {h : Header}
    (hline : lineAt? text d = some line) (hwritten : h.IsWritten line)
    (hfirst : ∀ k < d, headerAt? text k = none) :
    (ofText path text).typeName = some (String.ofList h.name.chars) ∧
      (ofText path text).kind = h.supertypes.kind ∧
      match h.supertypes with
      | .ofClass _ implemented =>
        (ofText path text).extended = none ∧
          (ofText path text).implemented = implemented.head?.map (·.simpleName)
      | .ofInterface extended =>
        (ofText path text).implemented = none ∧
          (h.bounds = [] → (ofText path text).extended = extended.head?.map (·.simpleName)) ∧
          ∀ b bs, h.bounds = b :: bs → (ofText path text).extended = some b.simpleName := by
  have hat : headerAt? text d = some ⟨h.supertypes.kind, String.ofList h.name.chars,
      h.implementedName, h.extendedName⟩ := by
    unfold headerAt? significantAt?
    rw [hline, Option.filter_some, if_pos hwritten.isSignificant, Option.bind_some,
      TypeHeader.parse?_written hwritten]
  have hheader : (readingAfter text (lineCount text)).header = some _ :=
    (header_readingAfter hfirst hat _).trans (if_pos (lineAt?_bounds hline).2)
  obtain ⟨hname, hkind, himplemented, hextended⟩ := ofText_of_header hheader path
  refine ⟨hname, hkind, ?_⟩
  rw [himplemented, hextended]
  unfold Header.implementedName Header.extendedName
  cases h.supertypes with
  | ofClass extended implemented => exact ⟨rfl, rfl⟩
  | ofInterface extended =>
    refine ⟨rfl, ?_, ?_⟩
    · intro hbounds
      rw [hbounds]
      rfl
    · intro b bs hbounds
      rw [hbounds]
      rfl

/-- A class and two interfaces. The class has a bounded parameter and a wildcard around what it
    implements. The first interface has a plain parameter; the second one has a bounded one, and the
    bound is taken for what it extends. -/
theorem Outline.ofText_header_bounds :
    let base : ClassType := ⟨⟨[], ⟨"B".toList, by decide⟩⟩, []⟩
    let item : TypeUse := .named ⟨[], ⟨"T".toList, by decide⟩⟩ []
    let api : ClassType := ⟨⟨[⟨"p".toList, by decide⟩], ⟨"Api".toList, by decide⟩⟩, [.upTo item]⟩
    let plain : TypeParameter := ⟨⟨"T".toList, by decide⟩, []⟩
    let bounded : TypeParameter := ⟨⟨"T".toList, by decide⟩, [base]⟩
    let shop : Header := ⟨⟨"Shop".toList, by decide⟩, [bounded], .ofClass [] [api, base], true⟩
    let near : Header := ⟨⟨"Near".toList, by decide⟩, [plain], .ofInterface [base, api], false⟩
    let far : Header := ⟨⟨"Far".toList, by decide⟩, [bounded], .ofInterface [api], false⟩
    let shopLine := "public class Shop<T extends B>implements p.Api<? extends T> , B\x7b"
    let nearLine := "interface Near <T> extends B,p.Api<? extends T>"
    let farLine := "interface Far<T extends B> extends p.Api<? extends T>"
    shop.IsWritten shopLine.toList ∧ near.IsWritten nearLine.toList ∧
      far.IsWritten farLine.toList ∧ near.bounds = [] ∧ far.bounds = [base] ∧
      (ofText "Shop.java" ("// Shop\n  " ++ shopLine)).implemented = some "Api" ∧
      (ofText "Near.java" nearLine).extended = some "B" ∧
      (ofText "Far.java" farLine).extended = some "B" := by
  intro base item api plain bounded shop near far shopLine nearLine farLine
  have hwritten : ∀ (h : Header) {modifiers rest line : List Char}, IsModifiers modifiers →
      Spelled true h.tokens rest →
      line = modifiers ++ (h.supertypes.kind.keyword.toList ++ ' ' :: (h.name.chars ++ rest)) →
      h.IsWritten line := by
    rintro h modifiers rest _ hmodifiers hrest rfl
    exact .intro hmodifiers (by decide) (show AllBlank [] by decide) hrest
  have hpublic : IsModifiers ("public".toList ++ ' ' :: ([] ++ [])) :=
    .cons (by decide) (by decide) (by decide) .nil
  have hshop : shop.IsWritten shopLine.toList := by
    have hrest : Spelled true shop.tokens
        "<T extends B>implements p.Api<? extends T> , B\x7b".toList := by decide +kernel
    exact hwritten shop hpublic hrest (by decide +kernel)
  have hnear : near.IsWritten nearLine.toList := by
    have hrest : Spelled true near.tokens
        " <T> extends B,p.Api<? extends T>".toList := by decide +kernel
    exact hwritten near .nil hrest (by decide +kernel)
  have hfar : far.IsWritten farLine.toList := by
    have hrest : Spelled true far.tokens
        "<T extends B> extends p.Api<? extends T>".toList := by decide +kernel
    exact hwritten far .nil hrest (by decide +kernel)
  have hzero : ∀ text, ∀ k < 1, headerAt? text k = none := by
    intro text k hk
    rw [Nat.lt_one_iff.mp hk]
    rfl
  refine ⟨hshop, hnear, hfar, rfl, rfl, ?_, ?_, ?_⟩
  · have hline : lineAt? ("// Shop\n  " ++ shopLine) 2 = some shopLine.toList := by decide +kernel
    have hfirst : ∀ k < 2, headerAt? ("// Shop\n  " ++ shopLine) k = none := by decide +kernel
    exact (ofText_header hline hshop hfirst).2.2.2
  · have hline : lineAt? nearLine 1 = some nearLine.toList := by decide +kernel
    exact (ofText_header hline hnear (hzero nearLine)).2.2.2.1 rfl
  · have hline : lineAt? farLine 1 = some farLine.toList := by decide +kernel
    exact (ofText_header hline hfar (hzero farLine)).2.2.2.2 _ _ rfl

end SpringRoutes
