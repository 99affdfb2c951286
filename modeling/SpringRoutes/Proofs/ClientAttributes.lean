import SpringRoutes.Proofs.Recognisers

/-!
# `SpringRoutes.Proofs.ClientAttributes` — the attributes of a client annotation

The arguments of a client annotation are attributes with values in quotes. They are not parsed: a key
is looked for anywhere in the text, so a value may pass for an attribute. It does when it ends like the
start of one (`IsDecoy`), as in `url = "x, name = "`, because the quote that closes the value is then
taken for the one that opens the next. What is found is the text up to the next quote, and that belongs
to the attribute that follows. The last attribute has none after it and does no harm.

`Reads` says what a search for a key gives in all cases: the value of the attribute with that key, unless
a decoy comes before it. The argument is the same for every search. It goes attribute by attribute: the
name decides (`Finder.head`, `Finder.next`), then the value is passed over or misread (`misread_value`,
`pass_value`), then come the blanks and the next comma. `finder_topLevel` and `finder_assigned` show that
the searches for names and for paths are of this kind; `ofArguments_attributes` puts them together.
-/

namespace SpringRoutes

open Text

/-! ## Attributes -/

/-- An attribute as it is written: a word, an equals sign and a value in quotes, with blanks between
    them. -/
structure Attribute where
  lead : List Char
  name : List Char
  left : List Char
  right : List Char
  value : List Char
  trail : List Char
  lead_blank : AllBlank lead
  name_word : IsWordText name
  left_blank : AllBlank left
  right_blank : AllBlank right
  value_plain : '"' ∉ value
  trail_blank : AllBlank trail

namespace Attribute

/-- The attribute up to its first quote. -/
def opening (a : Attribute) : List Char :=
  a.lead ++ (a.name ++ (a.left ++ '=' :: a.right))

/-- The attribute up to its second quote, and what follows. -/
def quotedBefore (a : Attribute) (rest : List Char) : List Char :=
  a.opening ++ '"' :: (a.value ++ '"' :: rest)

theorem opening_plain (a : Attribute) {c : Char} (hblank : isBlank c = false)
    (hword : isWord c = false) (heq : c ≠ '=') : c ∉ a.opening := by
  simp only [opening, List.mem_append, List.mem_cons, not_or]
  exact ⟨a.lead_blank.not_mem hblank, a.name_word.not_mem hword, a.left_blank.not_mem hblank, heq,
    a.right_blank.not_mem hblank⟩

end Attribute

/-- Attributes, each after a comma. -/
def furtherText (attrs : List Attribute) : List Char :=
  attrs.flatMap fun a => ',' :: a.quotedBefore a.trail

/-- Attributes with commas between them. -/
def argumentText : List Attribute → List Char
  | [] => []
  | a :: rest => a.quotedBefore (a.trail ++ furtherText rest)

theorem furtherText_cons (a : Attribute) (rest : List Attribute) :
    furtherText (a :: rest) = ',' :: a.quotedBefore (a.trail ++ furtherText rest) := by
  simp [furtherText, Attribute.quotedBefore]

/-- The value of the first attribute with a key. -/
def valueOf? (key : String) (attrs : List Attribute) : Option String :=
  (attrs.find? fun a => a.name = key.toList).map fun a => String.ofList a.value

/-! ## What a search gives -/

/-- The value ends in a text that passes for the start of an attribute; the text may depend on the
    character before it. -/
def IsDecoy (starts : Option Char → List Char → Prop) (value : List Char) : Prop :=
  ∃ x y, value = x ++ y ∧ starts (charBefore (some '"') x) y

theorem IsDecoy.mem {starts : Option Char → List Char → Prop} {value : List Char}
    (h : IsDecoy starts value) {c : Char} (hc : ∀ b y, starts b y → c ∈ y) : c ∈ value := by
  obtain ⟨x, y, rfl, hstarts⟩ := h
  exact List.mem_append_right x (hc _ y hstarts)

/-- What a search for a key gives. -/
inductive Reads (starts : Option Char → List Char → Prop) (key : String) :
    List Attribute → Option String → Prop
  | none : Reads starts key [] none
  /-- The attribute has the key. -/
  | named {a : Attribute} {rest : List Attribute} (eq : a.name = key.toList) :
      Reads starts key (a :: rest) (some (String.ofList a.value))
  /-- The value is a decoy, and an attribute follows it. -/
  | misread {a b : Attribute} {rest : List Attribute} (ne : a.name ≠ key.toList)
      (decoy : IsDecoy starts a.value) :
      Reads starts key (a :: b :: rest) (some (String.ofList (a.trail ++ ',' :: b.opening)))
  /-- The attribute is passed over. -/
  | pass {a : Attribute} {rest : List Attribute} {r : Option String} (ne : a.name ≠ key.toList)
      (harmless : IsDecoy starts a.value → rest = []) (further : Reads starts key rest r) :
      Reads starts key (a :: rest) r

/-- **Without decoys a search gives the value of the key.** -/
theorem Reads.eq_valueOf? {starts : Option Char → List Char → Prop} {key : String}
    {attrs : List Attribute} {r : Option String} (h : Reads starts key attrs r)
    (hplain : ∀ a ∈ attrs.dropLast, ¬ IsDecoy starts a.value) : r = valueOf? key attrs := by
  induction h with
  | none => rfl
  | named heq => simp [valueOf?, heq]
  | misread hne hdecoy => exact absurd hdecoy (hplain _ (by simp))
  | @pass a rest r hne _ _ ih =>
    have hrest : ∀ b ∈ rest.dropLast, ¬ IsDecoy starts b.value := by
      intro b hb
      refine hplain b ?_
      cases rest with
      | nil => cases hb
      | cons c rest => exact List.mem_cons_of_mem _ hb
    rw [ih hrest, valueOf?, valueOf?, List.find?_cons_of_neg (by simpa using hne)]

/-! ## Searches -/

/-- A search for a key, by what it finds at which places. -/
structure Finder (starts : Option Char → List Char → Prop) (key : String)
    (p : Option Char → List Char → Option String) : Prop where
  /-- The name of the first attribute decides. -/
  head : ∀ (a : Attribute) (rest : List Char),
    firstMatch p none (a.quotedBefore rest) =
      if a.name = key.toList then some (String.ofList a.value)
      else firstMatch p (some '"') (a.value ++ '"' :: rest)
  /-- The name of an attribute after a comma decides. -/
  next : ∀ (c : Char) (a : Attribute) (rest : List Char),
    firstMatch p (some c) (',' :: a.quotedBefore rest) =
      if a.name = key.toList then some (String.ofList a.value)
      else firstMatch p (some '"') (a.value ++ '"' :: rest)
  /-- Before a quote, a text is found if it passes for the start of an attribute. -/
  inside : ∀ (b : Char) (y rest : List Char) (v : String), '"' ∉ y →
    (p (some b) (y ++ '"' :: rest) = some v ↔
      starts (some b) y ∧ quoted? ('"' :: rest) = some v)
  blank : ∀ (b c : Char) (r : List Char), isBlank c = true → p (some b) (c :: r) = none
  ends : ∀ b : Option Char, p b [] = none

section Finder

variable {starts : Option Char → List Char → Prop} {key : String}
  {p : Option Char → List Char → Option String} (hp : Finder starts key p)

include hp

theorem inside_charBefore {x y : List Char} (hy : '"' ∉ y) (rest : List Char) (v : String) :
    p (charBefore (some '"') x) (y ++ '"' :: rest) = some v ↔
      starts (charBefore (some '"') x) y ∧ quoted? ('"' :: rest) = some v := by
  obtain ⟨b, hb⟩ := exists_charBefore '"' x
  rw [hb]
  exact hp.inside b y rest v hy

/-- A value that passes for the start of an attribute, and a quote after its own. -/
theorem misread_value {value rest : List Char} {v : String} (hvalue : '"' ∉ value)
    (hdecoy : IsDecoy starts value) (hv : quoted? ('"' :: rest) = some v) :
    firstMatch p (some '"') (value ++ '"' :: rest) = some v := by
  obtain ⟨x, y, rfl, hstarts⟩ := hdecoy
  rw [List.mem_append, not_or] at hvalue
  have hhere : p (charBefore (some '"') x) (y ++ '"' :: rest) = some v :=
    (inside_charBefore hp hvalue.2 rest v).mpr ⟨hstarts, hv⟩
  rw [List.append_assoc]
  cases h : firstMatch p (some '"') (x ++ (y ++ '"' :: rest)) with
  | none =>
    rw [firstMatch_eq_none_iff.mp h x _ rfl] at hhere
    cases hhere
  | some v' =>
    -- the match is here or further left, and in either case before the same quote
    obtain ⟨a, b, hab, hb, hfirst⟩ := firstMatch_eq_some_iff.mp h
    have hle : a.length ≤ x.length := by
      refine Nat.le_of_not_lt fun hlt => ?_
      rw [hfirst x _ rfl hlt] at hhere
      cases hhere
    obtain ⟨z, rfl, rfl⟩ : ∃ z, x = a ++ z ∧ b = z ++ (y ++ '"' :: rest) := by
      rcases List.append_eq_append_iff.mp hab with ⟨z, rfl, hz⟩ | ⟨z, hx, hz⟩
      · rw [List.length_append] at hle
        obtain rfl : z = [] := List.eq_nil_of_length_eq_zero (by omega)
        exact ⟨[], by simp, hz.symm⟩
      · exact ⟨z, hx, hz⟩
    have hzy : '"' ∉ z ++ y := by
      rw [List.mem_append, not_or]
      exact ⟨fun hz => hvalue.1 (List.mem_append_right a hz), hvalue.2⟩
    rw [← List.append_assoc] at hb
    have hv' := ((inside_charBefore hp hzy rest v').mp hb).2
    rw [← hv', hv]

/-- Any other value is passed over, and so is a decoy without a quote after its own. -/
theorem pass_value {value rest : List Char} (hvalue : '"' ∉ value)
    (hharmless : IsDecoy starts value → quoted? ('"' :: rest) = none) :
    firstMatch p (some '"') (value ++ '"' :: rest) = firstMatch p (some '"') rest := by
  have hnone : ∀ x y, value = x ++ y → p (charBefore (some '"') x) (y ++ '"' :: rest) = none := by
    rintro x y rfl
    rw [List.mem_append, not_or] at hvalue
    cases h : p (charBefore (some '"') x) (y ++ '"' :: rest) with
    | none => rfl
    | some v =>
      obtain ⟨hstarts, hv⟩ := (inside_charBefore hp hvalue.2 rest v).mp h
      rw [hharmless ⟨x, y, rfl, hstarts⟩] at hv
      cases hv
  rw [firstMatch_append fun x y hxy _ => hnone x y hxy]
  have hquote := hnone value [] (List.append_nil value).symm
  rw [List.nil_append] at hquote
  exact firstMatch_cons_of_none hquote

theorem pass_blanks {w : List Char} (hw : AllBlank w) (c : Char) (s : List Char) :
    ∃ d, firstMatch p (some c) (w ++ s) = firstMatch p (some d) s :=
  exists_firstMatch_append fun d hd b r => hp.blank b d r (hw d hd)

omit hp in
/-- What follows the second quote of an attribute up to the next quote. -/
theorem quoted?_further (a : Attribute) (rest : List Attribute) :
    quoted? ('"' :: (a.trail ++ furtherText rest)) =
      rest.head?.map fun b => String.ofList (a.trail ++ ',' :: b.opening) := by
  have htrail : '"' ∉ a.trail := a.trail_blank.not_mem (by decide)
  cases rest with
  | nil =>
    have hnone : splitAtFirst '"' (a.trail ++ furtherText []) = none :=
      splitAtFirst_eq_none_iff.mpr (by simpa [furtherText] using htrail)
    rw [quoted?, hnone]
    rfl
  | cons b rest =>
    refine quoted?_eq_some_iff.mpr ⟨a.trail ++ ',' :: b.opening,
      b.value ++ '"' :: (b.trail ++ furtherText rest), ?_, ?_, rfl⟩
    · rw [furtherText_cons, Attribute.quotedBefore]
      simp
    · simp only [List.mem_append, List.mem_cons, not_or]
      exact ⟨htrail, by decide, b.opening_plain (by decide) (by decide) (by decide)⟩

/-- One attribute, given what a search makes of those after it. -/
theorem reads_cons {a : Attribute} {rest : List Attribute} {found : Option String}
    (hfound : found = if a.name = key.toList then some (String.ofList a.value)
      else firstMatch p (some '"') (a.value ++ '"' :: (a.trail ++ furtherText rest)))
    (hrest : ∀ c, Reads starts key rest (firstMatch p (some c) (furtherText rest))) :
    Reads starts key (a :: rest) found := by
  subst hfound
  split
  · next heq => exact .named heq
  · next hne =>
    by_cases hdecoy : IsDecoy starts a.value ∧ rest ≠ []
    · obtain ⟨b, rest, rfl⟩ := List.exists_cons_of_ne_nil hdecoy.2
      rw [misread_value hp a.value_plain hdecoy.1 (quoted?_further a (b :: rest))]
      exact .misread hne hdecoy.1
    · have hharmless : IsDecoy starts a.value → rest = [] :=
        fun h => Classical.byContradiction fun hrest => hdecoy ⟨h, hrest⟩
      have hquote : IsDecoy starts a.value → quoted? ('"' :: (a.trail ++ furtherText rest)) = none := by
        intro h
        rw [quoted?_further, hharmless h]
        rfl
      rw [pass_value hp a.value_plain hquote]
      obtain ⟨d, hd⟩ := pass_blanks hp a.trail_blank '"' (furtherText rest)
      rw [hd]
      exact .pass hne hharmless (hrest d)

/-- A search among the attributes after the first one. -/
theorem reads_furtherText (attrs : List Attribute) (c : Char) :
    Reads starts key attrs (firstMatch p (some c) (furtherText attrs)) := by
  induction attrs generalizing c with
  | nil =>
    rw [show firstMatch p (some c) (furtherText []) = none from hp.ends (some c)]
    exact .none
  | cons a rest ih =>
    refine reads_cons hp ?_ ih
    rw [furtherText_cons]
    exact hp.next c a _

/-- **What a search gives on a list of attributes.** -/
theorem reads_argumentText (attrs : List Attribute) :
    Reads starts key attrs (firstMatch p none (argumentText attrs)) := by
  cases attrs with
  | nil =>
    rw [show firstMatch p none (argumentText []) = none from hp.ends none]
    exact .none
  | cons a rest => exact reads_cons hp (hp.head a _) (reads_furtherText hp rest)

end Finder

/-! ## Words at the start of an attribute -/

/-- The key at the start of an attribute is its name. -/
theorem afterAssign?_name (key : String) (hkey : IsWordText key.toList) (a : Attribute)
    (rest : List Char) :
    afterAssign? key.toList (a.name ++ (a.left ++ '=' :: rest)) =
      if a.name = key.toList then some rest else none := by
  split
  · next heq => exact afterAssign?_eq_some_iff.mpr ⟨a.left, a.left_blank, by rw [heq]⟩
  · next hne =>
    cases h : afterAssign? key.toList (a.name ++ (a.left ++ '=' :: rest)) with
    | none => rfl
    | some r =>
      obtain ⟨w, hw, heq⟩ := afterAssign?_eq_some_iff.mp h
      have hname := (eq_of_word_append a.name_word hkey
        (closesWord_append a.left_blank (by decide) rest) (closesWord_append hw (by decide) r) heq).1
      exact absurd hname hne

theorem quoted?_value (a : Attribute) (rest : List Char) :
    quoted? ('"' :: (a.value ++ '"' :: rest)) = some (String.ofList a.value) :=
  quoted?_eq_some_iff.mpr ⟨a.value, rest, rfl, a.value_plain, rfl⟩

/-! ## The search for a name -/

/-- A comma, the key and an equals sign. -/
def StartsArgument (key : String) (_ : Option Char) (y : List Char) : Prop :=
  ∃ w w₁ w₂, AllBlank w ∧ AllBlank w₁ ∧ AllBlank w₂ ∧
    y = ',' :: (w ++ (key.toList ++ (w₁ ++ '=' :: w₂)))

theorem topLevelHere?_comma (key : String) (b : Char) (r : List Char) :
    topLevelHere? key (some b) (',' :: r) = argument? key r := rfl

theorem topLevelHere?_of_ne (key : String) (b : Char) {c : Char} (hc : c ≠ ',') (r : List Char) :
    topLevelHere? key (some b) (c :: r) = none := by
  unfold topLevelHere?
  split
  · next heq => exact absurd (List.cons.inj heq).1 hc
  · rfl

/-- The start of the text is the start of an argument. -/
theorem topLevelHere?_start (key : String) {c : Char} (hc : c ≠ ',') (r : List Char) :
    topLevelHere? key none (c :: r) = argument? key (c :: r) := by
  unfold topLevelHere?
  split
  · next heq => exact absurd (List.cons.inj heq).1 hc
  · simp

theorem argument?_attribute {key : String} (hkey : IsWordText key.toList) (a : Attribute)
    (rest : List Char) :
    argument? key (a.quotedBefore rest) =
      if a.name = key.toList then some (String.ofList a.value) else none := by
  have htext : a.quotedBefore rest =
      a.lead ++ (a.name ++ (a.left ++ '=' :: (a.right ++ '"' :: (a.value ++ '"' :: rest)))) := by
    simp [Attribute.quotedBefore, Attribute.opening]
  rw [argument?, htext, trimStart_word a.lead_blank a.name_word, afterAssign?_name key hkey]
  split
  · rw [Option.bind_some, trimStart_append_cons a.right_blank (by decide), quoted?_value]
  · rfl

theorem argument?_eq_some_iff {key : String} (hkey : IsWordText key.toList) {s : List Char}
    {v : String} :
    argument? key s = some v ↔ ∃ w w₁ w₂ p r, AllBlank w ∧ AllBlank w₁ ∧ AllBlank w₂ ∧ '"' ∉ p ∧
      v = String.ofList p ∧
      s = w ++ (key.toList ++ (w₁ ++ '=' :: (w₂ ++ '"' :: (p ++ '"' :: r)))) := by
  rw [argument?, Option.bind_eq_some_iff]
  constructor
  · rintro ⟨t, ht, hv⟩
    obtain ⟨w₁, hw₁, htrim⟩ := afterAssign?_eq_some_iff.mp ht
    obtain ⟨w, hw, hs⟩ := exists_trimStart s
    obtain ⟨p, r, hquote, hp, rfl⟩ := quoted?_eq_some_iff.mp hv
    obtain ⟨w₂, hw₂, rfl⟩ := (trimStart_eq_cons_iff (by decide)).mp hquote
    exact ⟨w, w₁, w₂, p, r, hw, hw₁, hw₂, hp, rfl, by rw [← htrim]; exact hs⟩
  · rintro ⟨w, w₁, w₂, p, r, hw, hw₁, hw₂, hp, rfl, rfl⟩
    refine ⟨w₂ ++ '"' :: (p ++ '"' :: r), ?_, ?_⟩
    · rw [trimStart_word hw hkey]
      exact afterAssign?_eq_some_iff.mpr ⟨w₁, hw₁, rfl⟩
    · rw [trimStart_append_cons hw₂ (by decide)]
      exact quoted?_eq_some_iff.mpr ⟨p, r, rfl, hp, rfl⟩

theorem topLevelHere?_inside {key : String} (hkey : IsWordText key.toList) (b : Char)
    {y : List Char} (hy : '"' ∉ y) (rest : List Char) (v : String) :
    topLevelHere? key (some b) (y ++ '"' :: rest) = some v ↔
      StartsArgument key (some b) y ∧ quoted? ('"' :: rest) = some v := by
  constructor
  · intro h
    cases y with
    | nil => rw [List.nil_append, topLevelHere?_of_ne key b (by decide)] at h; cases h
    | cons c y =>
      by_cases hc : c = ','
      · subst hc
        rw [List.cons_append, topLevelHere?_comma] at h
        obtain ⟨w, w₁, w₂, p, r, hw, hw₁, hw₂, hp, rfl, heq⟩ := (argument?_eq_some_iff hkey).mp h
        have hplain : '"' ∉ w ++ (key.toList ++ (w₁ ++ '=' :: w₂)) := by
          simp only [List.mem_append, List.mem_cons, not_or]
          exact ⟨hw.not_mem (by decide), hkey.not_mem (by decide), hw₁.not_mem (by decide),
            by decide, hw₂.not_mem (by decide)⟩
        have hsame : y ++ '"' :: rest =
            w ++ (key.toList ++ (w₁ ++ '=' :: w₂)) ++ '"' :: (p ++ '"' :: r) := by
          rw [heq]
          simp
        obtain ⟨rfl, rfl⟩ := eq_of_append_cons hsame (fun h => hy (List.mem_cons_of_mem _ h)) hplain
        exact ⟨⟨w, w₁, w₂, hw, hw₁, hw₂, rfl⟩, quoted?_eq_some_iff.mpr ⟨p, r, rfl, hp, rfl⟩⟩
      · rw [List.cons_append, topLevelHere?_of_ne key b hc] at h
        cases h
  · rintro ⟨⟨w, w₁, w₂, hw, hw₁, hw₂, rfl⟩, hv⟩
    obtain ⟨p, r, hquote, hp, rfl⟩ := quoted?_eq_some_iff.mp hv
    rw [List.cons_append, topLevelHere?_comma]
    refine (argument?_eq_some_iff hkey).mpr ⟨w, w₁, w₂, p, r, hw, hw₁, hw₂, hp, rfl, ?_⟩
    rw [hquote]
    simp

/-- A search passes over a text without a comma, up to a quote. -/
theorem firstMatch_plain (key : String) (c : Char) {t : List Char} (ht : ',' ∉ t) (s : List Char) :
    firstMatch (topLevelHere? key) (some c) (t ++ '"' :: s) =
      firstMatch (topLevelHere? key) (some '"') s := by
  have hnone : ∀ d ∈ t, ∀ b r, topLevelHere? key (some b) (d :: r) = none := by
    intro d hd b r
    refine topLevelHere?_of_ne key b ?_ r
    rintro rfl
    exact ht hd
  obtain ⟨d, hd⟩ := exists_firstMatch_append (c := c) hnone
  rw [hd]
  exact firstMatch_cons_of_none (topLevelHere?_of_ne key d (by decide) s)

theorem finder_topLevel (key : String) (hkey : IsWordText key.toList) :
    Finder (StartsArgument key) key (topLevelHere? key) where
  head a rest := by
    have hne : a.opening ≠ [] := by simp [Attribute.opening]
    obtain ⟨c, t, ht⟩ := List.exists_cons_of_ne_nil hne
    have hcomma : ',' ∉ c :: t := ht ▸ a.opening_plain (by decide) (by decide) (by decide)
    rw [List.mem_cons, not_or] at hcomma
    have htext : a.quotedBefore rest = c :: (t ++ '"' :: (a.value ++ '"' :: rest)) := by
      rw [Attribute.quotedBefore, ht, List.cons_append]
    have hhere : topLevelHere? key none (a.quotedBefore rest) =
        if a.name = key.toList then some (String.ofList a.value) else none := by
      rw [← argument?_attribute hkey a rest, htext, topLevelHere?_start key (Ne.symm hcomma.1)]
    split
    · next heq => exact firstMatch_of_some (hhere.trans (if_pos heq))
    · next hdiff =>
      rw [if_neg hdiff, htext] at hhere
      rw [htext, firstMatch_cons_of_none hhere, firstMatch_plain key c hcomma.2]
  next c a rest := by
    split
    · next heq =>
      refine firstMatch_of_some ?_
      rw [topLevelHere?_comma, argument?_attribute hkey, if_pos heq]
    · next hne =>
      have hnone : topLevelHere? key (some c) (',' :: a.quotedBefore rest) = none := by
        rw [topLevelHere?_comma, argument?_attribute hkey, if_neg hne]
      rw [firstMatch_cons_of_none hnone]
      exact firstMatch_plain key ',' (a.opening_plain (by decide) (by decide) (by decide)) _
  inside b y rest v hy := topLevelHere?_inside hkey b hy rest v
  blank b c r hc := by
    refine topLevelHere?_of_ne key b ?_ r
    rintro rfl
    exact absurd hc (by decide)
  ends b := by
    have hnone : argument? key [] = none := by
      cases h : argument? key [] with
      | none => rfl
      | some v =>
        obtain ⟨w, w₁, w₂, p, r, _, _, _, _, _, heq⟩ := (argument?_eq_some_iff hkey).mp h
        exact absurd heq (by simp)
    cases b with
    | none => simp [topLevelHere?, hnone]
    | some b => rfl

/-! ## The search for a path -/

/-- The key as a word of its own, an equals sign, and perhaps a brace. -/
def StartsAssignment (key : String) (before : Option Char) (y : List Char) : Prop :=
  opensWord before = true ∧ ∃ w o, AllBlank w ∧ IsOpening o ∧ y = key.toList ++ (w ++ '=' :: o)

theorem assignedHere?_of_not_opens {key : String} {before : Option Char}
    (h : opensWord before = false) (s : List Char) : assignedHere? key before s = none := by
  rw [assignedHere?, if_neg (by simp [h])]

/-- A key is not assigned where no word starts. -/
theorem assignedHere?_of_not_word {key : String} (hkey : IsWordText key.toList) {c : Char}
    (hc : isWord c = false) (before : Option Char) (r : List Char) :
    assignedHere? key before (c :: r) = none := by
  obtain ⟨n, ns, hn⟩ := List.exists_cons_of_ne_nil hkey.1
  refine assignedHere?_cons_of_ne hn ?_ before r
  rintro rfl
  exact hkey.not_mem hc (by simp [hn])

theorem firstMatch_blanks {key : String} (hkey : IsWordText key.toList) {w : List Char}
    (hw : AllBlank w) {c : Char} (hc : isWord c = false) (before : Option Char) (s : List Char) :
    firstMatch (assignedHere? key) before (w ++ c :: s) =
      firstMatch (assignedHere? key) (some c) s := by
  have hskip : ∀ d ∈ w, ∀ b r, assignedHere? key b (d :: r) = none := fun d hd b r =>
    assignedHere?_of_not_word hkey (isWord_of_isBlank (hw d hd)) b r
  rw [firstMatch_append_of_forall hskip]
  exact firstMatch_cons_of_none (assignedHere?_of_not_word hkey hc _ s)

theorem assignedHere?_name {key : String} (hkey : IsWordText key.toList) {before : Option Char}
    (hopens : opensWord before = true) (a : Attribute) (rest : List Char) :
    assignedHere? key before
        (a.name ++ (a.left ++ '=' :: (a.right ++ '"' :: (a.value ++ '"' :: rest)))) =
      if a.name = key.toList then some (String.ofList a.value) else none := by
  rw [assignedHere?, if_pos hopens, afterAssign?_name key hkey]
  split
  · exact bracedQuoted?_eq_some_iff.mpr
      ⟨a.right, a.value, rest, .inl a.right_blank, rfl, a.value_plain, rfl⟩
  · rfl

/-- The name of an attribute decides, wherever a word may start. -/
theorem firstMatch_assignedHere? {key : String} (hkey : IsWordText key.toList)
    {before : Option Char} (hopens : opensWord before = true) (a : Attribute) (rest : List Char) :
    firstMatch (assignedHere? key) before (a.quotedBefore rest) =
      if a.name = key.toList then some (String.ofList a.value)
      else firstMatch (assignedHere? key) (some '"') (a.value ++ '"' :: rest) := by
  let after := a.left ++ '=' :: (a.right ++ '"' :: (a.value ++ '"' :: rest))
  have htext : a.quotedBefore rest = a.lead ++ (a.name ++ after) := by
    simp [after, Attribute.quotedBefore, Attribute.opening]
  have hlead : ∀ c ∈ a.lead, ∀ b r, assignedHere? key b (c :: r) = none := fun c hc b r =>
    assignedHere?_of_not_word hkey (isWord_of_isBlank (a.lead_blank c hc)) b r
  rw [htext, firstMatch_append_of_forall hlead]
  have hname := assignedHere?_name hkey (opensWord_charBefore hopens a.lead_blank) a rest
  split
  · next heq => exact firstMatch_of_some (hname.trans (if_pos heq))
  · next hne =>
    rw [if_neg hne] at hname
    have hpass : firstMatch (assignedHere? key) (charBefore before a.lead) (a.name ++ after) =
        firstMatch (assignedHere? key) (charBefore (charBefore before a.lead) a.name) after := by
      refine firstMatch_append fun x y hxy _ => ?_
      rcases List.eq_nil_or_concat x with rfl | ⟨x, c, rfl⟩
      · rw [List.nil_append] at hxy
        exact hxy ▸ hname
      · -- past its first character the name is in the middle of a word
        rw [List.concat_eq_append] at hxy ⊢
        refine assignedHere?_of_not_opens ?_ _
        rw [charBefore_concat]
        simp [opensWord, a.name_word.2 c (by simp [hxy])]
    rw [hpass, firstMatch_blanks hkey a.left_blank (by decide),
      firstMatch_blanks hkey a.right_blank (by decide)]

theorem assignedHere?_inside {key : String} (hkey : IsWordText key.toList) (b : Char)
    {y : List Char} (hy : '"' ∉ y) (rest : List Char) (v : String) :
    assignedHere? key (some b) (y ++ '"' :: rest) = some v ↔
      StartsAssignment key (some b) y ∧ quoted? ('"' :: rest) = some v := by
  rw [assignedHere?_eq_some_iff]
  constructor
  · rintro ⟨hopens, w, o, p, r, hw, ho, hp, rfl, heq⟩
    have hplain : '"' ∉ key.toList ++ (w ++ '=' :: o) := by
      simp only [List.mem_append, List.mem_cons, not_or]
      exact ⟨hkey.not_mem (by decide), hw.not_mem (by decide), by decide,
        ho.not_mem (by decide) (by decide)⟩
    have hsame : y ++ '"' :: rest = key.toList ++ (w ++ '=' :: o) ++ '"' :: (p ++ '"' :: r) := by
      rw [heq]
      simp
    obtain ⟨rfl, rfl⟩ := eq_of_append_cons hsame hy hplain
    exact ⟨⟨hopens, w, o, hw, ho, rfl⟩, quoted?_eq_some_iff.mpr ⟨p, r, rfl, hp, rfl⟩⟩
  · rintro ⟨⟨hopens, w, o, hw, ho, rfl⟩, hv⟩
    obtain ⟨p, r, hquote, hp, rfl⟩ := quoted?_eq_some_iff.mp hv
    refine ⟨hopens, w, o, p, r, hw, ho, hp, rfl, ?_⟩
    rw [hquote]
    simp

theorem finder_assigned (key : String) (hkey : IsWordText key.toList) :
    Finder (StartsAssignment key) key (assignedHere? key) where
  head a rest := firstMatch_assignedHere? hkey rfl a rest
  next c a rest := by
    rw [firstMatch_cons_of_none (assignedHere?_of_not_word hkey (by decide) _ _)]
    exact firstMatch_assignedHere? hkey (by decide) a rest
  inside b y rest v hy := assignedHere?_inside hkey b hy rest v
  blank b c r hc := assignedHere?_of_not_word hkey (isWord_of_isBlank hc) (some b) r
  ends b := by
    cases h : assignedHere? key b [] with
    | none => rfl
    | some v =>
      obtain ⟨_, w, o, p, r, _, _, _, _, heq⟩ := assignedHere?_eq_some_iff.mp h
      exact absurd heq (by simp)

/-! ## The arguments of a client -/

/-- The value passes for no attribute that is looked for. -/
def Attribute.Harmless (a : Attribute) : Prop :=
  ¬ IsDecoy (StartsArgument "name") a.value ∧ ¬ IsDecoy (StartsArgument "value") a.value ∧
    ¬ IsDecoy (StartsAssignment "path") a.value

theorem Attribute.harmless_of_not_mem {a : Attribute} (hcomma : ',' ∉ a.value)
    (hpath : 'p' ∉ a.value) : a.Harmless := by
  have harg : ∀ key b y, StartsArgument key b y → ',' ∈ y := by
    rintro key b y ⟨w, w₁, w₂, _, _, _, rfl⟩
    exact List.mem_cons_self ..
  have hassign : ∀ b y, StartsAssignment "path" b y → 'p' ∈ y := by
    rintro b y ⟨_, w, o, _, _, rfl⟩
    exact List.mem_append_left _ (by decide)
  exact ⟨fun h => hcomma (h.mem (harg "name")), fun h => hcomma (h.mem (harg "value")),
    fun h => hpath (h.mem hassign)⟩

/-- Attributes do not start with a quoted text. -/
theorem quoted?_argumentText (attrs : List Attribute) :
    quoted? (trimStart (argumentText attrs)) = none := by
  cases attrs with
  | nil => rfl
  | cons a rest =>
    obtain ⟨c, name, hname⟩ := List.exists_cons_of_ne_nil a.name_word.1
    have hc : isWord c = true := a.name_word.2 c (by simp [hname])
    rw [argumentText, Attribute.quotedBefore, Attribute.opening, List.append_assoc,
      List.append_assoc, trimStart_word a.lead_blank a.name_word, hname]
    exact quoted?_word hc _

/-- **What a client annotation gives.** Its name is found under `name`, else under `value`, and its
    path under `path`, each as `Reads` says. Where no value but the last passes for an attribute,
    these are the values of the attributes themselves. -/
theorem Client.ofArguments_attributes (attrs : List Attribute) :
    (∃ name value path, Client.ofArguments (argumentText attrs) = ⟨name.or value, path⟩ ∧
      Reads (StartsArgument "name") "name" attrs name ∧
      Reads (StartsArgument "value") "value" attrs value ∧
      Reads (StartsAssignment "path") "path" attrs path) ∧
    ((∀ a ∈ attrs.dropLast, a.Harmless) →
      Client.ofArguments (argumentText attrs) =
        ⟨(valueOf? "name" attrs).or (valueOf? "value" attrs), valueOf? "path" attrs⟩) := by
  have hname : Reads _ _ _ (topLevel? "name" (argumentText attrs)) :=
    reads_argumentText (finder_topLevel "name" (by decide)) attrs
  have hvalue : Reads _ _ _ (topLevel? "value" (argumentText attrs)) :=
    reads_argumentText (finder_topLevel "value" (by decide)) attrs
  have hpath : Reads _ _ _ (assigned? "path" (argumentText attrs)) :=
    reads_argumentText (finder_assigned "path" (by decide)) attrs
  have hclient : Client.ofArguments (argumentText attrs) =
      ⟨(topLevel? "name" (argumentText attrs)).or (topLevel? "value" (argumentText attrs)),
        assigned? "path" (argumentText attrs)⟩ := by
    rw [Client.ofArguments, quoted?_argumentText, Option.or_none]
  refine ⟨⟨_, _, _, hclient, hname, hvalue, hpath⟩, fun hplain => ?_⟩
  rw [hclient, hname.eq_valueOf? fun a ha => (hplain a ha).1,
    hvalue.eq_valueOf? fun a ha => (hplain a ha).2.1,
    hpath.eq_valueOf? fun a ha => (hplain a ha).2.2]

/-- A value that looks like a key is not taken for one, nor is a decoy in the last value; a decoy
    elsewhere is. -/
theorem Client.ofArguments_attributes_orders :
    let qualifier : Attribute := ⟨[], "qualifier".toList, [' '], [' '], "value=".toList, [],
      by decide, by decide, by decide, by decide, by decide, by decide⟩
    let name : Attribute := ⟨[' '], "name".toList, [], ['\t'], "orders".toList, [' '],
      by decide, by decide, by decide, by decide, by decide, by decide⟩
    let url : Attribute := ⟨[], "url".toList, [' '], [' '], "x, name = ".toList, [],
      by decide, by decide, by decide, by decide, by decide, by decide⟩
    (∀ a ∈ [qualifier, name, url].dropLast, a.Harmless) ∧
      Client.ofArguments (argumentText [qualifier, name, url]) = ⟨some "orders", none⟩ ∧
      Client.ofArguments (argumentText [url, qualifier]) = ⟨some ",qualifier = ", none⟩ ∧
      ∃ n v p, Client.ofArguments (argumentText [url, qualifier]) = ⟨n.or v, p⟩ ∧
        Reads (StartsArgument "name") "name" [url, qualifier] n := by
  intro qualifier name url
  have hplain : ∀ a ∈ [qualifier, name, url].dropLast, a.Harmless := by
    intro a ha
    have hmem : a = qualifier ∨ a = name := by simpa using ha
    rcases hmem with rfl | rfl
    · exact Attribute.harmless_of_not_mem (by decide) (by decide)
    · exact Attribute.harmless_of_not_mem (by decide) (by decide)
  refine ⟨hplain, ?_, by decide +kernel, ?_⟩
  · rw [(Client.ofArguments_attributes _).2 hplain]
    decide +kernel
  · obtain ⟨⟨n, v, p, hclient, hn, _⟩, _⟩ := Client.ofArguments_attributes [url, qualifier]
    exact ⟨n, v, p, hclient, hn⟩

end SpringRoutes
