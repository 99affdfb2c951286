import Mathlib.Data.List.Forall2
import SpringRoutes.Proofs.Linking
import SpringRoutes.Proofs.Navigation

/-!
# `SpringRoutes.Proofs.Respacing` — only the lines that count matter

Two sources that differ in blank lines, in comment lines and in the blanks around their lines have
the same sequence of lines that count (`Respaced`). Their tables have the same routes in the same
order, up to line numbers, and a line number of one table goes over into that of the other when both
are counted among the lines that count (`Corresponds`, `routeTable_respaced`).

The proof runs the program on both lists of sources at once. Each stage takes related values to
related values, where values are related if they are equal but for line numbers, and their line
numbers belong to the same line that counts (`SameRank`):

* readings and methods (`Reading.Alike`, `Method.Alike`): a line is read alike on both sides, and so
  is a whole source, by induction on its lines (`alike_foldl`);
* outlines (`Twins`): no decision looks at a line number, so the same outlines are named, entry
  points and clients, and a name stands for the same interface;
* routes (`Corresponds`): through linking, through the candidates of clients, and through the choice
  of new paths.
-/

namespace SpringRoutes

open List (Forall₂)

/-! ## Sources that differ in spacing -/

/-- The lines of a source that count, without the blanks around them. -/
def Source.significant (s : Source) : List (List Char) :=
  (List.range (lineCount s.text + 1)).filterMap (significantAt? s.text)

/-- The number of the `k`-th line that counts. -/
def Source.numberAt? (s : Source) (k : Nat) : Option Nat :=
  ((List.range (lineCount s.text + 1)).filter fun n => (significantAt? s.text n).isSome)[k]?

theorem map_text_significantLines (s : Source) :
    (significantLines s.text.toList).map (·.text) = s.significant := by
  rw [significantLines_eq, List.map_filterMap]
  unfold Source.significant
  congr 1
  funext n
  cases significantAt? s.text n <;> rfl

theorem numberAt?_eq (s : Source) (k : Nat) :
    s.numberAt? k = (significantLines s.text.toList)[k]?.map (·.number) := by
  have hnumbers : (significantLines s.text.toList).map (·.number)
      = (List.range (lineCount s.text + 1)).filter fun n => (significantAt? s.text n).isSome := by
    rw [significantLines_eq, List.map_filterMap, ← List.filterMap_eq_filter]
    congr 1
    funext n
    cases hn : significantAt? s.text n <;> simp [Option.guard, hn]
  rw [Source.numberAt?, ← hnumbers, List.getElem?_map]

/-- Two sources at one path with the same lines that count. -/
structure Respaced (s t : Source) : Prop where
  path : s.path = t.path
  lines : s.significant = t.significant

/-- The numbers of one and the same line that counts, in two sources. -/
def SameRank (s t : Source) (n n' : Nat) : Prop :=
  ∃ k, s.numberAt? k = some n ∧ t.numberAt? k = some n'

/-- Lines with the same text at the same rank. -/
structure NumberedLine.Alike (s t : Source) (l l' : NumberedLine) : Prop where
  text : l'.text = l.text
  rank : SameRank s t l.number l'.number

theorem alike_significantLines {s t : Source} (h : Respaced s t) :
    Forall₂ (NumberedLine.Alike s t) (significantLines s.text.toList)
      (significantLines t.text.toList) := by
  have hlines := h.lines
  rw [← map_text_significantLines, ← map_text_significantLines] at hlines
  have hlength := congrArg List.length hlines
  rw [List.length_map, List.length_map] at hlength
  refine List.forall₂_iff_get.mpr ⟨hlength, ?_⟩
  intro k hk hk'
  have htext := congrArg (·[k]?) hlines
  simp only [List.getElem?_map, List.getElem?_eq_getElem hk, List.getElem?_eq_getElem hk',
    Option.map_some, Option.some.injEq] at htext
  refine ⟨htext.symm, k, ?_, ?_⟩
  · rw [numberAt?_eq, List.getElem?_eq_getElem hk]
    rfl
  · rw [numberAt?_eq, List.getElem?_eq_getElem hk']
    rfl

/-! ## Reading two sources at once -/

/-- Methods that are equal but for their lines, which are the same line that counts. -/
structure Method.Alike (s t : Source) (m m' : Method) : Prop where
  rest : { m with line := m'.line } = m'
  rank : SameRank s t m.line m'.line

theorem Method.Alike.exists_line {s t : Source} {m m' : Method} (h : m.Alike s t m') :
    ∃ n, m' = { m with line := n } :=
  ⟨m'.line, h.rest.symm⟩

namespace Reading

/-- Readings that are equal but for their methods, which are alike. -/
structure Alike (s t : Source) (r r' : Reading) : Prop where
  rest : { r with methods := r'.methods } = r'
  methods : Forall₂ (Method.Alike s t) r.methods r'.methods

/-- What a line gives apart from a method. -/
def noted (r : Reading) (line : List Char) : Reading :=
  (((r.noteRoles line).noteHeader line).noteMapping line).noteOverride line

theorem noteMapping_with_methods (r : Reading) (ms : List Method) (line : List Char) :
    noteMapping { r with methods := ms } line = { r.noteMapping line with methods := ms } := by
  unfold noteMapping
  cases Mapping.parse? line with
  | none => rfl
  | some m =>
    obtain ⟨header, _⟩ := r
    cases header <;> rfl

/-- Notes on a line neither look at the methods nor change them. -/
theorem noted_with_methods (r : Reading) (ms : List Method) (line : List Char) :
    noted { r with methods := ms } line = { r.noted line with methods := ms } :=
  congrArg (noteOverride · line)
    (noteMapping_with_methods ((r.noteRoles line).noteHeader line) ms line)

theorem methods_noted (r : Reading) (line : List Char) : (r.noted line).methods = r.methods := by
  have h := congrArg Reading.methods (noted_with_methods r r.methods line)
  exact h

theorem alike_noted {s t : Source} {r r' : Reading} (h : r.Alike s t r') (line : List Char) :
    (r.noted line).Alike s t (r'.noted line) := by
  refine ⟨?_, ?_⟩
  · rw [methods_noted, ← noted_with_methods, h.rest]
  · rw [methods_noted, methods_noted]
    exact h.methods

theorem alike_noteMethod {s t : Source} {r r' : Reading} (h : r.Alike s t r')
    {l l' : NumberedLine} (hl : l.Alike s t l') :
    (r.noteMethod l).Alike s t (r'.noteMethod l') := by
  obtain ⟨rest, hmethods⟩ := h
  generalize r'.methods = ms at rest hmethods
  subst rest
  unfold noteMethod
  rw [hl.text]
  -- whether the line names a method that takes something is the same question on both sides
  change Alike s t (if (r.header.isSome && r.isWaiting) = true then _ else _)
    (if (r.header.isSome && r.isWaiting) = true then _ else _)
  by_cases hwaiting : (r.header.isSome && r.isWaiting) = true
  · rw [if_pos hwaiting, if_pos hwaiting]
    cases methodName? l.text with
    | none => exact ⟨rfl, hmethods⟩
    | some name => exact ⟨rfl, List.rel_append hmethods (.cons ⟨rfl, hl.rank⟩ .nil)⟩
  · rw [if_neg hwaiting, if_neg hwaiting]
    exact ⟨rfl, hmethods⟩

/-- **One line, read on both sides.** -/
theorem alike_step {s t : Source} {r r' : Reading} (h : r.Alike s t r') {l l' : NumberedLine}
    (hl : l.Alike s t l') : (r.step l).Alike s t (r'.step l') := by
  have hnoted := alike_noted h l.text
  unfold step
  rw [hl.text]
  exact alike_noteMethod hnoted hl

/-- Many lines, by induction on them. -/
theorem alike_foldl {s t : Source} {ls ls' : List NumberedLine}
    (hls : Forall₂ (NumberedLine.Alike s t) ls ls') {r r' : Reading} (h : r.Alike s t r') :
    (ls.foldl step r).Alike s t (ls'.foldl step r') := by
  induction hls generalizing r r' with
  | nil => exact h
  | cons hl _ ih => exact ih (alike_step h hl)

end Reading

/-! ## Outlines of two lists of sources -/

/-- Outlines of sources at the same position of two lists, equal but for their methods, which are
    alike. -/
structure Twins (xs ys : List Source) (o o' : Outline) : Prop where
  rest : { o with methods := o'.methods } = o'
  place : ∃ (i : Nat) (s t : Source), xs[i]? = some s ∧ ys[i]? = some t ∧ s.outline = o ∧ t.outline = o' ∧
    Forall₂ (Method.Alike s t) o.methods o'.methods

theorem Twins.exists_methods {xs ys : List Source} {o o' : Outline} (h : Twins xs ys o o') :
    ∃ ms, o' = { o with methods := ms } :=
  ⟨o'.methods, h.rest.symm⟩

theorem twins_outline {s t : Source} (h : Respaced s t) {xs ys : List Source} {i : Nat}
    (hs : xs[i]? = some s) (ht : ys[i]? = some t) : Twins xs ys s.outline t.outline := by
  have hstart : Reading.Alike s t {} {} := ⟨rfl, .nil⟩
  have hread := Reading.alike_foldl (alike_significantLines h) hstart
  refine ⟨?_, i, s, t, hs, ht, rfl, rfl, hread.methods⟩
  unfold Source.outline Outline.ofText
  rw [← hread.rest, h.path]
  rfl

theorem twins_outlines {xs ys : List Source} (h : Forall₂ Respaced xs ys) :
    Forall₂ (Twins xs ys) (xs.map Source.outline) (ys.map Source.outline) := by
  rw [List.forall₂_map_left_iff, List.forall₂_map_right_iff]
  obtain ⟨hlength, hget⟩ := List.forall₂_iff_get.mp h
  refine List.forall₂_iff_get.mpr ⟨hlength, ?_⟩
  intro i hi hi'
  exact twins_outline (hget i hi hi') (List.getElem?_eq_getElem hi) (List.getElem?_eq_getElem hi')

theorem twins_named {xs ys : List Source} (h : Forall₂ Respaced xs ys) :
    Forall₂ (Twins xs ys) (named (outlinesOf xs)) (named (outlinesOf ys)) := by
  rw [named_outlinesOf, named_outlinesOf]
  refine List.rel_filter ?_ (twins_outlines h)
  intro o o' ho
  obtain ⟨ms, rfl⟩ := ho.exists_methods
  rfl

/-- The first value that passes a test is related to the first one that passes a like test. -/
theorem find?_rel {α : Type} {R : α → α → Prop} {p q : α → Bool}
    (hpq : ∀ a b, R a b → q b = p a) {l l' : List α} (h : Forall₂ R l l') :
    Option.Rel R (l.find? p) (l'.find? q) := by
  induction h with
  | nil => exact .none
  | @cons a b l l' hab _ ih =>
    cases hp : p a with
    | true =>
      rw [List.find?_cons_of_pos hp, List.find?_cons_of_pos ((hpq a b hab).trans hp)]
      exact .some hab
    | false =>
      rw [List.find?_cons_of_neg (by simp [hp]),
        List.find?_cons_of_neg (by simp [hpq a b hab, hp])]
      exact ih

theorem twins_interfaceNamed? {xs ys : List Source} (h : Forall₂ Respaced xs ys) (n : String) :
    Option.Rel (Twins xs ys) (interfaceNamed? (named (outlinesOf xs)) n)
      (interfaceNamed? (named (outlinesOf ys)) n) := by
  refine find?_rel ?_ (twins_named h)
  intro o o' ho
  obtain ⟨ms, rfl⟩ := ho.exists_methods
  rfl

/-- A name, wherever it stands, is that of twins or of nothing. -/
theorem twins_bind_interfaceNamed? {xs ys : List Source} (h : Forall₂ Respaced xs ys)
    (name : Option String) :
    Option.Rel (Twins xs ys) (name.bind (interfaceNamed? (named (outlinesOf xs))))
      (name.bind (interfaceNamed? (named (outlinesOf ys)))) := by
  cases name with
  | none => exact .none
  | some n => exact twins_interfaceNamed? h n

/-! ## Methods of twins -/

/-- Methods of twins that are alike. -/
def TwinMethods (xs ys : List Source) (o o' : Outline) (m m' : Method) : Prop :=
  ∃ (i : Nat) (s t : Source), xs[i]? = some s ∧ ys[i]? = some t ∧ s.outline = o ∧ t.outline = o' ∧
    m ∈ o.methods ∧ m' ∈ o'.methods ∧ m.Alike s t m'

theorem TwinMethods.exists_line {xs ys : List Source} {o o' : Outline} {m m' : Method}
    (h : TwinMethods xs ys o o' m m') : ∃ n, m' = { m with line := n } := by
  obtain ⟨_, _, _, _, _, _, _, _, _, halike⟩ := h
  exact halike.exists_line

section Methods

variable {xs ys : List Source} {o o' : Outline} (h : Twins xs ys o o')

include h

theorem Twins.methods : Forall₂ (TwinMethods xs ys o o') o.methods o'.methods := by
  obtain ⟨_, i, s, t, hs, ht, ho, ho', hmethods⟩ := h
  obtain ⟨hlength, hget⟩ := List.forall₂_iff_get.mp hmethods
  refine List.forall₂_iff_get.mpr ⟨hlength, ?_⟩
  intro k hk hk'
  exact ⟨i, s, t, hs, ht, ho, ho', List.get_mem .., List.get_mem .., hget k hk hk'⟩

theorem Twins.routed : Forall₂ (TwinMethods xs ys o o') o.routed o'.routed := by
  refine List.rel_filter ?_ h.methods
  intro m m' hm
  obtain ⟨n, rfl⟩ := hm.exists_line
  rfl

theorem Twins.direct : Forall₂ (TwinMethods xs ys o o') o.direct o'.direct := by
  refine List.rel_filter ?_ (List.rel_filter ?_ h.methods)
  · intro m m' hm
    obtain ⟨n, rfl⟩ := hm.exists_line
    rfl
  · intro m m' hm
    obtain ⟨n, rfl⟩ := hm.exists_line
    rfl

end Methods

/-! ## Routes of two lists of sources -/

/-- The routes are declared by methods of two sources, on the same line that counts. -/
def DeclaredAlike (s t : Source) (r r' : Route) : Prop :=
  ∃ m ∈ s.outline.methods, ∃ m' ∈ t.outline.methods,
    r.file = s.path ∧ r.methodName = some m.name ∧ r.line = .number m.line
      ∧ r'.line = .number m'.line ∧ SameRank s t m.line m'.line

/-- The routes are implemented in two sources: by the first method with their name, on the same line
    that counts, or on the first line of both sources when there is no such method. -/
def ImplementedAlike (c d : Source) (r r' : Route) : Prop :=
  r.implFile = some c.path ∧ r.implType = c.outline.typeName ∧ ∃ name, r.methodName = some name ∧
    match c.outline.methods.find? (·.name = name), d.outline.methods.find? (·.name = name) with
    | some m, some m' =>
      r.implLine = some (.number m.line) ∧ r'.implLine = some (.number m'.line)
        ∧ SameRank c d m.line m'.line
    | none, none => r.implLine = some (.number 1) ∧ r'.implLine = some (.number 1)
    | _, _ => False

/-- Routes that are equal but for their lines, and whose lines are the same lines that count of the
    same sources. -/
structure Corresponds (xs ys : List Source) (r r' : Route) : Prop where
  rest : { r with line := r'.line, implLine := r'.implLine } = r'
  declared : ∃ (i : Nat) (s t : Source), xs[i]? = some s ∧ ys[i]? = some t ∧ DeclaredAlike s t r r'
  implemented : (r.implFile = none ∧ r.implLine = none ∧ r'.implLine = none) ∨
    ∃ (i : Nat) (c d : Source), xs[i]? = some c ∧ ys[i]? = some d ∧ ImplementedAlike c d r r'

section Routes

variable {xs ys : List Source}

/-- A method and its twin declare what is made of them. -/
theorem declared_of_twinMethods {o o' : Outline} {m m' : Method}
    (h : TwinMethods xs ys o o' m m') {r r' : Route} (hfile : r.file = o.path)
    (hname : r.methodName = some m.name) (hline : r.line = .number m.line)
    (hline' : r'.line = .number m'.line) :
    ∃ (i : Nat) (s t : Source), xs[i]? = some s ∧ ys[i]? = some t ∧ DeclaredAlike s t r r' := by
  obtain ⟨i, s, t, hs, ht, rfl, rfl, hm, hm', halike⟩ := h
  exact ⟨i, s, t, hs, ht, m, hm, m', hm', hfile, hname, hline, hline', halike.rank⟩

/-- A controller and its twin implement what they inherit. -/
theorem implemented_of_twins {c c' : Outline} (h : Twins xs ys c c') {r r' : Route} {name : String}
    (hfile : r.implFile = some c.path) (htype : r.implType = c.typeName)
    (hname : r.methodName = some name) (hline : r.implLine = some (.number (c.lineOf name)))
    (hline' : r'.implLine = some (.number (c'.lineOf name))) :
    ∃ (i : Nat) (s t : Source), xs[i]? = some s ∧ ys[i]? = some t ∧ ImplementedAlike s t r r' := by
  obtain ⟨_, i, s, t, hs, ht, rfl, rfl, hmethods⟩ := h
  refine ⟨i, s, t, hs, ht, hfile, htype, name, hname, ?_⟩
  rw [hline, hline']
  have hfirst : Option.Rel (Method.Alike s t)
      (s.outline.methods.find? fun m => decide (m.name = name))
      (t.outline.methods.find? fun m => decide (m.name = name)) := by
    refine find?_rel ?_ hmethods
    intro m m' hm
    obtain ⟨n, rfl⟩ := hm.exists_line
    rfl
  unfold Outline.lineOf
  revert hfirst
  generalize s.outline.methods.find? (fun m => decide (m.name = name)) = first
  generalize t.outline.methods.find? (fun m => decide (m.name = name)) = first'
  intro hfirst
  cases hfirst with
  | none => exact ⟨rfl, rfl⟩
  | some hm => exact ⟨rfl, rfl, hm.rank⟩

theorem corresponds_inheritedRoute {c c' i i' : Outline} (hc : Twins xs ys c c')
    (hi : Twins xs ys i i') {m m' : Method} (hm : TwinMethods xs ys i i' m m') :
    Corresponds xs ys (inheritedRoute c i m) (inheritedRoute c' i' m') where
  rest := by
    obtain ⟨_, rfl⟩ := hc.exists_methods
    obtain ⟨_, rfl⟩ := hi.exists_methods
    obtain ⟨_, rfl⟩ := hm.exists_line
    simp only [inheritedRoute, Outline.basePath, Outline.name]
  declared := declared_of_twinMethods hm rfl rfl rfl rfl
  implemented := by
    obtain ⟨_, hn⟩ := hm.exists_line
    refine .inr (implemented_of_twins hc rfl rfl rfl rfl ?_)
    rw [hn]
    rfl

theorem corresponds_ownRoute {c c' : Outline} (hc : Twins xs ys c c') {i i' : Option Outline}
    (hi : Option.Rel (Twins xs ys) i i') {m m' : Method} (hm : TwinMethods xs ys c c' m m') :
    Corresponds xs ys (ownRoute c i m) (ownRoute c' i' m') where
  rest := by
    have hbase : i'.bind (·.basePath) = i.bind (·.basePath) := by
      cases hi with
      | none => rfl
      | some hi =>
        obtain ⟨_, rfl⟩ := hi.exists_methods
        rfl
    obtain ⟨_, rfl⟩ := hc.exists_methods
    obtain ⟨_, rfl⟩ := hm.exists_line
    simp only [ownRoute, hbase]
    simp only [Outline.basePath, Outline.name]
  declared := declared_of_twinMethods hm rfl rfl rfl rfl
  implemented := .inl ⟨rfl, rfl, rfl⟩

theorem corresponds_clientRoute {c c' d d' : Outline} (hc : Twins xs ys c c')
    (hd : Twins xs ys d d') {base : Option String} {m m' : Method}
    (hm : TwinMethods xs ys d d' m m') :
    Corresponds xs ys (clientRoute c d base m) (clientRoute c' d' base m') where
  rest := by
    obtain ⟨_, rfl⟩ := hc.exists_methods
    obtain ⟨_, rfl⟩ := hd.exists_methods
    obtain ⟨_, rfl⟩ := hm.exists_line
    simp only [clientRoute, Outline.name]
  declared := declared_of_twinMethods hm rfl rfl rfl rfl
  implemented := .inl ⟨rfl, rfl, rfl⟩

theorem Corresponds.path_eq {r r' : Route} (h : Corresponds xs ys r r') : r.path = r'.path := by
  rw [← h.rest]

/-! ## Tables of two lists of sources -/

theorem toList_rel {α : Type} {R : α → α → Prop} {a b : Option α} (h : Option.Rel R a b) :
    Forall₂ R a.toList b.toList := by
  cases h with
  | none => exact .nil
  | some hab => exact .cons hab .nil

variable (h : Forall₂ Respaced xs ys)

include h

theorem corresponds_linkedRoutes {c c' : Outline} (hc : Twins xs ys c c') :
    Forall₂ (Corresponds xs ys) (linkedRoutes (outlinesOf xs) c)
      (linkedRoutes (outlinesOf ys) c') := by
  have hcontract : Option.Rel (Twins xs ys) (contractOf? (outlinesOf xs) c)
      (contractOf? (outlinesOf ys) c') := by
    obtain ⟨_, rfl⟩ := hc.exists_methods
    exact twins_bind_interfaceNamed? h c.implemented
  refine List.rel_append ?_ ?_
  · refine List.rel_flatMap (toList_rel hcontract) ?_
    intro i i' hi
    exact List.rel_map (fun _ _ hm => corresponds_inheritedRoute hc hi hm) hi.routed
  · exact List.rel_map (fun _ _ hm => corresponds_ownRoute hc hcontract hm) hc.direct

theorem corresponds_link :
    Forall₂ (Corresponds xs ys) (link (outlinesOf xs)) (link (outlinesOf ys)) := by
  rw [link_eq, link_eq]
  refine List.rel_flatMap (List.rel_filter ?_ (twins_named h)) ?_
  · intro o o' ho
    obtain ⟨_, rfl⟩ := ho.exists_methods
    rfl
  · intro c c' hc
    exact corresponds_linkedRoutes h hc

theorem corresponds_candidates :
    Forall₂ (Corresponds xs ys) (candidates (outlinesOf xs)) (candidates (outlinesOf ys)) := by
  refine List.rel_flatMap (List.rel_filter ?_ (twins_named h)) ?_
  · intro o o' ho
    obtain ⟨_, rfl⟩ := ho.exists_methods
    rfl
  · intro c c' hc
    have hext : Option.Rel (Twins xs ys)
        (c.extended.bind (interfaceNamed? (named (outlinesOf xs))))
        (c'.extended.bind (interfaceNamed? (named (outlinesOf ys)))) := by
      obtain ⟨_, rfl⟩ := hc.exists_methods
      exact twins_bind_interfaceNamed? h c.extended
    refine List.rel_append (List.rel_flatMap (toList_rel hext) ?_) ?_
    · intro i i' hi
      have hbase : inheritedBase c' i' = inheritedBase c i := by
        obtain ⟨_, rfl⟩ := hc.exists_methods
        obtain ⟨_, rfl⟩ := hi.exists_methods
        rfl
      dsimp only
      rw [hbase]
      exact List.rel_map (fun _ _ hm => corresponds_clientRoute hc hi hm) hi.routed
    · have hbase : c'.basePath = c.basePath ∧ c'.clientPath = c.clientPath := by
        obtain ⟨_, rfl⟩ := hc.exists_methods
        exact ⟨rfl, rfl⟩
      rw [hbase.1, hbase.2]
      cases c.basePath with
      | none => exact .nil
      | some path =>
        simp only [Option.toList_some, List.flatMap_cons, List.flatMap_nil, List.append_nil]
        exact List.rel_map (fun _ _ hm => corresponds_clientRoute hc hc hm) hc.routed

omit h

/-- The choice of new paths looks at paths only. -/
theorem corresponds_firstNew {cs cs' : List Route} (hcs : Forall₂ (Corresponds xs ys) cs cs')
    (taken : List String) :
    Forall₂ (Corresponds xs ys) (firstNew taken cs) (firstNew taken cs') := by
  induction hcs generalizing taken with
  | nil => exact .nil
  | @cons c c' cs cs' hc _ ih =>
    rw [firstNew, firstNew, ← hc.path_eq]
    split
    · exact ih taken
    · exact .cons hc (ih _)

theorem paths_eq_of_corresponds {rs rs' : List Route}
    (hrs : Forall₂ (Corresponds xs ys) rs rs') : rs.map (·.path) = rs'.map (·.path) := by
  induction hrs with
  | nil => rfl
  | cons hr _ ih => rw [List.map_cons, List.map_cons, hr.path_eq, ih]

end Routes

/-- **Only the lines that count matter.** Blank lines, comment lines and the blanks around lines have
    no part in a table but for its line numbers, and these follow the lines that count. -/
theorem routeTable_respaced {xs ys : List Source} (h : Forall₂ Respaced xs ys) :
    Forall₂ (Corresponds xs ys) (routeTable (outlinesOf xs)) (routeTable (outlinesOf ys)) := by
  have hlink := corresponds_link h
  rw [routeTable_eq_append, routeTable_eq_append, ← paths_eq_of_corresponds hlink]
  exact List.rel_append hlink (corresponds_firstNew (corresponds_candidates h) _)

/-- An interface with two methods, one of which the controller implements, before and after comments,
    blank lines and blanks have been put in. What is not implemented stays on line one. -/
theorem routeTable_respaced_shop :
    let xs : List Source :=
      [⟨"A.java", "interface A \x7b\n@GetMapping(\"/x\")\nB f();\n@GetMapping\nB g();"⟩,
       ⟨"C.java", "@RestController\nclass C implements A \x7b\n@Override\nB f() \x7b"⟩]
    let ys : List Source :=
      [⟨"A.java", "/* of\n * shops */\ninterface A \x7b\r\n\t@GetMapping(\"/x\") \n" ++
        "// @GetMapping\n  B f();\n\n@GetMapping\n  B g();\n"⟩,
       ⟨"C.java", "\n@RestController\nclass C implements A \x7b\n@Override\n\n  B f() \x7b"⟩]
    let lines (sources : List Source) :=
      (routeTable (outlinesOf sources)).map fun r => (r.path, r.line, r.implLine)
    Forall₂ Respaced xs ys ∧
      lines xs = [("/x", .number 3, some (.number 4)), ("/", .number 5, some (.number 1))] ∧
      lines ys = [("/x", .number 6, some (.number 6)), ("/", .number 9, some (.number 1))] ∧
      Forall₂ (Corresponds xs ys) (routeTable (outlinesOf xs)) (routeTable (outlinesOf ys)) := by
  intro xs ys lines
  have hspaced : Forall₂ Respaced xs ys :=
    .cons ⟨rfl, by decide +kernel⟩ (.cons ⟨rfl, by decide +kernel⟩ .nil)
  exact ⟨hspaced, by decide +kernel, by decide +kernel, routeTable_respaced hspaced⟩

end SpringRoutes
