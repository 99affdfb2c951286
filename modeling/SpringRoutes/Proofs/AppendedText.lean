import SpringRoutes.Proofs.Methods
import SpringRoutes.Proofs.Paths
import SpringRoutes.Proofs.Recognisers

/-!
# `SpringRoutes.Proofs.AppendedText` — text after the type has been declared

Once a source has declared its type, what follows can only add to its outline. A further line may
add a method, and may make the source a controller or a client; the type, what it implements or
extends, and its base path are settled, whatever the line declares.

* `Reading.Grows` is that relation between two readings, where `n` is a line up to which nothing is
  added any more; `grows_step` and `grows_foldl` show it of one line and of many;
* the client is the exception, since the last annotation counts: `client_foldl` says that it stays
  as long as no line carries one;
* `significantLines_append` — the lines of a text come before those of what is appended to it;
* `Outline.ofText_append` puts these together.
-/

namespace SpringRoutes

open Text

/-! ## Readings that grow -/

namespace Reading

/-- `r'` has what `r` has, and perhaps methods after line `n` and further roles. -/
structure Grows (n : Nat) (r r' : Reading) : Prop where
  header : r'.header = r.header
  base : r'.base = r.base
  methods : ∃ more, r'.methods = r.methods ++ more ∧ ∀ m ∈ more, n < m.line
  isEntryPoint : r.isEntryPoint = true → r'.isEntryPoint = true
  isClient : r.client.isSome = true → r'.client.isSome = true

theorem Grows.refl (n : Nat) (r : Reading) : Grows n r r :=
  ⟨rfl, rfl, ⟨[], (List.append_nil _).symm, nofun⟩, id, id⟩

theorem Grows.trans {n : Nat} {r r' r'' : Reading} (h : Grows n r r') (h' : Grows n r' r'') :
    Grows n r r'' where
  header := h'.header.trans h.header
  base := h'.base.trans h.base
  methods := by
    obtain ⟨ms, heq, hms⟩ := h.methods
    obtain ⟨ms', heq', hms'⟩ := h'.methods
    refine ⟨ms ++ ms', by rw [heq', heq, List.append_assoc], ?_⟩
    intro m hm
    exact (List.mem_append.mp hm).elim (hms m) (hms' m)
  isEntryPoint hr := h'.isEntryPoint (h.isEntryPoint hr)
  isClient hr := h'.isClient (h.isClient hr)

theorem step_client (r : Reading) (l : NumberedLine) :
    (r.step l).client = (Client.parse? l.text).or r.client := by
  unfold step noteMethod noteOverride noteMapping noteHeader noteRoles
  repeat' split
  all_goals rfl

theorem step_isEntryPoint (r : Reading) (l : NumberedLine) :
    (r.step l).isEntryPoint = (r.isEntryPoint || SpringRoutes.isEntryPoint l.text) := by
  unfold step noteMethod noteOverride noteMapping noteHeader noteRoles
  repeat' split
  all_goals rfl

/-- A routing annotation belongs to the type only before the type is known. -/
theorem step_base {r : Reading} (l : NumberedLine) (h : r.header.isSome = true) :
    (r.step l).base = r.base := by
  have hnoted : ((r.noteRoles l.text).noteHeader l.text).header.isSome = true := by
    simp [noteRoles, noteHeader, h]
  unfold step
  rw [noteMapping_of_declared l.text hnoted]
  unfold noteMethod
  repeat' split
  all_goals rfl

/-- A line adds at most one method, and the method has its number. -/
theorem step_methods {r : Reading} (l : NumberedLine) (h : (r.step l).header.isSome = true) :
    ∃ more, (r.step l).methods = r.methods ++ more ∧ ∀ m ∈ more, m.line = l.number := by
  cases hn : methodName? l.text with
  | none =>
    obtain ⟨_, _, hmethods⟩ := step_unnamed h hn
    exact ⟨[], by rw [hmethods, List.append_nil], nofun⟩
  | some name =>
    obtain ⟨_, _, hmethods⟩ := step_named h hn
    refine ⟨_, hmethods, ?_⟩
    intro m hm
    split at hm
    · rw [List.mem_singleton.mp hm]
    · cases hm

/-- **A line after the type only adds to the reading.** -/
theorem grows_step {n : Nat} {r : Reading} {l : NumberedLine} (h : r.header.isSome = true)
    (hl : n < l.number) : Grows n r (r.step l) := by
  obtain ⟨t, ht⟩ := Option.isSome_iff_exists.mp h
  have hheader : (r.step l).header = r.header := by
    rw [step_header, ht]
    rfl
  refine ⟨hheader, step_base l h, ?_, ?_, ?_⟩
  · obtain ⟨more, hmore, hlines⟩ := step_methods l (hheader ▸ h)
    refine ⟨more, hmore, fun m hm => ?_⟩
    rw [hlines m hm]
    exact hl
  · intro hr
    rw [step_isEntryPoint, hr]
    rfl
  · intro hr
    rw [step_client, Option.isSome_or, hr, Bool.or_true]

/-- Many lines, by induction: the type stays known along the way. -/
theorem grows_foldl {n : Nat} {ls : List NumberedLine} (hls : ∀ l ∈ ls, n < l.number)
    {r : Reading} (h : r.header.isSome = true) : Grows n r (ls.foldl step r) := by
  induction ls generalizing r with
  | nil => exact Grows.refl n r
  | cons l ls ih =>
    have hl : n < l.number := hls l (List.mem_cons_self ..)
    have hstep := grows_step h hl
    have hrest : ∀ k ∈ ls, n < k.number := fun k hk => hls k (List.mem_cons_of_mem l hk)
    exact hstep.trans (ih hrest (hstep.header ▸ h))

/-- The client stays as it is until a line carries an annotation. -/
theorem client_foldl {ls : List NumberedLine} (hls : ∀ l ∈ ls, Client.parse? l.text = none)
    (r : Reading) : (ls.foldl step r).client = r.client := by
  induction ls generalizing r with
  | nil => rfl
  | cons l ls ih =>
    have hl : Client.parse? l.text = none := hls l (List.mem_cons_self ..)
    rw [List.foldl_cons, ih (fun k hk => hls k (List.mem_cons_of_mem l hk)), step_client, hl]
    rfl

end Reading

/-- A line gives a client exactly if it carries the annotation. -/
theorem Client.parse?_eq_none_iff {line : List Char} :
    Client.parse? line = none ↔ hasMarker "@FeignClient" line = false := by
  rw [hasMarker, Option.isSome_eq_false_iff, Option.isNone_iff_eq_none, Client.parse?,
    firstMatch_eq_none_iff, firstMatch_eq_none_iff]
  refine forall_congr' fun a => forall_congr' fun b => imp_congr_right fun _ => ?_
  rw [Client.here?, Option.map_eq_none_iff]

/-! ## Appended lines -/

/-- The lines of `appended` that count, when it follows a text of `n` lines. -/
def linesAfter (n : Nat) (appended : String) : List NumberedLine :=
  (numberedFrom (n + 1) (splitOn '\n' appended.toList)).filter fun l => isSignificant l.text

theorem significantLines_append (text appended : String) :
    significantLines (text ++ "\n" ++ appended).toList
      = significantLines text.toList ++ linesAfter (lineCount text) appended := by
  have hchars : (text ++ "\n" ++ appended).toList = text.toList ++ '\n' :: appended.toList := by
    simp
  unfold significantLines linesAfter lineCount
  rw [hchars, splitOn_append_sep, numberedFrom_append, List.filter_append, Nat.add_comm 1]

/-- Appended lines come after the text, and are the lines of what is appended. -/
theorem of_mem_linesAfter {n : Nat} {appended : String} {l : NumberedLine}
    (h : l ∈ linesAfter n appended) :
    n < l.number ∧ ∃ k, significantAt? appended k = some l.text := by
  unfold linesAfter at h
  rw [filter_numberedFrom] at h
  obtain ⟨k, _, hk⟩ := List.mem_filterMap.mp h
  obtain ⟨line, hline, rfl⟩ := Option.map_eq_some_iff.mp hk
  refine ⟨?_, k + 1, hline⟩
  show n < n + 1 + k
  omega

/-! ## Outlines of longer texts -/

/-- The outline `o'` belongs to a text of which `o` is the outline of the first `n` lines, and
    `appended` is the rest. -/
structure Outline.Continues (o o' : Outline) (n : Nat) (appended : String) : Prop where
  typeName : o'.typeName = o.typeName
  kind : o'.kind = o.kind
  implemented : o'.implemented = o.implemented
  extended : o'.extended = o.extended
  base : o'.base = o.base
  methods : ∃ more, o'.methods = o.methods ++ more ∧ ∀ m ∈ more, n < m.line
  isEntryPoint : o.isEntryPoint = true → o'.isEntryPoint = true
  isClient : o.client.isSome = true → o'.client.isSome = true
  /-- Name and path of the client are those of the last annotation. -/
  client : o'.client = o.client ∨
    ∃ k line, significantAt? appended k = some line ∧ hasMarker "@FeignClient" line = true

/-- **Outlines are stable under appended text.** Once a text declares a type, no further text
    changes the type, its contract or its base path. The methods stay in front, and further ones
    stand on later lines. A source may become a controller or a client but does not cease to be one,
    and its client is the same unless a line that counts carries the annotation of clients. -/
theorem Outline.ofText_append {path text : String}
    (h : (ofText path text).typeName.isSome = true) (appended : String) :
    (ofText path text).Continues (ofText path (text ++ "\n" ++ appended)) (lineCount text)
      appended := by
  unfold ofText at h ⊢
  rw [significantLines_append, List.foldl_append]
  generalize (significantLines text.toList).foldl Reading.step {} = r at h ⊢
  have hdeclared : r.header.isSome = true := by
    rwa [Reading.toOutline, Option.isSome_map] at h
  have hgrows : r.Grows (lineCount text)
      ((linesAfter (lineCount text) appended).foldl Reading.step r) :=
    Reading.grows_foldl (fun l hl => (of_mem_linesAfter hl).1) hdeclared
  have hclient : ((linesAfter (lineCount text) appended).foldl Reading.step r).client = r.client ∨
      ∃ k line, significantAt? appended k = some line
        ∧ hasMarker "@FeignClient" line = true := by
    by_cases hall : ∀ l ∈ linesAfter (lineCount text) appended, Client.parse? l.text = none
    · exact .inl (Reading.client_foldl hall r)
    · push Not at hall
      obtain ⟨l, hl, hparse⟩ := hall
      obtain ⟨k, hk⟩ := (of_mem_linesAfter hl).2
      rw [ne_eq, Client.parse?_eq_none_iff, Bool.not_eq_false] at hparse
      exact .inr ⟨k, l.text, hk, hparse⟩
  constructor
  case typeName => exact congrArg (Option.map _) hgrows.header
  case kind => exact congrArg (fun t => (Option.map _ t).getD _) hgrows.header
  case implemented => exact congrArg (Option.bind · _) hgrows.header
  case extended => exact congrArg (Option.bind · _) hgrows.header
  case base => exact hgrows.base
  case methods => exact hgrows.methods
  case isEntryPoint => exact hgrows.isEntryPoint
  case isClient => exact hgrows.isClient
  case client => exact hclient

/-- A text that ends with an override annotation for which no method has come. What is appended
    declares another type with a base path and a client of its own, and the first method takes the
    annotation. -/
theorem Outline.ofText_append_nested :
    let text := "@FeignClient(\"near\")\ninterface Api \x7b\n@Override"
    let appended := "@FeignClient @RequestMapping(\"/y\")\nclass B \x7b\nvoid find() \x7b"
    let o := ofText "Api.java" text
    let o' := ofText "Api.java" (text ++ "\n" ++ appended)
    o.typeName.isSome = true ∧ o.methods = [] ∧
      (o.client ≠ o'.client ∧ o'.methods = [⟨"find", 6, some ⟨"/y", "REQUEST"⟩, true⟩]) ∧
      o.Continues o' (lineCount text) appended := by
  intro text appended o o'
  have hdeclared : o.typeName.isSome = true := by decide +kernel
  exact ⟨hdeclared, by decide +kernel, by decide +kernel, ofText_append hdeclared appended⟩

end SpringRoutes
