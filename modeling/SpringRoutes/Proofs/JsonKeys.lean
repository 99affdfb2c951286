import SpringRoutes.Proofs.Entries
import SpringRoutes.Proofs.JsonText

/-!
# `SpringRoutes.Proofs.JsonKeys` — the keys of JSON objects

The reader gives a key that comes twice its last value, so whatever it reads has distinct keys in
every object (`isDistinct_of_parse`). It takes no integer that could not be written again
(`isWritable_of_parse`), and no bracket beyond the room that it has (`nestsIn_of_parse`). All these
are properties of the pieces that it reads, kept when it puts values together (`Established`).

On a value with distinct keys the canonical form has its keys strictly in order
(`isOrdered_canonical`), and a value in that order is its own canonical form
(`canonical_of_isOrdered`).

Numbers do not come into that. `isPlain_iff` says what they add: a value with distinct keys reads
back when all its numbers are integers (`isIntegral`) and can be written (`isWritable`), and neither
changes when keys change places (`every_canonical`).
-/

namespace SpringRoutes

namespace Json

/-! ## Tests everywhere in a value -/

section Every

variable {test : Json → Bool}

theorem every_array {items : List Json} :
    (array items).every test = true ↔ ∀ j ∈ items, j.every test = true := by
  rw [every]
  induction items with
  | nil => simp [everyItem]
  | cons j js ih => rw [everyItem, Bool.and_eq_true, ih, List.forall_mem_cons]

theorem every_object {fields : List (String × Json)} :
    (object fields).every test = true ↔ ∀ f ∈ fields, f.2.every test = true := by
  rw [every]
  induction fields with
  | nil => simp [everyField]
  | cons f fs ih => rw [everyField, Bool.and_eq_true, ih, List.forall_mem_cons]

end Every

/-- Whether all numbers in a value are integers. -/
def isIntegral (j : Json) : Bool :=
  j.every fun
    | .float _ => false
    | _ => true

/-! ## Distinct keys -/

/-- The keys of every object are distinct. -/
inductive IsDistinct : Json → Prop
  | null : IsDistinct .null
  | bool (b : Bool) : IsDistinct (.bool b)
  | int (n : Int) : IsDistinct (.int n)
  | float (x : Binary64) : IsDistinct (.float x)
  | string (s : String) : IsDistinct (.string s)
  | array (items : List Json) (h : ∀ j ∈ items, IsDistinct j) : IsDistinct (.array items)
  | object (fields : List (String × Json)) (distinct : (fields.map (·.1)).Nodup)
      (h : ∀ f ∈ fields, IsDistinct f.2) : IsDistinct (.object fields)

/-- **Plain values** are those with distinct keys whose numbers are integers that can be written. -/
theorem isPlain_iff {j : Json} :
    IsPlain j ↔ IsDistinct j ∧ j.isIntegral = true ∧ j.isWritable = true := by
  constructor
  · intro h
    induction h with
    | null => exact ⟨.null, rfl, rfl⟩
    | bool b => exact ⟨.bool b, rfl, rfl⟩
    | int n hn => exact ⟨.int n, rfl, decide_eq_true hn⟩
    | string s => exact ⟨.string s, rfl, rfl⟩
    | array items _ ih =>
      exact ⟨.array items fun j hj => (ih j hj).1, every_array.mpr fun j hj => (ih j hj).2.1,
        every_array.mpr fun j hj => (ih j hj).2.2⟩
    | object fields hdistinct _ ih =>
      exact ⟨.object fields hdistinct fun f hf => (ih f hf).1,
        every_object.mpr fun f hf => (ih f hf).2.1, every_object.mpr fun f hf => (ih f hf).2.2⟩
  · rintro ⟨h, hintegral, hwritable⟩
    induction h with
    | null => exact .null
    | bool b => exact .bool b
    | int n => exact .int n (of_decide_eq_true hwritable)
    | float x => cases hintegral
    | string s => exact .string s
    | array items _ ih =>
      exact .array items fun j hj =>
        ih j hj (every_array.mp hintegral j hj) (every_array.mp hwritable j hj)
    | object fields hdistinct _ ih =>
      exact .object fields hdistinct fun f hf =>
        ih f hf (every_object.mp hintegral f hf) (every_object.mp hwritable f hf)

/-! ## What holds of everything that is read -/

/-- A property of values, and one of fields, that reading establishes with the room that it has:
    values that are read in one piece have it, and putting read values together keeps it. Brackets
    take room. -/
structure Established (P : Nat → Json → Prop) (F : Nat → List (String × Json) → Prop) : Prop where
  string : ∀ room s, P room (.string s)
  word : ∀ room, ∀ w ∈ words, P room w.2
  int : ∀ room n, isShort (.int n) = true → P room (.int n)
  float : ∀ room x, P room (.float x)
  array : ∀ {room js}, (∀ j ∈ js, P room j) → P (room + 1) (.array js)
  object : ∀ {room fs}, F room fs → P (room + 1) (.object fs)
  noField : ∀ room, F room []
  put : ∀ {room fs} key {v}, F room fs → P room v → F room (Entries.put fs key v)

/-- Digits denote a number of no more digits. -/
theorem length_toDigits_digitsValue_le {ds : List Char} (hpos : 0 < ds.length)
    (h : ∀ c ∈ ds, c.isDigit = true) :
    (Nat.toDigits 10 (digitsValue ds)).length ≤ ds.length := by
  -- each digit makes room for itself, whatever was read before it
  have hfold : ∀ (n k : Nat), n < 10 ^ k →
      ds.foldl (fun n d => 10 * n + (d.toNat - 48)) n < 10 ^ (k + ds.length) := by
    clear hpos
    induction ds with
    | nil =>
      intro n k hn
      exact hn
    | cons d ds ih =>
      intro n k hn
      have hd : d.toNat - 48 < 10 := by
        have hdigit := h d (List.mem_cons_self ..)
        rw [Char.isDigit, Bool.and_eq_true, decide_eq_true_iff, decide_eq_true_iff] at hdigit
        have hle : d.toNat ≤ 57 := hdigit.2
        omega
      have hnext : 10 * n + (d.toNat - 48) < 10 ^ (k + 1) := by
        rw [Nat.pow_succ]
        omega
      have hrest := ih (fun c hc => h c (List.mem_cons_of_mem _ hc)) _ _ hnext
      rwa [Nat.add_assoc, Nat.add_comm 1] at hrest
  have hall := hfold 0 0 (by decide)
  rw [Nat.zero_add] at hall
  exact (Nat.length_toDigits_le_iff (by decide) hpos).mpr hall

/-- What is read before the point is one or more digits. -/
theorem whole?_eq_some {s ds r : List Char} (h : whole? s = some (ds, r)) :
    0 < ds.length ∧ ∀ c ∈ ds, c.isDigit = true := by
  unfold whole? at h
  split at h
  · cases h
    refine ⟨Nat.succ_pos 0, ?_⟩
    intro c hc
    rw [List.mem_singleton.mp hc]
    rfl
  · next c t _ =>
    split at h
    · next hc =>
      cases h
      refine ⟨?_, List.all_eq_true.mp List.all_takeWhile⟩
      rw [List.takeWhile_cons_of_pos hc]
      exact Nat.succ_pos _
    · cases h
  · cases h

/-- A reader that may go on with another one succeeds only if both do. -/
theorem exists_of_map_eq_ok {α β : Type} {r : Read α} {f : α × List Char → β × List Char}
    {b : β × List Char} (h : r.map f = .ok b) : ∃ a, r = .ok a ∧ f a = b := by
  cases r with
  | error e => cases h
  | ok a => exact ⟨a, rfl, Except.ok.inj h⟩

namespace Established

variable {P : Nat → Json → Prop} {F : Nat → List (String × Json) → Prop} (hP : Established P F)

include hP

theorem of_word? {s rest : List Char} {j : Json} (h : word? s = some (j, rest)) (room : Nat) :
    P room j := by
  obtain ⟨w, hw, hfound⟩ := List.exists_of_findSome?_eq_some h
  obtain ⟨_, _, heq⟩ := Option.map_eq_some_iff.mp hfound
  rw [← (Prod.mk.inj heq).1]
  exact hP.word room w hw

theorem of_unsigned? {negative : Bool} {s rest : List Char} {j : Json}
    (h : unsigned? negative s = some (.ok (j, rest))) (room : Nat) : P room j := by
  obtain ⟨⟨ds, r⟩, hwhole, hread⟩ := Option.map_eq_some_iff.mp h
  simp only at hread
  split at hread
  · split at hread
    · cases hread
    · next hshort =>
      cases hread
      obtain ⟨hpos, hdigits⟩ := whole?_eq_some hwhole
      -- the sign does not count
      have habs : (if negative then -(digitsValue ds : Int) else digitsValue ds).natAbs
          = digitsValue ds := by
        split
        · rw [Int.natAbs_neg, Int.natAbs_natCast]
        · exact Int.natAbs_natCast _
      refine hP.int room _ (decide_eq_true ?_)
      rw [habs]
      exact Nat.le_trans (length_toDigits_digitsValue_le hpos hdigits) (Nat.not_lt.mp hshort)
  · cases hread
    exact hP.float room _

theorem of_number? {s rest : List Char} {j : Json} {e : ReadError}
    (h : (number? s).getD (.error e) = .ok (j, rest)) (room : Nat) : P room j := by
  have hsome : number? s = some (.ok (j, rest)) := by
    cases hn : number? s with
    | none =>
      rw [hn] at h
      cases h
    | some r =>
      rw [hn, Option.getD_some] at h
      rw [h]
  unfold number? at hsome
  split at hsome
  · exact hP.of_unsigned? hsome room
  · exact hP.of_unsigned? hsome room

section Step

variable {fuel room : Nat} (hvalue : ∀ {s rest j}, value fuel room s = .ok (j, rest) → P room j)

omit hP

include hvalue

theorem items_step
    (hitems : ∀ {s rest js}, items fuel room s = .ok (js, rest) → ∀ j ∈ js, P room j)
    {s rest : List Char} {js : List Json} (h : items (fuel + 1) room s = .ok (js, rest)) :
    ∀ j ∈ js, P room j := by
  rw [items] at h
  split at h
  · cases h
  · next j r hj =>
    have hfirst := hvalue hj
    split at h
    · cases h
      exact fun i hi => by rwa [List.mem_singleton.mp hi]
    · obtain ⟨⟨is, t⟩, his, heq⟩ := exists_of_map_eq_ok h
      cases heq
      exact List.forall_mem_cons.mpr ⟨hfirst, hitems his⟩
    · cases h

include hP

theorem members_step
    (hmembers : ∀ {before s rest fs}, F room before →
      members fuel room before s = .ok (fs, rest) → F room fs)
    {before fs : List (String × Json)} {s rest : List Char} (hbefore : F room before)
    (h : members (fuel + 1) room before s = .ok (fs, rest)) : F room fs := by
  unfold members at h
  split at h
  · split at h
    · cases h
    · next key r _ =>
      split at h
      · split at h
        · cases h
        · next hj =>
          have hset := hP.put key hbefore (hvalue hj)
          simp only at h
          split at h
          · cases h
            exact hset
          · exact hmembers hset h
          · cases h
      · cases h
  · cases h

end Step

theorem value_step {fuel : Nat}
    (hitems : ∀ {room s rest js}, items fuel room s = .ok (js, rest) → ∀ j ∈ js, P room j)
    (hmembers : ∀ {room before s rest fs}, F room before →
      members fuel room before s = .ok (fs, rest) → F room fs)
    {room : Nat} {s rest : List Char} {j : Json} (h : value (fuel + 1) room s = .ok (j, rest)) :
    P room j := by
  unfold value at h
  split at h
  · obtain ⟨_, _, heq⟩ := exists_of_map_eq_ok h
    cases heq
    exact hP.string room _
  · cases room with
    | zero => cases h
    | succ room =>
      dsimp only at h
      split at h
      · cases h
        exact hP.array fun _ hj => absurd hj List.not_mem_nil
      · obtain ⟨⟨js, t⟩, hjs, heq⟩ := exists_of_map_eq_ok h
        cases heq
        exact hP.array (hitems hjs)
  · cases room with
    | zero => cases h
    | succ room =>
      dsimp only at h
      split at h
      · cases h
        exact hP.object (hP.noField room)
      · obtain ⟨⟨fs, t⟩, hfs, heq⟩ := exists_of_map_eq_ok h
        cases heq
        exact hP.object (hmembers (hP.noField room) hfs)
  · split at h
    · next r hword =>
      cases h
      exact hP.of_word? hword room
    · exact hP.of_number? h room

/-- Values, items and fields together, by induction on the fuel that they share. -/
theorem of_read (fuel : Nat) :
    (∀ {room s rest j}, value fuel room s = .ok (j, rest) → P room j) ∧
    (∀ {room s rest js}, items fuel room s = .ok (js, rest) → ∀ j ∈ js, P room j) ∧
    (∀ {room before s rest fs}, F room before →
      members fuel room before s = .ok (fs, rest) → F room fs) := by
  induction fuel with
  | zero =>
    refine ⟨?_, ?_, ?_⟩
    · intro room s rest j h
      cases h
    · intro room s rest js h
      cases h
    · intro room before s rest fs _ h
      cases h
  | succ fuel ih =>
    obtain ⟨hvalue, hitems, hmembers⟩ := ih
    exact ⟨hP.value_step hitems hmembers, items_step hvalue hitems,
      hP.members_step hvalue hmembers⟩

theorem of_parse {room : Nat} {s : List Char} {j : Json} (h : parse room s = .ok j) : P room j := by
  unfold parse at h
  split at h
  · cases h
  · split at h
    · cases h
    · next j' r hvalue =>
      split at h
      · cases h
        exact (hP.of_read _).1 hvalue
      · cases h

end Established

/-- Fields with distinct keys, in themselves and in their values. -/
def AreDistinct (fields : List (String × Json)) : Prop :=
  (fields.map (·.1)).Nodup ∧ ∀ f ∈ fields, IsDistinct f.2

theorem established_isDistinct :
    Established (fun _ => IsDistinct) (fun _ => AreDistinct) where
  string _ := .string
  word _ := by
    simp only [words, List.forall_mem_cons]
    exact ⟨.null, .bool true, .bool false, .float _, .float _, .float _,
      fun _ hf => absurd hf List.not_mem_nil⟩
  int _ n _ := .int n
  float _ := .float
  array h := .array _ h
  object h := .object _ h.1 h.2
  noField _ := ⟨List.nodup_nil, fun _ hf => absurd hf List.not_mem_nil⟩
  put key _ h hv := ⟨Entries.nodup_put h.1 key _, Entries.forall_mem_put h.2 hv⟩

theorem established_isWritable :
    Established (fun _ j => j.isWritable = true)
      fun _ fs => ∀ f ∈ fs, f.2.isWritable = true where
  string _ _ := rfl
  word _ := by decide
  int _ _ h := h
  float _ _ := rfl
  array := every_array.mpr
  object := every_object.mpr
  noField _ _ hf := absurd hf List.not_mem_nil
  put _ _ h hv := Entries.forall_mem_put (P := fun j : Json => j.isWritable = true) h hv

theorem established_nestsIn :
    Established (fun room j => j.nestsIn room = true)
      fun room fs => ∀ f ∈ fs, f.2.nestsIn room = true where
  string room s := nestsIn_string room s
  word room := by simp [words]
  int room n _ := nestsIn_int room n
  float room x := nestsIn_float room x
  array := nestsIn_array.mpr
  object := nestsIn_object.mpr
  noField _ _ hf := absurd hf List.not_mem_nil
  put {room _} _ _ h hv := Entries.forall_mem_put (P := fun j : Json => j.nestsIn room = true) h hv

/-- **What is read has distinct keys.** -/
theorem isDistinct_of_parse {room : Nat} {s : List Char} {j : Json} (h : parse room s = .ok j) :
    IsDistinct j :=
  established_isDistinct.of_parse h

/-- **What is read can be written.** Integers of too many digits are not read. -/
theorem isWritable_of_parse {room : Nat} {s : List Char} {j : Json} (h : parse room s = .ok j) :
    j.isWritable = true :=
  established_isWritable.of_parse h

/-- **What is read nests no deeper than there was room.** -/
theorem nestsIn_of_parse {room : Nat} {s : List Char} {j : Json} (h : parse room s = .ok j) :
    j.nestsIn room = true :=
  established_nestsIn.of_parse h

/-! ## Canonical form -/

/-- The keys of every object are strictly in order. -/
inductive IsOrdered : Json → Prop
  | null : IsOrdered .null
  | bool (b : Bool) : IsOrdered (.bool b)
  | int (n : Int) : IsOrdered (.int n)
  | float (x : Binary64) : IsOrdered (.float x)
  | string (s : String) : IsOrdered (.string s)
  | array (items : List Json) (h : ∀ j ∈ items, IsOrdered j) : IsOrdered (.array items)
  | object (fields : List (String × Json)) (sorted : fields.Pairwise (·.1 < ·.1))
      (h : ∀ f ∈ fields, IsOrdered f.2) : IsOrdered (.object fields)

theorem isDistinct_of_isOrdered {j : Json} (h : IsOrdered j) : IsDistinct j := by
  induction h with
  | null => exact .null
  | bool b => exact .bool b
  | int n => exact .int n
  | float x => exact .float x
  | string s => exact .string s
  | array items _ ih => exact .array items ih
  | object fields hsorted _ ih => exact .object fields (Entries.nodup_of_sorted hsorted) ih

theorem insertSorted_perm (f : String × Json) (fs : List (String × Json)) :
    (insertSorted f fs).Perm (f :: fs) := by
  induction fs with
  | nil => exact List.Perm.refl _
  | cons g fs ih =>
    rw [insertSorted]
    split
    · exact List.Perm.refl _
    · exact (ih.cons g).trans (List.Perm.swap f g fs)

theorem pairwise_insertSorted {f : String × Json} {fs : List (String × Json)}
    (hfresh : f.1 ∉ fs.map (·.1)) (h : fs.Pairwise (·.1 < ·.1)) :
    (insertSorted f fs).Pairwise (·.1 < ·.1) := by
  induction fs with
  | nil => exact List.pairwise_singleton _ _
  | cons g fs ih =>
    obtain ⟨hg, hfs⟩ := List.pairwise_cons.mp h
    rw [List.map_cons, List.mem_cons, not_or] at hfresh
    rw [insertSorted]
    by_cases hlt : f.1 < g.1
    · rw [if_pos hlt]
      refine List.pairwise_cons.mpr ⟨?_, h⟩
      intro k hk
      rcases List.mem_cons.mp hk with rfl | hk
      · exact hlt
      · exact String.lt_trans hlt (hg k hk)
    · rw [if_neg hlt]
      -- the keys differ, so the order between them is strict
      have hgf : g.1 < f.1 := by
        rw [← String.not_le]
        intro hle
        exact hfresh.1 (String.le_antisymm hle (String.not_lt.mp hlt))
      refine List.pairwise_cons.mpr ⟨?_, ih hfresh.2 hfs⟩
      intro k hk
      rcases List.mem_cons.mp ((insertSorted_perm f fs).mem_iff.mp hk) with rfl | hk
      · exact hgf
      · exact hg k hk

theorem canonicalItems_eq_map (js : List Json) : canonicalItems js = js.map canonical := by
  induction js with
  | nil => rfl
  | cons j js ih => rw [canonicalItems, ih, List.map_cons]

/-- The canonical fields are the fields with canonical values, in another order. -/
theorem canonicalFields_perm (fs : List (String × Json)) :
    (canonicalFields fs).Perm (fs.map fun f => (f.1, canonical f.2)) := by
  induction fs with
  | nil => exact List.Perm.refl _
  | cons f fs ih =>
    obtain ⟨k, j⟩ := f
    rw [canonicalFields]
    exact (insertSorted_perm (k, canonical j) _).trans (ih.cons _)

theorem keys_canonicalFields_perm (fs : List (String × Json)) :
    ((canonicalFields fs).map (·.1)).Perm (fs.map (·.1)) := by
  have h := (canonicalFields_perm fs).map (·.1)
  rwa [List.map_map] at h

theorem mem_canonicalFields {g : String × Json} {fs : List (String × Json)}
    (h : g ∈ canonicalFields fs) : ∃ f ∈ fs, g = (f.1, canonical f.2) := by
  obtain ⟨f, hf, rfl⟩ := List.mem_map.mp ((canonicalFields_perm fs).mem_iff.mp h)
  exact ⟨f, hf, rfl⟩

theorem lookupField_canonicalFields {fs : List (String × Json)} (h : (fs.map (·.1)).Nodup)
    (key : String) : lookupField (canonicalFields fs) key = (lookupField fs key).map canonical := by
  have hkeys : ((fs.map fun f => (f.1, canonical f.2)).map (·.1)).Nodup := by
    rw [List.map_map]
    exact h
  unfold lookupField
  rw [Entries.lookup_perm hkeys (canonicalFields_perm fs), Entries.lookup_map_snd]

theorem pairwise_canonicalFields {fs : List (String × Json)} (h : (fs.map (·.1)).Nodup) :
    (canonicalFields fs).Pairwise (·.1 < ·.1) := by
  induction fs with
  | nil => exact List.Pairwise.nil
  | cons f fs ih =>
    obtain ⟨k, j⟩ := f
    rw [List.map_cons, List.nodup_cons] at h
    rw [canonicalFields]
    refine pairwise_insertSorted ?_ (ih h.2)
    rw [(keys_canonicalFields_perm fs).mem_iff]
    exact h.1

/-- **The canonical form is in order.** -/
theorem isOrdered_canonical {j : Json} (h : IsDistinct j) : IsOrdered (canonical j) := by
  induction h with
  | null => exact .null
  | bool b => exact .bool b
  | int n => exact .int n
  | float x => exact .float x
  | string s => exact .string s
  | array items _ ih =>
    rw [canonical, canonicalItems_eq_map]
    refine .array _ ?_
    intro j hj
    obtain ⟨i, hi, rfl⟩ := List.mem_map.mp hj
    exact ih i hi
  | object fields hdistinct _ ih =>
    rw [canonical]
    refine .object _ (pairwise_canonicalFields hdistinct) ?_
    intro g hg
    obtain ⟨f, hf, rfl⟩ := mem_canonicalFields hg
    exact ih f hf

/-- A test that holds everywhere in a value holds everywhere in its canonical form. -/
theorem every_canonical {test : Json → Bool} {j : Json} (h : IsDistinct j)
    (htest : j.every test = true) : (canonical j).every test = true := by
  induction h with
  | null | bool | int | float | string => exact htest
  | array items _ ih =>
    rw [canonical, canonicalItems_eq_map, every_array]
    intro j hj
    obtain ⟨i, hi, rfl⟩ := List.mem_map.mp hj
    exact ih i hi (every_array.mp htest i hi)
  | object fields _ _ ih =>
    rw [canonical, every_object]
    intro g hg
    obtain ⟨f, hf, rfl⟩ := mem_canonicalFields hg
    exact ih f hf (every_object.mp htest f hf)

/-- The canonical form nests as deeply as the value. -/
theorem nestsIn_canonical {room : Nat} {j : Json} (h : j.nestsIn room = true) :
    (canonical j).nestsIn room = true := by
  induction room generalizing j with
  | zero => cases j <;> exact h
  | succ room ih =>
    cases j with
    | null | bool | int | float | string => exact h
    | array items =>
      rw [canonical, canonicalItems_eq_map, nestsIn_array]
      intro j hj
      obtain ⟨i, hi, rfl⟩ := List.mem_map.mp hj
      exact ih (nestsIn_array.mp h i hi)
    | object fields =>
      rw [canonical, nestsIn_object]
      intro g hg
      obtain ⟨f, hf, rfl⟩ := mem_canonicalFields hg
      exact ih (nestsIn_object.mp h f hf)

theorem canonicalFields_of_pairwise {fs : List (String × Json)} (h : fs.Pairwise (·.1 < ·.1))
    (hvalues : ∀ f ∈ fs, canonical f.2 = f.2) : canonicalFields fs = fs := by
  induction fs with
  | nil => rfl
  | cons f fs ih =>
    obtain ⟨k, j⟩ := f
    obtain ⟨hf, hfs⟩ := List.pairwise_cons.mp h
    rw [canonicalFields, ih hfs fun g hg => hvalues g (List.mem_cons_of_mem _ hg),
      hvalues (k, j) (List.mem_cons_self ..)]
    cases fs with
    | nil => rfl
    | cons g fs => rw [insertSorted, if_pos (hf g (List.mem_cons_self ..))]

/-- **What is in order is its own canonical form.** -/
theorem canonical_of_isOrdered {j : Json} (h : IsOrdered j) : canonical j = j := by
  induction h with
  | null | bool | int | float | string => rfl
  | array items _ ih =>
    rw [canonical, canonicalItems_eq_map, List.map_congr_left ih, List.map_id']
  | object fields hsorted _ ih => rw [canonical, canonicalFields_of_pairwise hsorted ih]

end Json

end SpringRoutes
