import SpringRoutes.Entries

/-!
# `SpringRoutes.Proofs.Entries` — finding values by name

Putting a value under a name, and dropping the values of a name, change what is found under that
name (`lookup_put_self`, `lookup_drop_self`) and under no other one (`lookup_put_of_ne`,
`lookup_drop_of_ne`). Putting keeps names distinct (`nodup_put`), and distinct names make what is
found independent of the order of the entries (`lookup_perm`).
-/

namespace SpringRoutes

namespace Entries

variable {α : Type}

/-! ## Putting -/

/-- **What is put under a name is found there.** -/
theorem lookup_put_self (es : List (String × α)) (name : String) (v : α) :
    (put es name v).lookup name = some v := by
  induction es with
  | nil => exact List.lookup_cons_self
  | cons e es ih =>
    obtain ⟨n, u⟩ := e
    rw [put]
    by_cases hn : n = name
    · rw [if_pos hn, hn, List.lookup_cons_self]
    · rw [if_neg hn, List.lookup_cons, beq_eq_false_iff_ne.mpr (Ne.symm hn)]
      exact ih

/-- **What is found under the other names stays.** -/
theorem lookup_put_of_ne {es : List (String × α)} {name other : String} (v : α)
    (h : other ≠ name) : (put es name v).lookup other = es.lookup other := by
  induction es with
  | nil => rw [put, List.lookup_cons, beq_eq_false_iff_ne.mpr h]
  | cons e es ih =>
    obtain ⟨n, u⟩ := e
    rw [put]
    by_cases hn : n = name
    · rw [if_pos hn, List.lookup_cons, List.lookup_cons, hn, beq_eq_false_iff_ne.mpr h]
    · rw [if_neg hn, List.lookup_cons, List.lookup_cons, ih]

/-- Putting what is found already changes nothing. -/
theorem put_of_lookup {es : List (String × α)} {name : String} {v : α}
    (h : es.lookup name = some v) : put es name v = es := by
  induction es with
  | nil => cases h
  | cons e es ih =>
    obtain ⟨n, u⟩ := e
    rw [put]
    by_cases hn : n = name
    · subst hn
      rw [List.lookup_cons_self, Option.some.injEq] at h
      rw [if_pos rfl, h]
    · rw [List.lookup_cons, beq_eq_false_iff_ne.mpr (Ne.symm hn)] at h
      rw [if_neg hn, ih h]

/-- Of two values put under one name the second stays. -/
theorem put_put (es : List (String × α)) (name : String) (u v : α) :
    put (put es name u) name v = put es name v := by
  induction es with
  | nil => simp [put]
  | cons e es ih =>
    obtain ⟨n, w⟩ := e
    by_cases hn : n = name
    · rw [put, if_pos hn, put, if_pos hn, put, if_pos hn]
    · rw [put, if_neg hn, put, if_neg hn, put, if_neg hn, ih]

/-- An entry after putting is the new one or was there before. -/
theorem mem_put {es : List (String × α)} {name : String} {v : α} {e : String × α}
    (h : e ∈ put es name v) : e = (name, v) ∨ e ∈ es := by
  induction es with
  | nil => exact .inl (List.mem_singleton.mp h)
  | cons d es ih =>
    obtain ⟨n, u⟩ := d
    by_cases hn : n = name
    · subst hn
      rw [put, if_pos rfl, List.mem_cons] at h
      exact h.imp id (List.mem_cons_of_mem _)
    · rw [put, if_neg hn, List.mem_cons] at h
      rcases h with rfl | h
      · exact .inr (List.mem_cons_self ..)
      · exact (ih h).imp id (List.mem_cons_of_mem _)

/-- A value under a name that is not there goes to the end. -/
theorem put_of_fresh {es : List (String × α)} {name : String} (v : α)
    (h : name ∉ es.map (·.1)) : put es name v = es ++ [(name, v)] := by
  induction es with
  | nil => rfl
  | cons e es ih =>
    rw [List.map_cons, List.mem_cons, not_or] at h
    rw [put, if_neg (Ne.symm h.1), ih h.2, List.cons_append]

/-- What holds of all values goes on holding when a value of that kind is put. -/
theorem forall_mem_put {P : α → Prop} {es : List (String × α)} {name : String} {v : α}
    (h : ∀ e ∈ es, P e.2) (hv : P v) : ∀ e ∈ put es name v, P e.2 := by
  intro e he
  rcases mem_put he with rfl | he
  · exact hv
  · exact h e he

/-! ## Dropping -/

/-- **Nothing is found under a name that was dropped.** -/
theorem lookup_drop_self (es : List (String × α)) (name : String) :
    (drop es name).lookup name = none := by
  rw [List.lookup_eq_none_iff]
  intro e he
  have hne := (List.mem_filter.mp he).2
  simpa using Ne.symm (of_decide_eq_true hne)

theorem lookup_drop_of_ne {es : List (String × α)} {name other : String} (h : other ≠ name) :
    (drop es name).lookup other = es.lookup other := by
  unfold drop
  induction es with
  | nil => rfl
  | cons e es ih =>
    obtain ⟨n, u⟩ := e
    by_cases hn : n = name
    · subst hn
      rw [List.filter_cons_of_neg (by simp), List.lookup_cons, beq_eq_false_iff_ne.mpr h]
      exact ih
    · rw [List.filter_cons_of_pos (by simpa using hn), List.lookup_cons, List.lookup_cons, ih]

/-- What is found under a name is an entry. -/
theorem mem_of_lookup {es : List (String × α)} {name : String} {v : α}
    (h : es.lookup name = some v) : (name, v) ∈ es := by
  obtain ⟨l₁, l₂, heq, _⟩ := List.lookup_eq_some_iff.mp h
  rw [heq]
  exact List.mem_append_right l₁ (List.mem_cons_self ..)

theorem mem_names_put {es : List (String × α)} {name n : String} {v : α}
    (h : n ∈ (put es name v).map (·.1)) : n = name ∨ n ∈ es.map (·.1) := by
  obtain ⟨e, he, rfl⟩ := List.mem_map.mp h
  rcases mem_put he with rfl | he
  · exact .inl rfl
  · exact .inr (List.mem_map_of_mem he)

/-! ## Distinct names

When no name comes twice, the order of the entries does not matter for what is found. -/

theorem nodup_of_sorted {es : List (String × α)} (h : es.Pairwise (·.1 < ·.1)) :
    (es.map (·.1)).Nodup := by
  refine List.Pairwise.imp ?_ (List.pairwise_map.mpr h)
  intro a b hlt heq
  rw [heq] at hlt
  exact String.lt_irrefl b hlt

/-- **Putting keeps names distinct.** -/
theorem nodup_put {es : List (String × α)} (h : (es.map (·.1)).Nodup) (name : String) (v : α) :
    ((put es name v).map (·.1)).Nodup := by
  induction es with
  | nil => exact List.pairwise_singleton _ _
  | cons e es ih =>
    obtain ⟨n, u⟩ := e
    rw [List.map_cons, List.nodup_cons] at h
    rw [put]
    by_cases hn : n = name
    · rw [if_pos hn]
      exact List.nodup_cons.mpr h
    · rw [if_neg hn]
      refine List.nodup_cons.mpr ⟨?_, ih h.2⟩
      intro hmem
      exact (mem_names_put hmem).elim hn h.1

/-- With distinct names every entry is found. -/
theorem lookup_of_mem {es : List (String × α)} (hd : (es.map (·.1)).Nodup) {name : String} {v : α}
    (h : (name, v) ∈ es) : es.lookup name = some v := by
  induction es with
  | nil => cases h
  | cons e es ih =>
    obtain ⟨n, u⟩ := e
    rw [List.map_cons, List.nodup_cons] at hd
    rcases List.mem_cons.mp h with heq | hrest
    · cases heq
      exact List.lookup_cons_self
    · have hne : name ≠ n := by
        rintro rfl
        exact hd.1 (List.mem_map.mpr ⟨_, hrest, rfl⟩)
      rw [List.lookup_cons, beq_eq_false_iff_ne.mpr hne]
      exact ih hd.2 hrest

/-- **With distinct names the order of the entries does not matter.** -/
theorem lookup_perm {es ds : List (String × α)} (hd : (es.map (·.1)).Nodup) (h : ds.Perm es)
    (name : String) : ds.lookup name = es.lookup name := by
  have hd' : (ds.map (·.1)).Nodup := (h.map (·.1)).nodup_iff.mpr hd
  cases hl : es.lookup name with
  | some v => exact lookup_of_mem hd' (h.mem_iff.mpr (mem_of_lookup hl))
  | none =>
    cases hl' : ds.lookup name with
    | none => rfl
    | some v =>
      rw [lookup_of_mem hd (h.mem_iff.mp (mem_of_lookup hl'))] at hl
      cases hl

theorem lookup_map_snd {β : Type} (f : α → β) (es : List (String × α)) (name : String) :
    (es.map fun e => (e.1, f e.2)).lookup name = (es.lookup name).map f := by
  induction es with
  | nil => rfl
  | cons e es ih =>
    rw [List.map_cons, List.lookup_cons, List.lookup_cons]
    cases name == e.1 with
    | true => rfl
    | false => exact ih

/-- Entries that are left out or keep their names leave the other names in order. -/
theorem names_filterMap_sublist {β : Type} {g : String × α → Option (String × β)}
    (hg : ∀ e d, g e = some d → d.1 = e.1) (es : List (String × α)) :
    ((es.filterMap g).map (·.1)).Sublist (es.map (·.1)) := by
  induction es with
  | nil => exact List.Sublist.slnil
  | cons e es ih =>
    rw [List.filterMap_cons]
    cases he : g e with
    | none => exact ih.cons e.1
    | some d =>
      rw [List.map_cons, List.map_cons, hg e d he]
      exact ih.cons_cons e.1

end Entries

end SpringRoutes
