/-!
# `SpringRoutes.Proofs.Sorting` — sorting by a text

Tables are sorted by path, keys of stores by themselves. What counts is that sorting puts the texts
in order (`pairwise_mergeSort_by`), strictly so when they are distinct (`pairwise_lt_mergeSort_by`),
that values of one text keep their order (`filter_mergeSort_by`), and that sorted texts tell nothing
about the order before (`mergeSort_eq_of_perm`, `eq_of_pairwise_lt`).
-/

namespace SpringRoutes

section SortBy

variable {α : Type} (key : α → String)

theorem le_by_trans (a b c : α) (hab : decide (key a ≤ key b) = true)
    (hbc : decide (key b ≤ key c) = true) : decide (key a ≤ key c) = true :=
  decide_eq_true (String.le_trans (of_decide_eq_true hab) (of_decide_eq_true hbc))

theorem le_by_total (a b : α) : (decide (key a ≤ key b) || decide (key b ≤ key a)) = true := by
  simpa using String.le_total (key a) (key b)

theorem pairwise_mergeSort_by (l : List α) :
    (l.mergeSort fun a b => decide (key a ≤ key b)).Pairwise fun a b => key a ≤ key b :=
  (List.pairwise_mergeSort (le_by_trans key) (le_by_total key) l).imp of_decide_eq_true

/-- Values of different texts come strictly in order. -/
theorem pairwise_lt_mergeSort_by {l : List α} (h : (l.map key).Nodup) :
    (l.mergeSort fun a b => decide (key a ≤ key b)).Pairwise fun a b => key a < key b := by
  have hnodup := ((List.mergeSort_perm l fun a b => decide (key a ≤ key b)).map key).nodup_iff.mpr h
  refine (pairwise_mergeSort_by key l).imp₂ ?_ (List.pairwise_map.mp hnodup)
  intro a b hle hne
  exact String.not_le.mp fun hge => hne (String.le_antisymm hle hge)

/-- **Values of one text keep their order.** They are in order as they stand, so sorting keeps them
    as a sublist, and it makes no more of them. -/
theorem filter_mergeSort_by (l : List α) (x : String) :
    ((l.mergeSort fun a b => decide (key a ≤ key b)).filter fun a => decide (key a = x))
      = l.filter fun a => decide (key a = x) := by
  generalize hs : (l.mergeSort fun a b => decide (key a ≤ key b)) = sorted
  have hperm : sorted.Perm l := by
    rw [← hs]
    exact List.mergeSort_perm l _
  have hpairwise : (l.filter fun a => decide (key a = x)).Pairwise
      fun a b => decide (key a ≤ key b) = true := by
    refine List.pairwise_of_forall_mem_list ?_
    intro a ha b hb
    have hax := of_decide_eq_true (List.mem_filter.mp ha).2
    have hbx := of_decide_eq_true (List.mem_filter.mp hb).2
    rw [hax, hbx]
    exact decide_eq_true (String.le_refl x)
  have hkept : (l.filter fun a => decide (key a = x)).Sublist sorted := by
    rw [← hs]
    exact List.sublist_mergeSort (le_by_trans key) (le_by_total key) hpairwise
      List.filter_sublist
  have hfiltered := hkept.filter fun a => decide (key a = x)
  rw [List.filter_filter] at hfiltered
  simp only [Bool.and_self] at hfiltered
  exact (hfiltered.eq_of_length (hperm.filter _).length_eq.symm).symm

end SortBy

/-- **Sorted texts are the same for every order before.** -/
theorem mergeSort_eq_of_perm {l l' : List String} (h : l.Perm l') :
    (l.mergeSort fun a b => decide (a ≤ b)) = l'.mergeSort fun a b => decide (a ≤ b) := by
  refine List.Perm.eq_of_pairwise (fun a b _ _ => String.le_antisymm) (pairwise_mergeSort_by id l)
    (pairwise_mergeSort_by id l') ?_
  exact ((List.mergeSort_perm l _).trans h).trans (List.mergeSort_perm l' _).symm

/-- **Of one set of texts there is one list in strict order.** -/
theorem eq_of_pairwise_lt {l l' : List String} (h : l.Pairwise (· < ·)) (h' : l'.Pairwise (· < ·))
    (hmem : ∀ x, x ∈ l ↔ x ∈ l') : l = l' := by
  have hnodup : ∀ {k : List String}, k.Pairwise (· < ·) → k.Nodup := by
    intro k hk
    refine hk.imp ?_
    rintro a b hlt rfl
    exact String.lt_irrefl a hlt
  refine List.Perm.eq_of_pairwise ?_ h h'
    ((List.perm_ext_iff_of_nodup (hnodup h) (hnodup h')).mpr hmem)
  intro a b _ _ hab hba
  exact absurd (String.lt_trans hab hba) (String.lt_irrefl a)

end SpringRoutes
