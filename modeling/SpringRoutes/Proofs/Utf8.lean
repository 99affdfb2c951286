import SpringRoutes.Text.Utf8

/-!
# `SpringRoutes.Proofs.Utf8` — bytes are text when they are the bytes of a text

The decoder looks at one byte after another and knows which bytes may follow which. That comes to
one rule: bytes decode to a text if and only if they are the bytes of that text (`decode_eq_ok`). So
overlong forms, halves of pairs and numbers beyond the last character are all refused, because no
text is encoded that way.

Both directions go character by character. A head that is a character is made of its bytes
(`bytes_of_head`), and the bytes of a character have it for their head (`head_of_bytes`); the
decoder then skips what the head covers (`decodeFrom_covered`).
-/

namespace SpringRoutes

namespace Utf8

/-! ## Characters by the number of their bytes -/

theorem toNat_ofNat {n : Nat} (h : n < 0xd800 ∨ 0xdfff < n ∧ n < 0x110000) :
    (Char.ofNat n).toNat = n := by
  have hvalid : n.isValidChar := h
  unfold Char.ofNat
  rw [dif_pos hvalid]
  rfl

theorem isTail_iff {b : Nat} : isTail b = true ↔ 0x80 ≤ b ∧ b < 0xc0 := by
  rw [isTail, Bool.and_eq_true, decide_eq_true_iff, decide_eq_true_iff]

/-- A second byte continues a character, and four first bytes take only part of those. -/
theorem isSecond_iff {a b : Nat} :
    isSecond a b = true ↔ 0x80 ≤ b ∧ b < 0xc0 ∧ (a = 0xe0 → 0xa0 ≤ b) ∧ (a = 0xed → b < 0xa0) ∧
      (a = 0xf0 → 0x90 ≤ b) ∧ (a = 0xf4 → b < 0x90) := by
  unfold isSecond isTail
  grind

/-- The bytes of the character with a number. -/
theorem encodeChar_ofNat {n : Nat} (h : n < 0xd800 ∨ 0xdfff < n ∧ n < 0x110000) :
    encodeChar (Char.ofNat n) =
      if n < 0x80 then [n]
      else if n < 0x800 then [0xc0 + n / 64, 0x80 + n % 64]
      else if n < 0x10000 then [0xe0 + n / 4096, 0x80 + n / 64 % 64, 0x80 + n % 64]
      else [0xf0 + n / 262144, 0x80 + n / 4096 % 64, 0x80 + n / 64 % 64, 0x80 + n % 64] := by
  unfold encodeChar
  rw [toNat_ofNat h]

section Width

variable {a b c d : Nat}

theorem encodeChar_one (ha : a < 0x80) : encodeChar (Char.ofNat a) = [a] := by
  rw [encodeChar_ofNat (by omega), if_pos ha]

theorem encodeChar_two (ha : 0xc2 ≤ a ∧ a < 0xe0) (hb : isTail b = true) :
    encodeChar (Char.ofNat ((a - 0xc0) * 64 + (b - 0x80))) = [a, b] := by
  rw [isTail_iff] at hb
  rw [encodeChar_ofNat (by omega), if_neg (by omega), if_pos (by omega)]
  simp only [List.cons.injEq, and_true]
  omega

theorem encodeChar_three (ha : 0xe0 ≤ a ∧ a < 0xf0) (hb : isSecond a b = true)
    (hc : isTail c = true) :
    encodeChar (Char.ofNat ((a - 0xe0) * 4096 + (b - 0x80) * 64 + (c - 0x80))) = [a, b, c] := by
  rw [isSecond_iff] at hb
  rw [isTail_iff] at hc
  rw [encodeChar_ofNat (by omega), if_neg (by omega), if_neg (by omega), if_pos (by omega)]
  simp only [List.cons.injEq, and_true]
  omega

theorem encodeChar_four (ha : 0xf0 ≤ a ∧ a < 0xf5) (hb : isSecond a b = true)
    (hc : isTail c = true) (hd : isTail d = true) :
    encodeChar (Char.ofNat ((a - 0xf0) * 262144 + (b - 0x80) * 4096 + (c - 0x80) * 64
      + (d - 0x80))) = [a, b, c, d] := by
  rw [isSecond_iff] at hb
  rw [isTail_iff] at hc hd
  rw [encodeChar_ofNat (by omega), if_neg (by omega), if_neg (by omega), if_neg (by omega)]
  simp only [List.cons.injEq, and_true]
  omega

end Width

/-- A head that is a character stands for the bytes of that character. -/
theorem bytes_of_head {a more : Nat} {rest : List Nat} {c : Char}
    (h : head a rest = .char c more) :
    more ≤ rest.length ∧ a :: rest.take more = encodeChar c := by
  unfold head at h
  split at h
  · next ha =>
    injection h with hchar hmore
    subst hchar hmore
    exact ⟨Nat.zero_le _, (encodeChar_one ha).symm⟩
  · split at h
    · cases h
    · next hlow hstart =>
      split at h
      · next ha =>
        split at h
        · cases h
        · split at h
          · next b rest hb =>
            injection h with hchar hmore
            subst hchar hmore
            exact ⟨by simp, (encodeChar_two (by omega) hb).symm⟩
          · cases h
      · next ha =>
        split at h
        · cases h
        · split at h
          · next b rest hb =>
            split at h
            · cases h
            · split at h
              · next c rest hc =>
                split at h
                · next ha' =>
                  injection h with hchar hmore
                  subst hchar hmore
                  exact ⟨by simp, (encodeChar_three (by omega) hb hc).symm⟩
                · next ha' =>
                  split at h
                  · cases h
                  · split at h
                    · next d rest hd =>
                      injection h with hchar hmore
                      subst hchar hmore
                      exact ⟨by simp, (encodeChar_four (by omega) hb hc hd).symm⟩
                    · cases h
              · cases h
          · cases h

/-- The bytes of a character have that character for their head. -/
theorem head_of_bytes (c : Char) (rest : List Nat) :
    ∃ a tail, encodeChar c = a :: tail ∧ head a (tail ++ rest) = .char c tail.length := by
  have hvalid : c.toNat < 0xd800 ∨ 0xdfff < c.toNat ∧ c.toNat < 0x110000 := c.valid
  have hchar : ∀ m, m = c.toNat → Char.ofNat m = c := by
    intro m hm
    rw [hm, Char.ofNat_toNat]
  unfold encodeChar
  generalize c.toNat = n at hvalid hchar
  simp only
  split
  · next h =>
    refine ⟨_, [], rfl, ?_⟩
    unfold head
    rw [if_pos h, hchar n rfl]
    rfl
  · split
    · have htail : isTail (0x80 + n % 64) = true := isTail_iff.mpr (by omega)
      refine ⟨_, [_], rfl, ?_⟩
      simp only [head, List.cons_append]
      rw [if_neg (by omega), if_neg (by omega), if_pos (by omega), if_pos htail, hchar _ (by omega)]
      rfl
    · split
      · have hsecond : isSecond (0xe0 + n / 4096) (0x80 + n / 64 % 64) = true :=
          isSecond_iff.mpr (by omega)
        have htail : isTail (0x80 + n % 64) = true := isTail_iff.mpr (by omega)
        refine ⟨_, [_, _], rfl, ?_⟩
        simp only [head, List.cons_append]
        rw [if_neg (by omega), if_neg (by omega), if_neg (by omega), if_pos hsecond, if_pos htail,
          if_pos (by omega), hchar _ (by omega)]
        rfl
      · have hsecond : isSecond (0xf0 + n / 262144) (0x80 + n / 4096 % 64) = true :=
          isSecond_iff.mpr (by omega)
        have hthird : isTail (0x80 + n / 64 % 64) = true := isTail_iff.mpr (by omega)
        have hfourth : isTail (0x80 + n % 64) = true := isTail_iff.mpr (by omega)
        refine ⟨_, [_, _, _], rfl, ?_⟩
        simp only [head, List.cons_append]
        rw [if_neg (by omega), if_neg (by omega), if_neg (by omega), if_pos hsecond, if_pos hthird,
          if_neg (by omega), if_pos hfourth, hchar _ (by omega)]
        rfl

/-! ## Texts -/

/-- Bytes that belong to the character before are passed over. -/
theorem decodeFrom_covered {covered : Nat} {bytes : List Nat} (h : covered ≤ bytes.length)
    (position : Nat) :
    decodeFrom position covered bytes
      = decodeFrom (position + covered) 0 (bytes.drop covered) := by
  induction covered generalizing bytes position with
  | zero => rfl
  | succ n ih =>
    cases bytes with
    | nil => cases h
    | cons b rest =>
      have hrest := ih (Nat.le_of_succ_le_succ h) (position + 1)
      rw [Nat.add_right_comm, Nat.add_assoc] at hrest
      exact hrest

theorem eq_encode_of_decodeFrom {position : Nat} {bytes : List Nat} {s : List Char}
    (h : decodeFrom position 0 bytes = .ok s) : bytes = encode s := by
  -- each character takes its bytes away, so the induction is on the number of bytes
  induction hn : bytes.length using Nat.strongRecOn generalizing position bytes s with
  | ind n ih =>
    cases bytes with
    | nil =>
      cases h
      rfl
    | cons b rest =>
      rw [decodeFrom] at h
      split at h
      · next c more hhead =>
        obtain ⟨hmore, hbytes⟩ := bytes_of_head hhead
        rw [decodeFrom_covered hmore] at h
        cases hrest : decodeFrom (position + 1 + more) 0 (rest.drop more) with
        | error f =>
          rw [hrest] at h
          cases h
        | ok t =>
          rw [hrest] at h
          cases h
          have hlt : (rest.drop more).length < n := by
            rw [← hn, List.length_drop, List.length_cons]
            omega
          have htail := ih _ hlt hrest rfl
          rw [encode, List.flatMap_cons, ← encode, ← htail, ← hbytes, List.cons_append,
            List.take_append_drop]
      · cases h

theorem decodeFrom_encode (s : List Char) (position : Nat) :
    decodeFrom position 0 (encode s) = .ok s := by
  induction s generalizing position with
  | nil => rfl
  | cons c s ih =>
    obtain ⟨a, tail, hbytes, hhead⟩ := head_of_bytes c (encode s)
    have hcovered : tail.length ≤ (tail ++ encode s).length := by
      rw [List.length_append]
      exact Nat.le_add_right ..
    have hrest : decodeFrom (position + 1) tail.length (tail ++ encode s) = .ok s := by
      rw [decodeFrom_covered hcovered, List.drop_left, ih]
    rw [encode, List.flatMap_cons, ← encode, hbytes, List.cons_append, decodeFrom, hhead]
    simp only
    rw [hrest]
    rfl

/-- **Bytes decode to a text exactly when they are its bytes.** -/
theorem decode_eq_ok {bytes : List Nat} {s : List Char} :
    decode bytes = .ok s ↔ bytes = encode s := by
  constructor
  · exact eq_encode_of_decodeFrom
  · rintro rfl
    exact decodeFrom_encode s 0

end Utf8

end SpringRoutes
