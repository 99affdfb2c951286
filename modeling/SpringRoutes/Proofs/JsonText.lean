import SpringRoutes.Json.Printer
import SpringRoutes.Json.Reader
import SpringRoutes.Proofs.Entries
import SpringRoutes.Proofs.Lines

/-!
# `SpringRoutes.Proofs.JsonText` — written JSON reads back

The reader inverts the printer on every value without floating-point numbers, with integers that are
not too long, and with distinct keys in each object (`IsPlain`). The layout does not matter as long
as it consists of blanks (`Layout.IsBlank`).

Each lemma is about a written part **followed by a rest**, and says that the reader gives back the
part and leaves the rest. A number could run on into the rest, hence `Stops`. As fuel, the length of
the written part is always enough.

* `scanString_escape`: string literals, escapes and UTF-16 pairs included;
* `number?_intText`: integers;
* `value_write`, `items_write`, `members_write`: values, by recursion on the value;
* `parse_render`: whole texts.
-/

namespace SpringRoutes

open Text

namespace Json

/-! ## String literals -/

theorem hexValue?_hexDigit {n : Nat} (h : n < 16) : hexValue? (hexDigit n) = some n := by
  have hall : ∀ n : Fin 16, hexValue? (hexDigit n.val) = some n.val := by decide
  exact hall ⟨n, h⟩

theorem unit?_hex4 {n : Nat} (h : n < 0x10000) (c : Char) (rest : List Char) :
    unit? (hex4 n ++ c :: rest) = some (n, c :: rest) := by
  unfold hex4
  simp only [List.cons_append, List.nil_append, unit?]
  rw [hexValue?_hexDigit (Nat.mod_lt _ (by decide)), hexValue?_hexDigit (Nat.mod_lt _ (by decide)),
    hexValue?_hexDigit (Nat.mod_lt _ (by decide)), hexValue?_hexDigit (Nat.mod_lt _ (by decide))]
  simp only [Option.bind_eq_bind, Option.bind_some, Option.some.injEq, Prod.mk.injEq, and_true]
  omega

theorem toNat_lt_or_gt (c : Char) : c.toNat < 0xd800 ∨ 0xdfff < c.toNat ∧ c.toNat < 0x110000 :=
  c.valid

/-- A unit outside the range of halves stands for itself. -/
theorem scanString_unit {start rest : List Char} {c d : Char} {fuel : Nat}
    (h : c.toNat < 0x10000) :
    scanString start (fuel + 1) (unitEscape c.toNat ++ d :: rest)
      = readCons c (scanString start fuel (d :: rest)) := by
  have hv := toNat_lt_or_gt c
  -- a character is never a half, so nothing after it is tried as the other half
  have hpair : pairAfter? c.toNat (d :: rest) = none := by
    unfold pairAfter?
    rw [if_neg (by omega)]
  have hlone : loneUnit c.toNat = c := by
    unfold loneUnit
    rw [if_neg (by omega), Char.ofNat_toNat]
  simp only [unitEscape, List.cons_append, scanString]
  rw [unit?_hex4 h]
  simp only [hpair, hlone]

/-- Two halves stand for the character that they make up. -/
theorem scanString_pair {start rest : List Char} {c d : Char} {fuel hi lo : Nat}
    (hhi : 0xd800 ≤ hi ∧ hi < 0xdc00) (hlo : 0xdc00 ≤ lo ∧ lo < 0xe000)
    (hc : 0x10000 + (hi - 0xd800) * 1024 + (lo - 0xdc00) = c.toNat) :
    scanString start (fuel + 1) (unitEscape hi ++ (unitEscape lo ++ d :: rest))
      = readCons c (scanString start fuel (d :: rest)) := by
  have hpair : pairAfter? hi ('\\' :: 'u' :: (hex4 lo ++ d :: rest)) = some (c, d :: rest) := by
    unfold pairAfter?
    rw [if_pos hhi]
    simp only
    rw [unit?_hex4 (by omega)]
    simp only
    rw [if_pos hlo, hc, Char.ofNat_toNat]
  simp only [unitEscape, List.cons_append, scanString]
  rw [unit?_hex4 (by omega)]
  simp only [hpair]

/-- **What is written for a character**: a short escape, the character itself, one unit, or two
    halves of a pair. -/
theorem escapeChar_cases (c : Char) :
    (∃ d, escapeChar c = ['\\', d] ∧ shortEscape? d = some c) ∨
    (escapeChar c = [c] ∧ 32 ≤ c.toNat ∧ c ≠ '"' ∧ c ≠ '\\') ∨
    (escapeChar c = unitEscape c.toNat ∧ c.toNat < 0x10000) ∨
    ∃ hi lo, escapeChar c = unitEscape hi ++ unitEscape lo ∧ (0xd800 ≤ hi ∧ hi < 0xdc00) ∧
      (0xdc00 ≤ lo ∧ lo < 0xe000) ∧ 0x10000 + (hi - 0xd800) * 1024 + (lo - 0xdc00) = c.toNat := by
  -- the characters with an escape of their own, in the order in which the printer asks for them
  by_cases h₁ : c = '"'
  · exact .inl ⟨'"', by subst h₁; exact ⟨rfl, rfl⟩⟩
  by_cases h₂ : c = '\\'
  · exact .inl ⟨'\\', by subst h₂; exact ⟨rfl, rfl⟩⟩
  by_cases h₃ : c = '\n'
  · exact .inl ⟨'n', by subst h₃; exact ⟨rfl, rfl⟩⟩
  by_cases h₄ : c = '\r'
  · exact .inl ⟨'r', by subst h₄; exact ⟨rfl, rfl⟩⟩
  by_cases h₅ : c = '\t'
  · exact .inl ⟨'t', by subst h₅; exact ⟨rfl, rfl⟩⟩
  by_cases h₆ : c.toNat = 12
  · have hc : c = '\x0c' := by rw [← Char.ofNat_toNat c, h₆]
    exact .inl ⟨'f', by subst hc; exact ⟨rfl, rfl⟩⟩
  by_cases h₇ : c.toNat = 8
  · have hc : c = '\x08' := by rw [← Char.ofNat_toNat c, h₇]
    exact .inl ⟨'b', by subst hc; exact ⟨rfl, rfl⟩⟩
  unfold escapeChar
  rw [if_neg h₁, if_neg h₂, if_neg h₃, if_neg h₄, if_neg h₅, if_neg h₆, if_neg h₇]
  by_cases h₈ : 32 ≤ c.toNat ∧ c.toNat < 127
  · rw [if_pos h₈]
    exact .inr (.inl ⟨rfl, h₈.1, h₁, h₂⟩)
  rw [if_neg h₈]
  by_cases h₉ : c.toNat < 0x10000
  · rw [if_pos h₉]
    exact .inr (.inr (.inl ⟨rfl, h₉⟩))
  · rw [if_neg h₉]
    have hv := toNat_lt_or_gt c
    have hlow : (c.toNat - 0x10000) % 1024 < 1024 := Nat.mod_lt _ (by decide)
    exact .inr (.inr (.inr ⟨_, _, rfl, by omega, by omega, by omega⟩))

theorem scanString_short {start rest : List Char} {c d : Char} {fuel : Nat}
    (h : shortEscape? d = some c) :
    scanString start (fuel + 1) ('\\' :: d :: rest) = readCons c (scanString start fuel rest) := by
  have hu : d ≠ 'u' := by
    rintro rfl
    cases h
  rw [scanString]
  · simp only [h]
  · exact hu

/-- **One character of a literal.** What the printer writes for it, the reader reads as it. -/
theorem scanString_escapeChar (start rest : List Char) (c d : Char) (fuel : Nat) :
    scanString start (fuel + 1) (escapeChar c ++ d :: rest)
      = readCons c (scanString start fuel (d :: rest)) := by
  rcases escapeChar_cases c with ⟨e, hw, he⟩ | ⟨hw, hc, hquote, hback⟩ | ⟨hw, hc⟩ |
    ⟨hi, lo, hw, hhi, hlo, hc⟩
  · rw [hw]
    exact scanString_short he
  · rw [hw, List.singleton_append, scanString]
    · rw [if_neg (Nat.not_lt.mpr hc)]
    · exact hquote
    · exact hback
  · rw [hw]
    exact scanString_unit hc
  · rw [hw, List.append_assoc]
    exact scanString_pair hhi hlo hc

/-- A whole literal, by induction on its characters. Each of them takes one unit of fuel. -/
theorem scanString_escape (start cs rest : List Char) {fuel : Nat} (h : cs.length < fuel) :
    scanString start fuel (escape cs ++ '"' :: rest) = .ok (cs, rest) := by
  induction cs generalizing fuel with
  | nil =>
    obtain ⟨fuel, rfl⟩ := Nat.exists_eq_add_one.mpr h
    rfl
  | cons c cs ih =>
    obtain ⟨fuel, rfl⟩ := Nat.exists_eq_add_one.mpr (Nat.lt_of_le_of_lt (Nat.zero_le _) h)
    have htail := ih (Nat.lt_of_succ_lt_succ h)
    -- what follows the character is not empty: at least the closing quote is there
    have hne : escape cs ++ '"' :: rest ≠ [] := by simp
    obtain ⟨d, t, hdt⟩ := List.exists_cons_of_ne_nil hne
    simp only [escape, List.flatMap_cons, List.append_assoc]
    rw [← escape, hdt, scanString_escapeChar, ← hdt, htail]
    rfl

theorem length_le_length_escape (cs : List Char) : cs.length ≤ (escape cs).length := by
  induction cs with
  | nil => exact Nat.le_refl 0
  | cons c cs ih =>
    have hc : 1 ≤ (escapeChar c).length := by
      rcases escapeChar_cases c with ⟨_, hw, _⟩ | ⟨hw, _⟩ | ⟨hw, _⟩ | ⟨_, _, hw, _⟩
      all_goals simp [hw, unitEscape]
    simp only [escape, List.flatMap_cons, List.length_append, List.length_cons] at ih ⊢
    omega

theorem stringLiteral_literal (s : String) (rest : List Char) :
    stringLiteral (literal s ++ rest) = .ok (s, rest) := by
  unfold stringLiteral literal
  simp only [List.cons_append, List.append_assoc, List.nil_append, List.drop_succ_cons,
    List.drop_zero]
  rw [scanString_escape]
  · simp [Except.map]
  · have := length_le_length_escape s.toList
    simp only [List.length_cons, List.length_append]
    omega

/-! ## Integers -/

/-- No number runs on into `rest`. -/
def Stops (rest : List Char) : Prop :=
  ∀ c ∈ rest.head?, c.isDigit = false ∧ c ≠ '.' ∧ c ≠ 'e' ∧ c ≠ 'E'

theorem stops_nil : Stops [] := by
  intro c hc
  cases hc

theorem digitsValue_toDigits (n : Nat) : digitsValue (Nat.toDigits 10 n) = n :=
  Nat.ofDigitChars_ten_toDigits

theorem all_isDigit_toDigits (n : Nat) : ∀ c ∈ Nat.toDigits 10 n, c.isDigit = true := by
  intro c hc
  exact Nat.isDigit_of_mem_toDigits (by decide) (by decide) hc

theorem takeWhile_isDigit {ds rest : List Char} (hds : ∀ c ∈ ds, c.isDigit = true)
    (h : Stops rest) :
    (ds ++ rest).takeWhile Char.isDigit = ds ∧ (ds ++ rest).dropWhile Char.isDigit = rest := by
  rw [List.takeWhile_append_of_pos hds, List.dropWhile_append_of_pos hds]
  cases rest with
  | nil => simp
  | cons c rest =>
    have hc := (h c rfl).1
    simp [hc]

/-- The digits of a positive number do not start with zero. -/
theorem head_toDigits_ne_zero {n : Nat} (h : 0 < n) :
    ∀ c ∈ (Nat.toDigits 10 n).head?, c ≠ '0' := by
  induction n using Nat.strongRecOn with
  | ind n ih =>
    rcases Nat.lt_or_ge n 10 with hlt | hge
    · rw [Nat.toDigits_of_lt_base hlt]
      have hall : ∀ k : Fin 10, 0 < k.val → Nat.digitChar k.val ≠ '0' := by decide
      intro c hc
      rw [← Option.some.inj hc]
      exact hall ⟨n, hlt⟩ h
    · -- the first digit is that of the number without its last digit
      intro c hc
      refine ih (n / 10) (by omega) (by omega) c ?_
      rw [Nat.toDigits_of_base_le (by decide) hge, List.head?_append] at hc
      cases hh : (Nat.toDigits 10 (n / 10)).head? with
      | none => simp at hh
      | some d => simpa [hh] using hc

theorem whole?_toDigits (n : Nat) {rest : List Char} (h : Stops rest) :
    whole? (Nat.toDigits 10 n ++ rest) = some (Nat.toDigits 10 n, rest) := by
  rcases Nat.eq_zero_or_pos n with rfl | hpos
  · rfl
  · have hall := all_isDigit_toDigits n
    obtain ⟨htake, hdrop⟩ := takeWhile_isDigit hall h
    have hhead := head_toDigits_ne_zero hpos
    obtain ⟨c, ds, hcds⟩ := List.exists_cons_of_ne_nil (Nat.toDigits_ne_nil (n := n) (b := 10))
    rw [hcds] at htake hdrop hall hhead ⊢
    have hc := hall c (List.mem_cons_self ..)
    have hne : c ≠ '0' := hhead c rfl
    rw [List.cons_append] at htake hdrop ⊢
    unfold whole?
    split
    -- a leading zero would be a whole number by itself
    · next heq => exact absurd (List.cons.inj heq).1 hne
    · next heq =>
      obtain ⟨rfl, rfl⟩ := List.cons.inj heq
      rw [if_pos hc, htake, hdrop]
    · next heq => cases heq

theorem decimals_of_stops {rest : List Char} (h : Stops rest) : decimals rest = ([], rest) := by
  unfold decimals
  split
  · next r => exact absurd rfl (h '.' rfl).2.1
  · rfl

theorem exponent?_of_stops {rest : List Char} (h : Stops rest) : exponent? rest = none := by
  unfold exponent?
  cases rest with
  | nil => rfl
  | cons c rest =>
    obtain ⟨_, _, he, hE⟩ := h c rfl
    simp [he, hE]

theorem unsigned?_toDigits (negative : Bool) {n : Nat} {rest : List Char} (h : Stops rest)
    (hn : (Nat.toDigits 10 n).length ≤ maxDigits) :
    unsigned? negative (Nat.toDigits 10 n ++ rest)
      = some (.ok (.int (if negative then -(n : Int) else n), rest)) := by
  unfold unsigned?
  rw [whole?_toDigits n h]
  simp only [Option.map_some, decimals_of_stops h, exponent?_of_stops h]
  rw [if_neg (Nat.not_lt.mpr hn), digitsValue_toDigits]

theorem number?_intText {n : Int} {rest : List Char} (h : Stops rest)
    (hn : (Nat.toDigits 10 n.natAbs).length ≤ maxDigits) :
    number? (intText n ++ rest) = some (.ok (.int n, rest)) := by
  unfold intText
  by_cases hneg : n < 0
  · rw [if_pos hneg]
    simp only [List.cons_append, List.nil_append, number?]
    rw [unsigned?_toDigits true h hn]
    have hn : -(n.natAbs : Int) = n := by omega
    simp only [if_true, hn]
  · rw [if_neg hneg, List.nil_append]
    have hn' : (n.natAbs : Int) = n := by omega
    have hu := unsigned?_toDigits false h hn
    simp only [Bool.false_eq_true, if_false, hn'] at hu
    rw [← hu]
    obtain ⟨c, ds, hcds⟩ :=
      List.exists_cons_of_ne_nil (Nat.toDigits_ne_nil (n := n.natAbs) (b := 10))
    have hc := all_isDigit_toDigits n.natAbs c (by rw [hcds]; exact List.mem_cons_self ..)
    rw [hcds, List.cons_append]
    unfold number?
    split
    -- a digit is not a sign
    · next heq =>
      rw [(List.cons.inj heq).1] at hc
      cases hc
    · rfl

/-! ## Blanks between the parts -/

/-- A layout that sets the parts apart by blanks only. -/
structure Layout.IsBlank (l : Layout) : Prop where
  lead : ∀ depth, ∀ c ∈ l.lead depth, isSpace c = true
  close : ∀ depth, ∀ c ∈ l.close depth, isSpace c = true
  colon : ∃ blanks, l.colon = ':' :: blanks ∧ ∀ c ∈ blanks, isSpace c = true

theorem isSpace_of_mem_newline {depth : Nat} {c : Char} (h : c ∈ newline depth) :
    isSpace c = true := by
  rcases List.mem_cons.mp h with rfl | h
  · rfl
  · rw [(List.mem_replicate.mp h).2]
    rfl

theorem isBlank_indented : Layout.indented.IsBlank where
  lead _ _ h := isSpace_of_mem_newline h
  close _ _ h := isSpace_of_mem_newline h
  colon := ⟨[' '], rfl, fun c h => by rw [List.mem_singleton.mp h]; rfl⟩

/-- Text that no blank starts. -/
def Starts (s : List Char) : Prop :=
  ∀ c ∈ s.head?, isSpace c = false

theorem starts_cons {c : Char} {s : List Char} (h : isSpace c = false) : Starts (c :: s) := by
  intro d hd
  rw [← Option.some.inj hd]
  exact h

theorem starts_literal (s : String) (rest : List Char) : Starts (literal s ++ rest) :=
  starts_cons rfl

theorem skip_blanks {bs s : List Char} (hbs : ∀ c ∈ bs, isSpace c = true) (hs : Starts s) :
    skip (bs ++ s) = s := by
  unfold skip
  rw [List.dropWhile_append_of_pos hbs]
  cases s with
  | nil => rfl
  | cons c s => simp [hs c rfl]

theorem skip_of_starts {s : List Char} (hs : Starts s) : skip s = s := by
  have hnone : ∀ c ∈ ([] : List Char), isSpace c = true := by simp
  exact skip_blanks hnone hs

/-- Blanks and closing marks end a number. -/
theorem stops_blanks {bs s : List Char} (hbs : ∀ c ∈ bs, isSpace c = true) (hs : Stops s) :
    Stops (bs ++ s) := by
  cases bs with
  | nil => exact hs
  | cons b bs =>
    intro c hc
    rw [← Option.some.inj hc]
    have hb := hbs b (List.mem_cons_self ..)
    simp only [isSpace, Bool.or_eq_true, beq_iff_eq] at hb
    rcases hb with ((rfl | rfl) | rfl) | rfl <;> decide

theorem stops_cons {c : Char} {s : List Char}
    (h : c.isDigit = false ∧ c ≠ '.' ∧ c ≠ 'e' ∧ c ≠ 'E') : Stops (c :: s) := by
  intro d hd
  rw [← Option.some.inj hd]
  exact h

/-! ## Values -/

/-- Values whose written form reads back: no floating-point numbers, no integer of more digits than
    are read, and distinct keys in each object. -/
inductive IsPlain : Json → Prop
  | null : IsPlain .null
  | bool (b : Bool) : IsPlain (.bool b)
  | int (n : Int) (h : (Nat.toDigits 10 n.natAbs).length ≤ maxDigits) : IsPlain (.int n)
  | string (s : String) : IsPlain (.string s)
  | array (items : List Json) (h : ∀ j ∈ items, IsPlain j) : IsPlain (.array items)
  | object (fields : List (String × Json)) (distinct : (fields.map (·.1)).Nodup)
      (h : ∀ f ∈ fields, IsPlain f.2) : IsPlain (.object fields)

/-- Whether a value has at most so many brackets open at once. -/
def nestsIn : Nat → Json → Bool
  | 0, .array _ | 0, .object _ => false
  | room + 1, .array items => items.all (nestsIn room)
  | room + 1, .object fields => fields.all fun f => nestsIn room f.2
  | _, _ => true

section Scalars

variable (room : Nat)

@[simp] theorem nestsIn_null : null.nestsIn room = true := by cases room <;> rfl

@[simp] theorem nestsIn_bool (b : Bool) : (bool b).nestsIn room = true := by cases room <;> rfl

@[simp] theorem nestsIn_int (n : Int) : (int n).nestsIn room = true := by cases room <;> rfl

@[simp] theorem nestsIn_float (x : Binary64) : (float x).nestsIn room = true := by
  cases room <;> rfl

@[simp] theorem nestsIn_string (s : String) : (string s).nestsIn room = true := by
  cases room <;> rfl

end Scalars

theorem nestsIn_array {room : Nat} {items : List Json} :
    (array items).nestsIn (room + 1) = true ↔ ∀ j ∈ items, j.nestsIn room = true :=
  List.all_eq_true

theorem nestsIn_object {room : Nat} {fields : List (String × Json)} :
    (object fields).nestsIn (room + 1) = true ↔ ∀ f ∈ fields, f.2.nestsIn room = true :=
  List.all_eq_true

theorem exists_room_of_array {items : List Json} {room : Nat}
    (h : (array items).nestsIn room = true) :
    ∃ rest, room = rest + 1 ∧ ∀ j ∈ items, j.nestsIn rest = true := by
  cases room with
  | zero => cases h
  | succ rest => exact ⟨rest, rfl, nestsIn_array.mp h⟩

theorem exists_room_of_object {fields : List (String × Json)} {room : Nat}
    (h : (object fields).nestsIn room = true) :
    ∃ rest, room = rest + 1 ∧ ∀ f ∈ fields, f.2.nestsIn rest = true := by
  cases room with
  | zero => cases h
  | succ rest => exact ⟨rest, rfl, nestsIn_object.mp h⟩

theorem ne_of_isDigit {c d : Char} (hc : c.isDigit = true) (hd : d.isDigit = false) : d ≠ c := by
  rintro rfl
  rw [hd] at hc
  cases hc

/-- An integer starts with a digit, or with a sign before a digit. -/
theorem intText_cases (n : Int) :
    (∃ c t, intText n = c :: t ∧ c.isDigit = true) ∨
      ∃ c t, intText n = '-' :: c :: t ∧ c.isDigit = true := by
  unfold intText
  have hall := all_isDigit_toDigits n.natAbs
  obtain ⟨c, ds, hcds⟩ :=
    List.exists_cons_of_ne_nil (Nat.toDigits_ne_nil (n := n.natAbs) (b := 10))
  rw [hcds] at hall ⊢
  have hc := hall c (List.mem_cons_self ..)
  by_cases hneg : n < 0
  · rw [if_pos hneg]
    exact .inr ⟨c, ds, rfl, hc⟩
  · rw [if_neg hneg]
    exact .inl ⟨c, ds, rfl, hc⟩

/-- A written value starts with no blank, and not as if an array or an object ended there. -/
theorem write_eq_cons (l : Layout) (depth : Nat) {j : Json} (h : IsPlain j) :
    ∃ c t, write l depth j = c :: t ∧ isSpace c = false ∧ c ≠ ']' ∧ c ≠ '\ufeff' := by
  cases h with
  | null => exact ⟨'n', _, rfl, by decide⟩
  | bool b =>
    cases b with
    | true => exact ⟨'t', _, rfl, by decide⟩
    | false => exact ⟨'f', _, rfl, by decide⟩
  | int n h =>
    rcases intText_cases n with ⟨c, t, hct, hc⟩ | ⟨c, t, hct, _⟩
    · refine ⟨c, t, hct, ?_, (ne_of_isDigit hc rfl).symm, (ne_of_isDigit hc rfl).symm⟩
      have hspace : ∀ d, d.isDigit = false → (c == d) = false := by
        intro d hd
        exact beq_eq_false_iff_ne.mpr (ne_of_isDigit hc hd).symm
      simp [isSpace, hspace]
    · exact ⟨'-', c :: t, hct, by decide⟩
  | string s => exact ⟨'"', _, rfl, by decide⟩
  | array items h =>
    cases items with
    | nil => exact ⟨'[', _, rfl, by decide⟩
    | cons j js => exact ⟨'[', _, rfl, by decide⟩
  | object fields _ h =>
    cases fields with
    | nil => exact ⟨'\x7b', _, rfl, by decide⟩
    | cons f fs => exact ⟨'\x7b', _, rfl, by decide⟩

theorem value_literal (s : String) (rest : List Char) {fuel room : Nat} (hf : 0 < fuel) :
    value fuel room (literal s ++ rest) = .ok (.string s, rest) := by
  obtain ⟨fuel, rfl⟩ := Nat.exists_eq_add_one.mpr hf
  have h := stringLiteral_literal s rest
  obtain ⟨t, ht⟩ : ∃ t, literal s ++ rest = '"' :: t := ⟨_, rfl⟩
  rw [ht] at h ⊢
  rw [value, h]
  rfl

/-- No word looks like an integer: the only one that starts with a sign goes on with a letter. -/
theorem word?_intText (n : Int) (rest : List Char) : word? (intText n ++ rest) = none := by
  rcases intText_cases n with ⟨c, t, hct, hc⟩ | ⟨c, t, hct, hc⟩
  · have hne : ∀ d, d.isDigit = false → d ≠ c := fun d hd => ne_of_isDigit hc hd
    rw [hct]
    simp [word?, words, afterLiteral, hne]
  · have hne : 'I' ≠ c := ne_of_isDigit hc rfl
    rw [hct]
    simp [word?, words, afterLiteral, hne]

/-- What starts with none of the opening marks is a word or a number. -/
theorem value_of_unmarked {c : Char} (t : List Char) (fuel room : Nat)
    (h : c ≠ '"' ∧ c ≠ '[' ∧ c ≠ '\x7b') :
    value (fuel + 1) room (c :: t) =
      match word? (c :: t) with
      | some r => .ok r
      | none => (number? (c :: t)).getD (.error (.fault .value (c :: t))) := by
  obtain ⟨hquote, hbracket, hbrace⟩ := h
  unfold value
  split
  next heq => exact absurd (List.cons.inj heq).1 hquote
  next heq => exact absurd (List.cons.inj heq).1 hbracket
  next heq => exact absurd (List.cons.inj heq).1 hbrace
  next => rfl

theorem value_intText {n : Int} {rest : List Char} {fuel room : Nat} (hf : 0 < fuel)
    (hn : (Nat.toDigits 10 n.natAbs).length ≤ maxDigits) (hr : Stops rest) :
    value fuel room (intText n ++ rest) = .ok (.int n, rest) := by
  obtain ⟨fuel, rfl⟩ := Nat.exists_eq_add_one.mpr hf
  have hword := word?_intText n rest
  have hnumber := number?_intText hr hn
  have hunmarked : ∃ c t, intText n = c :: t ∧ c ≠ '"' ∧ c ≠ '[' ∧ c ≠ '\x7b' := by
    rcases intText_cases n with ⟨c, t, hct, hc⟩ | ⟨c, t, hct, _⟩
    · exact ⟨c, t, hct, (ne_of_isDigit hc rfl).symm, (ne_of_isDigit hc rfl).symm,
        (ne_of_isDigit hc rfl).symm⟩
    · exact ⟨'-', c :: t, hct, by decide⟩
  obtain ⟨c, t, hct, hmarks⟩ := hunmarked
  rw [hct, List.cons_append] at hword hnumber ⊢
  rw [value_of_unmarked _ _ _ hmarks, hword, hnumber]
  rfl

/-- With this room the reader inverts the printer on `j`, whatever stands after it. -/
def ReadsBack (l : Layout) (room : Nat) (j : Json) : Prop :=
  ∀ (depth : Nat) (rest : List Char) (fuel : Nat), Stops rest → (write l depth j).length ≤ fuel →
    value fuel room (write l depth j ++ rest) = .ok (j, rest)

theorem stops_writeItems {l : Layout} (hl : l.IsBlank) (depth : Nat) (js : List Json)
    (rest : List Char) : Stops (writeItems l depth js ++ (l.close depth ++ ']' :: rest)) := by
  cases js with
  | nil =>
    simp only [writeItems, List.nil_append]
    exact stops_blanks (hl.close depth) (stops_cons (by decide))
  | cons j js =>
    simp only [writeItems, List.cons_append]
    exact stops_cons (by decide)

/-- The items of an array, by induction on those after the first. -/
theorem items_write {l : Layout} (hl : l.IsBlank) (depth fuel : Nat) {room : Nat}
    (rest : List Char) {j : Json} {js : List Json} (hplain : ∀ i ∈ j :: js, IsPlain i)
    (hback : ∀ i ∈ j :: js, ReadsBack l room i)
    (hf : (write l (depth + 1) j).length + (writeItems l depth js).length < fuel) :
    items fuel room
        (write l (depth + 1) j ++ (writeItems l depth js ++ (l.close depth ++ ']' :: rest)))
      = .ok (j :: js, rest) := by
  induction js generalizing j fuel with
  | nil =>
    obtain ⟨fuel, rfl⟩ := Nat.exists_eq_add_one.mpr (Nat.lt_of_le_of_lt (Nat.zero_le _) hf)
    have hvalue := hback j (List.mem_cons_self ..) (depth + 1) _ fuel
      (stops_writeItems hl depth [] rest) (by omega)
    rw [items, hvalue]
    simp only [writeItems, List.nil_append]
    rw [skip_blanks (hl.close depth) (starts_cons (by decide))]
    rfl
  | cons i js ih =>
    obtain ⟨fuel, rfl⟩ := Nat.exists_eq_add_one.mpr (Nat.lt_of_le_of_lt (Nat.zero_le _) hf)
    have hvalue := hback j (List.mem_cons_self ..) (depth + 1) _ fuel
      (stops_writeItems hl depth (i :: js) rest) (by omega)
    rw [items, hvalue]
    simp only [writeItems, List.cons_append, List.append_assoc, List.length_cons,
      List.length_append] at hf ⊢
    rw [skip_of_starts (starts_cons (by decide))]
    obtain ⟨c, t, hct, hc, _⟩ := write_eq_cons l (depth + 1) (hplain i (by simp))
    have hstart : Starts (write l (depth + 1) i ++
        (writeItems l depth js ++ (l.close depth ++ ']' :: rest))) := by
      rw [hct]
      exact starts_cons hc
    simp only
    rw [skip_blanks (hl.lead depth) hstart]
    rw [ih fuel (fun k hk => hplain k (List.mem_cons_of_mem _ hk))
      (fun k hk => hback k (List.mem_cons_of_mem _ hk)) (by omega)]
    rfl

theorem not_mem_keys_before {before fs : List (String × Json)} {key : String} {j : Json}
    (h : ((before ++ (key, j) :: fs).map (·.1)).Nodup) : key ∉ before.map (·.1) := by
  rw [List.map_append, List.nodup_append] at h
  intro hkey
  exact h.2.2 key hkey key (List.mem_cons_self ..) rfl

theorem stops_writeFields {l : Layout} (hl : l.IsBlank) (depth : Nat) (fs : List (String × Json))
    (rest : List Char) : Stops (writeFields l depth fs ++ (l.close depth ++ '\x7d' :: rest)) := by
  cases fs with
  | nil =>
    simp only [writeFields, List.nil_append]
    exact stops_blanks (hl.close depth) (stops_cons (by decide))
  | cons f fs =>
    simp only [writeFields, List.cons_append]
    exact stops_cons (by decide)

/-- One field, up to what its value leaves. -/
theorem members_field {l : Layout} (hl : l.IsBlank) {depth fuel room : Nat} {key : String}
    {j : Json} (hplain : IsPlain j) (hback : ReadsBack l room j) {before : List (String × Json)}
    {rest : List Char} (hr : Stops rest) (hf : (write l (depth + 1) j).length ≤ fuel) :
    members (fuel + 1) room before (literal key ++ (l.colon ++ (write l (depth + 1) j ++ rest))) =
      match skip rest with
      | '\x7d' :: t => .ok (Entries.put before key j, t)
      | ',' :: t => members fuel room (Entries.put before key j) (skip t)
      | t => .error (.fault .comma t) := by
  obtain ⟨blanks, hcolon, hblanks⟩ := hl.colon
  obtain ⟨c, t, hct, hc, _⟩ := write_eq_cons l (depth + 1) hplain
  have hstart : Starts (write l (depth + 1) j ++ rest) := by
    rw [hct]
    exact starts_cons hc
  have hkey := stringLiteral_literal key (l.colon ++ (write l (depth + 1) j ++ rest))
  have hvalue := hback (depth + 1) rest fuel hr hf
  obtain ⟨k, hk⟩ : ∃ k, literal key ++ (l.colon ++ (write l (depth + 1) j ++ rest)) = '"' :: k :=
    ⟨_, rfl⟩
  rw [hk] at hkey ⊢
  rw [members, hkey, hcolon, List.cons_append]
  simp only
  rw [skip_of_starts (starts_cons (by decide))]
  simp only
  rw [skip_blanks hblanks hstart]
  exact hvalue ▸ rfl

/-- The fields of an object, by induction on those after the first. -/
theorem members_write {l : Layout} (hl : l.IsBlank) (depth fuel : Nat) {room : Nat}
    (rest : List Char) (before : List (String × Json)) {key : String} {j : Json}
    {fs : List (String × Json)} (hdistinct : ((before ++ (key, j) :: fs).map (·.1)).Nodup)
    (hplain : ∀ f ∈ (key, j) :: fs, IsPlain f.2)
    (hback : ∀ f ∈ (key, j) :: fs, ReadsBack l room f.2)
    (hf : (write l (depth + 1) j).length + (writeFields l depth fs).length < fuel) :
    members fuel room before (literal key ++ (l.colon ++ (write l (depth + 1) j ++
        (writeFields l depth fs ++ (l.close depth ++ '\x7d' :: rest)))))
      = .ok (before ++ (key, j) :: fs, rest) := by
  induction fs generalizing before key j fuel with
  | nil =>
    obtain ⟨fuel, rfl⟩ := Nat.exists_eq_add_one.mpr (Nat.lt_of_le_of_lt (Nat.zero_le _) hf)
    have hfresh := not_mem_keys_before hdistinct
    have hj : IsPlain j := hplain (key, j) (List.mem_cons_self ..)
    rw [members_field hl hj (hback (key, j) (List.mem_cons_self ..))
      (stops_writeFields hl depth [] rest) (Nat.le_of_lt_succ (Nat.lt_of_add_right_lt hf))]
    simp only [writeFields, List.nil_append]
    rw [skip_blanks (hl.close depth) (starts_cons (by decide)), Entries.put_of_fresh j hfresh]
    rfl
  | cons f fs ih =>
    obtain ⟨key', j'⟩ := f
    obtain ⟨fuel, rfl⟩ := Nat.exists_eq_add_one.mpr (Nat.lt_of_le_of_lt (Nat.zero_le _) hf)
    have hfresh := not_mem_keys_before hdistinct
    have hj : IsPlain j := hplain (key, j) (List.mem_cons_self ..)
    rw [members_field hl hj (hback (key, j) (List.mem_cons_self ..))
      (stops_writeFields hl depth _ rest) (Nat.le_of_lt_succ (Nat.lt_of_add_right_lt hf))]
    simp only [writeFields, List.cons_append, List.append_assoc, List.length_cons,
      List.length_append] at hf ⊢
    rw [skip_of_starts (starts_cons (by decide)), Entries.put_of_fresh j hfresh]
    simp only
    rw [skip_blanks (hl.lead depth) (starts_literal key' _)]
    rw [ih fuel (before ++ [(key, j)]) (by rwa [List.append_assoc])
      (fun g hg => hplain g (List.mem_cons_of_mem _ hg))
      (fun g hg => hback g (List.mem_cons_of_mem _ hg)) (by omega), List.append_assoc]
    rfl

theorem readsBack_array {l : Layout} (hl : l.IsBlank) {room : Nat} {j : Json} {js : List Json}
    (hplain : ∀ i ∈ j :: js, IsPlain i) (hback : ∀ i ∈ j :: js, ReadsBack l room i) :
    ReadsBack l (room + 1) (.array (j :: js)) := by
  intro depth rest fuel _ hf
  simp only [write, List.cons_append, List.append_assoc, List.nil_append, List.length_cons,
    List.length_append] at hf ⊢
  obtain ⟨fuel, rfl⟩ := Nat.exists_eq_add_one.mpr (Nat.lt_of_lt_of_le (Nat.succ_pos _) hf)
  obtain ⟨c, t, hct, hc, hclose, _⟩ := write_eq_cons l (depth + 1) (hplain j (by simp))
  have hitems := items_write hl depth fuel rest hplain hback (by omega)
  rw [hct, List.cons_append] at hitems ⊢
  rw [value, skip_blanks (hl.lead depth) (starts_cons hc)]
  split
  -- no item starts with the mark that would close an empty array
  · next heq => exact absurd (List.cons.inj heq).1 hclose
  · rw [hitems]
    rfl

theorem readsBack_object {l : Layout} (hl : l.IsBlank) {room : Nat} {key : String} {j : Json}
    {fs : List (String × Json)} (hdistinct : (((key, j) :: fs).map (·.1)).Nodup)
    (hplain : ∀ f ∈ (key, j) :: fs, IsPlain f.2)
    (hback : ∀ f ∈ (key, j) :: fs, ReadsBack l room f.2) :
    ReadsBack l (room + 1) (.object ((key, j) :: fs)) := by
  intro depth rest fuel _ hf
  simp only [write, List.cons_append, List.append_assoc, List.nil_append, List.length_cons,
    List.length_append] at hf ⊢
  obtain ⟨fuel, rfl⟩ := Nat.exists_eq_add_one.mpr (Nat.lt_of_lt_of_le (Nat.succ_pos _) hf)
  have hfields := members_write hl depth fuel rest [] hdistinct hplain hback (by omega)
  rw [value, skip_blanks (hl.lead depth) (starts_literal key _)]
  split
  · next heq => exact absurd (List.cons.inj heq).1 (by decide)
  · rw [hfields]
    rfl

/-- **Values read back.** By induction on the value. The words and the empty brackets are closed
    texts, and evaluate. -/
theorem value_write {l : Layout} (hl : l.IsBlank) {j : Json} (h : IsPlain j) {room : Nat}
    (hroom : j.nestsIn room = true) : ReadsBack l room j := by
  induction h generalizing room with
  | null =>
    intro depth rest fuel _ hf
    obtain ⟨fuel, rfl⟩ := Nat.exists_eq_add_one.mpr (Nat.lt_of_lt_of_le (by decide : 0 < 4) hf)
    exact value_of_unmarked _ fuel room (by decide)
  | bool b =>
    intro depth rest fuel _ hf
    cases b with
    | true =>
      obtain ⟨fuel, rfl⟩ := Nat.exists_eq_add_one.mpr (Nat.lt_of_lt_of_le (by decide : 0 < 4) hf)
      exact value_of_unmarked _ fuel room (by decide)
    | false =>
      obtain ⟨fuel, rfl⟩ := Nat.exists_eq_add_one.mpr (Nat.lt_of_lt_of_le (by decide : 0 < 5) hf)
      exact value_of_unmarked _ fuel room (by decide)
  | int n hn =>
    intro depth rest fuel hr hf
    obtain ⟨c, t, hct, _⟩ := write_eq_cons l depth (.int n hn)
    rw [hct, List.length_cons] at hf
    exact value_intText (Nat.lt_of_lt_of_le (Nat.succ_pos _) hf) hn hr
  | string s =>
    intro depth rest fuel _ hf
    exact value_literal s rest (Nat.lt_of_lt_of_le (Nat.succ_pos _) hf)
  | array items hplain ih =>
    obtain ⟨room, rfl, hitems⟩ := exists_room_of_array hroom
    cases items with
    | nil =>
      intro depth rest fuel _ hf
      obtain ⟨fuel, rfl⟩ := Nat.exists_eq_add_one.mpr (Nat.lt_of_lt_of_le (by decide : 0 < 2) hf)
      rfl
    | cons j js => exact readsBack_array hl hplain fun i hi => ih i hi (hitems i hi)
  | object fields hdistinct hplain ih =>
    obtain ⟨room, rfl, hfields⟩ := exists_room_of_object hroom
    cases fields with
    | nil =>
      intro depth rest fuel _ hf
      obtain ⟨fuel, rfl⟩ := Nat.exists_eq_add_one.mpr (Nat.lt_of_lt_of_le (by decide : 0 < 2) hf)
      rfl
    | cons f fs => exact readsBack_object hl hdistinct hplain fun g hg => ih g hg (hfields g hg)

/-! ## Whole texts -/

/-- **Written JSON reads back** when there is room for it. -/
theorem parse_render {j : Json} (h : IsPlain j) {room : Nat} (hroom : j.nestsIn room = true) :
    parse room j.render.toList = .ok j := by
  obtain ⟨c, t, hct, hc, _, hbom⟩ := write_eq_cons .indented 0 h
  have hvalue := value_write isBlank_indented h hroom 0 [] (2 * (write .indented 0 j).length + 2)
    stops_nil (by omega)
  rw [List.append_nil] at hvalue
  unfold render parse
  rw [String.toList_ofList, if_neg (by rw [hct]; simpa using hbom),
    skip_of_starts (by rw [hct]; exact starts_cons hc), hvalue]
  rfl

/-! ## Line breaks

A file is read with its line breaks unified. That leaves written JSON alone: the only line breaks in
it are line feeds. -/

theorem hexDigit_ne_return {n : Nat} (h : n < 16) : '\r' ≠ hexDigit n := by
  have hall : ∀ n : Fin 16, '\r' ≠ hexDigit n.val := by decide
  exact hall ⟨n, h⟩

theorem return_not_mem_unitEscape (n : Nat) : '\r' ∉ unitEscape n := by
  unfold unitEscape hex4
  simp only [List.mem_cons, List.not_mem_nil, or_false, not_or]
  exact ⟨by decide, by decide, hexDigit_ne_return (Nat.mod_lt _ (by decide)),
    hexDigit_ne_return (Nat.mod_lt _ (by decide)), hexDigit_ne_return (Nat.mod_lt _ (by decide)),
    hexDigit_ne_return (Nat.mod_lt _ (by decide))⟩

theorem return_not_mem_escapeChar (c : Char) : '\r' ∉ escapeChar c := by
  intro h
  rcases escapeChar_cases c with ⟨d, hw, hd⟩ | ⟨hw, hc, _⟩ | ⟨hw, _⟩ | ⟨hi, lo, hw, _⟩
  · rw [hw, List.mem_cons, List.mem_singleton] at h
    rcases h with h | rfl
    · cases h
    · cases hd
  · rw [hw, List.mem_singleton] at h
    rw [← h] at hc
    exact absurd hc (by decide)
  · rw [hw] at h
    exact return_not_mem_unitEscape _ h
  · rw [hw, List.mem_append] at h
    rcases h with h | h
    · exact return_not_mem_unitEscape _ h
    · exact return_not_mem_unitEscape _ h

theorem return_not_mem_literal (s : String) : '\r' ∉ literal s := by
  unfold literal escape
  simp only [List.mem_append, List.mem_cons, List.mem_flatMap, List.not_mem_nil, or_false, not_or]
  refine ⟨⟨by decide, ?_⟩, by decide⟩
  rintro ⟨c, _, hc⟩
  exact return_not_mem_escapeChar c hc

theorem return_not_mem_intText (n : Int) : '\r' ∉ intText n := by
  unfold intText
  rw [List.mem_append]
  rintro (h | h)
  · split at h <;> simp at h
  · cases all_isDigit_toDigits _ _ h

theorem return_not_mem_newline (depth : Nat) : '\r' ∉ newline depth := by
  unfold newline
  simp

theorem return_not_mem_writeItems (depth : Nat) {js : List Json}
    (h : ∀ j ∈ js, ∀ depth, '\r' ∉ write .indented depth j) :
    '\r' ∉ writeItems .indented depth js := by
  induction js with
  | nil => simp [writeItems]
  | cons j js ih =>
    have hj := h j (List.mem_cons_self ..) (depth + 1)
    have hjs := ih fun i hi => h i (List.mem_cons_of_mem _ hi)
    have hlead := return_not_mem_newline (depth + 1)
    simp [writeItems, Layout.indented, hlead] at hj hjs ⊢
    exact ⟨hj, hjs⟩

theorem return_not_mem_writeFields (depth : Nat) {fs : List (String × Json)}
    (h : ∀ f ∈ fs, ∀ depth, '\r' ∉ write .indented depth f.2) :
    '\r' ∉ writeFields .indented depth fs := by
  induction fs with
  | nil => simp [writeFields]
  | cons f fs ih =>
    have hf := h f (List.mem_cons_self ..) (depth + 1)
    have hfs := ih fun g hg => h g (List.mem_cons_of_mem _ hg)
    have hkey := return_not_mem_literal f.1
    have hlead := return_not_mem_newline (depth + 1)
    simp [writeFields, Layout.indented, hlead, hkey] at hf hfs ⊢
    exact ⟨hf, hfs⟩

theorem return_not_mem_write {j : Json} (h : IsPlain j) (depth : Nat) :
    '\r' ∉ write .indented depth j := by
  induction h generalizing depth with
  | null => simp [write]
  | bool b => cases b <;> simp [write]
  | int n _ => exact return_not_mem_intText n
  | string s => exact return_not_mem_literal s
  | array items _ ih =>
    cases items with
    | nil => simp [write]
    | cons j js =>
      have hj := ih j (List.mem_cons_self ..) (depth + 1)
      have hjs := return_not_mem_writeItems depth fun i hi => ih i (List.mem_cons_of_mem _ hi)
      have hlead := return_not_mem_newline
      simp [write, Layout.indented, hlead] at hj hjs ⊢
      exact ⟨hj, hjs⟩
  | object fields _ _ ih =>
    cases fields with
    | nil => simp [write]
    | cons f fs =>
      have hf := ih f (List.mem_cons_self ..) (depth + 1)
      have hfs := return_not_mem_writeFields depth fun g hg => ih g (List.mem_cons_of_mem _ hg)
      have hkey := return_not_mem_literal f.1
      have hlead := return_not_mem_newline
      simp [write, Layout.indented, hlead, hkey] at hf hfs ⊢
      exact ⟨hf, hfs⟩

theorem unifyNewlines_render {j : Json} (h : IsPlain j) :
    unifyNewlines j.render.toList = j.render.toList := by
  refine unifyNewlines_of_not_mem ?_
  rw [render, String.toList_ofList]
  exact return_not_mem_write h 0

end Json

end SpringRoutes
