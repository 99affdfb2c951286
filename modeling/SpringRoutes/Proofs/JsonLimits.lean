import SpringRoutes.Proofs.JsonKeys

/-!
# `SpringRoutes.Proofs.JsonLimits` — long numbers and deep brackets

The JSON reader refuses an integer of more digits than it takes, and a bracket that it has no room
for. Both refusals are set apart from all others, and mean what they say: the text has a run of that
many digits in it (`hasLongNumber_of_parse`), or more opening brackets than there is room for
(`lt_openings_of_parse`). So a text with neither is read or has an ordinary fault. Brackets that
follow one another are always too many at some point, whatever comes after them
(`parse_of_brackets`).

The number or the bracket may stand anywhere, and the reader has then moved on from the start of the
text. All its parts stay in the text that they are given (`StaysIn`): what they leave to be read is
the end of it, and what they find too long or too deep stands in it.
-/

namespace SpringRoutes

open Text

namespace Json

/-- A text has a run of `n` digits, and these are too many for a number. -/
def HasLongNumber (s : List Char) (n : Nat) : Prop :=
  maxDigits < n ∧ ∃ ds, ds <:+: s ∧ ds.length = n ∧ ∀ c ∈ ds, c.isDigit = true

/-- A long number in the end of a text stands in the text. -/
theorem HasLongNumber.of_suffix {s t : List Char} {n : Nat} (h : HasLongNumber s n)
    (hst : s <:+ t) : HasLongNumber t n := by
  obtain ⟨hn, ds, hds, hlength, hdigits⟩ := h
  exact ⟨hn, ds, hds.trans hst.isInfix, hlength, hdigits⟩

/-- How many opening brackets a text has. -/
def openings (s : List Char) : Nat :=
  s.countP fun c => c == '[' || c == '\x7b'

theorem openings_le_of_suffix {s t : List Char} (hst : s <:+ t) : openings s ≤ openings t :=
  hst.sublist.countP_le

/-- A reader with room for so many brackets stays in the text `s`: it leaves the end of it, numbers
    that it finds too long stand in it, and it finds no room only for lack of it. -/
structure StaysIn {α : Type} (room : Nat) (s : List Char) (r : Read α) : Prop where
  rest : ∀ {a rest}, r = .ok (a, rest) → rest <:+ s
  number : ∀ {n}, r = .error (.digits n) → HasLongNumber s n
  nested : ∀ {b}, r = .error (.nested b) → room < openings s

section StaysIn

variable {α β : Type} {room : Nat} {s t : List Char} {r : Read α}

theorem staysIn_ok {rest : List Char} (a : α) (h : rest <:+ s) :
    StaysIn room s (.ok (a, rest) : Read α) where
  rest heq := by
    cases heq
    exact h
  number heq := by cases heq
  nested heq := by cases heq

/-- A fault says nothing about numbers and room. -/
theorem staysIn_fault (s : List Char) (what : Fault) (rest : List Char) :
    StaysIn room s (.error (.fault what rest) : Read α) where
  rest heq := by cases heq
  number heq := by cases heq
  nested heq := by cases heq

/-- What stays in the end of a text stays in the text. -/
theorem StaysIn.of_suffix (h : StaysIn room s r) (hst : s <:+ t) : StaysIn room t r where
  rest heq := (h.rest heq).trans hst
  number heq := (h.number heq).of_suffix hst
  nested heq := Nat.lt_of_lt_of_le (h.nested heq) (openings_le_of_suffix hst)

/-- An opening bracket takes room, and is one more opening bracket. -/
theorem StaysIn.of_opening {c : Char} (h : StaysIn room s r) (hst : s <:+ t)
    (hc : c = '[' ∨ c = '\x7b') : StaysIn (room + 1) (c :: t) r where
  rest heq := ((h.rest heq).trans hst).trans (List.suffix_cons c t)
  number heq := ((h.number heq).of_suffix hst).of_suffix (List.suffix_cons c t)
  nested heq := by
    have hopening : openings (c :: t) = openings t + 1 := by
      rcases hc with rfl | rfl <;> exact List.countP_cons_of_pos rfl
    rw [hopening]
    exact Nat.succ_lt_succ (Nat.lt_of_lt_of_le (h.nested heq) (openings_le_of_suffix hst))

/-- Without room no bracket can be opened. -/
theorem staysIn_nested {c : Char} (b : Bracket) (t : List Char) (hc : c = '[' ∨ c = '\x7b') :
    StaysIn 0 (c :: t) (.error (.nested b) : Read α) where
  rest heq := by cases heq
  number heq := by cases heq
  nested _ := by
    rcases hc with rfl | rfl <;> exact List.countP_pos_iff.mpr ⟨_, List.mem_cons_self .., rfl⟩

theorem StaysIn.error {e : ReadError} (h : StaysIn room s (.error e : Read α)) :
    StaysIn room s (.error e : Read β) where
  rest heq := by cases heq
  number heq := by
    cases heq
    exact h.number rfl
  nested heq := by
    cases heq
    exact h.nested rfl

/-- What is made of a value does not matter. -/
theorem StaysIn.map (h : StaysIn room s r) (f : α → β) :
    StaysIn room s (r.map fun p => (f p.1, p.2)) := by
  cases r with
  | error e => exact h.error
  | ok p =>
    obtain ⟨a, rest⟩ := p
    exact staysIn_ok (f a) (h.rest rfl)

end StaysIn

theorem skip_suffix (s : List Char) : skip s <:+ s :=
  List.dropWhile_suffix _

theorem suffix_of_skip {s t : List Char} {c : Char} (h : skip s = c :: t) : t <:+ s :=
  (List.suffix_cons c t).trans (h ▸ skip_suffix s)

/-! ## Strings, words and numbers -/

/-- What is left after a unit of four digits is the end of the text. -/
theorem suffix_of_unit? {s t : List Char} {n : Nat} (h : unit? s = some (n, t)) : t <:+ s := by
  unfold unit? at h
  split at h
  · next a b c d e r =>
    simp only [Option.bind_eq_bind, Option.bind_eq_some_iff, Option.some.injEq,
      Prod.mk.injEq] at h
    obtain ⟨_, _, _, _, _, _, _, _, _, rfl⟩ := h
    exact List.suffix_append [a, b, c, d] (e :: r)
  · cases h

/-- What is left after the second half of a pair is the end of the text. -/
theorem suffix_of_pairAfter? {s t : List Char} {n : Nat} {c : Char}
    (h : pairAfter? n s = some (c, t)) : t <:+ s := by
  unfold pairAfter? at h
  split at h
  · split at h
    · next u =>
      split at h
      · next hunit =>
        split at h
        · obtain ⟨_, rfl⟩ := Prod.mk.inj (Option.some.inj h)
          exact (suffix_of_unit? hunit).trans (List.suffix_append ['\\', 'u'] u)
        · cases h
      · cases h
    · cases h
  · cases h

/-- The rest of a string literal, by induction on the fuel. -/
theorem staysIn_scanString (room : Nat) (start : List Char) (fuel : Nat) (s : List Char) :
    StaysIn room s (scanString start fuel s) := by
  induction fuel generalizing s with
  | zero => exact staysIn_fault s _ _
  | succ fuel ih =>
    unfold scanString
    split
    · exact staysIn_fault _ _ _
    · exact staysIn_ok [] (List.suffix_cons _ _)
    · split
      · exact staysIn_fault _ _ _
      · next t =>
        split
        · exact staysIn_fault _ _ _
        · next n u hunit =>
          have hu := (suffix_of_unit? hunit).trans (List.suffix_append ['\\', 'u'] t)
          split
          · next c v hpair =>
            exact ((ih v).of_suffix ((suffix_of_pairAfter? hpair).trans hu)).map (c :: ·)
          · exact ((ih u).of_suffix hu).map (loneUnit n :: ·)
      · next c t _ =>
        split
        · next c' _ => exact ((ih t).of_suffix (List.suffix_append ['\\', c] t)).map (c' :: ·)
        · exact staysIn_fault _ _ _
    · next c r _ _ =>
      split
      · exact staysIn_fault _ _ _
      · exact ((ih r).of_suffix (List.suffix_cons c r)).map (c :: ·)

theorem staysIn_stringLiteral (room : Nat) (s : List Char) :
    StaysIn room s (stringLiteral s) := by
  have hscan := staysIn_scanString room s (s.length + 1) (s.drop 1)
  exact (hscan.of_suffix (List.drop_suffix 1 s)).map String.ofList

/-- What is left after a word is the end of the text. -/
theorem suffix_of_word? {s rest : List Char} {j : Json} (h : word? s = some (j, rest)) :
    rest <:+ s := by
  obtain ⟨w, _, hfound⟩ := List.exists_of_findSome?_eq_some h
  obtain ⟨r, hr, heq⟩ := Option.map_eq_some_iff.mp hfound
  cases heq
  exact ⟨w.1, (eq_append_of_afterLiteral hr).symm⟩

/-- The digits before the point and the text after them make up the text. -/
theorem eq_append_of_whole? {s ds r : List Char} (h : whole? s = some (ds, r)) : s = ds ++ r := by
  unfold whole? at h
  split at h
  · cases h
    rfl
  · split at h
    · cases h
      exact List.takeWhile_append_dropWhile.symm
    · cases h
  · cases h

/-- What is left after the digits behind the point is the end of the text. -/
theorem suffix_decimals (s : List Char) : (decimals s).2 <:+ s := by
  unfold decimals
  split
  · next r =>
    split
    · exact List.suffix_rfl
    · exact (List.dropWhile_suffix _).trans (List.suffix_cons '.' r)
  · exact List.suffix_rfl

/-- What is left after an exponent is the end of the text. -/
theorem suffix_of_exponent? {s r : List Char} {e : Int} (h : exponent? s = some (e, r)) :
    r <:+ s := by
  unfold exponent? at h
  split at h
  · next c t =>
    split at h
    · simp only at h
      split at h
      · cases h
      · obtain ⟨_, rfl⟩ := Prod.mk.inj (Option.some.inj h)
        refine (List.dropWhile_suffix _).trans ?_
        -- a sign may stand before the digits
        split
        · exact List.suffix_append [c, '-'] _
        · exact List.suffix_append [c, '+'] _
        · exact List.suffix_cons c t
    · cases h
  · cases h

/-- A number too long to be read is refused with as many digits as it has. -/
theorem staysIn_unsigned? {room : Nat} {negative : Bool} {s : List Char} {r : Read Json}
    (h : unsigned? negative s = some r) : StaysIn room s r := by
  obtain ⟨⟨ds, t⟩, hwhole, hread⟩ := Option.map_eq_some_iff.mp h
  obtain rfl := eq_append_of_whole? hwhole
  have hrest := (suffix_decimals t).trans (List.suffix_append ds t)
  simp only at hread
  split at hread
  · split at hread
    · next hlong =>
      subst hread
      exact
        { rest := fun heq => by cases heq
          number := fun heq => by
            cases heq
            exact ⟨hlong, ds, (List.prefix_append ds t).isInfix, rfl, (whole?_eq_some hwhole).2⟩
          nested := fun heq => by cases heq }
    · subst hread
      exact staysIn_ok _ hrest
  · subst hread
    refine staysIn_ok _ ?_
    cases he : exponent? (decimals t).2 with
    | none => exact hrest
    | some p =>
      obtain ⟨e, u⟩ := p
      exact (suffix_of_exponent? he).trans hrest

/-- A sign does not matter. -/
theorem staysIn_number? {room : Nat} (s : List Char) :
    StaysIn room s ((number? s).getD (.error (.fault .value s))) := by
  unfold number?
  split
  · next r =>
    cases h : unsigned? true r with
    | none => exact staysIn_fault _ _ _
    | some o => exact (staysIn_unsigned? h).of_suffix (List.suffix_cons '-' r)
  · cases h : unsigned? false s with
    | none => exact staysIn_fault _ _ _
    | some o => exact staysIn_unsigned? h

/-! ## Values -/

section Step

variable {fuel room : Nat} (hvalue : ∀ s, StaysIn room s (value fuel room s))

include hvalue

/-- An array has the same room for each of its items. -/
theorem staysIn_items_step (hitems : ∀ s, StaysIn room s (items fuel room s)) (s : List Char) :
    StaysIn room s (items (fuel + 1) room s) := by
  have hfirst := hvalue s
  rw [items]
  split
  · next e he =>
    rw [he] at hfirst
    exact hfirst.error
  · next j r hj =>
    have hr : r <:+ s := hfirst.rest hj
    split
    · next t ht => exact staysIn_ok [j] ((suffix_of_skip ht).trans hr)
    · next t ht =>
      have ht := (skip_suffix t).trans ((suffix_of_skip ht).trans hr)
      exact ((hitems (skip t)).of_suffix ht).map (j :: ·)
    · exact staysIn_fault _ _ _

/-- An object has the same room for each of its values. -/
theorem staysIn_members_step
    (hmembers : ∀ before s, StaysIn room s (members fuel room before s))
    (before : List (String × Json)) (s : List Char) :
    StaysIn room s (members (fuel + 1) room before s) := by
  unfold members
  split
  · next tail =>
    have hkey := staysIn_stringLiteral room ('"' :: tail)
    split
    · next he =>
      rw [he] at hkey
      exact hkey.error
    · next key r hr =>
      have hr := hkey.rest hr
      split
      · next t ht =>
        have ht : skip t <:+ '"' :: tail := (skip_suffix t).trans ((suffix_of_skip ht).trans hr)
        have hj := (hvalue (skip t)).of_suffix ht
        split
        · next he =>
          rw [he] at hj
          exact hj.error
        · next j u hu =>
          have hu := hj.rest hu
          simp only
          split
          · next v hv => exact staysIn_ok _ ((suffix_of_skip hv).trans hu)
          · next v hv =>
            have hv := (skip_suffix v).trans ((suffix_of_skip hv).trans hu)
            exact (hmembers _ (skip v)).of_suffix hv
          · exact staysIn_fault _ _ _
      · exact staysIn_fault _ _ _
  · exact staysIn_fault _ _ _

end Step

/-- **Only a bracket takes room,** and what it encloses has one less. -/
theorem staysIn_value_step {fuel : Nat} (hitems : ∀ room s, StaysIn room s (items fuel room s))
    (hmembers : ∀ room before s, StaysIn room s (members fuel room before s)) (room : Nat)
    (s : List Char) : StaysIn room s (value (fuel + 1) room s) := by
  unfold value
  split
  · exact (staysIn_stringLiteral _ _).map Json.string
  · next r =>
    cases room with
    | zero => exact staysIn_nested .array r (.inl rfl)
    | succ room =>
      dsimp only
      split
      · next t ht => exact staysIn_ok _ ((suffix_of_skip ht).trans (List.suffix_cons '[' r))
      · exact ((hitems room (skip r)).of_opening (skip_suffix r) (.inl rfl)).map Json.array
  · next r =>
    cases room with
    | zero => exact staysIn_nested .object r (.inr rfl)
    | succ room =>
      dsimp only
      split
      · next t ht => exact staysIn_ok _ ((suffix_of_skip ht).trans (List.suffix_cons _ r))
      · exact ((hmembers room [] (skip r)).of_opening (skip_suffix r) (.inr rfl)).map Json.object
  · split
    · next r hword => exact staysIn_ok r.1 (suffix_of_word? hword)
    · exact staysIn_number? _

/-- Values, items and fields together, by induction on the fuel that they share. -/
theorem staysIn_read (fuel : Nat) :
    (∀ room s, StaysIn room s (value fuel room s)) ∧
      (∀ room s, StaysIn room s (items fuel room s)) ∧
      ∀ room before s, StaysIn room s (members fuel room before s) := by
  induction fuel with
  | zero =>
    exact ⟨fun _ s => staysIn_fault s _ _, fun _ s => staysIn_fault s _ _,
      fun _ _ s => staysIn_fault s _ _⟩
  | succ fuel ih =>
    obtain ⟨hvalue, hitems, hmembers⟩ := ih
    exact ⟨staysIn_value_step hitems hmembers,
      fun room => staysIn_items_step (hvalue room) (hitems room),
      fun room => staysIn_members_step (hvalue room) (hmembers room)⟩

/-- A text that is refused as a whole is refused where its first value is read, or has an ordinary
    fault. -/
theorem value_eq_error_of_parse {room : Nat} {s : List Char} {e : ReadError}
    (h : parse room s = .error e) :
    value (2 * s.length + 2) room (skip s) = .error e ∨ ∃ what rest, e = .fault what rest := by
  unfold parse at h
  split at h
  · cases h
    exact .inr ⟨_, _, rfl⟩
  · split at h
    · next he =>
      cases h
      exact .inl he
    · split at h
      · cases h
      · cases h
        exact .inr ⟨_, _, rfl⟩

/-- **A text that is refused for a long number has one.** -/
theorem hasLongNumber_of_parse {room : Nat} {s : List Char} {n : Nat}
    (h : parse room s = .error (.digits n)) : HasLongNumber s n := by
  rcases value_eq_error_of_parse h with hvalue | ⟨what, rest, heq⟩
  · have hstays := (staysIn_read (2 * s.length + 2)).1 room (skip s)
    exact (hstays.number hvalue).of_suffix (skip_suffix s)
  · cases heq

/-- **A text that is refused for its nesting has more opening brackets than there is room for.** -/
theorem lt_openings_of_parse {room : Nat} {s : List Char} {b : Bracket}
    (h : parse room s = .error (.nested b)) : room < openings s := by
  rcases value_eq_error_of_parse h with hvalue | ⟨what, rest, heq⟩
  · have hstays := (staysIn_read (2 * s.length + 2)).1 room (skip s)
    exact Nat.lt_of_lt_of_le (hstays.nested hvalue) (openings_le_of_suffix (skip_suffix s))
  · cases heq

/-! ## Brackets that follow one another -/

/-- Each bracket takes room until the last finds none, by induction on the room. -/
theorem value_of_brackets {room fuel : Nat} (hf : 2 * room < fuel) (t : List Char) :
    value fuel room (List.replicate (room + 1) '[' ++ t) = .error (.nested .array) := by
  induction room generalizing fuel with
  | zero =>
    obtain ⟨fuel, rfl⟩ := Nat.exists_eq_add_one.mpr hf
    rfl
  | succ room ih =>
    obtain ⟨fuel, rfl⟩ : ∃ k, fuel = k + 2 := ⟨fuel - 2, by omega⟩
    -- the first bracket opens an array whose first item starts with the others
    have hitem : value fuel room (List.replicate (room + 1) '[' ++ t) = .error (.nested .array) :=
      ih (by omega)
    have hitems : items (fuel + 1) room (List.replicate (room + 1) '[' ++ t)
        = .error (.nested .array) := by
      rw [items, hitem]
    rw [List.replicate_succ, List.cons_append] at hitems ⊢
    unfold value
    exact congrArg (Except.map _) hitems

/-- **More brackets than there is room for are refused,** whatever follows them. -/
theorem parse_of_brackets (room : Nat) (t : List Char) :
    parse room (List.replicate (room + 1) '[' ++ t) = .error (.nested .array) := by
  have hfuel : 2 * room < 2 * (List.replicate (room + 1) '[' ++ t).length + 2 := by
    rw [List.length_append, List.length_replicate]
    omega
  have hvalue := value_of_brackets hfuel t
  unfold parse
  rw [if_neg (by simp [List.replicate_succ])]
  have hskip : skip (List.replicate (room + 1) '[' ++ t) = List.replicate (room + 1) '[' ++ t := rfl
  rw [hskip, hvalue]

end Json

end SpringRoutes
