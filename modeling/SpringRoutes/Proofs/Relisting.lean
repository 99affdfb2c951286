import SpringRoutes.Discovery
import SpringRoutes.Proofs.Files

/-!
# `SpringRoutes.Proofs.Relisting` — trees listed in another order

A disk lists the entries of a directory in an order of its own. `Tree.Relisted` takes a tree to one in
which any directories, at any depth, list their entries in another order. As long as no directory has
two entries of one name (`Tree.isDistinct`), every way leads to the same thing in both
(`alike_of_relisted`), and whatever is read along a path is the same: looking, reading, settings and
ignore rules cannot tell the trees apart (the lemmas `_alike`).
-/

namespace SpringRoutes

namespace Tree

/-! ## Distinct names -/

mutual

/-- Whether no directory in a tree has two entries of one name. -/
def isDistinct : Tree → Bool
  | .file _ | .loop => true
  | .dir es => decide (es.map (·.1)).Nodup && areDistinct es

/-- Whether the trees of entries have distinct names. -/
def areDistinct : List (String × Tree) → Bool
  | [] => true
  | (_, t) :: rest => isDistinct t && areDistinct rest

end

theorem areDistinct_iff {es : List (String × Tree)} :
    areDistinct es = true ↔ ∀ e ∈ es, e.2.isDistinct = true := by
  induction es with
  | nil => simp [areDistinct]
  | cons e es ih =>
    obtain ⟨n, t⟩ := e
    simp [areDistinct, ih]

theorem isDistinct_dir {es : List (String × Tree)} :
    (dir es).isDistinct = true ↔
      (es.map (·.1)).Nodup ∧ ∀ e ∈ es, e.2.isDistinct = true := by
  rw [isDistinct, Bool.and_eq_true, decide_eq_true_iff, areDistinct_iff]

theorem isDistinct_find? {t u : Tree} {way : List String} (h : t.isDistinct = true)
    (hf : t.find? way = some u) : u.isDistinct = true := by
  induction way generalizing t with
  | nil =>
    cases hf
    exact h
  | cons n way ih =>
    obtain ⟨v, hv, hf⟩ := Option.bind_eq_some_iff.mp hf
    rw [eq_dir_of_lookup hv, isDistinct_dir] at h
    exact ih (h.2 _ (Entries.mem_of_lookup hv)) hf

/-! ## Another order -/

/-- The second tree is the first one with the entries of some directories in another order. -/
inductive Relisted : Tree → Tree → Prop
  | refl (t : Tree) : Relisted t t
  | perm {es ds : List (String × Tree)} (h : es.Perm ds) : Relisted (.dir es) (.dir ds)
  | entry (es ds : List (String × Tree)) (name : String) {t u : Tree} (h : Relisted t u) :
      Relisted (.dir (es ++ (name, t) :: ds)) (.dir (es ++ (name, u) :: ds))
  | trans {t u v : Tree} (h : Relisted t u) (h' : Relisted u v) : Relisted t v

theorem isDistinct_relisted {t u : Tree} (h : Relisted t u) (ht : t.isDistinct = true) :
    u.isDistinct = true := by
  induction h with
  | refl t => exact ht
  | perm h =>
    rw [isDistinct_dir] at ht ⊢
    exact ⟨(h.map (·.1)).nodup_iff.mp ht.1, fun e he => ht.2 e (h.mem_iff.mpr he)⟩
  | entry es ds name _ ih =>
    rw [isDistinct_dir, List.forall_mem_append, List.forall_mem_cons] at ht ⊢
    obtain ⟨hnames, hes, hhere, hds⟩ := ht
    exact ⟨by simpa using hnames, hes, ih hhere, hds⟩
  | trans _ _ ih ih' => exact ih' (ih ht)

theorem every_relisted {name : String → Bool} {content : Option Content → Bool} {t u : Tree}
    (h : Relisted t u) (ht : t.every name content = true) : u.every name content = true := by
  induction h with
  | refl t => exact ht
  | perm h =>
    rw [every_dir] at ht ⊢
    exact fun e he => ht e (h.mem_iff.mpr he)
  | entry es ds n _ ih =>
    rw [every_dir, List.forall_mem_append, List.forall_mem_cons] at ht ⊢
    obtain ⟨hes, ⟨hn, hhere⟩, hds⟩ := ht
    exact ⟨hes, ⟨hn, ih hhere⟩, hds⟩
  | trans _ _ ih ih' => exact ih' (ih ht)

/-! ## What a way leads to -/

/-- A tree without what is in it: a directory loses its entries. -/
def surface : Tree → Tree
  | .file c => .file c
  | .loop => .loop
  | .dir _ => .dir []

theorem isDir_surface (t : Tree) : t.surface.isDir = t.isDir := by
  cases t <;> rfl

/-- Every way leads to a file with the same content, to a directory, to a link, or to nothing, in
    both trees. -/
def Alike (t u : Tree) : Prop :=
  ∀ way, (u.find? way).map surface = (t.find? way).map surface

/-- **The order of entries does not matter for what a way leads to.** -/
theorem alike_of_relisted {t u : Tree} (h : Relisted t u) (ht : t.isDistinct = true) :
    t.Alike u := by
  induction h with
  | refl t => exact fun _ => rfl
  | perm h =>
    intro way
    cases way with
    | nil => rfl
    | cons n way =>
      simp only [find?, entries_dir]
      rw [Entries.lookup_perm (isDistinct_dir.mp ht).1 h.symm]
  | @entry es ds name t u _ ih =>
    intro way
    have hinner : t.isDistinct = true :=
      (isDistinct_dir.mp ht).2 _ (List.mem_append_right es (List.mem_cons_self ..))
    cases way with
    | nil => rfl
    | cons n way =>
      simp only [find?, entries_dir, List.lookup_append, List.lookup_cons]
      cases es.lookup n with
      | some v => rfl
      | none =>
        cases n == name with
        | true => exact ih hinner way
        | false => rfl
  | trans h _ ih ih' =>
    intro way
    exact (ih' (isDistinct_relisted h ht) way).trans (ih ht way)

theorem Alike.symm {t u : Tree} (h : t.Alike u) : u.Alike t :=
  fun way => (h way).symm

/-- Trees that are alike are so below the end of each way. -/
theorem Alike.below {t u t' u' : Tree} {place : List String} (h : t.Alike u)
    (ht : t.find? place = some t') (hu : u.find? place = some u') : t'.Alike u' := by
  intro way
  have hway := h (place ++ way)
  rwa [find?_append, find?_append, ht, hu] at hway

/-- What two trees that are alike have at the end of a way. -/
theorem Alike.find?_cases {t u : Tree} (h : t.Alike u) (way : List String) :
    (t.find? way = none ∧ u.find? way = none) ∨
    (∃ c, t.find? way = some (.file c) ∧ u.find? way = some (.file c)) ∨
    (t.find? way = some .loop ∧ u.find? way = some .loop) ∨
    ∃ es ds, t.find? way = some (.dir es) ∧ u.find? way = some (.dir ds) := by
  have hway := h way
  cases ht : t.find? way with
  | none =>
    rw [ht] at hway
    exact .inl ⟨rfl, Option.map_eq_none_iff.mp hway⟩
  | some v =>
    rw [ht] at hway
    obtain ⟨v', hv', hsurface⟩ := Option.map_eq_some_iff.mp hway
    rw [hv']
    cases v with
    | file c =>
      cases v' with
      | file c' =>
        cases hsurface
        exact .inr (.inl ⟨c, rfl, rfl⟩)
      | loop => cases hsurface
      | dir ds => cases hsurface
    | loop =>
      cases v' with
      | file c' => cases hsurface
      | loop => exact .inr (.inr (.inl ⟨rfl, rfl⟩))
      | dir ds => cases hsurface
    | dir es =>
      cases v' with
      | file c' => cases hsurface
      | loop => cases hsurface
      | dir ds => exact .inr (.inr (.inr ⟨es, ds, rfl, rfl⟩))

end Tree

/-! ## Reading along paths -/

namespace Workspace

/-- Walking stops at the same step or ends at the same place. -/
theorem walk_alike {t u : Tree} (h : t.Alike u) (here : Place) (parts : List String) :
    (∃ kind, walk t here parts = .error kind ∧ walk u here parts = .error kind) ∨
      ∃ p, walk t here parts = .ok (p, t.find? p) ∧ walk u here parts = .ok (p, u.find? p) := by
  induction parts generalizing here with
  | nil => exact .inr ⟨here, rfl, rfl⟩
  | cons n parts ih =>
    rw [walk, walk]
    rcases h.find?_cases here with ⟨ht, hu⟩ | ⟨c, ht, hu⟩ | ⟨ht, hu⟩ | ⟨es, ds, ht, hu⟩
    · rw [ht, hu]
      exact .inl ⟨_, rfl, rfl⟩
    · rw [ht, hu]
      exact .inl ⟨_, rfl, rfl⟩
    · rw [ht, hu]
      exact .inl ⟨_, rfl, rfl⟩
    · rw [ht, hu]
      exact ih (here.follow n)

section Alike

variable (w : Workspace) {u : Tree} (h : w.tree.Alike u)

include h

theorem look_alike (p : WrittenPath) :
    (∃ kind, w.look p = .error kind ∧ ({ w with tree := u } : Workspace).look p = .error kind) ∨
      ∃ q, w.look p = .ok (q, w.tree.find? q) ∧
        ({ w with tree := u } : Workspace).look p = .ok (q, u.find? q) := by
  unfold look
  by_cases habs : p.isAbsolute = true
  · rw [if_pos habs, if_pos habs]
    exact walk_alike h [] p.parts
  · rw [if_neg habs, if_neg habs]
    cases w.cwd with
    | none => exact .inl ⟨_, rfl, rfl⟩
    | some here => exact walk_alike h here p.parts

theorem find?_alike (p : WrittenPath) :
    (({ w with tree := u } : Workspace).find? p).map Tree.surface
      = (w.find? p).map Tree.surface := by
  unfold find?
  rcases look_alike w h p with ⟨kind, hw, hu⟩ | ⟨q, hw, hu⟩
  · rw [hw, hu]
  · rw [hw, hu]
    rcases h.find?_cases q with ⟨ht, hu⟩ | ⟨c, ht, hu⟩ | ⟨ht, hu⟩ | ⟨es, ds, ht, hu⟩
    · rw [ht, hu]
    · rw [ht, hu]
    · rw [ht, hu]
    · rw [ht, hu]
      rfl

theorem loops_alike (p : WrittenPath) :
    ({ w with tree := u } : Workspace).loops p = w.loops p := by
  unfold loops
  rcases look_alike w h p with ⟨kind, hw, hu⟩ | ⟨q, hw, hu⟩
  · rw [hw, hu]
  · rw [hw, hu]
    rcases h.find?_cases q with ⟨ht, hu⟩ | ⟨c, ht, hu⟩ | ⟨ht, hu⟩ | ⟨es, ds, ht, hu⟩
    · rw [ht, hu]
    · rw [ht, hu]
    · rw [ht, hu]
    · rw [ht, hu]
      rfl

theorem resolve_alike (p : WrittenPath) :
    ({ w with tree := u } : Workspace).resolve p = w.resolve p := by
  have hreach : ∀ q, ({ w with tree := u } : Workspace).reach q = w.reach q := by
    intro q
    unfold reach
    rw [loops_alike w h]
  unfold resolve
  simp only [hreach]
  rfl

theorem placeOf_alike (s : String) :
    ({ w with tree := u } : Workspace).placeOf s = w.placeOf s := by
  have hexpand : ({ w with tree := u } : Workspace).expand (.ofString s) = w.expand (.ofString s) :=
    rfl
  unfold placeOf
  rw [hexpand]
  cases w.expand (.ofString s) with
  | error e => rfl
  | ok p => exact resolve_alike w h p

theorem hasEntry_alike (p : WrittenPath) :
    ({ w with tree := u } : Workspace).hasEntry p = w.hasEntry p := by
  have hsurface := congrArg Option.isSome (find?_alike w h p)
  rwa [Option.isSome_map, Option.isSome_map] at hsurface

theorem isDir_alike (p : WrittenPath) :
    ({ w with tree := u } : Workspace).isDir p = w.isDir p := by
  have hdir : ∀ o : Option Tree, o.any Tree.isDir = (o.map Tree.surface).any Tree.isDir := by
    intro o
    rw [Option.any_map]
    congr 1
    funext t
    exact t.isDir_surface.symm
  unfold isDir
  rw [hdir, find?_alike w h p, ← hdir]

theorem isFile_alike (p : WrittenPath) :
    ({ w with tree := u } : Workspace).isFile p = w.isFile p := by
  have hfile : ∀ o : Option Tree,
      (o.any fun t => !t.isDir) = (o.map Tree.surface).any fun t => !t.isDir := by
    intro o
    rw [Option.any_map]
    congr 1
    funext t
    exact congrArg (!·) t.isDir_surface.symm
  unfold isFile
  rw [hfile, find?_alike w h p, ← hfile]

theorem read_alike (p : WrittenPath) : ({ w with tree := u } : Workspace).read p = w.read p := by
  unfold read
  rcases look_alike w h p with ⟨kind, hw, hu⟩ | ⟨q, hw, hu⟩
  · rw [hw, hu]
  · rw [hw, hu]
    rcases h.find?_cases q with ⟨ht, hu⟩ | ⟨c, ht, hu⟩ | ⟨ht, hu⟩ | ⟨es, ds, ht, hu⟩
    · rw [ht, hu]
    · rw [ht, hu]
    · rw [ht, hu]
    · rw [ht, hu]

end Alike

end Workspace

/-! ## Settings and rules -/

section Alike

variable (w : Workspace) {u : Tree} (h : w.tree.Alike u)

include h

theorem Settings.load_alike (p : WrittenPath) :
    Settings.load { w with tree := u } p = Settings.load w p := by
  have hplace : Settings.place { w with tree := u } p = Settings.place w p := by
    have hexpand : ({ w with tree := u } : Workspace).expand p = w.expand p := rfl
    unfold Settings.place
    rw [hexpand]
    cases w.expand p with
    | error e => rfl
    | ok q =>
      simp only [Bind.bind, Except.bind, Workspace.isDir_alike w h, Workspace.resolve_alike w h]
  unfold Settings.load Settings.readValue Workspace.readText
  simp only [hplace, Workspace.hasEntry_alike w h, Workspace.read_alike w h]

theorem Discovery.rules_alike (root : Place) (excludes : List String) :
    Discovery.rules { w with tree := u } root excludes = Discovery.rules w root excludes := by
  unfold Discovery.rules Workspace.readLossy
  simp only [Workspace.isFile_alike w h, Workspace.read_alike w h]

end Alike

end SpringRoutes
