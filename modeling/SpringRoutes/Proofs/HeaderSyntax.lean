import SpringRoutes.Outline.Header
import SpringRoutes.Proofs.Recognisers

/-!
# `SpringRoutes.Proofs.HeaderSyntax` — type headers as they are written

The syntax of a type header in two layers. A header is a tree (`Header`) with a list of tokens, and
tokens are written one after another with any blanks between them, at least one between two words
(`Spelled`). A dotted name is one token.

The words `extends` and `implements` open clauses. The first of them also opens the bounds of type
parameters, `<T extends B & C>`, and of wildcards among type arguments, `<? extends B>`. What stands
after the first occurrence of such a word (`textAfter?`) can therefore differ from what the clause
of a header names:

* `textAfter?_parameters` — after the first `extends` stands the first bound of a parameter, if
  there is one;
* `not_mem_types`, `not_mem_parameters` — `implements` occurs in front of its clause nowhere.
-/

namespace SpringRoutes

open Text

/-! ## Names -/

/-- The words that open a clause of a header. -/
inductive ClauseWord
  | ofExtends
  | ofImplements
  deriving Repr, DecidableEq

def ClauseWord.text : ClauseWord → String
  | .ofExtends => "extends"
  | .ofImplements => "implements"

/-- Whether a text is made of ASCII letters, digits and underscores, starts with no digit, and opens
    no clause. -/
def isIdentifier (s : List Char) : Bool :=
  s.head?.any (fun c => !c.isDigit) && s.all isAsciiWord && s != "extends".toList
    && s != "implements".toList

/-- An identifier. -/
structure Identifier where
  chars : List Char
  valid : isIdentifier chars = true
  deriving Repr, DecidableEq

/-- The name of a type: identifiers with dots between them. -/
structure TypeName where
  qualifier : List Identifier
  simple : Identifier
  deriving Repr, DecidableEq

def TypeName.chars (n : TypeName) : List Char :=
  (n.qualifier.flatMap fun i => i.chars ++ ['.']) ++ n.simple.chars

/-! ## Tokens -/

/-- The marks between names. -/
inductive Mark
  | less
  | greater
  | comma
  | ampersand
  | question
  | brace
  deriving Repr, DecidableEq

def Mark.char : Mark → Char
  | .less => '<'
  | .greater => '>'
  | .comma => ','
  | .ampersand => '&'
  | .question => '?'
  | .brace => '\x7b'

/-- A token of a header after the name that it declares. -/
inductive HeaderToken
  | clause (w : ClauseWord)
  | name (n : TypeName)
  | mark (m : Mark)
  deriving Repr, DecidableEq

namespace HeaderToken

def chars : HeaderToken → List Char
  | clause w => w.text.toList
  | name n => n.chars
  | mark m => [m.char]

/-- Whether blanks have to keep the token from another one of this kind. -/
def isWord : HeaderToken → Bool
  | clause _ => true
  | name _ => true
  | mark _ => false

end HeaderToken

/-- The tokens are written as a text, where `afterWord` tells whether a word stands before it. -/
inductive Spelled : Bool → List HeaderToken → List Char → Prop
  | nil {afterWord : Bool} : Spelled afterWord [] []
  | cons {afterWord : Bool} {t : HeaderToken} {ts : List HeaderToken} {gap rest : List Char}
    (hgap : AllBlank gap) (hapart : afterWord = true → t.isWord = true → gap ≠ [])
    (hrest : Spelled t.isWord ts rest) : Spelled afterWord (t :: ts) (gap ++ (t.chars ++ rest))

/-! ## Types -/

/-- A type argument, or a type: a name with arguments of its own. -/
inductive TypeUse
  | named (name : TypeName) (arguments : List TypeUse)
  | wildcard
  | upTo (bound : TypeUse)
  | downTo (bound : TypeUse)

/-- The word in front of the bound of a wildcard from below. -/
def superName : TypeName := ⟨[], ⟨"super".toList, by decide⟩⟩

mutual

def TypeUse.tokens : TypeUse → List HeaderToken
  | .named name arguments => .name name :: argumentTokens arguments
  | .wildcard => [.mark .question]
  | .upTo bound => .mark .question :: .clause .ofExtends :: bound.tokens
  | .downTo bound => .mark .question :: .name superName :: bound.tokens

/-- Type arguments in angle brackets. -/
def argumentTokens : List TypeUse → List HeaderToken
  | [] => []
  | t :: ts => .mark .less :: (t.tokens ++ (furtherTokens ts ++ [.mark .greater]))

/-- Type arguments after the first one. -/
def furtherTokens : List TypeUse → List HeaderToken
  | [] => []
  | t :: ts => .mark .comma :: (t.tokens ++ furtherTokens ts)

end

/-- A type that a clause can name. -/
structure ClassType where
  name : TypeName
  arguments : List TypeUse := []

def ClassType.tokens (t : ClassType) : List HeaderToken :=
  .name t.name :: argumentTokens t.arguments

/-- The name of a type without what qualifies it. -/
def ClassType.simpleName (t : ClassType) : String :=
  String.ofList t.name.simple.chars

/-- A clause word and the types that it opens; without types there is no clause. -/
def clauseTokens (w : ClauseWord) (sep : Mark) : List ClassType → List HeaderToken
  | [] => []
  | t :: ts => .clause w :: (t.tokens ++ ts.flatMap fun u => .mark sep :: u.tokens)

/-! ## Headers -/

/-- A type parameter with its bounds. -/
structure TypeParameter where
  name : Identifier
  bounds : List ClassType := []

def TypeParameter.tokens (p : TypeParameter) : List HeaderToken :=
  .name ⟨[], p.name⟩ :: clauseTokens .ofExtends .ampersand p.bounds

/-- Type parameters in angle brackets; without parameters there are none. -/
def parameterTokens : List TypeParameter → List HeaderToken
  | [] => []
  | p :: ps =>
    .mark .less ::
      (p.tokens ++ ((ps.flatMap fun q => .mark .comma :: q.tokens) ++ [.mark .greater]))

/-- What a header names besides the type that it declares. -/
inductive Supertypes
  | ofInterface (extended : List ClassType)
  | ofClass (extended implemented : List ClassType)

namespace Supertypes

def kind : Supertypes → TypeKind
  | ofInterface _ => .ofInterface
  | ofClass _ _ => .ofClass

def tokens : Supertypes → List HeaderToken
  | ofInterface extended => clauseTokens .ofExtends .comma extended
  | ofClass extended implemented =>
    clauseTokens .ofExtends .comma extended ++ clauseTokens .ofImplements .comma implemented

end Supertypes

/-- A type header, perhaps with the brace that opens the body. -/
structure Header where
  name : Identifier
  parameters : List TypeParameter := []
  supertypes : Supertypes
  opensBody : Bool := false

namespace Header

/-- The tokens after the declared name. -/
def tokens (h : Header) : List HeaderToken :=
  parameterTokens h.parameters ++
    (h.supertypes.tokens ++ if h.opensBody then [.mark .brace] else [])

/-- The bounds of all type parameters in their order. -/
def bounds (h : Header) : List ClassType :=
  h.parameters.flatMap (·.bounds)

end Header

/-- The keyword of a kind of types. -/
def TypeKind.keyword : TypeKind → String
  | .ofClass => "class"
  | .ofInterface => "interface"

/-- Modifiers, each with at least one blank after it. -/
inductive IsModifiers : List Char → Prop
  | nil : IsModifiers []
  | cons {m : String} {b : Char} {gap s : List Char} (hm : m ∈ typeModifiers)
    (hb : isBlank b = true) (hgap : AllBlank gap) (hs : IsModifiers s) :
    IsModifiers (m.toList ++ b :: (gap ++ s))

/-- The line is the header: modifiers, the keyword, the declared name and the tokens after it, with
    any blanks where there may be some. -/
inductive Header.IsWritten (h : Header) : List Char → Prop
  | intro {modifiers gap rest : List Char} {b : Char} (hmodifiers : IsModifiers modifiers)
    (hb : isBlank b = true) (hgap : AllBlank gap) (hrest : Spelled true h.tokens rest) :
    IsWritten h
      (modifiers ++ (h.supertypes.kind.keyword.toList ++ b :: (gap ++ (h.name.chars ++ rest))))

/-! ## What stands after a clause word -/

/-- The text of a token that is a word. -/
def HeaderToken.wordText? : HeaderToken → Option (List Char)
  | clause w => some w.text.toList
  | name n => some n.chars
  | mark _ => none

/-- What stands after the first occurrence of a clause word that a word follows. -/
def textAfter? (w : ClauseWord) : List HeaderToken → Option (List Char)
  | [] => none
  | .clause v :: ts =>
    if v = w then (ts.head?.bind HeaderToken.wordText?).or (textAfter? w ts) else textAfter? w ts
  | .name _ :: ts => textAfter? w ts
  | .mark _ :: ts => textAfter? w ts

theorem textAfter?_append {w : ClauseWord} {ts : List HeaderToken} (h : HeaderToken.clause w ∉ ts)
    (us : List HeaderToken) : textAfter? w (ts ++ us) = textAfter? w us := by
  induction ts with
  | nil => rfl
  | cons t ts ih =>
    rw [List.mem_cons, not_or] at h
    rw [List.cons_append]
    cases t with
    | clause v =>
      have hne : v ≠ w := by
        rintro rfl
        exact h.1 rfl
      rw [textAfter?, if_neg hne, ih h.2]
    | name n => rw [textAfter?, ih h.2]
    | mark m => rw [textAfter?, ih h.2]

theorem textAfter?_clauseTokens (w : ClauseWord) (sep : Mark) (ts : List ClassType)
    (us : List HeaderToken) :
    textAfter? w (clauseTokens w sep ts ++ us)
      = (ts.head?.map (·.name.chars)).or (textAfter? w us) := by
  cases ts with
  | nil => rfl
  | cons t ts =>
    show textAfter? w (.clause w :: .name t.name :: _) = _
    rw [textAfter?, if_pos rfl]
    rfl

/-! ### Bounds come before clauses -/

theorem textAfter?_parameter (p : TypeParameter) (us : List HeaderToken) :
    textAfter? .ofExtends (p.tokens ++ us)
      = (p.bounds.head?.map (·.name.chars)).or (textAfter? .ofExtends us) := by
  show textAfter? .ofExtends (.name _ :: (clauseTokens .ofExtends .ampersand p.bounds ++ us)) = _
  rw [textAfter?, textAfter?_clauseTokens]

theorem textAfter?_furtherParameters (ps : List TypeParameter) (us : List HeaderToken) :
    textAfter? .ofExtends ((ps.flatMap fun q => .mark .comma :: q.tokens) ++ us)
      = ((ps.flatMap (·.bounds)).head?.map (·.name.chars)).or (textAfter? .ofExtends us) := by
  induction ps with
  | nil => rfl
  | cons p ps ih =>
    rw [List.flatMap_cons, List.flatMap_cons, List.append_assoc, List.cons_append, textAfter?,
      textAfter?_parameter, ih, List.head?_append]
    cases p.bounds with
    | nil => rfl
    | cons b bs => rfl

/-- **The first `extends` of a header opens the first bound of a parameter, if there is one.** -/
theorem textAfter?_parameters (ps : List TypeParameter) (us : List HeaderToken) :
    textAfter? .ofExtends (parameterTokens ps ++ us)
      = ((ps.flatMap (·.bounds)).head?.map (·.name.chars)).or (textAfter? .ofExtends us) := by
  cases ps with
  | nil => rfl
  | cons p ps =>
    have hmark : textAfter? .ofExtends ([.mark .greater] ++ us) = textAfter? .ofExtends us := rfl
    rw [parameterTokens, List.cons_append, textAfter?, List.append_assoc, textAfter?_parameter,
      List.append_assoc, textAfter?_furtherParameters, hmark, List.flatMap_cons, List.head?_append]
    cases p.bounds with
    | nil => rfl
    | cons b bs => rfl

/-! ### `implements` occurs nowhere else -/

mutual

theorem not_mem_typeUse : ∀ t : TypeUse, HeaderToken.clause .ofImplements ∉ t.tokens
  | .named name arguments => by
    have harguments := not_mem_arguments arguments
    simp [TypeUse.tokens, harguments]
  | .wildcard => by simp [TypeUse.tokens]
  | .upTo bound => by
    have hbound := not_mem_typeUse bound
    simp [TypeUse.tokens, hbound]
  | .downTo bound => by
    have hbound := not_mem_typeUse bound
    simp [TypeUse.tokens, hbound]

theorem not_mem_arguments :
    ∀ ts : List TypeUse, HeaderToken.clause .ofImplements ∉ argumentTokens ts
  | [] => by simp [argumentTokens]
  | t :: ts => by
    have ht := not_mem_typeUse t
    have hts := not_mem_further ts
    simp [argumentTokens, ht, hts]

theorem not_mem_further : ∀ ts : List TypeUse, HeaderToken.clause .ofImplements ∉ furtherTokens ts
  | [] => by simp [furtherTokens]
  | t :: ts => by
    have ht := not_mem_typeUse t
    have hts := not_mem_further ts
    simp [furtherTokens, ht, hts]

end

/-- Neither bounds nor extended types hold the word `implements`. -/
theorem not_mem_types (sep : Mark) (ts : List ClassType) :
    HeaderToken.clause .ofImplements ∉ clauseTokens .ofExtends sep ts := by
  have htype : ∀ t : ClassType, HeaderToken.clause .ofImplements ∉ t.tokens := by
    intro t
    have harguments := not_mem_arguments t.arguments
    simp [ClassType.tokens, harguments]
  cases ts with
  | nil => simp [clauseTokens]
  | cons t ts => simp [clauseTokens, htype]

theorem not_mem_parameters (ps : List TypeParameter) :
    HeaderToken.clause .ofImplements ∉ parameterTokens ps := by
  have hparameter : ∀ p : TypeParameter, HeaderToken.clause .ofImplements ∉ p.tokens := by
    intro p
    have hbounds := not_mem_types .ampersand p.bounds
    simp [TypeParameter.tokens, hbounds]
  cases ps with
  | nil => simp [parameterTokens]
  | cons p ps => simp [parameterTokens, hparameter]

/-! ### The clauses of a header -/

theorem textAfter?_brace (w : ClauseWord) (opensBody : Bool) :
    textAfter? w (if opensBody then [.mark .brace] else []) = none := by
  cases opensBody <;> rfl

/-- After the first `extends` of an interface stands the first bound, else the first type of its
    clause. -/
theorem Header.textAfter?_extends {h : Header} {extended : List ClassType}
    (hkind : h.supertypes = .ofInterface extended) :
    textAfter? .ofExtends h.tokens = (h.bounds ++ extended).head?.map (·.name.chars) := by
  unfold Header.tokens Supertypes.tokens
  rw [hkind, textAfter?_parameters, textAfter?_clauseTokens, textAfter?_brace, Option.or_none,
    List.head?_append]
  show (h.bounds.head?.map _).or _ = _
  cases h.bounds with
  | nil => rfl
  | cons b bs => rfl

/-- After the first `implements` of a class stands the first type of its clause. -/
theorem Header.textAfter?_implements {h : Header} {extended implemented : List ClassType}
    (hkind : h.supertypes = .ofClass extended implemented) :
    textAfter? .ofImplements h.tokens = implemented.head?.map (·.name.chars) := by
  unfold Header.tokens Supertypes.tokens
  rw [hkind, textAfter?_append (not_mem_parameters _)]
  dsimp only
  rw [List.append_assoc, textAfter?_append (not_mem_types _ _), textAfter?_clauseTokens,
    textAfter?_brace, Option.or_none]

end SpringRoutes
