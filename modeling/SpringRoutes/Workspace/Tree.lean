import SpringRoutes.Entries
import SpringRoutes.Text.Utf8

/-!
# `SpringRoutes.Workspace.Tree` — file trees

A tree has files, directories and symbolic links that lead to themselves. Such a link is listed with
its directory, but it can be neither resolved, read nor entered. Names are texts. Links that lead to
another place, permissions, other kinds of entries and names that are no texts are left out.

## Contents
- `Content`: what a file holds, as text or as bytes.
- `Tree`: files, directories and links.
- `Tree.find?`, `Tree.set`, `Tree.erase`: looking up, putting and removing by the names on the way.
-/

namespace SpringRoutes

/-- What a file holds. Text stands for its UTF-8 bytes. -/
inductive Content
  | text (s : String)
  | bytes (b : List Nat)
  deriving Repr, DecidableEq

namespace Content

/-- The bytes of a content. -/
def toBytes : Content → List Nat
  | .text s => Utf8.encode s.toList
  | .bytes b => b

/-- The text of a content, or where it is ill-formed. -/
def decode : Content → Except Utf8.Fault (List Char)
  | .text s => .ok s.toList
  | .bytes b => Utf8.decode b

/-- The text of a content without ill-formed bytes. -/
def decodeLossy : Content → List Char
  | .text s => s.toList
  | .bytes b => Utf8.decodeLossy b

/-- The content followed by a text. -/
def append (c : Content) (t : String) : Content :=
  match c with
  | .text s => .text (s ++ t)
  | .bytes b => .bytes (b ++ Utf8.encode t.toList)

end Content

/-- A file, a directory with its named entries, or a symbolic link that leads to itself. -/
inductive Tree
  | file (content : Content)
  | dir (entries : List (String × Tree))
  | loop
  deriving Repr, Inhabited

namespace Tree

/-- The entries of a directory; files and links have none. -/
def entries : Tree → List (String × Tree)
  | .file _ | .loop => []
  | .dir es => es

/-- Whether a tree is a directory. -/
def isDir : Tree → Bool
  | .file _ | .loop => false
  | .dir _ => true

/-- What is at the end of a link, if anything is: nothing for one that leads to itself. -/
def followed? : Tree → Option Tree
  | .loop => none
  | t => some t

/-- The tree at the end of a way. -/
def find? (t : Tree) : List String → Option Tree
  | [] => some t
  | n :: ns => (t.entries.lookup n).bind fun u => u.find? ns

/-- The tree with another one at the end of a way; directories that are missing on the way are
    made. -/
def set (t : Tree) : List String → Tree → Tree
  | [], u => u
  | n :: ns, u => .dir (Entries.put t.entries n (((t.entries.lookup n).getD (.dir [])).set ns u))

/-- The tree without what is at the end of a way. -/
def erase (t : Tree) : List String → Tree
  | [] => .dir []
  | [n] => .dir (Entries.drop t.entries n)
  | n :: ns =>
    match t.entries.lookup n with
    | some u => .dir (Entries.put t.entries n (u.erase ns))
    | none => t

end Tree

end SpringRoutes
