import SpringRoutes.Proofs.ScanReads

/-!
# `SpringRoutes.Proofs.Sessions` — requests, clock moves and edits in a row

A session is a workspace with a cache. Its events are requests, which are answered and may change
both, and edits, which change the workspace behind the cache's back: the clock is set, another
directory is entered, a tree is put somewhere, something is removed.

* `Session.step` is one event and `Session.answers` the answers to the requests of a whole list;
* `Workspace.permits` says which events leave the folders for results alone, and `Session.permits`
  asks it of each event of a list in the state in which it happens.
-/

namespace SpringRoutes

/-! ## Sessions -/

/-- A request about the project at a path; without a path it is about the project around the current
    directory. -/
inductive Request
  | scan (path : Option String) (refresh : Bool)
  | info (path : Option String)
  | forget (path : Option String)

/-- The path that a request names. -/
def Request.path : Request → Option String
  | .scan path _ => path
  | .info path => path
  | .forget path => path

/-- The answer to a request. -/
inductive Answer
  | table (result : Except Failure Project.Table)
  | info (result : Except Failure Store.Info)
  | forgotten (result : Except Failure Bool)
  deriving DecidableEq

/-- What else happens to a workspace. -/
inductive Edit
  | setClock (now : Moment)
  | enter (place : Place) (proper : place.isProper = true)
  | put (place : Place) (tree : Tree)
  | remove (place : Place)

/-- The workspace after an edit. A current directory that is removed is gone. -/
def Workspace.edit (w : Workspace) : Edit → Workspace
  | .setClock now => { w with now }
  | .enter place _ => { w with cwd := some place }
  | .put place tree => { w with tree := w.tree.set place tree }
  | .remove place =>
    { w with
      tree := w.tree.erase place
      cwd := w.cwd.filter fun here => !place.isPrefixOf here }

/-- One event of a session. -/
inductive Act
  | request (r : Request)
  | edit (e : Edit)

/-- The files and the cache between two events. -/
structure Session where
  workspace : Workspace
  cache : Cache

namespace Session

variable (scanner : Scanner)

/-- The answer to a request, and the session after it. -/
def answer (s : Session) : Request → Answer × Session
  | .scan path refresh =>
    let o := Project.scan scanner s.cache s.workspace path refresh
    (.table o.reply.result, ⟨o.workspace, o.cache⟩)
  | .info path =>
    let o := Project.info s.cache s.workspace path
    (.info o.reply.result, ⟨o.workspace, o.cache⟩)
  | .forget path =>
    let o := Project.forget s.cache s.workspace path
    (.forgotten o.reply.result, ⟨o.workspace, o.cache⟩)

/-- The answer to an event, if it is a request, and the session after it. -/
def step (s : Session) : Act → Option Answer × Session
  | .request r => ((s.answer scanner r).1, (s.answer scanner r).2)
  | .edit e => (none, { s with workspace := s.workspace.edit e })

/-- The answers in a session. -/
def answers (s : Session) : List Act → List Answer
  | [] => []
  | a :: acts => (s.step scanner a).1.toList ++ answers (s.step scanner a).2 acts

end Session

/-! ## Proper workspaces -/

/-- An edit leaves the workspace one whose directories have names that directories can have. -/
theorem Workspace.isProper_edit {w : Workspace} (h : w.isProper = true) (e : Edit) :
    (w.edit e).isProper = true := by
  obtain ⟨hhome, hcwd⟩ := Bool.and_eq_true_iff.mp h
  cases e with
  | setClock now => exact h
  | put place tree => exact h
  | enter place hplace => exact Bool.and_eq_true_iff.mpr ⟨hhome, hplace⟩
  | remove place =>
    refine Bool.and_eq_true_iff.mpr ⟨hhome, ?_⟩
    change (w.cwd.filter fun here => !place.isPrefixOf here).all Place.isProper = true
    cases hwd : w.cwd with
    | none => rfl
    | some here =>
      rw [hwd] at hcwd
      rw [Option.filter_some]
      split
      · exact hcwd
      · rfl

/-! ## What may happen -/

namespace Workspace

/-- Whether nothing at a place or below it is called like the folder for results. -/
def isFreeBelow (w : Workspace) (place : Place) : Bool :=
  (w.tree.find? place).all fun t => t.every (· != cacheFolder) fun _ => true

/-- Whether an edit leaves the folders for results alone: it neither makes, changes nor removes one,
    also not together with a directory around it. -/
def permitsEdit (w : Workspace) : Edit → Bool
  | .setClock _ | .enter _ _ => true
  | .put place tree => place.isOrdinary && tree.isOrdinary && w.isFreeBelow place
  | .remove place => !place.contains cacheFolder && w.isFreeBelow place

/-- Whether a project may be asked about: it is not inside a folder for results, and the file system
    takes the file of its own store. -/
def permitsRoot (w : Workspace) (root : Place) : Bool :=
  !root.contains cacheFolder && w.platform.accepts (Cache.fileOf root)

/-- Whether an event is permitted. A request names a path. -/
def permits (w : Workspace) : Act → Bool
  | .request r =>
    match r.path.map w.placeOf with
    | some (.ok root) => w.permitsRoot root
    | some (.error _) => true
    | none => false
  | .edit e => w.permitsEdit e

end Workspace

/-- Whether every event of a session is permitted when it happens. -/
def Session.permits (scanner : Scanner) (s : Session) : List Act → Bool
  | [] => true
  | a :: acts => s.workspace.permits a && Session.permits scanner (s.step scanner a).2 acts

end SpringRoutes
