import SpringRoutes.Failure

/-!
# `SpringRoutes.Reply` — results with the events on the way

## Contents
- `Level`, `Reporter`, `Event`: what is reported, how important it is, and by which part of the
  program.
- `Reply`: a result or a failure, after the events that were reported on the way to it.
-/

namespace SpringRoutes

/-- How important an event is. -/
inductive Level
  | debug
  | info
  | warning
  deriving Repr, DecidableEq

namespace Level

/-- The rank of a level. -/
def rank : Level → Nat
  | .debug => 10
  | .info => 20
  | .warning => 30

/-- The level as log lines show it. -/
def text : Level → String
  | .debug => "DEBUG"
  | .info => "INFO"
  | .warning => "WARNING"

end Level

/-- The parts of the program that report events. -/
inductive Reporter
  | outlines
  | linking
  | clients
  | discovery
  | scan
  | store
  | projects
  deriving Repr, DecidableEq

/-- The name of a reporter in log files. -/
def Reporter.text : Reporter → String
  | .outlines => "restmap.extractor"
  | .linking => "restmap.linker"
  | .clients => "restmap.clients"
  | .discovery => "restmap.repo_scanner"
  | .scan => "restmap.scanner"
  | .store => "restmap.stores.endpoint_cache"
  | .projects => "restmap.orchestrator"

/-- Something worth telling. -/
structure Event where
  level : Level
  reporter : Reporter
  text : String
  deriving Repr, DecidableEq

/-- A result or a failure, after events. -/
structure Reply (α : Type) where
  events : List Event := []
  result : Except Failure α

namespace Reply

/-- Continue with a result; a failure ends the reply. -/
def bind {α β : Type} (r : Reply α) (f : α → Reply β) : Reply β :=
  match r.result with
  | .ok a => ⟨r.events ++ (f a).events, (f a).result⟩
  | .error e => ⟨r.events, .error e⟩

instance : Monad Reply where
  pure a := ⟨[], .ok a⟩
  bind := bind

/-- A reply without events. -/
def ofExcept {α : Type} (r : Except Failure α) : Reply α :=
  ⟨[], r⟩

/-- Report an event. -/
def report (level : Level) (reporter : Reporter) (text : String) : Reply Unit :=
  ⟨[⟨level, reporter, text⟩], .ok ()⟩

/-- Report events. -/
def reportAll (events : List Event) : Reply Unit :=
  ⟨events, .ok ()⟩

theorem result_bind {α β : Type} (r : Reply α) (f : α → Reply β) :
    (r >>= f).result = (r.result >>= fun a => (f a).result) := by
  cases h : r.result <;> simp only [Bind.bind, Reply.bind, Except.bind, h]

theorem result_pure {α : Type} (a : α) : (pure a : Reply α).result = .ok a :=
  rfl

end Reply

end SpringRoutes
