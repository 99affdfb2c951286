import SpringRoutes.Route.Basic
import SpringRoutes.Route.Path
import SpringRoutes.Table.Index

/-!
# `SpringRoutes.Table.Link` — the routes of controllers

Routes inherited from an interface are reported at the interface's method, with the controller's
method as the place of implementation. Annotated methods of a controller that override nothing
are reported where they stand.

## Contents
- `inheritedRoutes`, `ownRoutes`: the two kinds of routes of one controller.
- `link`: the routes of all controllers, in the order of the sources.
-/

namespace SpringRoutes

/-- The routes that a controller inherits from an interface. -/
def inheritedRoutes (controller interface : Outline) : List Route :=
  interface.methods.filterMap fun m =>
    m.mapping.map fun a =>
      { verb := Verb.normalize (some a.verb)
        path := RoutePath.join interface.basePath (some a.path)
        file := interface.path
        line := .number m.line
        typeName := interface.name
        methodName := some m.name
        implFile := some controller.path
        implLine := some (.number (controller.lineOf m.name))
        implType := controller.typeName }

/-- The routes that a controller declares itself. Its own base path counts, else that of its
    interface. -/
def ownRoutes (controller : Outline) (interface : Option Outline) : List Route :=
  let base := controller.basePath.or (interface.bind (·.basePath))
  controller.methods.filterMap fun m =>
    if m.isOverride then none
    else m.mapping.map fun a =>
      { verb := Verb.normalize (some a.verb)
        path := RoutePath.join base (some a.path)
        file := controller.path
        line := .number m.line
        typeName := controller.name
        methodName := some m.name }

/-- All routes of one controller. -/
def controllerRoutes (index : List (String × Outline)) (controller : Outline) : List Route :=
  let interface := contract? index controller.implemented
  ((interface.map (inheritedRoutes controller)).getD []) ++ ownRoutes controller interface

/-- The routes of all controllers. -/
def link (sources : List (Option Outline)) : List Route :=
  let os := named sources
  (os.filter (·.isEntryPoint)).flatMap (controllerRoutes (interfaceIndex os))

end SpringRoutes
