import SpringRoutes.Table.Link

/-!
# `SpringRoutes.Table.Client` — routes seen only through clients

A declarative client names routes of another service: those of the interface that it extends and
those of its own methods. Such a route is added unless its path is taken.

## Contents
- `clientRoutes`: the candidates of one client, in order.
- `addNew`: append the candidates whose path is not taken; the first one wins.
- `resolveClients`: a table completed by all clients.
-/

namespace SpringRoutes

/-- What is appended to the name of a client's type. -/
def clientSuffix : String := " [Feign]"

/-- The routes that `client` sees through the methods of `declaring`. -/
def routesThrough (client declaring : Outline) (base : Option String) : List Route :=
  declaring.methods.filterMap fun m =>
    m.mapping.map fun a =>
      { verb := Verb.normalize (some a.verb)
        path := RoutePath.join base (some a.path)
        file := declaring.path
        line := .number m.line
        typeName := client.name ++ clientSuffix
        methodName := some m.name
        clientName := client.client.bind (·.name) }

/-- The path that the client annotation gives. -/
def Outline.clientPath (o : Outline) : Option String :=
  o.client.bind (·.path)

/-- The routes of the interface that a client extends. A client path that is not blank replaces
    the interface's base path. -/
def extendedRoutes (index : List (String × Outline)) (client : Outline) : List Route :=
  match contract? index client.extended with
  | some interface =>
    let base := if RoutePath.normalize client.clientPath = "" then interface.basePath
      else client.clientPath
    routesThrough client interface base
  | none => []

/-- The routes of a client's own methods, when its type carries a routing annotation. The client
    path, even a blank one, replaces the annotation's path. -/
def annotatedRoutes (client : Outline) : List Route :=
  match client.basePath with
  | some path => routesThrough client client (client.clientPath.or (some path))
  | none => []

/-- The candidates of one client. -/
def clientRoutes (index : List (String × Outline)) (client : Outline) : List Route :=
  extendedRoutes index client ++ annotatedRoutes client

/-- Append each candidate whose path no route before it has. -/
def addNew : List Route → List Route → List Route
  | table, [] => table
  | table, c :: cs =>
    if table.any (·.path = c.path) then addNew table cs else addNew (table ++ [c]) cs

/-- The candidates of all clients, in the order of the sources. -/
def clientCandidates (sources : List (Option Outline)) : List Route :=
  let os := named sources
  (os.filter (·.client.isSome)).flatMap (clientRoutes (interfaceIndex os))

/-- The table completed by the routes that only clients see. -/
def resolveClients (sources : List (Option Outline)) (table : List Route) : List Route :=
  addNew table (clientCandidates sources)

/-- The route table of a list of outlines: linked routes first, then those of clients. -/
def routeTable (sources : List (Option Outline)) : List Route :=
  resolveClients sources (link sources)

/-- The route table sorted by path; routes of one path keep their order. -/
def sortedTable (sources : List (Option Outline)) : List Route :=
  (routeTable sources).mergeSort fun a b => decide (a.path ≤ b.path)

end SpringRoutes
