import RouteDocs.Document

namespace RouteDocs

/-- The documentation of handlers, and the source files that declare them. -/
structure Comments where
  doc : String → Option String
  source : String → Option String

/-- A result, and what was said on the way to it. -/
structure Compilation (α : Type) where
  result : Except Failure α
  notices : List Notice

/-- What routes have come to. -/
@[ext]
structure Progress where
  paths : Paths := ∅
  context : Context := {}

/-- The routes whose URI contains a text. -/
def routesWithin (uriPart : String) (routes : List Route) : List Route :=
  routes.filter fun r => Text.containsText uriPart.toList r.uri.toList

namespace Comments

/-- The annotation of a route, if its handler is documented at all. -/
def read? (c : Comments) (r : Route) : Option (Except Annotation.Error Annotation) :=
  (c.doc r.handler).map Annotation.parse

/-- What the file that declares the handler of a route imports. -/
def imports (parse : Source.Reader) (c : Comments) (r : Route) : List Import :=
  match c.source r.handler with
  | some text => Import.ofSourceBy parse text
  | none => []

end Comments

/-- Builds the operation of a route. It asks for models with the imports of the file that declares the handler. -/
def Operation.build (imports : List Import) (marker : String) (r : Route) (a : Annotation) :
    CompileM Operation := do
  let input ← Input.build imports r.method r.handler a
  let responses ← Responses.build imports r.handler marker a
  let security ← CompileM.resolve r
  return Operation.withInput { id := r.handler, responses, security } a.summary? input

namespace Group

/-- The operation of a route, if it has one. A route whose comment cannot be read is passed over. -/
def compileRoute (parse : Source.Reader) (comments : Comments) (g : Group) (r : Route) :
    CompileM (Option Operation) :=
  match comments.read? r with
  | none => return none
  | some (.error e) => do
    CompileM.say (.skippedRoute r.method.text r.uri e)
    return none
  | some (.ok a) => do
    let o ← Operation.build (comments.imports parse r) g.jsonMarker r a
    return some o

def addRoute (parse : Source.Reader) (comments : Comments) (g : Group) (paths : Paths) (r : Route) :
    CompileM Paths := do
  match ← compileRoute parse comments g r with
  | some o => return paths.add r.uri r.method o
  | none => return paths

/-- Adds routes one by one. The first one that fails ends the compilation. -/
def collect (parse : Source.Reader) (comments : Comments) (g : Group) (routes : List Route) : CompileM Paths :=
  routes.foldlM (addRoute parse comments g) ∅

def run (parse : Source.Reader) (comments : Comments) (g : Group) (routes : List Route) : Compilation Progress :=
  match (collect parse comments g routes).exec {} with
  | (.error e, j) => ⟨.error e, j.notices⟩
  | (.ok paths, j) => ⟨.ok ⟨paths, j.context⟩, j.notices⟩

/-- The document of a group, with a parser for the files that declare the handlers. -/
def compileBy (parse : Source.Reader) (routes : List Route) (comments : Comments) (uriPart : String)
    (g : Group) : Compilation Document :=
  let ⟨result, notices⟩ := run parse comments g (routesWithin uriPart routes)
  match result with
  | .error e => ⟨.error e, notices⟩
  | .ok p => ⟨Document.build g p.paths p.context, notices ++ Document.notices p.context⟩

abbrev compile (routes : List Route) (comments : Comments) (uriPart : String) (g : Group) :
    Compilation Document :=
  g.compileBy Source.parse routes comments uriPart

end Group

/-- Where documents go: writing one changes a state, also where it fails. -/
abbrev Sink (σ : Type) := σ → String → Group → Document → Except Failure Unit × σ

structure Report where
  written : List String := []
  failed : List (String × Failure) := []
  notices : List Notice := []

def Report.isSuccess (r : Report) : Bool := r.failed.isEmpty

namespace Config

/-- Compiles and writes one group. -/
def compileGroup (routes : List Route) (comments : Comments) (sink : Sink σ) (state : Report × σ)
    (entry : String × Group) : Report × σ :=
  let (report, s) := state
  let (uriPart, g) := entry
  let compiled := g.compile routes comments uriPart
  let (result, s) :=
    match compiled.result with
    | .ok document => sink s uriPart g document
    | .error e => (.error e, s)
  match result with
  | .ok () =>
    ({ report with
      written := report.written ++ [uriPart], notices := report.notices ++ compiled.notices }, s)
  | .error e =>
    ({ report with
      failed := report.failed ++ [(uriPart, e)]
      notices := report.notices ++ compiled.notices ++ [.failedGroup uriPart e] }, s)

/-- Compiles all groups. A group that fails leaves the others alone. -/
def compileAll (config : Config) (routes : List Route) (comments : Comments) (sink : Sink σ) (s : σ) :
    Report × σ :=
  config.entries.foldl (compileGroup routes comments sink) ({}, s)

end Config

end RouteDocs
