import RouteDocs.Context
import RouteDocs.Failure

namespace RouteDocs

/-- What a compilation has referred to and said so far. -/
structure Journal where
  context : Context := {}
  notices : List Notice := []

/-- A step of a compilation. Where it fails, its journal stays. -/
abbrev CompileM := ExceptT Failure (StateM Journal)

namespace CompileM

def exec (x : CompileM α) (j : Journal) : Except Failure α × Journal := x.run.run j

def say (n : Notice) : CompileM Unit :=
  ExceptT.lift (modify fun j => { j with notices := j.notices ++ [n] })

def refer (l : Lookup) : CompileM String :=
  ExceptT.lift (modifyGet fun j =>
    let (reference, models) := l.refer.run j.context.models
    (reference, { j with context := { j.context with models } }))

/-- Takes up the guards of a route. -/
def resolve (r : Route) : CompileM (List Requirement) :=
  ExceptT.lift (modifyGet fun j =>
    let (requirements, context) := r.resolve.run j.context
    (requirements, { j with context }))

end CompileM

end RouteDocs
