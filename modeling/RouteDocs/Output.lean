import RouteDocs.Compilation
import RouteDocs.Path
import RouteDocs.Yaml.Printer

namespace RouteDocs

inductive Format where
  | json
  | yaml
  deriving DecidableEq, Repr

namespace Format

def ofPath (path : String) : Format :=
  match Path.extension? path with
  | some "yaml" | some "yml" => .yaml
  | _ => .json

def text (format : Format) (d : Document) : String :=
  match format with
  | .json => d.toJson.pretty
  | .yaml => Yaml.print d.toJson

end Format

def Group.outputPath (base : String) (g : Group) : String := Path.join base g.output

/-- The text of the file at a path. -/
def Document.textAt (path : String) (d : Document) : String := (Format.ofPath path).text d

/-- Writes a text to a path, which changes a state and may fail. -/
abbrev Writing (σ : Type) := σ → String → String → σ × Bool

/-- Writes each document to its file below a base directory. -/
def Sink.files (write : Writing σ) (base : String) : Sink σ := fun s _ g d =>
  let path := g.outputPath base
  match write s path (d.textAt path) with
  | (s, true) => (.ok (), s)
  | (s, false) => (.error .io, s)

end RouteDocs
