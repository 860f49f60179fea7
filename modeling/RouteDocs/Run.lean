import RouteDocs.CommandLine
import RouteDocs.ConfigFile
import RouteDocs.HandlerIndex
import RouteDocs.Manifest
import RouteDocs.Output

namespace RouteDocs

/-- How a run ends, what was said on the way, and what it leaves on the disk. -/
structure Run where
  result : Except Problem Unit
  notices : List Notice
  disk : Disk

namespace Options

/-- What the options name has to be there. -/
def check (o : Options) (d : Disk) : Except Problem Unit :=
  if !d.isFile o.config then .error (.missingConfig o.config)
  else if !d.isFile o.routes then .error (.missingManifest o.routes)
  else if !d.isDirectory o.source then .error (.notDirectory o.source)
  else .ok ()

/-- The handlers below the source directory, and what is said about its files. -/
def handlers (o : Options) (d : Disk) : Except Problem (HandlerIndex × List Notice) :=
  match HandlerIndex.scan d o.source with
  | some found => .ok found
  | none => .error (.notDirectory o.source)

/-- Compiles all groups. A group that fails leaves the files of the others alone. -/
def compile (o : Options) (d : Disk) (config : Config) (routes : List Route) (index : HandlerIndex) : Run :=
  let (report, d) := config.compileAll routes index.comments (Sink.files Disk.write o.baseDirectory) d
  let result := if report.isSuccess then .ok () else .error (.failedGroups (report.failed.map (·.1)))
  ⟨result, report.notices, d⟩

def run (o : Options) (d : Disk) : Run :=
  match Config.load d o.config with
  | .error f => ⟨.error (.failure f), [], d⟩
  | .ok config =>
    let said := if config.isEmpty then [Notice.noGroups o.config] else []
    match Manifest.load d o.routes, o.handlers d with
    | .error p, _ | .ok _, .error p => ⟨.error p, said, d⟩
    | .ok routes, .ok (index, found) =>
      let r := o.compile d config routes index
      { r with notices := said ++ found ++ r.notices }

/-- Checks the options, and compiles if there is nothing wrong with them. -/
def checkAndRun (o : Options) (d : Disk) : Run :=
  match o.check d with
  | .error p => ⟨.error p, [], d⟩
  | .ok () => o.run d

end Options

end RouteDocs
