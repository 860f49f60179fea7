import RouteDocs.Run

namespace RouteDocs.Program

/-- Directories may be nested this deep. -/
def maxDepth : Nat := 256

/-- What is at a path. Entries that hold no sources are left out. -/
def takeIn : Nat → String → IO FileTree
  | 0, path => throw (IO.userError ("nested too deep: " ++ path))
  | n + 1, path => do
    let place ← IO.FS.realPath path
    if ← place.isDir then
      let kept := (← place.readDir).toList.filter fun e => !HandlerIndex.isSkipped e.fileName
      return .directory (← kept.mapM fun e => do return (e.fileName, ← takeIn n (toString e.path)))
    else return .file (← IO.FS.readBinFile place)

/-- Adds what is at a path to a disk. Where nothing can be read nothing is added. -/
def add (d : Disk) (path : String) : IO Disk := do
  try return d.place path (← takeIn maxDepth path) catch _ => return d

/-- A disk with what the options name. -/
def disk (o : Options) : IO Disk := do
  let workingDirectory := toString (← IO.FS.realPath ".")
  let names := (workingDirectory.splitOn "/").filter fun name => !name.isEmpty
  [o.source, o.config, o.routes].foldlM add (Disk.empty names)

def writeFile (names : List String) (content : ByteArray) : IO Unit := do
  IO.FS.createDirAll ("/" ++ "/".intercalate names.dropLast)
  IO.FS.writeBinFile ("/" ++ "/".intercalate names) content

def usage : String :=
  "Usage: route-docs [-c FILE] [-r FILE] [-s DIR] [-b DIR] [-v]\n\n" ++
  "  -c, --config FILE   settings of the path-groups [openapi.yaml]\n" ++
  "  -r, --routes FILE   route manifest, YAML or JSON [routes.yaml]\n" ++
  "  -s, --source DIR    directory of the handler sources [src]\n" ++
  "  -b, --base-dir DIR  directory that output paths are relative to [.]\n" ++
  "  -v, --verbose       verbose output\n" ++
  "  -h, --help          this text\n" ++
  "  -V, --version       the version"

def compile (o : Options) : IO UInt32 := do
  let before ← disk o
  let r := o.checkAndRun before
  for notice in r.notices do IO.eprintln notice.line
  for (names, content) in before.changes r.disk do writeFile names content
  match r.result with
  | .ok () => return 0
  | .error p =>
    IO.eprintln ("Error: " ++ p.message)
    return 1

def run (args : List String) : IO UInt32 := do
  match CommandLine.parse args with
  | .ok o => compile o
  | .error .displayHelp =>
    IO.println usage
    return 0
  | .error .displayVersion =>
    IO.println "route-docs 0.1.0"
    return 0
  | .error e =>
    IO.eprintln ("error: " ++ e.name ++ "\n\n" ++ usage)
    return 2

end RouteDocs.Program

def main (args : List String) : IO UInt32 := RouteDocs.Program.run args
