import RouteDocs.Path

namespace RouteDocs

inductive FileTree where
  | file (content : ByteArray)
  | directory (entries : List (String × FileTree))
  deriving Inhabited

namespace FileTree

def isDirectory : FileTree → Bool
  | .directory _ => true
  | .file _ => false

def child? (name : String) : FileTree → Option FileTree
  | .directory entries => entries.lookup name
  | .file _ => none

/-- What is found by a list of names. -/
def get? (t : FileTree) (names : List String) : Option FileTree :=
  names.foldl (fun t name => t.bind (child? name)) (some t)

def setEntry (name : String) (t : FileTree) : List (String × FileTree) → List (String × FileTree)
  | [] => [(name, t)]
  | (n, u) :: rest => if n = name then (n, t) :: rest else (n, u) :: setEntry name t rest

/-- Puts a tree under a list of names, through directories that are there. -/
def put (t u : FileTree) : List String → FileTree
  | [] => u
  | name :: names =>
    match t with
    | .directory entries =>
      match entries.lookup name with
      | some child => .directory (setEntry name (put child u names) entries)
      | none => .directory (setEntry name u entries)
    | .file _ => t

mutual

/-- The files of a tree, with the names that lead to them. -/
def files : FileTree → List (List String × ByteArray)
  | .file content => [([], content)]
  | .directory entries => filesOfEntries entries

def filesOfEntries : List (String × FileTree) → List (List String × ByteArray)
  | [] => []
  | (name, t) :: rest =>
    (t.files.map fun (names, content) => (name :: names, content)) ++ filesOfEntries rest

end

end FileTree

structure Disk where
  root : FileTree
  workingDirectory : List String

namespace Disk

/-- A disk with nothing on it but the working directory. -/
def empty (workingDirectory : List String) : Disk where
  root := workingDirectory.foldr (fun name t => .directory [(name, t)]) (.directory [])
  workingDirectory

/-- A part of a path as it is followed: it stays in a directory, leaves it, or enters an entry. -/
inductive Step where
  | stay
  | leave
  | enter (name : String)

def stepOf (s : List Char) : Step :=
  if s.isEmpty || s = ['.'] then .stay
  else if s = ['.', '.'] then .leave
  else .enter (String.ofList s)

def start (d : Disk) (path : String) : List String :=
  if Path.isAbsolute path then [] else d.workingDirectory

def isDirectoryAt (d : Disk) (names : List String) : Bool := (d.root.get? names).any (·.isDirectory)

/-- Only a directory can be stepped from. Above the root is the root. -/
def step (d : Disk) (names : List String) (s : Step) : Option (List String) :=
  if d.isDirectoryAt names then
    match s with
    | .stay => some names
    | .leave => some names.dropLast
    | .enter name => some (names ++ [name])
  else none

/-- Where a path leads. At its end nothing need be there yet. -/
def follow (d : Disk) (path : String) : Option (List String) :=
  if path.isEmpty then none
  else ((Text.pieces '/' path.toList).map stepOf).foldlM d.step (d.start path)

def find? (d : Disk) (path : String) : Option FileTree := (d.follow path).bind d.root.get?

def isFile (d : Disk) (path : String) : Bool := (d.find? path).any fun t => !t.isDirectory

def isDirectory (d : Disk) (path : String) : Bool := (d.find? path).any (·.isDirectory)

/-- The content of a file, if it is a text. -/
def read? (d : Disk) (path : String) : Option String :=
  match d.find? path with
  | some (.file content) => String.fromUTF8? content
  | _ => none

/-- A name has at most 255 bytes, none of them zero. -/
def isFileName (name : String) : Bool := name.utf8ByteSize ≤ 255 && !name.toList.contains '\x00'

/-- Makes the directories that a path needs. What has been made before a failure stays. -/
def makeDirectories (d : Disk) : List String → List Step → Disk × Bool
  | names, [] => (d, d.isDirectoryAt names)
  | names, s :: steps =>
    match d.step names s with
    | none => (d, false)
    | some names =>
      match d.root.get? names with
      | some _ => d.makeDirectories names steps
      | none =>
        if (names.getLast?).all isFileName then
          let made : Disk := { d with root := d.root.put (.directory []) names }
          made.makeDirectories names steps
        else (d, false)

/-- The steps to the directory of a path. -/
def parentSteps (path : String) : List Step :=
  (Path.parts path).dropLast.map fun
    | .root | .here => .stay
    | .above => .leave
    | .name s => .enter s

/-- Puts a file at a path, over another file or to a new one. Directories on the way are made. -/
def store (d : Disk) (path : String) (content : ByteArray) : Disk × Bool :=
  let (d, made) := d.makeDirectories (d.start path) (parentSteps path)
  if made then
    match d.follow path with
    | none => (d, false)
    | some names =>
      let entersLast :=
        match ((Text.pieces '/' path.toList).map stepOf).getLast? with
        | some (.enter name) => isFileName name
        | _ => false
      if entersLast && !d.isDirectoryAt names then
        ({ d with root := d.root.put (.file content) names }, true)
      else (d, false)
  else (d, false)

/-- Writes a text to a path. -/
def write (d : Disk) (path text : String) : Disk × Bool := d.store path text.toUTF8

/-- Puts a whole tree at a path, in place of what is there. -/
def place (d : Disk) (path : String) (t : FileTree) : Disk :=
  let d := (d.makeDirectories (d.start path) (parentSteps path)).1
  match d.follow path with
  | some names => { d with root := d.root.put t names }
  | none => d

/-- The files below the root that another disk does not have, or has with another content. -/
def changes (before after : Disk) : List (List String × ByteArray) :=
  after.root.files.filter fun (names, content) =>
    match before.root.get? names with
    | some (.file old) => old != content
    | _ => true

end Disk

end RouteDocs
