import RouteDocs.Compilation
import RouteDocs.Disk
import RouteDocs.Source.File

namespace RouteDocs

open Source

structure Handler where
  doc : Option String
  /-- The path of the declaring file, in its normal form. -/
  file : String
  deriving DecidableEq, Repr

structure HandlerIndex where
  handlers : SortedMap Handler := ∅
  /-- The texts of the files that declare the handlers. -/
  sources : SortedMap String := ∅
  deriving Repr

namespace HandlerIndex

/-- The name of a method, with the type it belongs to. -/
def qualified (owner name : String) : String := owner ++ "::" ++ name

mutual

/-- The names that an item declares, in order, each with its documentation. -/
def declarations : Item → List (String × Option String)
  | .function f => [(f.name, f.doc)]
  | .methods owner fs => fs.map fun f => (qualified owner f.name, f.doc)
  | .submodule items => declarationsOf items
  | _ => []

def declarationsOf : List Item → List (String × Option String)
  | [] => []
  | i :: is => declarations i ++ declarationsOf is

end

def declare (file : String) (handlers : SortedMap Handler) (d : String × Option String) :
    SortedMap Handler :=
  handlers.insertIfNew d.1 ⟨d.2, file⟩

/-- Adds a source file. A file with an error in it is left out. -/
def addSource (parse : Reader) (index : HandlerIndex) (source : String × String) : HandlerIndex :=
  match parse source.2 with
  | some items =>
    let file := Path.normal source.1
    { handlers := (declarationsOf items).foldl (declare file) index.handlers
      sources := index.sources.insert file source.2 }
  | none => index

def ofSourcesBy (parse : Reader) (sources : List (String × String)) : HandlerIndex :=
  sources.foldl (addSource parse) {}

abbrev ofSources : List (String × String) → HandlerIndex := ofSourcesBy parse

def noticesBy (parse : Reader) (sources : List (String × String)) : List Notice :=
  (sources.filter fun s => (parse s.2).isNone).map fun s => .unparsedSource s.1

abbrev notices : List (String × String) → List Notice := noticesBy parse

def size (index : HandlerIndex) : Nat := index.handlers.size

/-- The segments of a name, at least one. -/
def segments (name : List Char) : List (List Char) :=
  match Text.cut? [':', ':'] name with
  | some (first, rest) => first :: segmentsWithin rest.length rest
  | none => [name]
where
  /-- Each segment but the last takes two characters for its separator. -/
  segmentsWithin : Nat → List Char → List (List Char)
    | 0, s => [s]
    | n + 1, s =>
      match Text.cut? [':', ':'] s with
      | some (first, rest) => first :: segmentsWithin n rest
      | none => [s]

/-- The names under which a handler may be listed: in full, by its last two segments if there are more,
and by its last one. -/
def candidates (handler : String) : List String :=
  let ss := segments handler.toList
  let last := fun n => String.ofList ([':', ':'].intercalate (ss.drop (ss.length - n)))
  handler :: (if 2 < ss.length then [last 2] else []) ++ [last 1]

def find? (index : HandlerIndex) (handler : String) : Option Handler :=
  (candidates handler).findSome? index.handlers.get?

def doc? (index : HandlerIndex) (handler : String) : Option String := (index.find? handler).bind (·.doc)

/-- The text of the file that declares a handler. -/
def source? (index : HandlerIndex) (handler : String) : Option String :=
  (index.find? handler).bind fun h => index.sources.get? h.file

def comments (index : HandlerIndex) : Comments := ⟨index.doc?, index.source?⟩

/-- Hidden entries and build results hold no sources. -/
def isSkipped (name : String) : Bool := name.toList.head? = some '.' || name == "target"

def isSourceName (name : String) : Bool := Path.extensionOf? name.toList == some "rs"

/-- The results of the entries of a directory, in the order of their names. -/
def inOrder (entries : List (String × List α)) : List α :=
  (entries.mergeSort fun a b => a.1 ≤ b.1).flatMap Prod.snd

mutual

/-- The source files of a tree, with the names that lead to them. -/
def filesIn (names : List String) : FileTree → List (List String × ByteArray)
  | .file content => if names.getLast?.any isSourceName then [(names, content)] else []
  | .directory entries => inOrder (filesOfEntries names entries)

/-- The source files of each entry. -/
def filesOfEntries (names : List String) :
    List (String × FileTree) → List (String × List (List String × ByteArray))
  | [] => []
  | (name, t) :: rest =>
    (name, if isSkipped name then [] else filesIn (names ++ [name]) t) :: filesOfEntries names rest

end

/-- The index of a directory, and what is said about its files. There is none of anything else. -/
def scanBy (parse : Reader) (d : Disk) (root : String) : Option (HandlerIndex × List Notice) :=
  match d.find? root with
  | some (.directory entries) =>
    let files := (filesIn [] (.directory entries)).map fun (names, content) =>
      (names.foldl Path.join root, String.fromUTF8? content)
    let sources := files.filterMap fun (path, text?) => text?.map (path, ·)
    let unreadable := files.filterMap fun (path, text?) =>
      if text?.isNone then some (Notice.unreadableSource path) else none
    some (ofSourcesBy parse sources, unreadable ++ noticesBy parse sources)
  | _ => none

abbrev scan : Disk → String → Option (HandlerIndex × List Notice) := scanBy parse

end HandlerIndex

end RouteDocs
