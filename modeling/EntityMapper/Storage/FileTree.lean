import EntityMapper.Storage.Path

/-!
# Files

A file store reads and writes text files by path. `FileTree` is a store held as a value: the
files and directories of a disk, found by resolving a path component by component, from the root
if the path is absolute and from the working directory otherwise. Paths that are too long, have too
long a component or hold a NUL character cannot be read or written.
-/
namespace EntityMapper

/-- Access to text files in some monad. -/
structure FileStore (m : Type → Type) where
  /-- The text of a file; none if it cannot be read or is not text. -/
  read : String → m (Option String)
  /-- Makes the directories around the file and replaces its text, or tells why it cannot. -/
  write : String → String → m (Except String Unit)

/-- Why a file cannot be written. -/
inductive FileFault where
  | missing | occupied | notDirectory | isDirectory | tooLong | nul
  deriving DecidableEq, Repr

def FileFault.message : FileFault → String
  | missing => "No such file or directory (os error 2)"
  | occupied => "File exists (os error 17)"
  | notDirectory => "Not a directory (os error 20)"
  | isDirectory => "Is a directory (os error 21)"
  | tooLong => "File name too long (os error 36)"
  | nul => "file name contained an unexpected NUL byte"

inductive FileContent where
  | text (s : String)
  /-- Bytes that are no text. -/
  | binary
  deriving DecidableEq, Repr

/-- Files and directories by their location, which are the names from the root on. -/
structure FileTree where
  workingDirectory : List String := []
  files : List (List String × FileContent) := []
  directories : List (List String) := []
  deriving DecidableEq, Repr

namespace FileTree

def file? (tree : FileTree) (location : List String) : Option FileContent :=
  List.lookup location tree.files

def isFile (tree : FileTree) (location : List String) : Bool :=
  (tree.file? location).isSome

/-- The working directory and those around it always exist. -/
def isDirectory (tree : FileTree) (location : List String) : Bool :=
  location.isPrefixOf tree.workingDirectory || tree.directories.contains location

def addDirectory (tree : FileTree) (location : List String) : FileTree :=
  if tree.isDirectory location then tree
  else { tree with directories := location :: tree.directories }

def setFile (tree : FileTree) (location : List String) (content : FileContent) : FileTree :=
  { tree with files := (location, content) :: tree.files.filter (·.1 != location) }

/-- The directory that the components of a path start from. -/
def start (tree : FileTree) (path : String) : List String :=
  if Path.isAbsolute path then [] else tree.workingDirectory

/-- The directory reached by the components, if every one on the way exists. Above the root is the
root. -/
def directory? (tree : FileTree) (here : List String) : List String → Option (List String)
  | [] => some here
  | part :: rest =>
    if part = ".." then directory? tree here.dropLast rest
    else if tree.isDirectory (here ++ [part]) then directory? tree (here ++ [part]) rest
    else none

/-- What keeps a path from being looked up at all. -/
def pathFault? (path : String) : Option FileFault :=
  if path.toList.contains '\x00' then some .nul
  else if Path.longest < path.utf8ByteSize then some .tooLong
  else none

/-- Follows the components, making the directories that are missing. Directories made before a
failure stay. -/
def makeDirectories (tree : FileTree) (here : List String) :
    List String → FileTree × Except FileFault (List String)
  | [] => (tree, .ok here)
  | part :: rest =>
    if part = ".." then makeDirectories tree here.dropLast rest
    else if Path.longestComponent < part.utf8ByteSize then (tree, .error .tooLong)
    else if tree.isFile (here ++ [part]) then
      (tree, .error (if rest.isEmpty then .occupied else .notDirectory))
    else makeDirectories (tree.addDirectory (here ++ [part])) (here ++ [part]) rest

def read (tree : FileTree) (path : String) : Option String :=
  if Path.namesDirectory path || (pathFault? path).isSome then none
  else
    let parts := Path.components path
    match tree.directory? (tree.start path) parts.dropLast with
    | none => none
    | some here =>
      match tree.file? (here ++ parts.getLast?.toList) with
      | some (.text s) => some s
      | _ => none

/-- Makes a directory and those around it. -/
def makeDirectory (tree : FileTree) (path : String) :
    FileTree × Except FileFault (List String) :=
  match pathFault? path with
  | some fault => (tree, .error fault)
  | none => tree.makeDirectories (tree.start path) (Path.components path)

/-- Puts content at a path whose directory is there. -/
def putIn (tree : FileTree) (directory : List String) (path : String) (content : FileContent) :
    FileTree × Except FileFault Unit :=
  let name := (Path.components path).getLast?
  let location := directory ++ name.toList
  match pathFault? path with
  | some fault => (tree, .error fault)
  | none =>
    if Path.namesDirectory path || tree.isDirectory location then (tree, .error .isDirectory)
    else if name.any fun part => decide (Path.longestComponent < part.utf8ByteSize) then
      (tree, .error .tooLong)
    else (tree.setFile location content, .ok ())

/-- Puts content at a path, making the directories around it. Only the empty path and the root have
none around them. -/
def put (tree : FileTree) (path : String) (content : FileContent) :
    FileTree × Except FileFault Unit :=
  match Path.parent? path with
  | none =>
    (tree, .error ((pathFault? path).getD (if path = "" then .missing else .isDirectory)))
  | some parent =>
    match tree.makeDirectory parent with
    | (tree, .error fault) => (tree, .error fault)
    | (tree, .ok directory) => tree.putIn directory path content

/-- The tree as a file store. -/
def store : FileStore (StateM FileTree) where
  read path := return (← get).read path
  write path s := modifyGet fun tree =>
    let (tree, result) := tree.put path (.text s)
    (result.mapError (·.message), tree)

end FileTree

end EntityMapper
