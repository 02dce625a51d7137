/-!
# Files

The program reads and writes files through a `Host`, whose operations run in
some monad: that of the outside world, or that of a file tree held in memory.
-/

namespace ReqConflict

inductive FileFault where
  | missing
  | directory
  | notDirectory
  | denied
  | notText
  | other (text : String)
deriving DecidableEq, Repr

def FileFault.message : FileFault → String
  | missing => "No such file or directory (os error 2)"
  | directory => "Is a directory (os error 21)"
  | notDirectory => "Not a directory (os error 20)"
  | denied => "Permission denied (os error 13)"
  | notText => "stream did not contain valid UTF-8"
  | other text => text

structure Host (m : Type → Type) where
  read : String → m (Except FileFault String)
  isFile : String → m Bool
  /-- Puts a text into a file, which is created if it does not exist. -/
  write : String → String → m (Except FileFault Unit)

/-- Files by the names on their paths.  A directory exists if a file is in it,
at whatever depth. -/
structure FileTree where
  files : List (List String × String)
deriving Repr, Inhabited

namespace FileTree

/-- The names on a path.  A slash at the end asks for a directory. -/
def components (path : List Char) : List String :=
  let parts := path.splitBy fun a b => a != '/' && b != '/'
  let names := parts.filter (· != ['/'])
  let names := if path.getLast? = some '/' then names ++ [['.']] else names
  names.map String.ofList

inductive Entry where
  | file (text : String)
  | directory
  /-- Nothing, in a directory that exists. -/
  | nothing
deriving DecidableEq, Repr

def isDirectory (tree : FileTree) (names : List String) : Bool :=
  names.isEmpty || tree.files.any fun file => names.isPrefixOf file.1 && names != file.1

def entry (tree : FileTree) (names : List String) : Entry :=
  match tree.files.lookup names with
  | some text => .file text
  | none => if tree.isDirectory names then .directory else .nothing

def follow (tree : FileTree) (directory : List String) :
    List String → Except FileFault (List String)
  | [] => .ok directory
  | name :: names =>
      if name = "." then follow tree directory names
      else if name = ".." then
        if directory.isEmpty then .error .missing else follow tree directory.dropLast names
      else
        let place := directory ++ [name]
        match tree.entry place, names with
        | .directory, _ => follow tree place names
        | _, [] => .ok place
        | .file _, _ => .error .notDirectory
        | .nothing, _ => .error .missing

/-- Where a path leads.  Paths from the root of the file system are outside of
the tree. -/
def resolve (tree : FileTree) (path : String) : Except FileFault (List String) :=
  match path.toList with
  | [] => .error .missing
  | '/' :: _ => .error .missing
  | chars => tree.follow [] (components chars)

def read (tree : FileTree) (path : String) : Except FileFault String := do
  match tree.entry (← tree.resolve path) with
  | .file text => return text
  | .directory => throw .directory
  | .nothing => throw .missing

def isFile (tree : FileTree) (path : String) : Bool :=
  (tree.read path).isOk

/-- Where a path leads at which a file is to be put.  What a slash follows is
taken for a directory, whether it exists or not. -/
def target (tree : FileTree) (path : String) : Except FileFault (List String) :=
  if path.toList.getLast? = some '/' then do
    let names := (components path.toList).dropLast.dropLast
    let _ ← tree.resolve (String.intercalate "/" (names ++ ["."]))
    throw .directory
  else tree.resolve path

def write (tree : FileTree) (path text : String) : Except FileFault FileTree := do
  let names ← tree.target path
  if tree.entry names = .directory then throw .directory
  return ⟨(names, text) :: tree.files.filter fun file => file.1 != names⟩

def ofList (files : List (String × String)) : FileTree :=
  ⟨files.map fun (path, text) => (components path.toList, text)⟩

/-- A file tree in memory as the host of a program. -/
def host : Host (StateM FileTree) where
  read path := return (← get).read path
  isFile path := return (← get).isFile path
  write path text := do
    match (← get).write path text with
    | .ok tree => set tree; return .ok ()
    | .error fault => return .error fault

end FileTree

end ReqConflict
