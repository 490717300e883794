namespace AdventureArchive

/-!
# Files

What the tools need of a file system, and a file system that is a value: a
tree of files in which paths are followed name by name.  The directories above
the working directory are always there, and so is the root, but they hold only
what has been stored in them.
-/

/-- Why a file cannot be used. -/
inductive FileFault where
  | notFound
  | notADirectory
  | isADirectory
  | nameTooLong
  | unmappable
  | invalidText
  | nulInName
  | system (message : String)
  deriving Repr, DecidableEq

/-- The wording of a file fault. -/
def FileFault.message : FileFault → String
  | .notFound => "No such file or directory (os error 2)"
  | .notADirectory => "Not a directory (os error 20)"
  | .isADirectory => "Is a directory (os error 21)"
  | .nameTooLong => "File name too long (os error 36)"
  | .unmappable => "No such device (os error 19)"
  | .invalidText => "stream did not contain valid UTF-8"
  | .nulInName => "file name contained an unexpected NUL byte"
  | .system message => message

/-- What a path leads to. -/
inductive FileNode where
  | file (bytes : List UInt8)
  | directory
  deriving Repr, DecidableEq

/-- File systems as the tools see them. -/
class FileSystem (m : Type → Type) where
  lookUp : String → m (Except FileFault FileNode)
  store : String → List UInt8 → m (Except FileFault Unit)

/-- The text of a file in UTF-8. -/
def FileNode.text? : FileNode → Except FileFault String
  | .directory => .error .isADirectory
  | .file bytes =>
      match String.fromUTF8? ⟨bytes.toArray⟩ with
      | some text => .ok text
      | none => .error .invalidText

/-- Where the names of a path begin. -/
inductive PathStart where
  | root
  | above (levels : Nat)
  deriving Repr, DecidableEq

/--
A place in a file system: names followed downwards from the root, or from the
directory so many levels above the working directory.
-/
structure Place where
  start : PathStart
  names : List String
  deriving Repr, DecidableEq

namespace Place

/-- The directory that relative paths begin in. -/
def working : Place := ⟨.above 0, []⟩

/-- The directory that a path begins in. -/
def ofPath (path : String) : Place :=
  if path.startsWith "/" then ⟨.root, []⟩ else working

/-- The directory around a place; the root is its own. -/
def parent (place : Place) : Place :=
  match place.start, place.names with
  | .root, [] => place
  | .above levels, [] => ⟨.above (levels + 1), []⟩
  | start, names => ⟨start, names.dropLast⟩

/-- The place of a name in a directory. -/
def child (place : Place) (name : String) : Place :=
  ⟨place.start, place.names ++ [name]⟩

/-- Where one component of a path leads. -/
def step (place : Place) : String → Place
  | "." => place
  | ".." => place.parent
  | name => place.child name

/-- Whether a place lies below a directory. -/
def isBelow (place directory : Place) : Bool :=
  place.start == directory.start &&
    directory.names.isPrefixOf place.names &&
    directory.names.length < place.names.length

end Place

/-- Files by their places. -/
structure FileTree where
  files : List (Place × List UInt8)
  deriving Repr, DecidableEq

namespace FileTree

/-- The components of a path; empty ones do not count. -/
def components (path : String) : List String :=
  (path.splitOn "/").filter fun component => component ≠ ""

/-- The tree of some files in the working directory, given by their paths. -/
def ofList (files : List (String × List UInt8)) : FileTree where
  files := files.map fun file => (⟨.above 0, components file.1⟩, file.2)

/-- The file at a place. -/
def file? (tree : FileTree) (place : Place) : Option (List UInt8) :=
  (tree.files.find? fun file => file.1 == place).map Prod.snd

/-- Whether a place is where paths begin, or has files below it. -/
def isDirectory (tree : FileTree) (place : Place) : Bool :=
  place.names.isEmpty || tree.files.any fun file => file.1.isBelow place

/-- The longest name a component may have, in bytes. -/
def maxNameLength : Nat := 255

/-- The longest path that is looked at, in bytes. -/
def maxPathLength : Nat := 4095

/--
Follows components from a directory.  Names are looked up one by one, so the
first fault on the way counts.
-/
def walk (tree : FileTree) (directory : Place) :
    List String → Except FileFault FileNode
  | [] => .ok .directory
  | "." :: rest => walk tree directory rest
  | ".." :: rest => walk tree directory.parent rest
  | name :: rest =>
      if maxNameLength < name.utf8ByteSize then
        .error .nameTooLong
      else
        match tree.file? (directory.child name) with
        | some bytes =>
            if rest.isEmpty then .ok (.file bytes) else .error .notADirectory
        | none =>
            if tree.isDirectory (directory.child name) then
              walk tree (directory.child name) rest
            else
              .error .notFound

/-- Whether a path can be followed at all. -/
def checkPath (path : String) : Except FileFault Unit :=
  if path.contains '\x00' then
    .error .nulInName
  else if path.isEmpty then
    .error .notFound
  else if maxPathLength < path.utf8ByteSize then
    .error .nameTooLong
  else
    .ok ()

/-- What a path leads to; a slash at its end asks for a directory. -/
def lookUp (tree : FileTree) (path : String) : Except FileFault FileNode := do
  checkPath path
  let names := components path
  tree.walk (.ofPath path) (if path.endsWith "/" then names ++ ["."] else names)

/-- The tree with a file at a place, instead of one already there. -/
def insert (tree : FileTree) (place : Place) (bytes : List UInt8) : FileTree where
  files := (place, bytes) :: tree.files.filter fun file => file.1 != place

/--
The tree with a file under a path.  The directory around the file has to be
there already, and the path must not name a directory.
-/
def store
    (tree : FileTree)
    (path : String)
    (bytes : List UInt8) :
    Except FileFault FileTree := do
  checkPath path
  let names := components path
  let last := names.getLast?.getD "."
  discard <| tree.walk (.ofPath path) (names.dropLast ++ ["."])
  if path.endsWith "/" || last == "." || last == ".." then
    throw .isADirectory
  else if maxNameLength < last.utf8ByteSize then
    throw .nameTooLong
  else
    let target := names.foldl Place.step (.ofPath path)
    if tree.isDirectory target then
      throw .isADirectory
    else
      return tree.insert target bytes

instance : FileSystem (StateM FileTree) where
  lookUp path := fun tree => (tree.lookUp path, tree)
  store path bytes := fun tree =>
    match tree.store path bytes with
    | .ok changed => (.ok (), changed)
    | .error fault => (.error fault, tree)

end FileTree

end AdventureArchive
