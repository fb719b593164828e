import HolderBond.Disk.Access
import HolderBond.Text.Pieces

/-!
# Trees of files

A model of a file system: what each path from the root leads to, and the folder in which
relative paths begin.  Faults are found along the path, the first one counting.
-/

set_option autoImplicit false

namespace HolderBond

inductive Node where
  | file (bytes : List UInt8)
  | folder
  deriving DecidableEq

/-- Files and folders by their path from the root, which itself is not listed. -/
structure FileTree where
  nodes : List (List String × Node)
  current : List String

namespace FileTree

def empty (name : String) : FileTree :=
  ⟨[([name], .folder)], [name]⟩

def maxNameBytes : Nat := 255

def maxPathBytes : Nat := 4095

def node? (tree : FileTree) : List String → Option Node
  | [] => some .folder
  | path => (tree.nodes.find? fun entry => entry.1 == path).map Prod.snd

def put (tree : FileTree) (path : List String) (node : Node) : FileTree :=
  { tree with nodes := (path, node) :: tree.nodes.filter fun entry => entry.1 != path }

def erase (tree : FileTree) (path : List String) : FileTree :=
  { tree with nodes := tree.nodes.filter fun entry => entry.1 != path }

def names (tree : FileTree) (folder : List String) : List String :=
  let inside := tree.nodes.filterMap fun entry =>
    match entry.1.reverse with
    | name :: above => if above.reverse = folder then some name else none
    | [] => none
  inside.mergeSort fun a b => a ≤ b

/-- The steps that a path names; the one that stays where it is counts for nothing unless it
comes last. -/
def steps (path : String) : List String :=
  let pieces := (Text.piecesBetween '/' path.toList).map String.ofList
  pieces.filter fun piece => !piece.isEmpty && piece != "."

/-- Whether a path says that a folder is at its end. -/
def saysFolder (path : String) : Bool :=
  match (Text.piecesBetween '/' path.toList).getLast? with
  | some last => last.isEmpty || last == ['.']
  | none => false

def start (tree : FileTree) (path : String) : List String :=
  if path.toList.head? = some '/' then [] else tree.current

/-- The names from the root that some steps lead to, from a place that has to be a folder
while there are steps left.  The last step need not lead to anything. -/
def walk (tree : FileTree) : List String → List String → Except FileFault (List String)
  | place, [] => .ok place
  | place, step :: rest =>
      match tree.node? place with
      | none => .error .notFound
      | some (.file _) => .error .notDirectory
      | some .folder =>
          if step = ".." then tree.walk place.dropLast rest
          else if (Text.utf8 step).length > maxNameBytes then .error .nameTooLong
          else tree.walk (place ++ [step]) rest

/-- The names from the root that a path leads to, whether or not something is there. -/
def resolve (tree : FileTree) (path : String) : Except FileFault (List String) :=
  if path.isEmpty then .error .notFound
  else if (Text.utf8 path).length > maxPathBytes then .error .nameTooLong
  else tree.walk (tree.start path) (steps path)

def lookUp (tree : FileTree) (path : String) : Except FileFault (List String × Node) := do
  let place ← tree.resolve path
  match tree.node? place with
  | none => throw .notFound
  | some (.file bytes) =>
      if saysFolder path then throw .notDirectory else return (place, .file bytes)
  | some .folder => return (place, .folder)

def kind (tree : FileTree) (path : String) : Option FileKind :=
  match tree.lookUp path with
  | .ok (_, .file _) => some .file
  | .ok (_, .folder) => some .folder
  | .error _ => none

def read (tree : FileTree) (path : String) : Except FileFault (List UInt8) := do
  match ← tree.lookUp path with
  | (_, .file bytes) => return bytes
  | (_, .folder) => throw .isDirectory

def write (tree : FileTree) (path : String) (bytes : List UInt8) :
    Except FileFault FileTree := do
  let place ← tree.resolve path
  match tree.node? place with
  | some .folder => throw .isDirectory
  | some (.file _) =>
      if saysFolder path then throw .notDirectory else return tree.put place (.file bytes)
  | none => if saysFolder path then throw .isDirectory else return tree.put place (.file bytes)

def rename (tree : FileTree) (source target : String) : Except FileFault FileTree := do
  let (origin, node) ← tree.lookUp source
  let place ← tree.resolve target
  match tree.node? place with
  | some .folder => throw .isDirectory
  | _ => return (tree.erase origin).put place node

def remove (tree : FileTree) (path : String) : Except FileFault FileTree := do
  match ← tree.lookUp path with
  | (place, .file _) => return tree.erase place
  | (_, .folder) => throw .isDirectory

def makeAlong (tree : FileTree) (place : List String) : List String → Except FileFault FileTree
  | [] => .ok tree
  | step :: rest =>
      let next := if step = ".." then place.dropLast else place ++ [step]
      if (Text.utf8 step).length > maxNameBytes then .error .nameTooLong
      else
        match tree.node? next with
        | some .folder => tree.makeAlong next rest
        | some (.file _) => .error (if rest.isEmpty then .alreadyExists else .notDirectory)
        | none => (tree.put next .folder).makeAlong next rest

def makeFolders (tree : FileTree) (path : String) : Except FileFault FileTree :=
  if (Text.utf8 path).length > maxPathBytes then .error .nameTooLong
  else tree.makeAlong (tree.start path) (steps path)

/-- An operation that changes the tree unless it is refused. -/
def change (operation : FileTree → Except FileFault FileTree) :
    StateM FileTree (Except FileFault Unit) := do
  match operation (← get) with
  | .ok tree =>
      set tree
      return .ok ()
  | .error fault => return .error fault

def access : FileAccess (StateM FileTree) where
  kind path := return (← get).kind path
  read path := return (← get).read path
  write path bytes := change fun tree => tree.write path bytes
  rename source target := change fun tree => tree.rename source target
  remove path := change fun tree => tree.remove path
  makeFolders path := change fun tree => tree.makeFolders path

end FileTree

end HolderBond
