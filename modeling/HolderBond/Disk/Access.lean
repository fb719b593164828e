import HolderBond.Text.Utf8

/-!
# Access to files

What the library asks of a file system, as a record of operations over any monad, so that
the same code runs on the system's files and on a model of them.
-/

set_option autoImplicit false

namespace HolderBond

inductive FileFault where
  | notFound
  | isDirectory
  | notDirectory
  | alreadyExists
  | nameTooLong
  | notText
  | other (text : String)
  deriving DecidableEq

def FileFault.message : FileFault → String
  | .notFound => "No such file or directory (os error 2)"
  | .isDirectory => "Is a directory (os error 21)"
  | .notDirectory => "Not a directory (os error 20)"
  | .alreadyExists => "File exists (os error 17)"
  | .nameTooLong => "File name too long (os error 36)"
  | .notText => "stream did not contain valid UTF-8"
  | .other text => text

inductive FileKind where
  | file
  | folder
  deriving DecidableEq

/-- The operations on files, each path being as the system reads it. -/
structure FileAccess (m : Type → Type) where
  kind : String → m (Option FileKind)
  read : String → m (Except FileFault (List UInt8))
  /-- Makes the file or replaces what it holds. -/
  write : String → List UInt8 → m (Except FileFault Unit)
  /-- Moves a file, over another one if need be. -/
  rename : String → String → m (Except FileFault Unit)
  remove : String → m (Except FileFault Unit)
  /-- Makes a folder and those above it as far as they are missing. -/
  makeFolders : String → m (Except FileFault Unit)

namespace FileAccess

variable {m : Type → Type} [Monad m]

def readText (files : FileAccess m) (path : String) : m (Except FileFault String) := do
  match ← files.read path with
  | .error fault => return .error fault
  | .ok bytes =>
      match Text.ofUtf8? bytes with
      | some text => return .ok text
      | none => return .error .notText

def writeText (files : FileAccess m) (path text : String) : m (Except FileFault Unit) :=
  files.write path (Text.utf8 text)

end FileAccess

end HolderBond
