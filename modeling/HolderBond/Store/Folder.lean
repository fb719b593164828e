import HolderBond.Store.Backend

/-!
# Folders as backends

A folder keeps the text of each key in a file of its own.  A text is first written to a
temporary file beside it and then moved into place, so that a file never holds half a text.
Characters that might mean something in a path are replaced in file names; keys that differ
only in such characters share a file.
-/

set_option autoImplicit false

namespace HolderBond.Folder

/-- Whether a character stands for itself in file names. -/
def isPlain (c : Char) : Bool :=
  c.isAlphanum || c == '-' || c == '_'

def plainKey (key : String) : String :=
  String.ofList (key.toList.map fun c => if isPlain c then c else '_')

def fileName (key : String) : String :=
  plainKey key ++ ".json"

/-- The name of the temporary file of a key.  A file name that is nothing but its ending
keeps it. -/
def temporaryName (key : String) : String :=
  if key.isEmpty then ".json.json.tmp" else plainKey key ++ ".json.tmp"

def path (folder name : String) : String :=
  match folder.toList.getLast? with
  | none => name
  | some '/' => folder ++ name
  | some _ => folder ++ "/" ++ name

variable {m : Type → Type} [Monad m]

def make (files : FileAccess m) (folder : String) : m (Except StoreError Unit) := do
  return (← files.makeFolders folder).mapError .file

def get (files : FileAccess m) (folder key : String) :
    m (Except StoreError (Option String)) := do
  match ← files.readText (path folder (fileName key)) with
  | .ok text => return .ok (some text)
  | .error .notFound => return .ok none
  | .error fault => return .error (.file fault)

/-- Writes the text of a key beside its file and moves it there. -/
def set (files : FileAccess m) (folder key text : String) : m (Except StoreError Unit) := do
  let temporary := path folder (temporaryName key)
  match ← files.writeText temporary text with
  | .error fault => return .error (.file fault)
  | .ok () => return (← files.rename temporary (path folder (fileName key))).mapError .file

def remove (files : FileAccess m) (folder key : String) : m (Except StoreError Unit) := do
  match ← files.remove (path folder (fileName key)) with
  | .ok () => return .ok ()
  | .error .notFound => return .ok ()
  | .error fault => return .error (.file fault)

def backend (files : FileAccess m) (folder : String) : Backend m where
  get := get files folder
  set := set files folder
  remove := remove files folder

end HolderBond.Folder
