import HolderBond.Disk.Access
import HolderBond.Settings.Basic
import HolderBond.Store.Cache
import HolderBond.Text.Pieces
import HolderBond.Toml.Reader
import HolderBond.Verification.Basic

/-!
# The configuration of the program

A file of five sections.  What the file does not say is as usual, each setting for itself;
a file that does not exist says nothing.
-/

set_option autoImplicit false

namespace HolderBond

structure StorageSettings where
  folder : String
  cache : CacheSettings
  deriving DecidableEq

namespace StorageSettings

def standard : StorageSettings :=
  ⟨"./data", .standard⟩

def settings : Settings (String × String × UInt64 × Unit) :=
  .cons "data_dir" standard.folder .text CacheSettings.settings

def correspondence : Correspondence (String × String × UInt64 × Unit) StorageSettings where
  make := fun (folder, cache) => ⟨folder, CacheSettings.correspondence.make cache⟩
  view := fun s => (s.folder, CacheSettings.correspondence.view s.cache)
  make_view := fun _ => rfl
  view_make := fun _ => rfl

end StorageSettings

structure ShareSettings where
  baseUrl : String
  deriving DecidableEq

namespace ShareSettings

def standard : ShareSettings :=
  ⟨"http://localhost:3000"⟩

def settings : Settings (String × Unit) :=
  .cons "base_url" standard.baseUrl .text .nil

def correspondence : Correspondence (String × Unit) ShareSettings where
  make := fun (baseUrl, ()) => ⟨baseUrl⟩
  view := fun s => (s.baseUrl, ())
  make_view := fun _ => rfl
  view_make := fun _ => rfl

end ShareSettings

structure LogSettings where
  level : String
  format : String
  deriving DecidableEq

namespace LogSettings

def standard : LogSettings :=
  ⟨"warn", "text"⟩

def settings : Settings (String × String × Unit) :=
  .cons "level" standard.level .text <|
  .cons "format" standard.format .text .nil

def correspondence : Correspondence (String × String × Unit) LogSettings where
  make := fun (level, format, ()) => ⟨level, format⟩
  view := fun s => (s.level, s.format, ())
  make_view := fun _ => rfl
  view_make := fun _ => rfl

end LogSettings

structure Config where
  binding : BindingParams
  verification : VerificationSettings
  storage : StorageSettings
  share : ShareSettings
  logging : LogSettings
  deriving DecidableEq

namespace Config

def standard : Config where
  binding := .v1
  verification := .standard
  storage := .standard
  share := .standard
  logging := .standard

def shape : Shape Config :=
  let part {α β : Type} (settings : Settings α) (c : Correspondence α β) : Shape β :=
    .via (.record "" true settings.fields) c
  .via
    (.record "" true <|
      .field "binding" BindingParams.shape <|
      .field "verification" VerificationSettings.shape <|
      .field "storage" (part StorageSettings.settings StorageSettings.correspondence) <|
      .field "share" (part ShareSettings.settings ShareSettings.correspondence) <|
      .field "logging" (part LogSettings.settings LogSettings.correspondence) .nil)
    { make := fun (binding, verification, storage, share, logging, ()) =>
        ⟨binding, verification, storage, share, logging⟩
      view := fun c => (c.binding, c.verification, c.storage, c.share, c.logging, ())
      make_view := fun _ => rfl
      view_make := fun _ => rfl }

/-! ## Files -/

inductive Error where
  /-- The file is no settings file, or a setting has a wrong value. -/
  | badFile
  | value (cause : ValueError)
  | file (cause : FileFault)
  deriving DecidableEq

/-- The wording of an error; of bad files no more is said than that they are bad. -/
def Error.message : Error → String
  | .badFile => "TOML parse error"
  | .value cause => cause.message
  | .file cause => cause.message

def sectionOf? {α β : Type} (entries : Toml.Entries) (name : String) (settings : Settings α)
    (c : Correspondence α β) (positional : Bool) : Option β :=
  (settings.ofSection? positional (entries.get? name)).map c.make

def ofEntries? (entries : Toml.Entries) : Option Config := do
  let binding ←
    sectionOf? entries "binding" BindingParams.settings BindingParams.correspondence true
  let verification ← sectionOf? entries "verification" VerificationSettings.settings
    VerificationSettings.correspondence true
  let storage ←
    sectionOf? entries "storage" StorageSettings.settings StorageSettings.correspondence false
  let share ← sectionOf? entries "share" ShareSettings.settings ShareSettings.correspondence true
  let logging ← sectionOf? entries "logging" LogSettings.settings LogSettings.correspondence true
  return { binding, verification, storage, share, logging }

def ofText (s : String) : Except Error Config :=
  match (Toml.read? s).bind ofEntries? with
  | none => .error .badFile
  | some config =>
      match config.binding.validate with
      | .error cause => .error (.value cause)
      | .ok () => .ok config

def render (config : Config) : String :=
  "\n".intercalate
    [BindingParams.settings.render "binding"
        (BindingParams.correspondence.view config.binding),
      VerificationSettings.settings.render "verification"
        (VerificationSettings.correspondence.view config.verification),
      StorageSettings.settings.render "storage"
        (StorageSettings.correspondence.view config.storage),
      ShareSettings.settings.render "share" (ShareSettings.correspondence.view config.share),
      LogSettings.settings.render "logging" (LogSettings.correspondence.view config.logging)]

variable {m : Type → Type} [Monad m]

def load (files : FileAccess m) (path : String) : m (Except Error Config) := do
  match ← files.kind path with
  | none => return .ok .standard
  | some _ =>
      match ← files.readText path with
      | .error fault => return .error (.file fault)
      | .ok text => return ofText text

/-- The part of a path above its last name; slashes at the end, and the name that stays
where it is, count for nothing. -/
def folderOf (path : String) : String :=
  let pieces := (Text.piecesBetween '/' path.toList).map String.ofList
  match pieces.reverse.dropWhile fun piece => piece.isEmpty || piece == "." with
  | _ :: above => "/".intercalate above.reverse
  | [] => ""

def save (files : FileAccess m) (path : String) (config : Config) : m (Except Error Unit) := do
  match ← files.makeFolders (folderOf path) with
  | .error fault => return .error (.file fault)
  | .ok () => return (← files.writeText path config.render).mapError .file

end Config

end HolderBond
