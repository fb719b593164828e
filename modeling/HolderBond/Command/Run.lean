import HolderBond.Bond.Creation
import HolderBond.Command.Basic
import HolderBond.Command.Error
import HolderBond.Command.Report
import HolderBond.Store.Folder

/-!
# Carrying out commands

A command acts only through its surroundings: files, the clock, chance, and two streams of
text.  What it does is therefore a function of these, whatever monad they live in.
-/

set_option autoImplicit false

namespace HolderBond

structure Surroundings (m : Type → Type) where
  files : FileAccess m
  now : m Instant
  /-- Something that tells apart bonds made at the same time. -/
  suffix : m UInt32
  print : String → m Unit
  warn : String → m Unit

abbrev Action (m : Type → Type) := ExceptT CommandError m

namespace Action

variable {m : Type → Type} [Monad m]

def ofStep {α ε : Type} (cause : ε → CommandError) (step : m (Except ε α)) : Action m α :=
  ExceptT.mk do return (← step).mapError cause

def ofResult {α ε : Type} (cause : ε → CommandError) (result : Except ε α) : Action m α :=
  ExceptT.mk (return result.mapError cause)

end Action

namespace Command

variable {m : Type → Type} [Monad m]

/-! ## Inputs -/

def readDocument {α : Type} (files : FileAccess m) (shape : Shape α) (path : String) :
    Action m α := do
  let text ← .ofStep (.unreadable path) (files.readText path)
  .ofResult (.badDocument path) (shape.read text)

def contains (word : List Char) : List Char → Bool
  | [] => word.isEmpty
  | c :: rest => word.isPrefixOf (c :: rest) || contains word rest

/-- The transport form that an input is or carries: what looks like a link is one. -/
def transportForm (input : String) : Except StoreError String :=
  if contains [':', '/', '/'] input.toList then (Bond.ofLink input).mapError .link
  else .ok (Text.trim input)

/-- The bond that an input stands for: the name of a file, a link, or a transport form. -/
def loadBond (files : FileAccess m) (input : String) : Action m Bond := do
  if (← files.kind input) = some .file then readDocument files Bond.shape input
  else
    let encoded ← .ofResult .store (transportForm input)
    .ofResult .notABond (Bond.decode encoded)

def openCache (files : FileAccess m) (storage : StorageSettings) : Action m (Cache m) := do
  .ofStep (.noCache storage.folder) (Folder.make files storage.folder)
  return ⟨Folder.backend files storage.folder, storage.cache⟩

/-! ## The commands one by one -/

def withoutMarks : List Char → List Char
  | '0' :: 'x' :: rest => withoutMarks rest
  | rest => rest

def walletSecret (text : String) (hex : Bool) : Except Hex.Error (List UInt8) :=
  if hex then Hex.decode (String.ofList (withoutMarks text.toList)) else .ok (Text.utf8 text)

def runSeed (s : Surroundings m) (identifier secret scope : String) (hex : Bool) :
    Action m Unit := do
  let bytes ← .ofResult .badWalletSecret (walletSecret secret hex)
  s.print ((HolderSeed.derive identifier bytes scope).toHex ++ "\n")

def runCreate (s : Surroundings m) (config : Config) (options : CreateOptions) :
    Action m Unit := do
  let policy ← readDocument s.files BondPolicy.shape options.policy
  let identity ← readDocument s.files IdentityBundle.shape options.identity
  let funds ← readDocument s.files FundsBundle.shape options.funds
  let seed ← .ofResult .badSeed (HolderSeed.ofHex options.seed)
  let request : BondRequest :=
    { policy, identity, funds, seed
      note := options.note
      devMode := if options.devMode then some true else none }
  let creation ← .ofResult .notCreated (request.create config.binding (← s.now) (← s.suffix))
  for warning in creation.warnings do
    s.warn ("warning: " ++ warning.message ++ "\n")
  unless options.noCache do
    let cache ← openCache s.files config.storage
    unless ← cache.save creation.bond do
      s.warn "warning: bond could not be cached\n"
  let text := Bond.shape.pretty creation.bond
  match options.output with
  | some path =>
      .ofStep .notWritten (s.files.writeText path text)
      s.warn ("Bond " ++ creation.bond.id ++ " written to " ++ path ++ "\n")
  | none => s.print (text ++ "\n")

def runVerify (s : Surroundings m) (config : Config) (input : String) (time : Option UInt64)
    (json : Bool) : Action m Unit := do
  let bond ← loadBond s.files input
  let now ← match time with
    | some second => pure second
    | none => pure (← s.now).epoch
  let verdict := (Verifier.structural config.binding config.verification).verifyAt bond now
  s.print (if json then Verdict.shape.pretty verdict ++ "\n" else Report.verdict bond.id verdict)
  unless verdict.valid do
    throw (.notValid bond.id)

def runEncode (s : Surroundings m) (file : String) : Action m Unit := do
  let bond ← readDocument s.files Bond.shape file
  s.print (bond.encode ++ "\n")

def runDecode (s : Surroundings m) (encoded : String) : Action m Unit := do
  let bond ← .ofResult .store (Bond.decode encoded)
  s.print (Bond.shape.pretty bond ++ "\n")

def runShare (s : Surroundings m) (config : Config) (input id baseUrl : Option String) :
    Action m Unit := do
  let bond ← match input, id with
    | some input, _ => loadBond s.files input
    | none, some id => do
        let cache ← openCache s.files config.storage
        match ← cache.get id with
        | some bond => pure bond
        | none => throw (.notCached id)
    | none, none => throw .noInput
  s.print (Bond.link (baseUrl.getD config.share.baseUrl) bond ++ "\n")

def runList (s : Surroundings m) (config : Config) (json : Bool) : Action m Unit := do
  let cache ← openCache s.files config.storage
  let bonds ← cache.list
  if json then s.print (Bond.listShape.pretty bonds ++ "\n")
  else if bonds.isEmpty then s.print ("No cached bonds in " ++ config.storage.folder ++ "\n")
  else s.print (Report.bonds (← s.now).epoch bonds)

def runDelete (s : Surroundings m) (config : Config) (id : Option String) (all : Bool) :
    Action m Unit := do
  let cache ← openCache s.files config.storage
  if all then
    if ← cache.clear then s.print "Bond cache cleared.\n" else throw .notCleared
  else
    match id with
    | none => throw .noId
    | some id =>
        if ← cache.delete id then s.print ("Deleted bond " ++ id ++ "\n")
        else throw (.notCached id)

def run (s : Surroundings m) (config : Config) : Command → Action m Unit
  | .seed identifier secret scope hex => runSeed s identifier secret scope hex
  | .create options => runCreate s config options
  | .verify input time json => runVerify s config input time json
  | .encode file => runEncode s file
  | .decode encoded => runDecode s encoded
  | .share input id baseUrl => runShare s config input id baseUrl
  | .list json => runList s config json
  | .delete id all => runDelete s config id all

end Command

namespace Invocation

variable {m : Type → Type} [Monad m]

/-- The configuration with what the arguments say instead. -/
def adjust (invocation : Invocation) (config : Config) : Config :=
  { config with
    storage.folder := invocation.folder.getD config.storage.folder
    logging.level := invocation.logLevel.getD config.logging.level }

/-- Writes the usual configuration, or reads the configuration and carries out the command. -/
def run (invocation : Invocation) (s : Surroundings m) : Action m Unit := do
  if invocation.init then
    .ofStep .config (Config.standard.save s.files invocation.config)
    s.print ("Wrote default config to " ++ invocation.config ++ "\n")
  else
    let config ← .ofStep .config (Config.load s.files invocation.config)
    match invocation.command with
    | none => throw .noCommand
    | some command => command.run s (invocation.adjust config)

end Invocation

namespace Program

variable {m : Type → Type} [Monad m]

def versionLine : String :=
  "zkbond 0.1.0\n"

def misuseLine : String :=
  "usage error"

/-- Does what the arguments say; the number tells how it went. -/
def run (s : Surroundings m) (arguments : List String) : m UInt32 := do
  match Invocation.ofArguments arguments with
  | .error .version =>
      s.print versionLine
      return 0
  | .error .misuse =>
      s.warn misuseLine
      return 2
  | .ok invocation =>
      match ← (invocation.run s).run with
      | .ok () => return 0
      | .error error =>
          s.warn error.report
          return 1

end Program

end HolderBond
