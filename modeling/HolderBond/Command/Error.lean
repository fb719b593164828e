import HolderBond.Binding.Seed
import HolderBond.Bond.Error
import HolderBond.Settings.Config
import HolderBond.Store.Error

/-!
# Why a command fails
-/

set_option autoImplicit false

namespace HolderBond

/-- The causes for which a command ends without success. -/
inductive CommandError where
  | config (cause : Config.Error)
  | noCommand
  | badWalletSecret (cause : Hex.Error)
  | badSeed (cause : HolderSeed.Error)
  | unreadable (path : String) (cause : FileFault)
  | badDocument (path : String) (cause : Json.Error)
  | noCache (folder : String) (cause : StoreError)
  | notCreated (cause : BondError)
  | notWritten (cause : FileFault)
  | store (cause : StoreError)
  | notABond (cause : StoreError)
  | notCached (id : String)
  | noInput
  | noId
  | notCleared
  | notValid (id : String)
  deriving DecidableEq

namespace CommandError

def message : CommandError → String
  | .config cause => cause.message
  | .noCommand => "no subcommand given; run `zkbond --help`"
  | .badWalletSecret cause => "invalid wallet secret hex: " ++ cause.message
  | .badSeed cause => cause.message
  | .unreadable path _ => "failed to read " ++ path
  | .badDocument path _ => "invalid JSON in " ++ path
  | .noCache folder _ => "failed to open bond cache at " ++ folder
  | .notCreated cause => cause.message
  | .notWritten cause => cause.message
  | .store cause => cause.message
  | .notABond _ => "input is neither a bond file, a share URL, nor an encoded bond"
  | .notCached id => "no cached bond with id " ++ id
  | .noInput => "pass a bond file, an encoded bond, or --id"
  | .noId => "pass a bond id or --all"
  | .notCleared => "failed to clear the bond cache"
  | .notValid id => "bond " ++ id ++ " is not valid"

def causes : CommandError → List String
  | .unreadable _ cause => [cause.message]
  | .badDocument _ cause => [cause.message]
  | .noCache _ cause => cause.message :: cause.cause?.toList
  | .notCreated cause => cause.causes
  | .store cause => cause.cause?.toList
  | .notABond cause => cause.message :: cause.cause?.toList
  | _ => []

def numberedLines : Nat → List String → List String
  | _, [] => []
  | n, cause :: rest => s!"    {n}: {cause}\n" :: numberedLines (n + 1) rest

def report (error : CommandError) : String :=
  let behind := match error.causes with
    | [] => ""
    | [cause] => s!"\nCaused by:\n    {cause}\n"
    | causes => "\nCaused by:\n" ++ String.join (numberedLines 0 causes)
  "Error: " ++ error.message ++ "\n" ++ behind

end CommandError

end HolderBond
