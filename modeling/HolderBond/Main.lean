import HolderBond.Command.Run
import Std.Time.DateTime.Timestamp

/-!
# The program

The system's files, clock, chance and streams as the surroundings of commands.
-/

set_option autoImplicit false

namespace HolderBond.Program

def faultOfNumber (number : UInt32) (words : String) : FileFault :=
  match number with
  | 2 => .notFound
  | 17 => .alreadyExists
  | 20 => .notDirectory
  | 21 => .isDirectory
  | 36 => .nameTooLong
  | _ => .other s!"{words} (os error {number})"

def faultOf : IO.Error → FileFault
  | .noFileOrDirectory _ number words
  | .interrupted _ number words
  | .alreadyExists _ number words
  | .invalidArgument _ number words
  | .permissionDenied _ number words
  | .resourceExhausted _ number words
  | .inappropriateType _ number words
  | .noSuchThing _ number words
  | .otherError number words
  | .resourceBusy number words
  | .resourceVanished number words
  | .unsupportedOperation number words
  | .hardwareFault number words
  | .unsatisfiedConstraints number words
  | .illegalOperation number words
  | .protocolError number words
  | .timeExpired number words => faultOfNumber number words
  | .userError words => .other words
  | .unexpectedEof => .other "unexpected end of file"

def attempt {α : Type} (action : IO α) : IO (Except FileFault α) := do
  return (← action.toBaseIO).mapError faultOf

/-- What a path leads to, told by what comes of reading it. -/
def systemKind (path : String) : IO (Option FileKind) := do
  match ← attempt (IO.FS.readBinFile path) with
  | .ok _ => return some .file
  | .error .isDirectory => return some .folder
  | .error (.other _) => return some .file
  | .error _ => return none

def systemFiles : FileAccess IO where
  kind := systemKind
  read path := do
    return (← attempt (IO.FS.readBinFile path)).map fun bytes => bytes.toList
  write path bytes := attempt (IO.FS.writeBinFile path ⟨bytes.toArray⟩)
  rename source target := attempt (IO.FS.rename source target)
  remove path := attempt (IO.FS.removeFile path)
  makeFolders path :=
    if path.isEmpty then return .ok () else attempt (IO.FS.createDirAll path)

/-- The time of the system's clock, or the start of 1970 where the clock shows no date. -/
def systemNow : IO Instant := do
  let time := (← Std.Time.Timestamp.now).toDurationSinceUnixEpoch
  let nanoseconds := Fin.ofNat 1000000000 time.nano.val.toNat
  return (Instant.ofSeconds? time.second.val nanoseconds).getD Instant.start

def systemSuffix : IO UInt32 := do
  let bytes ← IO.getRandomBytes 4
  return (Words.ofBigEndian bytes.toList).headD 0

def system : Surroundings IO where
  files := systemFiles
  now := systemNow
  suffix := systemSuffix
  print := IO.print
  warn := IO.eprint

end HolderBond.Program

def main (arguments : List String) : IO UInt32 :=
  HolderBond.Program.run HolderBond.Program.system arguments
