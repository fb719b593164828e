/-!
# Options and words

The arguments of a command are options, by name or by letter, and plain words.  An option's
value stands in the same argument or is the next one, which then must not look like an
option.  After `--` every argument is a plain word.
-/

set_option autoImplicit false

namespace HolderBond

inductive ValueKind where
  | flag
  | text
  /-- A text that is not empty. -/
  | path
  | number
  deriving DecidableEq

structure OptionForm where
  name : String
  letter : Option Char
  kind : ValueKind

inductive Stop where
  | misuse
  | version
  deriving DecidableEq

structure Arguments where
  options : List (String × String)
  words : List String

namespace Arguments

def none : Arguments := ⟨[], []⟩

def value? (arguments : Arguments) (name : String) : Option String :=
  (arguments.options.find? fun option => option.1 == name).map Prod.snd

def has (arguments : Arguments) (name : String) : Bool :=
  (arguments.value? name).isSome

def require (arguments : Arguments) (name : String) : Except Stop String :=
  match arguments.value? name with
  | some value => .ok value
  | .none => .error .misuse

def addWord (arguments : Arguments) (word : String) : Arguments :=
  { arguments with words := arguments.words ++ [word] }

end Arguments

namespace OptionForm

def version : OptionForm :=
  ⟨"version", some 'V', .flag⟩

/-- The digits of a number, one plus sign before them being allowed. -/
def number? (s : String) : Option UInt64 :=
  let digits := match s.toList with
    | '+' :: rest => rest
    | all => all
  if digits.isEmpty || !digits.all Char.isDigit then none
  else
    let n := digits.foldl (fun total c => total * 10 + (c.toNat - 48)) 0
    if n < UInt64.size then some (UInt64.ofNat n) else none

def accepts (kind : ValueKind) (value : String) : Bool :=
  match kind with
  | .flag => false
  | .text => true
  | .path => !value.isEmpty
  | .number => (number? value).isSome

/-- Whether an argument cannot be the value of an option before it. -/
def looksLikeOption (argument : String) : Bool :=
  match argument.toList with
  | ['-'] => false
  | '-' :: _ => true
  | _ => false

/-- An option met with its value; no option may be met twice. -/
def meet (form : OptionForm) (value : String) (arguments : Arguments) : Except Stop Arguments :=
  if arguments.has form.name then .error .misuse
  else .ok { arguments with options := arguments.options ++ [(form.name, value)] }

def meetValue (form : OptionForm) (attached : Option String) (rest : List String)
    (arguments : Arguments) : Except Stop (Arguments × List String) := do
  let (value, rest) ← match attached, rest with
    | some value, rest => pure (value, rest)
    | none, next :: rest =>
        if looksLikeOption next then throw .misuse else pure (next, rest)
    | none, [] => throw .misuse
  if accepts form.kind value then return (← form.meet value arguments, rest)
  else throw .misuse

def meetFlag (form : OptionForm) (arguments : Arguments) : Except Stop Arguments :=
  if form.name = version.name then .error .version else form.meet "" arguments

def byName (forms : List OptionForm) (text : List Char) (rest : List String)
    (arguments : Arguments) : Except Stop (Arguments × List String) := do
  let name := String.ofList (text.takeWhile (· != '='))
  let attached := match text.dropWhile (· != '=') with
    | _ :: value => some (String.ofList value)
    | [] => none
  match forms.find? fun form => form.name == name with
  | none => throw .misuse
  | some form =>
      if form.kind = .flag then
        if attached.isSome then throw .misuse else return (← form.meetFlag arguments, rest)
      else form.meetValue attached rest arguments

/-- Options by letter, without their dash.  The first that takes a value takes what follows
it in the argument, less an equals sign. -/
def byLetter (forms : List OptionForm) (rest : List String) :
    List Char → Arguments → Except Stop (Arguments × List String)
  | [], arguments => .ok (arguments, rest)
  | letter :: letters, arguments =>
      match forms.find? fun form => form.letter == some letter with
      | none => .error .misuse
      | some form =>
          if form.kind = .flag then do
            byLetter forms rest letters (← form.meetFlag arguments)
          else
            let attached := match letters with
              | [] => none
              | '=' :: value => some (String.ofList value)
              | value => some (String.ofList value)
            form.meetValue attached rest arguments

def meetFirst (forms : List OptionForm) (argument : String) (rest : List String)
    (arguments : Arguments) : Except Stop (Arguments × List String) :=
  match argument.toList with
  | '-' :: '-' :: text => byName forms text rest arguments
  | _ :: letters => byLetter forms rest letters arguments
  | [] => .error .misuse

end OptionForm

namespace Arguments

/-- The options up to the first word, and the arguments from that word on. -/
def upToWordWithin (forms : List OptionForm) : Nat → List String → Arguments →
    Except Stop (Arguments × List String)
  | _, [], arguments => .ok (arguments, [])
  | 0, _ :: _, _ => .error .misuse
  | bound + 1, argument :: rest, arguments =>
      if argument = "--" then
        if rest.isEmpty then .ok (arguments, []) else .error .misuse
      else if OptionForm.looksLikeOption argument then do
        let (arguments, rest) ← OptionForm.meetFirst forms argument rest arguments
        upToWordWithin forms bound rest arguments
      else .ok (arguments, argument :: rest)

def upToWord (forms : List OptionForm) (all : List String) :
    Except Stop (Arguments × List String) :=
  upToWordWithin forms all.length all none

def allWithin (forms : List OptionForm) : Nat → List String → Arguments → Except Stop Arguments
  | _, [], arguments => .ok arguments
  | 0, _ :: _, _ => .error .misuse
  | bound + 1, argument :: rest, arguments =>
      if argument = "--" then .ok { arguments with words := arguments.words ++ rest }
      else if OptionForm.looksLikeOption argument then do
        let (arguments, rest) ← OptionForm.meetFirst forms argument rest arguments
        allWithin forms bound rest arguments
      else allWithin forms bound rest (arguments.addWord argument)

def all (forms : List OptionForm) (given : List String) : Except Stop Arguments :=
  allWithin forms given.length given none

end Arguments

end HolderBond
