import HolderBond.Command.Options

/-!
# Commands

What the program can be told to do, and how the arguments say it.
-/

set_option autoImplicit false

namespace HolderBond

structure CreateOptions where
  policy : String
  identity : String
  funds : String
  seed : String
  note : Option String
  devMode : Bool
  output : Option String
  noCache : Bool

inductive Command where
  | seed (identifier walletSecret scope : String) (hex : Bool)
  | create (options : CreateOptions)
  | verify (input : String) (time : Option UInt64) (json : Bool)
  | encode (file : String)
  | decode (encoded : String)
  | share (input id baseUrl : Option String)
  | list (json : Bool)
  | delete (id : Option String) (all : Bool)

structure Invocation where
  config : String
  logLevel : Option String
  folder : Option String
  /-- Write the usual configuration, whatever the command. -/
  init : Bool
  command : Option Command

namespace Invocation

def usualConfig : String :=
  "zkbond.toml"

/-- Options that may stand before or behind the name of a command. -/
def commonForms : List OptionForm :=
  [⟨"config", some 'c', .path⟩, ⟨"log-level", none, .text⟩, ⟨"data-dir", none, .path⟩]

def outerForms : List OptionForm :=
  commonForms ++ [⟨"init", none, .flag⟩, .version]

def innerForms? (name : String) : Option (List OptionForm) :=
  match name with
  | "seed" =>
      some [⟨"identifier", some 'i', .text⟩, ⟨"wallet-secret", some 'w', .text⟩,
        ⟨"scope", some 's', .text⟩, ⟨"hex", none, .flag⟩]
  | "create" =>
      some [⟨"policy", some 'p', .path⟩, ⟨"identity", some 'i', .path⟩,
        ⟨"funds", some 'f', .path⟩, ⟨"seed", some 's', .text⟩, ⟨"note", some 'n', .text⟩,
        ⟨"dev-mode", none, .flag⟩, ⟨"output", some 'o', .path⟩, ⟨"no-cache", none, .flag⟩]
  | "verify" => some [⟨"at", none, .number⟩, ⟨"json", none, .flag⟩]
  | "encode" => some []
  | "decode" => some []
  | "share" => some [⟨"id", none, .text⟩, ⟨"base-url", none, .text⟩]
  | "list" => some [⟨"json", none, .flag⟩]
  | "delete" => some [⟨"all", none, .flag⟩]
  | _ => none

def oneWord (arguments : Arguments) (kind : ValueKind) : Except Stop String :=
  match arguments.words with
  | [word] => if OptionForm.accepts kind word then .ok word else .error .misuse
  | _ => .error .misuse

def oneWordAtMost (arguments : Arguments) : Except Stop (Option String) :=
  match arguments.words with
  | [] => .ok none
  | [word] => .ok (some word)
  | _ => .error .misuse

def noWords (arguments : Arguments) : Except Stop Unit :=
  if arguments.words.isEmpty then .ok () else .error .misuse

def commandOf (name : String) (arguments : Arguments) : Except Stop Command := do
  match name with
  | "seed" =>
      noWords arguments
      return .seed (← arguments.require "identifier") (← arguments.require "wallet-secret")
        (← arguments.require "scope") (arguments.has "hex")
  | "create" =>
      noWords arguments
      return .create
        { policy := ← arguments.require "policy"
          identity := ← arguments.require "identity"
          funds := ← arguments.require "funds"
          seed := ← arguments.require "seed"
          note := arguments.value? "note"
          devMode := arguments.has "dev-mode"
          output := arguments.value? "output"
          noCache := arguments.has "no-cache" }
  | "verify" =>
      return .verify (← oneWord arguments .text)
        ((arguments.value? "at").bind OptionForm.number?) (arguments.has "json")
  | "encode" => return .encode (← oneWord arguments .path)
  | "decode" => return .decode (← oneWord arguments .text)
  | "share" =>
      let input ← oneWordAtMost arguments
      if input.isSome && arguments.has "id" then throw .misuse
      return .share input (arguments.value? "id") (arguments.value? "base-url")
  | "list" =>
      noWords arguments
      return .list (arguments.has "json")
  | "delete" =>
      let id ← oneWordAtMost arguments
      if id.isSome && arguments.has "all" then throw .misuse
      return .delete id (arguments.has "all")
  | _ => throw .misuse

/-- What the arguments say.  A common option behind the name of the command counts before
the same one in front of it. -/
def ofArguments (all : List String) : Except Stop Invocation := do
  let (outer, rest) ← Arguments.upToWord outerForms all
  let (inner, command?) ← match rest with
    | [] => pure (Arguments.none, none)
    | name :: rest =>
        match innerForms? name with
        | none => throw .misuse
        | some forms =>
            let inner ← Arguments.all (forms ++ commonForms) rest
            pure (inner, some (← commandOf name inner))
  let common (name : String) : Option String := inner.value? name <|> outer.value? name
  return {
    config := (common "config").getD usualConfig
    logLevel := common "log-level"
    folder := common "data-dir"
    init := outer.has "init"
    command := command? }

end Invocation

end HolderBond
