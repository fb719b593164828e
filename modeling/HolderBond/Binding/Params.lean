import HolderBond.Digest.Algorithm
import HolderBond.Settings.Basic

/-!
# Parameters of the binding protocol

A version of the protocol is a value of `BindingParams`, handed to every derivation and
every check.  Parameters with an empty separator are refused where a bond is made.
-/

set_option autoImplicit false

namespace HolderBond

inductive ValueError where
  | bytes (cause : Bytes32.Error)
  | invalid (text : String)
  deriving DecidableEq

def ValueError.message : ValueError → String
  | .bytes cause => cause.message
  | .invalid text => "validation error: " ++ text

def HashAlgorithm.choices : Choice HashAlgorithm where
  names := ["blake3", "sha256"]
  name := HashAlgorithm.name
  ofName? := HashAlgorithm.ofName?
  ofName?_name := HashAlgorithm.ofName?_name

def Bytes32.textForm : TextForm Bytes32 where
  write := Bytes32.toHex
  read s := (Bytes32.ofHex s).mapError Bytes32.Error.message
  read_write value := by rw [Bytes32.ofHex_toHex]; rfl

def Bytes32.shape : Shape Bytes32 :=
  .written Bytes32.textForm

structure BindingParams where
  version : UInt32
  /-- What every binding preimage begins with. -/
  separator : String
  hash : HashAlgorithm
  /-- Whether the epoch is part of the binding preimage. -/
  epochBound : Bool
  deriving DecidableEq

namespace BindingParams

def v1 : BindingParams where
  version := 1
  separator := "zkpf-holder-binding-v1"
  hash := .blake3
  epochBound := true

def withoutEpoch (params : BindingParams) : BindingParams :=
  { params with epochBound := false }

def emptySeparator : ValueError :=
  .invalid "binding domain separator must not be empty"

def validate (params : BindingParams) : Except ValueError Unit :=
  if params.separator.isEmpty then .error emptySeparator else .ok ()

def settings : Settings (UInt32 × String × HashAlgorithm × Bool × Unit) :=
  .cons "version" v1.version (.natural .word) <|
  .cons "domain_separator" v1.separator .text <|
  .cons "hash" v1.hash (.choice HashAlgorithm.choices) <|
  .cons "epoch_bound" v1.epochBound .flag .nil

def correspondence : Correspondence (UInt32 × String × HashAlgorithm × Bool × Unit) BindingParams where
  make := fun (version, separator, hash, epochBound, ()) => ⟨version, separator, hash, epochBound⟩
  view := fun p => (p.version, p.separator, p.hash, p.epochBound, ())
  make_view := fun _ => rfl
  view_make := fun _ => rfl

def shape : Shape BindingParams :=
  .via (.record "BindingParams" true settings.fields) correspondence

end BindingParams

end HolderBond
