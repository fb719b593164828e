import HolderBond.Binding.Params

/-!
# Holder bindings

A binding ties an identity commitment and a funds commitment together for one scope and,
if the parameters say so, one epoch; its nullifier is derived from it and the scope.
Whoever has the two commitments, the scope and the epoch can derive both again.
-/

set_option autoImplicit false

namespace HolderBond

open Fields

structure BindingInput where
  identity : Bytes32
  funds : Bytes32
  scopeId : UInt64
  epoch : UInt64
  customData : Option (List UInt8)
  deriving DecidableEq

structure HolderBinding where
  binding : Bytes32
  nullifier : Bytes32
  scopeId : UInt64
  epoch : UInt64
  deriving DecidableEq

namespace BindingInput

def shape : Shape BindingInput :=
  .via
    (.record "HolderBindingInput" true <|
      field "identityCommitment" Bytes32.shape <|
      field "fundsCommitment" Bytes32.shape <|
      field "scopeId" .long <|
      field "epoch" .long <|
      optional "customData" .bytes .nil)
    { make := fun (identity, funds, scopeId, epoch, customData, ()) =>
        ⟨identity, funds, scopeId, epoch, customData⟩
      view := fun i => (i.identity, i.funds, i.scopeId, i.epoch, i.customData, ())
      make_view := fun _ => rfl
      view_make := fun _ => rfl }

/-- The parts of the preimage, the epoch empty if it is not bound; numbers as eight bytes, the
highest first. -/
def parts (input : BindingInput) (params : BindingParams) : List (List UInt8) :=
  [Text.utf8 params.separator, input.identity.toList, input.funds.toList,
    Words.longToBigEndian input.scopeId,
    if params.epochBound then Words.longToBigEndian input.epoch else [],
    input.customData.getD []]

def preimage (input : BindingInput) (params : BindingParams) : List UInt8 :=
  (input.parts params).flatten

end BindingInput

namespace HolderBinding

def shape : Shape HolderBinding :=
  .via
    (.record "HolderBinding" true <|
      field "binding" Bytes32.shape <|
      field "nullifier" Bytes32.shape <|
      field "scopeId" .long <|
      field "epoch" .long .nil)
    { make := fun (binding, nullifier, scopeId, epoch, ()) =>
        ⟨binding, nullifier, scopeId, epoch⟩
      view := fun b => (b.binding, b.nullifier, b.scopeId, b.epoch, ())
      make_view := fun _ => rfl
      view_make := fun _ => rfl }

def nullifierTag : List UInt8 :=
  Text.utf8 ":nullifier:"

def nullifierParts (binding : Bytes32) (scopeId : UInt64) : List (List UInt8) :=
  [binding.toList, nullifierTag, Words.longToBigEndian scopeId]

def nullifierPreimage (binding : Bytes32) (scopeId : UInt64) : List UInt8 :=
  (nullifierParts binding scopeId).flatten

def derive (input : BindingInput) (params : BindingParams) : HolderBinding :=
  let binding := params.hash.digestParts (input.parts params)
  { binding
    nullifier := params.hash.digestParts (nullifierParts binding input.scopeId)
    scopeId := input.scopeId
    epoch := input.epoch }

/-- Whether a stored binding, and whether its nullifier, is what the input gives. -/
def agrees (stored : HolderBinding) (input : BindingInput) (params : BindingParams) :
    Bool × Bool :=
  let derived := derive input params
  (derived.binding == stored.binding, derived.nullifier == stored.nullifier)

end HolderBinding

end HolderBond
