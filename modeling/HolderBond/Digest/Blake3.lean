import HolderBond.Digest.Words

/-!
# BLAKE3

The message is cut into chunks of at most 1024 bytes, the leaves of a binary tree whose
left subtrees are as large a power of two of chunks as leaves something for the right.
Every node is one pending compression; its chaining value feeds the parent, and the root
compression gives the digest.
-/

set_option autoImplicit false

namespace HolderBond.Blake3

open HolderBond.Words

def initial : List UInt32 :=
  [0x6a09e667, 0xbb67ae85, 0x3c6ef372, 0xa54ff53a, 0x510e527f, 0x9b05688c, 0x1f83d9ab, 0x5be0cd19]

def permutation : List Nat :=
  [2, 6, 3, 10, 7, 0, 4, 13, 1, 11, 12, 5, 9, 14, 15, 8]

abbrev Mix := Vector UInt32 16

def quarter (v : Mix) (a b c d : Fin 16) (x y : UInt32) : Mix :=
  let a1 := v[a] + v[b] + x
  let d1 := rotateRight (v[d] ^^^ a1) 16
  let c1 := v[c] + d1
  let b1 := rotateRight (v[b] ^^^ c1) 12
  let a2 := a1 + b1 + y
  let d2 := rotateRight (d1 ^^^ a2) 8
  let c2 := c1 + d2
  let b2 := rotateRight (b1 ^^^ c2) 7
  (((v.set a a2).set b b2).set c c2).set d d2

def round (v : Mix) (m : List UInt32) : Mix :=
  let w (i : Nat) : UInt32 := m.getD i 0
  let v := quarter v 0 4 8 12 (w 0) (w 1)
  let v := quarter v 1 5 9 13 (w 2) (w 3)
  let v := quarter v 2 6 10 14 (w 4) (w 5)
  let v := quarter v 3 7 11 15 (w 6) (w 7)
  let v := quarter v 0 5 10 15 (w 8) (w 9)
  let v := quarter v 1 6 11 12 (w 10) (w 11)
  let v := quarter v 2 7 8 13 (w 12) (w 13)
  quarter v 3 4 9 14 (w 14) (w 15)

def rounds : Nat → Mix → List UInt32 → Mix
  | 0, v, _ => v
  | n + 1, v, m => rounds n (round v m) (permutation.map fun i => m.getD i 0)

/-- A compression still to be done: its input words and its settings. -/
structure Node where
  chaining : List UInt32
  block : List UInt32
  counter : UInt64
  length : UInt32
  flags : UInt32

def chunkStart : UInt32 := 1
def chunkEnd : UInt32 := 2
def parentFlag : UInt32 := 4
def rootFlag : UInt32 := 8

def Node.compress (node : Node) (extra : UInt32) : List UInt32 :=
  let h (i : Nat) : UInt32 := node.chaining.getD i 0
  let start : Mix :=
    #v[h 0, h 1, h 2, h 3, h 4, h 5, h 6, h 7,
      0x6a09e667, 0xbb67ae85, 0x3c6ef372, 0xa54ff53a,
      node.counter.toUInt32, (node.counter >>> 32).toUInt32, node.length, node.flags ||| extra]
  let v := rounds 7 start node.block
  [v[0] ^^^ v[8], v[1] ^^^ v[9], v[2] ^^^ v[10], v[3] ^^^ v[11],
    v[4] ^^^ v[12], v[5] ^^^ v[13], v[6] ^^^ v[14], v[7] ^^^ v[15]]

def Node.chain (node : Node) : List UInt32 :=
  node.compress 0

def blockWords (block : List UInt8) : List UInt32 :=
  ofLittleEndian (block ++ List.replicate (64 - block.length) 0)

/-- The node of a chunk: all of its blocks but the last are compressed into the chaining value. -/
def chunkNode (counter : UInt64) (chaining : List UInt32) (flags : UInt32) :
    List (List UInt8) → Node
  | [] => ⟨chaining, blockWords [], counter, 0, flags ||| chunkEnd⟩
  | [block] =>
      ⟨chaining, blockWords block, counter, UInt32.ofNat block.length, flags ||| chunkEnd⟩
  | block :: rest =>
      let node : Node := ⟨chaining, blockWords block, counter, 64, flags⟩
      chunkNode counter node.chain 0 rest

/-- The bytes of the left subtree of a message longer than one chunk. -/
def leftLength (length : Nat) : Nat :=
  1024 * Nat.pow 2 (Nat.log2 ((length - 1) / 1024))

theorem leftLength_pos (length : Nat) : 0 < leftLength length :=
  Nat.mul_pos (by decide) (Nat.two_pow_pos _)

theorem leftLength_lt {length : Nat} (long : 1024 < length) : leftLength length < length := by
  have chunks : (length - 1) / 1024 ≠ 0 := by omega
  have power : Nat.pow 2 (Nat.log2 ((length - 1) / 1024)) ≤ (length - 1) / 1024 :=
    Nat.log2_self_le chunks
  unfold leftLength
  omega

/-- The node of a message whose first chunk has the number `counter`. -/
def tree (counter : Nat) (message : List UInt8) : Node :=
  if 1024 < message.length then
    let left := leftLength message.length
    let before := tree counter (message.take left)
    let after := tree (counter + left / 1024) (message.drop left)
    ⟨initial, before.chain ++ after.chain, 0, 64, parentFlag⟩
  else chunkNode (UInt64.ofNat counter) initial chunkStart (pieces 64 message)
termination_by message.length
decreasing_by
  all_goals
    have positive := leftLength_pos message.length
    have short := leftLength_lt (by assumption : 1024 < message.length)
    simp only [List.length_take, List.length_drop]
    omega

def digest (message : List UInt8) : List UInt8 :=
  ((tree 0 message).compress rootFlag).flatMap toLittleEndian

theorem length_digest (message : List UInt8) : (digest message).length = 32 := by
  rfl

end HolderBond.Blake3
