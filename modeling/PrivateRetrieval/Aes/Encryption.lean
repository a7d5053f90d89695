import PrivateRetrieval.Aes.SubstitutionBox
import PrivateRetrieval.Block.Basic

namespace PrivateRetrieval
namespace Aes

/-!
# Encryption of one block with AES-128

The state is the sixteen bytes of the block, four columns of four bytes; byte `r + 4 * c` stands in
row `r` of column `c`.  Ten rounds follow the first addition of the key, the last of them without
mixing the columns.

Everything above this module uses the cipher only as a function of a key and a block.
-/

/-- The sixteen bytes of the state, column after column. -/
abbrev State := Vector UInt8 16

namespace State

/-- The state that holds the bytes of a block. -/
def ofBlock (block : Block) : State :=
  Vector.ofFn fun i => block.byte i

/-- The block that consists of the bytes of the state. -/
def toBlock (state : State) : Block :=
  Block.ofByteAt fun i => state.toArray.getD i 0

/-- Add a round key. -/
def addKey (state roundKey : State) : State :=
  Vector.zipWith (· ^^^ ·) state roundKey

/-- Substitute every byte. -/
def substituteBytes (state : State) : State :=
  state.map substitute

/-- Turn row `r` by `r` places to the left. -/
def shiftRows (state : State) : State :=
  Vector.ofFn fun i => state.get ⟨5 * i.val % 16, Nat.mod_lt _ (by decide)⟩

end State

/-- Multiplication by `x` in the field of 256 elements. -/
def double (byte : UInt8) : UInt8 :=
  if byte < 0x80 then byte <<< 1 else (byte <<< 1) ^^^ 0x1B

/-- Multiply every column by the fixed polynomial `3 x ^ 3 + x ^ 2 + x + 2`: the byte in row `r`
becomes twice itself, plus three times the next in its column, plus the other two. -/
def State.mixColumns (state : State) : State :=
  Vector.ofFn fun i =>
    let inColumn (step : Nat) : UInt8 :=
      state.get ⟨4 * (i.val / 4) + (i.val + step) % 4, by have := i.isLt; omega⟩
    double (inColumn 0) ^^^ double (inColumn 1) ^^^ inColumn 1 ^^^ inColumn 2 ^^^ inColumn 3

/-- The key of the next round.  Its first column is the old one plus the substituted, turned last
column and the round constant; every other column is the old one plus its new left neighbour. -/
def nextRoundKey (constant : UInt8) (key : State) : State :=
  let turned (r : Nat) : UInt8 := substitute (key.get ⟨12 + (r + 1) % 4, by omega⟩)
  let columnSum (r c : Nat) : UInt8 :=
    (List.range (c + 1)).foldl (fun sum k => sum ^^^ key.toArray.getD (4 * k + r) 0) (turned r)
  Vector.ofFn fun i =>
    let sum := columnSum (i.val % 4) (i.val / 4)
    if i.val % 4 = 0 then sum ^^^ constant else sum

/-- The constants of the ten rounds: the powers of `x`. -/
def roundConstants : List UInt8 :=
  [0x01, 0x02, 0x04, 0x08, 0x10, 0x20, 0x40, 0x80, 0x1B, 0x36]

/-- The rounds for the constants that are left, given the key of the round before. -/
def rounds (state key : State) : List UInt8 → State
  | [] => state
  | [constant] => (state.substituteBytes.shiftRows).addKey (nextRoundKey constant key)
  | constant :: later =>
      let roundKey := nextRoundKey constant key
      rounds (state.substituteBytes.shiftRows.mixColumns.addKey roundKey) roundKey later

/-- The encryption of a block under a key. -/
def encrypt (key block : Block) : Block :=
  let firstKey := State.ofBlock key
  (rounds ((State.ofBlock block).addKey firstKey) firstKey roundConstants).toBlock

/-- The example vector of the cipher's standard: ascending bytes as key, repeated digits as block. -/
example :
    encrypt
        (Block.ofBytes #[0x00, 0x01, 0x02, 0x03, 0x04, 0x05, 0x06, 0x07,
          0x08, 0x09, 0x0A, 0x0B, 0x0C, 0x0D, 0x0E, 0x0F])
        (Block.ofBytes #[0x00, 0x11, 0x22, 0x33, 0x44, 0x55, 0x66, 0x77,
          0x88, 0x99, 0xAA, 0xBB, 0xCC, 0xDD, 0xEE, 0xFF]) =
      Block.ofBytes #[0x69, 0xC4, 0xE0, 0xD8, 0x6A, 0x7B, 0x04, 0x30,
        0xD8, 0xCD, 0xB7, 0x80, 0x70, 0xB4, 0xC5, 0x5A] := by
  decide +kernel

end Aes
end PrivateRetrieval
