import PrivateRetrieval.Block.Basic
import PrivateRetrieval.Hash

namespace PrivateRetrieval

/-!
# The tape of random bytes

Whatever is drawn at random is read from a tape.  The tape has no end, and its position tells how
much of it has been used; two runs that start from the same tape draw the same bytes.
-/

/-- An endless sequence of bytes and a position in it. -/
structure Tape where
  /-- The byte at each position. -/
  byteAt : Nat → UInt8
  /-- The position of the next byte that is drawn. -/
  position : Nat

namespace Tape

/-- The tape that repeats a byte string without end, and holds zero bytes if the string is empty. -/
def repeating (bytes : Bytes) : Tape where
  byteAt := fun i => bytes.getD (i % bytes.size) 0
  position := 0

/-- Draw the next sixteen bytes. -/
def drawBlock (tape : Tape) : Block × Tape :=
  (Block.ofByteAt fun i => tape.byteAt (tape.position + i),
    { tape with position := tape.position + Block.byteCount })

/-- Draw an offset: a block whose control bit is set. -/
def drawOffset (tape : Tape) : Block × Tape :=
  let (block, rest) := tape.drawBlock
  (block ||| BitVec.twoPow 128 120, rest)

/-- Draw two blocks whose sum is a given offset. -/
def drawShares (offset : Block) (tape : Tape) : (Block × Block) × Tape :=
  let (first, rest) := tape.drawBlock
  ((first, first ^^^ offset), rest)

/-- Draw the public keys: the key of the permutation, then the hash key. -/
def drawContext (tape : Tape) : HashContext × Tape :=
  let (cipherKey, rest) := tape.drawBlock
  let (hashKey, rest) := rest.drawBlock
  (⟨cipherKey, hashKey⟩, rest)

end Tape
end PrivateRetrieval
