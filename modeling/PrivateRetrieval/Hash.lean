import PrivateRetrieval.Aes.Encryption
import PrivateRetrieval.Block.Seed
import PrivateRetrieval.Field.Element

namespace PrivateRetrieval

/-!
# The hash of tree seeds

The client and both servers share two public keys.  The first fixes a permutation of blocks, the
encryption under it; the second is added to every seed that is hashed.  From them come the hash that
derives seeds from seeds, its restriction to normalised seeds, and the conversion of a leaf into a
field element.

The point functions need nothing of these functions but that they are functions.
-/

/-- The public keys that the client and both servers share. -/
structure HashContext where
  /-- The key of the fixed permutation. -/
  cipherKey : Block
  /-- The block that is added to every seed before it is hashed. -/
  hashKey : Block
  deriving DecidableEq

namespace HashContext

/-- The linear map that sends a block to the sum of its halves followed by its first half. -/
def mixHalves (block : Block) : Block :=
  let first := block.extractLsb' 0 64
  let second := block.extractLsb' 64 64
  first ++ (first ^^^ second)

/-- The hash of a seed: with `m` the mixed sum of the seed and the hash key, the encryption of `m`
plus `m`. -/
def hash (context : HashContext) (seed : Block) : Block :=
  let mixed := mixHalves (context.hashKey ^^^ seed)
  Aes.encrypt context.cipherKey mixed ^^^ mixed

/-- The hash of a leaf seed, of which only the body and the control bit count. -/
def hashLeaf (context : HashContext) (seed : Block) : Block :=
  context.hash seed.normalize

/-- The field element of a leaf seed: the first block of the key stream whose key is the encryption
of the normalised seed and whose counter starts at zero. -/
def convert (context : HashContext) (seed : Block) : Element :=
  ⟨Aes.encrypt (Aes.encrypt context.cipherKey seed.normalize) 0⟩

end HashContext
end PrivateRetrieval
