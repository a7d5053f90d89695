namespace PrivateRetrieval
namespace CarrylessProduct

/-!
# Carry-less products and their reduction

A word stands for the polynomial over the field of two elements whose coefficient of `x ^ i` is bit
`i`.  The carry-less product of two words is the product of their polynomials: bit `k` of the
product is the exclusive or of `aᵢ ∧ bⱼ` over all `i + j = k`.  Two words of 128 bits have a product
of 255 bits, which is kept as two words.

`reduce` brings such a pair back to one word modulo `x ^ 128 + x ^ 7 + x ^ 2 + x + 1`, and `multiply`
is the two together.  `multiplyByHalves` reaches the same word from products of words of 64 bits and a
reduction of its own, in the way of processors that have an instruction for such products.
-/

/-- A word of 256 bits in two halves. -/
structure Wide where
  /-- Bits 0 to 127. -/
  low : BitVec 128
  /-- Bits 128 to 255. -/
  high : BitVec 128
  deriving DecidableEq

/-- Bit `k` of the product of two polynomials, as the sum over the ways to write `k`. -/
def productBit {w : Nat} (a b : BitVec w) (k : Nat) : Bool :=
  (List.range (k + 1)).foldl (fun sum i => sum ^^ (a.getLsbD i && b.getLsbD (k - i))) false

/-- Add `a * x ^ i` to a product if `x ^ i` occurs in `b`.  The part of `a` that passes the middle is
shifted in two steps, so that `i = 0` shifts all of it out. -/
def addShifted (a b : BitVec 128) (product : Wide) (i : Nat) : Wide :=
  if b.getLsbD i then
    ⟨product.low ^^^ (a <<< i), product.high ^^^ ((a >>> 1) >>> (127 - i))⟩
  else product

/-- The carry-less product of two words. -/
def wideProduct (a b : BitVec 128) : Wide :=
  (List.range 128).foldl (addShifted a b) ⟨0, 0⟩

/-- The remainder of `low + high * x ^ 128` modulo `x ^ 128 + x ^ 7 + x ^ 2 + x + 1`.  The bits of
`high * (x ^ 7 + x ^ 2 + x)` that pass the top are folded in with `high` itself. -/
def reduce (low high : BitVec 128) : BitVec 128 :=
  let folded := high ^^^ (high >>> 127) ^^^ (high >>> 126) ^^^ (high >>> 121)
  low ^^^ folded ^^^ (folded <<< 1) ^^^ (folded <<< 2) ^^^ (folded <<< 7)

/-- The product modulo `x ^ 128 + x ^ 7 + x ^ 2 + x + 1`. -/
def multiply (a b : BitVec 128) : BitVec 128 :=
  let product := wideProduct a b
  reduce product.low product.high

/-! ## Products of halves -/

/-- The carry-less product of two words of 64 bits, which has 127 bits. -/
def halfProduct (a b : BitVec 64) : BitVec 128 :=
  (List.range 64).foldl
    (fun product i => if b.getLsbD i then product ^^^ (a.setWidth 128 <<< i) else product) 0

/-- Bits 0 to 63. -/
def lowHalf (a : BitVec 128) : BitVec 64 :=
  a.extractLsb' 0 64

/-- Bits 64 to 127. -/
def highHalf (a : BitVec 128) : BitVec 64 :=
  a.extractLsb' 64 64

/-- The polynomial `x ^ 7 + x ^ 2 + x + 1`, to which `x ^ 128` reduces. -/
def remainderOfTop : BitVec 64 := 0x87

/-- The product modulo `x ^ 128 + x ^ 7 + x ^ 2 + x + 1` from four products of halves.  The high word is
folded twice, because the first fold can reach `x ^ 134`. -/
def multiplyByHalves (a b : BitVec 128) : BitVec 128 :=
  let outerLow := halfProduct (lowHalf a) (lowHalf b)
  let middle := halfProduct (highHalf a) (lowHalf b) ^^^ halfProduct (lowHalf a) (highHalf b)
  let outerHigh := halfProduct (highHalf a) (highHalf b)
  let low := outerLow ^^^ (middle <<< 64)
  let high := outerHigh ^^^ (middle >>> 64)
  let foldedLow := halfProduct (lowHalf high) remainderOfTop
  let foldedHigh := halfProduct (highHalf high) remainderOfTop
  let spilled := halfProduct (lowHalf (foldedHigh >>> 64)) remainderOfTop
  low ^^^ foldedLow ^^^ (foldedHigh <<< 64) ^^^ spilled

/-- The product by the method for a processor, which may have the instruction for products of halves. -/
def multiplyOn (hasInstruction : Bool) (a b : BitVec 128) : BitVec 128 :=
  if hasInstruction then multiplyByHalves a b else multiply a b

end CarrylessProduct
end PrivateRetrieval
