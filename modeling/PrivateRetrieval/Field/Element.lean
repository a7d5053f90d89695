import PrivateRetrieval.Block.Basic
import PrivateRetrieval.Field.CarrylessProduct

namespace PrivateRetrieval

/-!
# The field with `2 ^ 128` elements

An element is a polynomial of degree below 128 over the field of two elements, taken modulo
`x ^ 128 + x ^ 7 + x ^ 2 + x + 1`; bit `i` of its word is the coefficient of `x ^ i`.  A block of a row
is an element without any conversion, its first byte being the least significant.

The inverse of zero is zero.  That the other inverses are inverses rests on the modulus being
irreducible; nothing in this module depends on it.
-/

/-- An element of the field. -/
structure Element where
  /-- The coefficients; bit `i` belongs to `x ^ i`. -/
  bits : BitVec 128
  deriving DecidableEq

namespace Element

instance : Zero Element := ⟨⟨0⟩⟩

instance : One Element := ⟨⟨1⟩⟩

instance : Inhabited Element := ⟨0⟩

/-- Addition is the exclusive or of the coefficients, and so its own inverse. -/
instance : Add Element := ⟨fun a b => ⟨a.bits ^^^ b.bits⟩⟩

/-- Multiplication is that of polynomials modulo the field polynomial. -/
instance : Mul Element := ⟨fun a b => ⟨CarrylessProduct.multiply a.bits b.bits⟩⟩

theorem bits_add (a b : Element) : (a + b).bits = a.bits ^^^ b.bits := rfl

theorem bits_mul (a b : Element) : (a * b).bits = CarrylessProduct.multiply a.bits b.bits := rfl

/-- Test whether an element is zero. -/
def isZero (a : Element) : Bool :=
  a.bits == 0

/-- The product of an element with itself. -/
def square (a : Element) : Element :=
  a * a

/-- One step of exponentiation: the exponent read so far is doubled and receives its next bit. -/
def powStep (a : Element) (exponent : BitVec 128) (power : Element) (position : Nat) : Element :=
  if exponent.getLsbD position then power.square * a else power.square

/-- The power of an element, with the exponent read from its most significant bit. -/
def pow (a : Element) (exponent : BitVec 128) : Element :=
  (List.range 128).reverse.foldl (a.powStep exponent) 1

/-- The inverse, as the power with exponent `2 ^ 128 - 2`; zero is sent to zero. -/
def inverse (a : Element) : Element :=
  a.pow (BitVec.allOnes 128 - 1)

/-! ## Elements and bytes -/

/-- The element whose bytes stand at the start of a byte string that has at least sixteen. -/
def ofPrefix (bytes : Bytes) : Outcome Element :=
  if Block.byteCount ≤ bytes.size then .ok ⟨Block.ofBytes bytes⟩
  else .error (.fault .sliceOutOfRange)

/-- The sixteen bytes of an element, its lowest coefficients first. -/
def toBytes (a : Element) : Bytes :=
  Block.toBytes a.bits

/-- The bytes of several elements, one element after the other. -/
def concat (elements : Array Element) : Bytes :=
  Block.concat (elements.map Element.bits)

/-- The whole elements that a byte string consists of. -/
def split (bytes : Bytes) : Array Element :=
  (Block.split bytes).map Element.mk

/-- The 32 hexadecimal digits of an element, the highest coefficients first. -/
def hexDigits (a : Element) : String :=
  String.ofList
    ((List.range 32).reverse.map fun i => Nat.digitChar (a.bits.extractLsb' (4 * i) 4).toNat)

/-- How an element is shown to a reader. -/
def describe (a : Element) : String :=
  "Gf128(0x" ++ a.hexDigits ++ ")"

end Element
end PrivateRetrieval
