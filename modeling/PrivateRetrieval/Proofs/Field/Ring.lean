import Mathlib.RingTheory.AdjoinRoot
import PrivateRetrieval.Proofs.Field.Addition
import PrivateRetrieval.Proofs.Field.Halves

namespace PrivateRetrieval
namespace Element

open CarrylessProduct Polynomial

/-!
# The ring of elements

An element has a class in the ring of polynomials modulo the field polynomial.  Different elements have
different classes, and sums and products of elements have the classes of sums and products.  The laws
of a ring hold for the classes and therefore for elements.
-/

/-- The class of an element among the polynomials modulo the field polynomial. -/
noncomputable def residue (a : Element) : AdjoinRoot modulus :=
  AdjoinRoot.mk modulus (polynomial a.bits)

theorem residue_injective : Function.Injective residue := by
  intro a b same
  have short (c : Element) : polynomial c.bits %ₘ modulus = polynomial c.bits := by
    rw [modByMonic_eq_self_iff monic_modulus, degree_modulus]
    exact degree_polynomial_lt c.bits
  have divides : modulus ∣ polynomial a.bits - polynomial b.bits := AdjoinRoot.mk_eq_mk.mp same
  have remainders := modByMonic_eq_of_dvd_sub monic_modulus divides
  rw [short a, short b] at remainders
  exact eq_of_bits_eq (polynomial_injective remainders)

@[simp]
theorem residue_zero : residue 0 = 0 := by
  have zero : polynomial (0 : Element).bits = 0 := polynomial_zero
  rw [residue, zero, map_zero]

@[simp]
theorem residue_one : residue 1 = 1 := by
  have one : polynomial (1 : Element).bits = 1 := by
    rw [← pow_zero X]
    exact polynomial_twoPow (w := 128) (i := 0) (by decide)
  rw [residue, one, map_one]

@[simp]
theorem residue_add (a b : Element) : residue (a + b) = residue a + residue b := by
  rw [residue, bits_add, polynomial_xor, map_add]
  rfl

@[simp]
theorem residue_mul (a b : Element) : residue (a * b) = residue a * residue b := by
  have divides : modulus ∣ polynomial (a * b).bits - polynomial a.bits * polynomial b.bits := by
    rw [bits_mul, polynomial_multiply]
    exact dvd_modByMonic_sub _ _
  rw [residue, AdjoinRoot.mk_eq_mk.mpr divides, map_mul]
  rfl

/-- Every element is its own negative. -/
instance : Neg Element := ⟨id⟩

instance : CommRing Element where
  add_assoc := Element.add_assoc
  zero_add := Element.zero_add
  add_zero := Element.add_zero
  add_comm := Element.add_comm
  nsmul := nsmulRec
  zsmul := zsmulRec
  neg_add_cancel := Element.add_self
  mul_assoc a b c := residue_injective (by simp only [residue_mul, mul_assoc])
  mul_comm a b := residue_injective (by simp only [residue_mul, mul_comm])
  one_mul a := residue_injective (by simp only [residue_mul, residue_one, one_mul])
  mul_one a := residue_injective (by simp only [residue_mul, residue_one, mul_one])
  zero_mul a := residue_injective (by simp only [residue_mul, residue_zero, zero_mul])
  mul_zero a := residue_injective (by simp only [residue_mul, residue_zero, mul_zero])
  left_distrib a b c := residue_injective (by simp only [residue_mul, residue_add, mul_add])
  right_distrib a b c := residue_injective (by simp only [residue_mul, residue_add, add_mul])

/-- The classes of elements, as a homomorphism. -/
noncomputable def residueHom : Element →+* AdjoinRoot modulus where
  toFun := residue
  map_zero' := residue_zero
  map_one' := residue_one
  map_add' := residue_add
  map_mul' := residue_mul

/-! ## The laws, for either processor -/

theorem bits_mul_eq_multiplyOn (a b : Element) (hasInstruction : Bool) :
    (a * b).bits = multiplyOn hasInstruction a.bits b.bits := by
  cases hasInstruction with
  | true => exact (multiplyByHalves_eq_multiply a.bits b.bits).symm
  | false => rfl

/-- **The laws of the ring.**  The sum of two elements is the exclusive or of their words, and their
product is the word that either processor computes.  Multiplication is commutative and associative and
distributes over addition from both sides.  The element of the word one leaves every other element as it
is, and a product with the element of the word zero is zero. -/
theorem ring_laws (a b c : Element) :
    ((a + b).bits = a.bits ^^^ b.bits ∧
        (∀ hasInstruction, (a * b).bits = multiplyOn hasInstruction a.bits b.bits) ∧
        (1 : Element).bits = 1 ∧ (0 : Element).bits = 0) ∧
      a * b = b * a ∧ a * b * c = a * (b * c) ∧
      a * (b + c) = a * b + a * c ∧ (a + b) * c = a * c + b * c ∧
      a * 1 = a ∧ 1 * a = a ∧ a * 0 = 0 ∧ 0 * a = 0 :=
  ⟨⟨bits_add a b, bits_mul_eq_multiplyOn a b, rfl, rfl⟩, mul_comm a b, mul_assoc a b c,
    mul_add a b c, add_mul a b c, mul_one a, one_mul a, mul_zero a, zero_mul a⟩

end Element
end PrivateRetrieval
