import Mathlib.FieldTheory.Finite.Extension
import PrivateRetrieval.Proofs.Field.Ring

namespace PrivateRetrieval
namespace Element

open CarrylessProduct Polynomial

/-!
# Inverses

The modulus is irreducible.  Squaring the generator 128 times gives the generator back, so the degree of
an irreducible factor divides 128; squaring it 64 times gives an element whose sum with the generator
has an inverse, so the degree does not divide 64.  The two runs of squarings and that inverse are all
that is computed.

Raising to the power `2 ^ 128` then fixes every element, because it is a homomorphism that fixes the
generator.  In a ring without zero divisors this makes the power with exponent `2 ^ 128 - 2` an inverse.
The elements are therefore a field.
-/

/-! ## The generator -/

/-- The element `x`. -/
def generator : Element := ⟨2⟩

theorem repeat_square (a : Element) (count : Nat) : Nat.repeat square count a = a ^ 2 ^ count := by
  induction count with
  | zero =>
      rw [pow_zero, pow_one]
      rfl
  | succ count earlier =>
      change square (Nat.repeat square count a) = _
      rw [earlier, square, ← pow_two, ← pow_mul, ← pow_succ]

theorem repeat_square_generator_whole : Nat.repeat square 128 generator = generator := by
  decide +kernel

theorem repeat_square_generator_sub_mul :
    (Nat.repeat square 64 generator - generator) * ⟨0x9e4af928ddbc838a41a8cafd2c95b018⟩ = 1 := by
  decide +kernel

theorem residue_generator : residue generator = AdjoinRoot.root modulus := by
  have x : polynomial generator.bits = X := by
    rw [← pow_one X]
    exact polynomial_twoPow (w := 128) (i := 1) (by decide)
  rw [residue, x, AdjoinRoot.mk_X]

theorem mk_X_pow_two_pow (count : Nat) :
    AdjoinRoot.mk modulus (X ^ 2 ^ count) = residue (Nat.repeat square count generator) := by
  rw [repeat_square, map_pow, AdjoinRoot.mk_X, ← residue_generator]
  exact (map_pow residueHom generator _).symm

/-! ## The modulus is irreducible -/

section Factors

variable {factor : (ZMod 2)[X]} {count : Nat}

theorem natDegree_dvd (irreducible : Irreducible factor) (divides : factor ∣ modulus)
    (fixed : Nat.repeat square count generator = generator) : factor.natDegree ∣ count := by
  have power : modulus ∣ X ^ 2 ^ count - X := by
    apply AdjoinRoot.mk_eq_mk.mp
    rw [mk_X_pow_two_pow, fixed, residue_generator, AdjoinRoot.mk_X]
  apply irreducible.natDegree_dvd_of_dvd_X_pow_card_pow_sub_X
  rw [Nat.card_zmod]
  exact divides.trans power

/-- A factor of the modulus and of `x ^ (2 ^ count) - x` would be a factor of one. -/
theorem not_natDegree_dvd (irreducible : Irreducible factor) (divides : factor ∣ modulus)
    {inverse : Element} (inverts : (Nat.repeat square count generator - generator) * inverse = 1) :
    ¬ factor.natDegree ∣ count := by
  intro small
  have fixed := irreducible.natDegree_dvd_iff_dvd_X_pow_card_pow_sub_X.mp small
  rw [Nat.card_zmod] at fixed
  rcases AdjoinRoot.mk_surjective (residue inverse) with ⟨cofactor, product⟩
  have one : AdjoinRoot.mk modulus ((X ^ 2 ^ count - X) * cofactor) = AdjoinRoot.mk modulus 1 := by
    rw [map_mul, map_sub, mk_X_pow_two_pow, AdjoinRoot.mk_X, ← residue_generator, product, map_one]
    change (residueHom _ - residueHom _) * residueHom inverse = 1
    rw [← map_sub, ← map_mul, inverts, map_one]
  have remainder : factor ∣ (X ^ 2 ^ count - X) * cofactor - 1 :=
    divides.trans (AdjoinRoot.mk_eq_mk.mp one)
  have unit := dvd_sub (fixed.mul_right cofactor) remainder
  rw [sub_sub_cancel] at unit
  exact irreducible.not_dvd_one unit

end Factors

theorem irreducible_modulus : Irreducible modulus := by
  have positive : 0 < modulus.natDegree := by
    rw [natDegree_modulus]
    exact Nat.two_pow_pos 7
  rcases exists_irreducible_of_natDegree_pos positive with ⟨factor, irreducible, divides⟩
  have degree : factor.natDegree ∣ 2 ^ 7 :=
    natDegree_dvd irreducible divides repeat_square_generator_whole
  rcases (Nat.dvd_prime_pow Nat.prime_two).mp degree with ⟨exponent, few, size⟩
  rcases Nat.lt_or_ge exponent 7 with smaller | whole
  · have half : factor.natDegree ∣ 2 ^ 6 := by
      rw [size]
      exact Nat.pow_dvd_pow 2 (Nat.le_of_lt_succ smaller)
    exact absurd half (not_natDegree_dvd irreducible divides repeat_square_generator_sub_mul)
  · have large : 2 ^ 7 ≤ 2 ^ exponent := Nat.pow_le_pow_right Nat.two_pos whole
    have same : modulus.natDegree ≤ factor.natDegree := by
      rw [natDegree_modulus, size]
      exact large
    exact (associated_of_dvd_of_natDegree_le divides monic_modulus.ne_zero same).irreducible
      irreducible

instance : Fact (Irreducible modulus) := ⟨irreducible_modulus⟩

instance : NoZeroDivisors Element :=
  residue_injective.noZeroDivisors residue residue_zero residue_mul

/-! ## Powers -/

/-- One step reads one more bit of the exponent. -/
theorem powStep_pow_shiftRight (a : Element) (exponent : BitVec 128) (count : Nat) :
    a.powStep exponent (a ^ (exponent.toNat >>> (count + 1))) count =
      a ^ (exponent.toNat >>> count) := by
  have bit : exponent.getLsbD count = decide (exponent.toNat >>> count % 2 = 1) := by
    rw [BitVec.getLsbD, Nat.testBit_eq_decide_div_mod_eq, Nat.shiftRight_eq_div_pow]
  have halved : exponent.toNat >>> (count + 1) = exponent.toNat >>> count / 2 :=
    Nat.shiftRight_succ _ _
  rw [powStep, square, ← pow_add, halved, bit]
  split
  · rename_i odd
    have remainder := of_decide_eq_true odd
    rw [← pow_succ]
    congr 1
    omega
  · rename_i even
    have remainder := of_decide_eq_false (Bool.eq_false_of_not_eq_true even)
    congr 1
    omega

/-- Exponentiation reads the exponent from its highest bit: with the bits from `count` up read, the
power is that of the exponent without its lower bits. -/
theorem foldl_powStep (a : Element) (exponent : BitVec 128) (count : Nat) :
    (List.range count).reverse.foldl (a.powStep exponent) (a ^ (exponent.toNat >>> count)) =
      a ^ exponent.toNat := by
  induction count with
  | zero => rfl
  | succ count lower =>
      rw [List.range_succ, List.reverse_append, List.reverse_singleton, List.singleton_append,
        List.foldl_cons, powStep_pow_shiftRight, lower]

theorem pow_eq_pow (a : Element) (exponent : BitVec 128) :
    a.pow exponent = a ^ exponent.toNat := by
  have none : exponent.toNat >>> 128 = 0 := Nat.shiftRight_eq_zero _ _ exponent.isLt
  rw [← foldl_powStep a exponent 128, none, pow_zero]
  rfl

/-! ## Inverses -/

/-- A power that fixes the generator is a homomorphism and fixes every element. -/
theorem pow_two_pow_eq_self {count : Nat} (fixed : Nat.repeat square count generator = generator)
    (a : Element) : a ^ 2 ^ count = a := by
  have characteristic : CharP (AdjoinRoot modulus) 2 :=
    charP_of_injective_algebraMap (algebraMap (ZMod 2) (AdjoinRoot modulus)).injective 2
  have root : iterateFrobenius (AdjoinRoot modulus) 2 count (AdjoinRoot.root modulus) =
      AdjoinRoot.root modulus := by
    rw [iterateFrobenius_def, ← AdjoinRoot.mk_X, ← map_pow, mk_X_pow_two_pow, fixed,
      residue_generator, AdjoinRoot.mk_X]
  have identity : iterateFrobenius (AdjoinRoot modulus) 2 count = RingHom.id _ :=
    AdjoinRoot.ringHom_ext (Subsingleton.elim _ _) root
  apply residue_injective
  change residueHom (a ^ 2 ^ count) = _
  rw [map_pow, ← iterateFrobenius_def, identity]
  rfl

theorem inverse_eq_pow (a : Element) : a.inverse = a ^ (2 ^ 128 - 2) := by
  rw [inverse, pow_eq_pow]
  rfl

/-- **Inverses exist.**  The product of an element other than zero and its inverse is one. -/
theorem mul_inverse_cancel (a : Element) (other : a ≠ 0) : a * a.inverse = 1 := by
  have whole : a * (a * a.inverse) = a * 1 := by
    have exponents : 2 ^ 128 - 2 + 2 = 2 ^ 128 := rfl
    rw [inverse_eq_pow, ← mul_assoc, ← pow_two, ← pow_add, Nat.add_comm, exponents,
      pow_two_pow_eq_self repeat_square_generator_whole, mul_one]
  exact mul_left_cancel₀ other whole

theorem inverse_zero : inverse 0 = 0 := by
  rw [inverse_eq_pow]
  exact zero_pow (by decide)

/-- The elements are a field. -/
instance : Field Element where
  inv := inverse
  exists_pair_ne := ⟨0, 1, by decide⟩
  mul_inv_cancel := mul_inverse_cancel
  inv_zero := inverse_zero
  nnqsmul := _
  nnqsmul_def := fun _ _ => rfl
  qsmul := _
  qsmul_def := fun _ _ => rfl

/-- **The laws of the inverse.**  The product of an element other than zero and its inverse is one, and
the inverse of zero is zero.  So inverting twice changes nothing, and a product is zero only if one of
its factors is. -/
theorem inverse_laws (a b : Element) :
    (a ≠ 0 → a * a.inverse = 1) ∧ inverse 0 = 0 ∧ a.inverse.inverse = a ∧
      (a * b = 0 → a = 0 ∨ b = 0) :=
  ⟨mul_inverse_cancel a, inverse_zero, inv_inv a, eq_zero_or_eq_zero_of_mul_eq_zero⟩

/-- The generator has an inverse, and its product with zero is zero. -/
theorem inverse_laws_of_generator :
    (generator ≠ 0 ∧ generator * generator.inverse = 1) ∧ inverse 0 = 0 ∧
      generator.inverse.inverse = generator ∧
      (generator * 0 = 0 ∧ (generator = 0 ∨ (0 : Element) = 0)) :=
  have other : generator ≠ 0 := by decide
  have zero : generator * 0 = 0 := mul_zero generator
  have ⟨cancels, zeroInverse, twice, factor⟩ := inverse_laws generator 0
  ⟨⟨other, cancels other⟩, zeroInverse, twice, zero, factor zero⟩

end Element
end PrivateRetrieval
