import PrivateRetrieval.Proofs.Field.Product

namespace PrivateRetrieval
namespace CarrylessProduct

open Polynomial

/-!
# Products from halves

The method for processors with an instruction for words of 64 bits is taken apart where the other one
is: into a wide product and a reduction.  The four products of halves add up to the same two words as the
128 shifted words do.  The two folds by the instruction are not the shifts of `reduce`, and they leave
another multiple of the modulus behind; but what they leave is as short, and so it is the same remainder.
-/

/-! ## The instruction -/

/-- A word that is widened far enough loses nothing when it is shifted. -/
theorem polynomial_setWidth_shiftLeft {w v : Nat} (a : BitVec w) {i : Nat} (fits : w + i ≤ v) :
    polynomial (a.setWidth v <<< i) = X ^ i * polynomial a := by
  ext j
  rw [coeff_X_pow_mul', coeff_polynomial, coeff_polynomial, BitVec.getLsbD_shiftLeft,
    BitVec.getLsbD_setWidth]
  rcases Nat.lt_or_ge j i with below | above
  · rw [if_neg (Nat.not_le_of_gt below)]
    simp [below]
  · rw [if_pos above, decide_eq_false (Nat.not_lt_of_ge above)]
    rcases Nat.lt_or_ge (j - i) w with inside | beyond
    · have wide : j < v := by omega
      have short : j - i < v := by omega
      simp [wide, short]
    · simp [BitVec.getLsbD_of_ge a (j - i) beyond]

/-- The instruction multiplies. -/
theorem polynomial_halfProduct (a b : BitVec 64) :
    polynomial (halfProduct a b) = polynomial a * polynomial b := by
  let step (product : BitVec 128) (i : Nat) : BitVec 128 :=
    if b.getLsbD i then product ^^^ (a.setWidth 128 <<< i) else product
  have adds (product : BitVec 128) (i : Nat) (inside : i < 64) :
      polynomial (step product i) =
        polynomial product + polynomial a * if b.getLsbD i then X ^ i else 0 := by
    simp only [step]
    split
    · rw [polynomial_xor, polynomial_setWidth_shiftLeft a (by omega), mul_comm (polynomial a)]
    · rw [mul_zero, add_zero]
  have sum := foldl_range_eq_add_sum polynomial step adds 0
  rw [polynomial_zero, zero_add, ← Finset.mul_sum] at sum
  exact sum

theorem highHalf_append_lowHalf (a : BitVec 128) : highHalf a ++ lowHalf a = a := by
  apply BitVec.eq_of_getLsbD_eq
  intro i inside
  rw [BitVec.getLsbD_append, highHalf, lowHalf, BitVec.getLsbD_extractLsb',
    BitVec.getLsbD_extractLsb']
  rcases Nat.lt_or_ge i 64 with low | high
  · simp [low]
  · have place : 64 + (i - 64) = i := by omega
    have within : i - 64 < 64 := by omega
    simp [Nat.not_lt_of_ge high, place, within]

theorem polynomial_halves (a : BitVec 128) :
    polynomial a = polynomial (lowHalf a) + X ^ 64 * polynomial (highHalf a) := by
  rw [← polynomial_append]
  exact congrArg polynomial (highHalf_append_lowHalf a).symm

/-- A word that is moved up by half its width is spread over two words. -/
theorem X_pow_half_mul_polynomial (a : BitVec 128) :
    X ^ 64 * polynomial a = polynomial (a <<< 64) + X ^ 128 * polynomial (a >>> 64) := by
  have spread := X_pow_mul_polynomial a (i := 64) (by decide)
  have rest : 128 - 64 = 64 := rfl
  rw [rest] at spread
  exact spread

/-! ## The wide product -/

/-- The sum of the two products of a high and a low half. -/
def middleProduct (a b : BitVec 128) : BitVec 128 :=
  halfProduct (highHalf a) (lowHalf b) ^^^ halfProduct (lowHalf a) (highHalf b)

/-- The wide product from four products of halves. -/
def wideProductByHalves (a b : BitVec 128) : Wide :=
  ⟨halfProduct (lowHalf a) (lowHalf b) ^^^ (middleProduct a b <<< 64),
    halfProduct (highHalf a) (highHalf b) ^^^ (middleProduct a b >>> 64)⟩

/-- The middle products lie across both words. -/
theorem polynomial_wideProductByHalves (a b : BitVec 128) :
    polynomial (wideProductByHalves a b).word = polynomial a * polynomial b := by
  have across := X_pow_half_mul_polynomial (middleProduct a b)
  have middle : polynomial (middleProduct a b) = polynomial (highHalf a) * polynomial (lowHalf b) +
      polynomial (lowHalf a) * polynomial (highHalf b) := by
    rw [middleProduct, polynomial_xor, polynomial_halfProduct, polynomial_halfProduct]
  rw [Wide.polynomial_word, polynomial_halves a, polynomial_halves b, wideProductByHalves,
    polynomial_xor, polynomial_xor, polynomial_halfProduct, polynomial_halfProduct]
  linear_combination X ^ 64 * middle - across

theorem wideProductByHalves_eq_wideProduct (a b : BitVec 128) :
    wideProductByHalves a b = wideProduct a b := by
  apply Wide.eq_of_word_eq
  apply polynomial_injective
  rw [polynomial_wideProductByHalves, polynomial_wideProduct]

/-! ## Reduction -/

/-- The upper half of the high word, folded. -/
def foldedTop (high : BitVec 128) : BitVec 128 :=
  halfProduct (highHalf high) remainderOfTop

/-- The reduction by two folds of the high word. -/
def reduceByHalves (low high : BitVec 128) : BitVec 128 :=
  low ^^^ halfProduct (lowHalf high) remainderOfTop ^^^ (foldedTop high <<< 64) ^^^
    halfProduct (lowHalf (foldedTop high >>> 64)) remainderOfTop

theorem modulus_eq_add_remainderOfTop : modulus = X ^ 128 + polynomial remainderOfTop := by
  have bits : remainderOfTop = BitVec.twoPow 64 7 ^^^ BitVec.twoPow 64 2 ^^^ BitVec.twoPow 64 1 ^^^
      BitVec.twoPow 64 0 := by decide
  rw [bits, polynomial_xor, polynomial_xor, polynomial_xor, polynomial_twoPow (by decide),
    polynomial_twoPow (by decide), polynomial_twoPow (by decide), polynomial_twoPow (by decide)]
  unfold modulus
  ring

/-- What is left of a word after a shift by half its width fits in the lower half. -/
theorem polynomial_lowHalf_shiftRight (a : BitVec 128) :
    polynomial (lowHalf (a >>> 64)) = polynomial (a >>> 64) := by
  have empty : highHalf (a >>> 64) = 0 := by
    apply BitVec.eq_of_getLsbD_eq
    intro i _
    rw [highHalf, BitVec.getLsbD_extractLsb', BitVec.getLsbD_ushiftRight,
      BitVec.getLsbD_of_ge a _ (by omega), Bool.and_false]
    exact BitVec.getLsbD_zero.symm
  rw [polynomial_halves (a >>> 64), empty, polynomial_zero, mul_zero, add_zero]

/-- The first fold spills over the top; the second puts back what was spilled, and does not spill. -/
theorem polynomial_reduceByHalves (low high : BitVec 128) :
    polynomial (reduceByHalves low high) = polynomial (Wide.word ⟨low, high⟩) %ₘ modulus := by
  have spilled := X_pow_half_mul_polynomial (foldedTop high)
  have top : polynomial (foldedTop high) = polynomial (highHalf high) * polynomial remainderOfTop :=
    polynomial_halfProduct _ _
  have double (p : (ZMod 2)[X]) : p + p = 0 := CharTwo.add_self_eq_zero p
  apply polynomial_eq_modByMonic (polynomial high + polynomial (foldedTop high >>> 64))
  rw [Wide.polynomial_word, reduceByHalves, polynomial_xor, polynomial_xor, polynomial_xor,
    polynomial_halfProduct, polynomial_halfProduct, polynomial_lowHalf_shiftRight,
    modulus_eq_add_remainderOfTop]
  linear_combination X ^ 64 * top - spilled - polynomial remainderOfTop * polynomial_halves high -
    double (X ^ 128 * (polynomial high + polynomial (foldedTop high >>> 64)))

theorem reduceByHalves_eq_reduce (low high : BitVec 128) :
    reduceByHalves low high = reduce low high := by
  apply polynomial_injective
  rw [polynomial_reduceByHalves, ← polynomial_reduce_eq_modByMonic ⟨low, high⟩]

theorem multiplyByHalves_eq_multiply (a b : BitVec 128) :
    multiplyByHalves a b = multiply a b := by
  change reduceByHalves (wideProductByHalves a b).low (wideProductByHalves a b).high = _
  rw [wideProductByHalves_eq_wideProduct, reduceByHalves_eq_reduce]
  rfl

/-- **Both methods multiply alike.**  The instruction gives the product of two words of 64 bits bit by
bit.  The method that uses it computes the same word as the other for any two words, and so the
processor makes no difference. -/
theorem processor_makes_no_difference (a b : BitVec 128) :
    (∀ (left right : BitVec 64) (k : Nat),
        (halfProduct left right).getLsbD k = productBit left right k) ∧
      multiplyByHalves a b = multiply a b ∧
      ∀ hasInstruction, multiplyOn hasInstruction a b = multiply a b := by
  have same := multiplyByHalves_eq_multiply a b
  refine ⟨?_, same, ?_⟩
  · intro left right
    exact getLsbD_eq_productBit (polynomial_halfProduct left right)
  · intro hasInstruction
    cases hasInstruction with
    | true => exact same
    | false => rfl

end CarrylessProduct
end PrivateRetrieval
