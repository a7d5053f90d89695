import Mathlib.Algebra.Polynomial.Coeff
import Mathlib.Algebra.Polynomial.Degree.Defs
import Mathlib.Algebra.Field.ZMod
import PrivateRetrieval.Field.CarrylessProduct

namespace PrivateRetrieval
namespace CarrylessProduct

open Polynomial

/-!
# Words as polynomials

A word is a polynomial over the field of two elements: bit `i` is the coefficient of `x ^ i`.  The
exclusive or of words is the sum of their polynomials, and a shift is a multiplication by a power of
`x`, whose upper part may pass the end of the word.  Everything that is said about carry-less products
is said through these polynomials, so no proof looks at more than one coefficient.
-/

/-- The polynomial of a word. -/
noncomputable def polynomial {w : Nat} (a : BitVec w) : (ZMod 2)[X] :=
  ∑ i ∈ Finset.range w, if a.getLsbD i then X ^ i else 0

variable {w : Nat}

theorem coeff_polynomial (a : BitVec w) (i : Nat) :
    (polynomial a).coeff i = if a.getLsbD i then 1 else 0 := by
  have term : ∀ j, (if a.getLsbD j then (X ^ j : (ZMod 2)[X]) else 0).coeff i =
      if i = j then (if a.getLsbD j then 1 else 0) else 0 := by
    intro j
    cases a.getLsbD j with
    | true => simp [coeff_X_pow]
    | false => simp
  rw [polynomial, finsetSum_coeff]
  simp only [term]
  rw [Finset.sum_ite_eq (Finset.range w) i]
  rcases Nat.lt_or_ge i w with inside | beyond
  · rw [if_pos (Finset.mem_range.mpr inside)]
  · rw [if_neg fun member => Nat.not_lt_of_ge beyond (Finset.mem_range.mp member),
      BitVec.getLsbD_of_ge a i beyond]
    rfl

/-- A bit is known from its value in the field of two elements. -/
theorem eq_of_ite_eq {left right : Bool}
    (same : (if left then 1 else 0 : ZMod 2) = if right then 1 else 0) : left = right := by
  revert same
  cases left <;> cases right <;> decide

theorem polynomial_injective : Function.Injective (polynomial (w := w)) := by
  intro a b same
  apply BitVec.eq_of_getLsbD_eq
  intro i _
  have coefficient := congrArg (fun p => p.coeff i) same
  simp only [coeff_polynomial] at coefficient
  exact eq_of_ite_eq coefficient

theorem degree_polynomial_lt (a : BitVec w) : (polynomial a).degree < w := by
  apply (degree_lt_iff_coeff_zero _ _).mpr
  intro i beyond
  rw [coeff_polynomial, BitVec.getLsbD_of_ge a i beyond]
  rfl

@[simp]
theorem polynomial_zero : polynomial (0 : BitVec w) = 0 := by
  ext i
  simp [coeff_polynomial]

@[simp]
theorem polynomial_xor (a b : BitVec w) : polynomial (a ^^^ b) = polynomial a + polynomial b := by
  ext i
  rw [coeff_add, coeff_polynomial, coeff_polynomial, coeff_polynomial, BitVec.getLsbD_xor]
  cases a.getLsbD i <;> cases b.getLsbD i <;> decide

theorem polynomial_twoPow {i : Nat} (inside : i < w) : polynomial (BitVec.twoPow w i) = X ^ i := by
  ext j
  rw [coeff_polynomial, BitVec.getLsbD_twoPow, coeff_X_pow]
  by_cases same : j = i
  · subst same
    simp [inside]
  · have other : i ≠ j := Ne.symm same
    simp [same, other]

/-- A shift to the left multiplies by a power of `x`.  What passes the end of the word is the same word
shifted to the right. -/
theorem X_pow_mul_polynomial (a : BitVec w) {i : Nat} (inside : i ≤ w) :
    X ^ i * polynomial a = polynomial (a <<< i) + X ^ w * polynomial (a >>> (w - i)) := by
  ext j
  rw [coeff_add, coeff_X_pow_mul', coeff_X_pow_mul', coeff_polynomial, coeff_polynomial,
    coeff_polynomial, BitVec.getLsbD_shiftLeft, BitVec.getLsbD_ushiftRight]
  rcases Nat.lt_or_ge j w with low | high
  · rw [if_neg (Nat.not_le_of_gt low), add_zero]
    rcases Nat.lt_or_ge j i with below | above
    · simp [below, Nat.not_le_of_gt below]
    · simp [low, above, Nat.not_lt_of_ge above]
  · have place : w - i + (j - w) = j - i := by omega
    simp [high, Nat.not_lt_of_ge high, place, Nat.le_trans inside high]

theorem polynomial_append {v : Nat} (a : BitVec v) (b : BitVec w) :
    polynomial (a ++ b) = polynomial b + X ^ w * polynomial a := by
  ext i
  rw [coeff_add, coeff_X_pow_mul', coeff_polynomial, coeff_polynomial, coeff_polynomial,
    BitVec.getLsbD_append]
  rcases Nat.lt_or_ge i w with low | high
  · rw [if_neg (Nat.not_le_of_gt low), add_zero]
    simp [low]
  · rw [if_pos high, BitVec.getLsbD_of_ge b i high]
    simp [Nat.not_lt_of_ge high]

end CarrylessProduct
end PrivateRetrieval
