import Mathlib.Algebra.CharP.Two
import Mathlib.Algebra.Polynomial.Div
import Mathlib.Tactic.ComputeDegree
import Mathlib.Tactic.LinearCombination
import PrivateRetrieval.Proofs.Field.Polynomial

namespace PrivateRetrieval

/-- A loop in which every step adds a term to the value of the state adds the sum of the terms. -/
theorem foldl_range_eq_add_sum {σ M : Type} [AddCommMonoid M] (value : σ → M) (step : σ → Nat → σ)
    {term : Nat → M} {count : Nat}
    (adds : ∀ state i, i < count → value (step state i) = value state + term i) (start : σ) :
    value ((List.range count).foldl step start) =
      value start + ∑ i ∈ Finset.range count, term i := by
  induction count with
  | zero => simp
  | succ count earlier =>
      have before := earlier fun state i inside => adds state i (Nat.lt_succ_of_lt inside)
      rw [List.range_succ, List.foldl_append, List.foldl_cons, List.foldl_nil,
        adds _ count count.lt_succ_self, before, Finset.sum_range_succ, add_assoc]

namespace CarrylessProduct

open Polynomial

/-!
# Products of words are products of polynomials

The wide product is exact: every step adds one multiple of the first word, and the part that passes the
middle is the part that is shifted out.  Reduction subtracts a multiple of the modulus that can be
named, the folded upper half; what it leaves is shorter than the modulus and so is the remainder.

The bits of a product of polynomials are the sums that `productBit` says, so an exact product is exact
bit by bit.
-/

/-- The polynomial by which products are reduced. -/
@[irreducible]
noncomputable def modulus : (ZMod 2)[X] := X ^ 128 + X ^ 7 + X ^ 2 + X + 1

theorem natDegree_modulus : modulus.natDegree = 128 := by
  unfold modulus
  compute_degree!

theorem monic_modulus : modulus.Monic := by
  unfold modulus
  monicity!

theorem degree_modulus : modulus.degree = (128 : Nat) := by
  rw [degree_eq_natDegree monic_modulus.ne_zero, natDegree_modulus]

/-! ## The wide product -/

/-- Both halves of a product as one word. -/
def Wide.word (product : Wide) : BitVec 256 := product.high ++ product.low

theorem Wide.polynomial_word (product : Wide) :
    polynomial product.word = polynomial product.low + X ^ 128 * polynomial product.high :=
  polynomial_append product.high product.low

theorem Wide.toNat_word (product : Wide) :
    product.word.toNat = product.high.toNat * 2 ^ 128 + product.low.toNat := by
  rw [Wide.word, BitVec.toNat_append, ← Nat.shiftLeft_add_eq_or_of_lt product.low.isLt,
    Nat.shiftLeft_eq]

theorem Wide.eq_of_word_eq {first second : Wide} (same : first.word = second.word) :
    first = second := by
  rcases first with ⟨firstLow, firstHigh⟩
  rcases second with ⟨secondLow, secondHigh⟩
  have numbers := congrArg BitVec.toNat same
  rw [Wide.toNat_word, Wide.toNat_word] at numbers
  dsimp only at numbers
  have lows : firstLow = secondLow := by
    apply BitVec.eq_of_toNat_eq
    omega
  have highs : firstHigh = secondHigh := by
    apply BitVec.eq_of_toNat_eq
    omega
  rw [lows, highs]

theorem polynomial_addShifted (a b : BitVec 128) (product : Wide) {i : Nat} (inside : i < 128) :
    polynomial (addShifted a b product i).word =
      polynomial product.word + polynomial a * if b.getLsbD i then X ^ i else 0 := by
  have passed : (a >>> 1) >>> (127 - i) = a >>> (128 - i) := by
    have total : 1 + (127 - i) = 128 - i := by omega
    rw [← BitVec.shiftRight_add, total]
  have shifted := X_pow_mul_polynomial a (Nat.le_of_lt inside)
  rw [addShifted]
  split
  · rw [Wide.polynomial_word, Wide.polynomial_word, polynomial_xor, polynomial_xor, passed,
      mul_comm (polynomial a), shifted]
    ring
  · rw [mul_zero, add_zero]

/-- The wide product is the product. -/
theorem polynomial_wideProduct (a b : BitVec 128) :
    polynomial (wideProduct a b).word = polynomial a * polynomial b := by
  have empty : polynomial (Wide.word ⟨0, 0⟩) = 0 := polynomial_zero
  have sum := foldl_range_eq_add_sum (fun product : Wide => polynomial product.word)
    (addShifted a b) (fun product i (inside : i < 128) => polynomial_addShifted a b product inside)
  rw [wideProduct, sum, empty, zero_add, ← Finset.mul_sum]
  rfl

/-! ## Bits of a product -/

theorem coeff_polynomial_mul_polynomial {w : Nat} (a b : BitVec w) (k : Nat) :
    (polynomial a * polynomial b).coeff k = if productBit a b k then 1 else 0 := by
  let term (i : Nat) : ZMod 2 := if a.getLsbD i && b.getLsbD (k - i) then 1 else 0
  have product (i : Nat) : (polynomial a).coeff i * (polynomial b).coeff (k - i) = term i := by
    simp only [coeff_polynomial, term]
    cases a.getLsbD i <;> cases b.getLsbD (k - i) <;> rfl
  have adds (sum : Bool) (i : Nat) : (if (sum ^^ (a.getLsbD i && b.getLsbD (k - i))) then 1 else 0) =
      (if sum then 1 else 0) + term i := by
    simp only [term]
    cases sum <;> cases a.getLsbD i && b.getLsbD (k - i) <;> decide
  rw [coeff_mul, Finset.Nat.sum_antidiagonal_eq_sum_range_succ_mk, productBit,
    foldl_range_eq_add_sum (fun sum => if sum then (1 : ZMod 2) else 0)
      (fun sum i => sum ^^ (a.getLsbD i && b.getLsbD (k - i))) fun sum i _ => adds sum i]
  simp only [product]
  exact (zero_add _).symm

/-- A word whose polynomial is a product has the bits of the product. -/
theorem getLsbD_eq_productBit {v w : Nat} {product : BitVec v} {a b : BitVec w}
    (exact : polynomial product = polynomial a * polynomial b) (k : Nat) :
    product.getLsbD k = productBit a b k := by
  have coefficient := congrArg (fun p => p.coeff k) exact
  simp only [coeff_polynomial, coeff_polynomial_mul_polynomial] at coefficient
  exact eq_of_ite_eq coefficient

/-! ## Reduction -/

/-- The upper half of a product with the parts added that its multiples push out again. -/
def folded (high : BitVec 128) : BitVec 128 :=
  high ^^^ (high >>> 127) ^^^ (high >>> 126) ^^^ (high >>> 121)

/-- The parts that were folded in are too short to be pushed out once more. -/
theorem folded_shiftRight (high : BitVec 128) {i : Nat} (most : 121 ≤ i) :
    folded high >>> i = high >>> i := by
  have gone : ∀ j : Nat, 121 ≤ j → (high >>> j) >>> i = 0#128 := by
    intro j far
    rw [← BitVec.shiftRight_add]
    exact BitVec.ushiftRight_eq_zero (by omega)
  simp only [folded, BitVec.ushiftRight_xor_distrib]
  rw [gone 127 (by decide), gone 126 (by decide), gone 121 le_rfl]
  simp

theorem polynomial_reduce (low high : BitVec 128) :
    polynomial (reduce low high) =
      polynomial low + X ^ 128 * polynomial high + modulus * polynomial (folded high) := by
  -- What the three multiples of the folded half push out is what was folded in.
  have multiple (i : Nat) (few : i ≤ 7) : polynomial (folded high <<< i) =
      X ^ i * polynomial (folded high) + X ^ 128 * polynomial (high >>> (128 - i)) := by
    rw [X_pow_mul_polynomial (folded high) (Nat.le_trans few (by decide)),
      folded_shiftRight high (Nat.sub_le_sub_left few 128), add_assoc, CharTwo.add_self_eq_zero,
      add_zero]
  have spilled : polynomial (high >>> 127) + polynomial (high >>> 126) + polynomial (high >>> 121) =
      polynomial high + polynomial (folded high) := by
    have double : polynomial high + polynomial high = 0 := CharTwo.add_self_eq_zero _
    simp only [folded, polynomial_xor]
    linear_combination -double
  have word : reduce low high = low ^^^ folded high ^^^ (folded high <<< 1) ^^^
      (folded high <<< 2) ^^^ (folded high <<< 7) := rfl
  rw [word, polynomial_xor, polynomial_xor, polynomial_xor, polynomial_xor, multiple 1 (by decide),
    multiple 2 (by decide), multiple 7 le_rfl]
  unfold modulus
  linear_combination X ^ 128 * spilled

/-- A word that differs from a polynomial by a multiple of the modulus is its remainder. -/
theorem polynomial_eq_modByMonic {word : BitVec 128} {dividend : (ZMod 2)[X]}
    (cofactor : (ZMod 2)[X]) (multiple : polynomial word - dividend = modulus * cofactor) :
    polynomial word = dividend %ₘ modulus := by
  have short : (polynomial word).degree < modulus.degree := by
    rw [degree_modulus]
    exact degree_polynomial_lt _
  calc polynomial word
      = polynomial word %ₘ modulus := ((modByMonic_eq_self_iff monic_modulus).mpr short).symm
    _ = dividend %ₘ modulus := modByMonic_eq_of_dvd_sub monic_modulus (Dvd.intro _ multiple.symm)

/-- Reduction leaves the remainder, of products and of any other pair of words. -/
theorem polynomial_reduce_eq_modByMonic (product : Wide) :
    polynomial (reduce product.low product.high) = polynomial product.word %ₘ modulus := by
  apply polynomial_eq_modByMonic (polynomial (folded product.high))
  rw [Wide.polynomial_word, polynomial_reduce]
  ring

/-- **Multiplication.**  The product of two words is the remainder of the product of their
polynomials. -/
theorem polynomial_multiply (a b : BitVec 128) :
    polynomial (multiply a b) = polynomial a * polynomial b %ₘ modulus := by
  rw [multiply, polynomial_reduce_eq_modByMonic, polynomial_wideProduct]

/-- **Products and remainders.**  The wide product of any two words is exact: bit `k` of its two
halves is the exclusive or of `aᵢ ∧ bⱼ` over all `i + j = k`.  Reduction leaves the remainder of any
two halves, whether they are those of a product or not.  So multiplication is that of polynomials modulo
`x ^ 128 + x ^ 7 + x ^ 2 + x + 1`. -/
theorem exact_product_and_remainder (a b low high : BitVec 128) :
    (∀ k, ((wideProduct a b).high.toNat * 2 ^ 128 + (wideProduct a b).low.toNat).testBit k =
        productBit a b k) ∧
      polynomial (reduce low high) =
        (polynomial low + polynomial high * X ^ 128) %ₘ (X ^ 128 + X ^ 7 + X ^ 2 + X + 1) ∧
      polynomial (multiply a b) =
        polynomial a * polynomial b %ₘ (X ^ 128 + X ^ 7 + X ^ 2 + X + 1) := by
  have divisor : (X ^ 128 + X ^ 7 + X ^ 2 + X + 1 : (ZMod 2)[X]) = modulus := by
    unfold modulus
    rfl
  rw [divisor]
  refine ⟨?_, ?_, polynomial_multiply a b⟩
  · intro k
    rw [← Wide.toNat_word]
    exact getLsbD_eq_productBit (polynomial_wideProduct a b) k
  · rw [polynomial_reduce_eq_modByMonic ⟨low, high⟩, Wide.polynomial_word, mul_comm (X ^ 128)]

end CarrylessProduct
end PrivateRetrieval
