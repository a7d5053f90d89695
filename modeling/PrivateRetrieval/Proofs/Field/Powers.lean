import PrivateRetrieval.Proofs.Field.Inverse

namespace PrivateRetrieval
namespace Element

/-!
# Powers

Exponentiation reads an exponent of 128 bits from the highest bit down and squares at each of them,
also at the leading zeros.  What comes out is the product of as many equal factors as the exponent says,
and from this the laws of exponents follow.

Exponents are added and multiplied as words.  A sum that passes the largest word has lost `2 ^ 128`, and
the power of the element has then lost the factor that is the element itself, because raising to the
power `2 ^ 128` changes nothing.
-/

theorem pow_eq_prod_replicate (a : Element) (exponent : BitVec 128) :
    a.pow exponent = (List.replicate exponent.toNat a).prod := by
  rw [pow_eq_pow, List.prod_replicate]

/-- The product of two powers has as many factors as both together; one more than the sum of words says
if that sum wraps around. -/
theorem pow_mul_pow (a : Element) (m n : BitVec 128) :
    a.pow m * a.pow n =
      if m.toNat + n.toNat < 2 ^ 128 then a.pow (m + n) else a.pow (m + n) * a := by
  rw [pow_eq_pow, pow_eq_pow, pow_eq_pow, ← pow_add, BitVec.toNat_add]
  split
  · rename_i fits
    rw [Nat.mod_eq_of_lt fits]
  · rename_i wraps
    have total : m.toNat + n.toNat = (m.toNat + n.toNat) % 2 ^ 128 + 2 ^ 128 := by
      have first := m.isLt
      have second := n.isLt
      omega
    rw [total, pow_add, pow_two_pow_eq_self repeat_square_generator_whole, ← total]

theorem pow_pow_of_fits (a : Element) {m n : BitVec 128} (fits : m.toNat * n.toNat < 2 ^ 128) :
    (a.pow m).pow n = a.pow (m * n) := by
  rw [pow_eq_pow, pow_eq_pow, pow_eq_pow, ← pow_mul, BitVec.toNat_mul, Nat.mod_eq_of_lt fits]

theorem mul_pow_eq (a b : Element) (n : BitVec 128) : (a * b).pow n = a.pow n * b.pow n := by
  rw [pow_eq_pow, pow_eq_pow, pow_eq_pow, mul_pow]

/-- **The laws of exponents.**  A power is the product of as many factors as the exponent says, which is
one for the exponent zero, also of the element zero.  Exponents add up under multiplication and multiply
under repeated powers as long as the result is a word, and the power of a product is the product of the
powers. -/
theorem exponent_laws (a b : Element) (m n : BitVec 128) :
    a.pow m = (List.replicate m.toNat a).prod ∧ a.pow 0 = 1 ∧
      (m.toNat + n.toNat < 2 ^ 128 → a.pow m * a.pow n = a.pow (m + n)) ∧
      (m.toNat * n.toNat < 2 ^ 128 → (a.pow m).pow n = a.pow (m * n)) ∧
      (a * b).pow n = a.pow n * b.pow n := by
  refine ⟨pow_eq_prod_replicate a m, ?_, ?_, pow_pow_of_fits a, mul_pow_eq a b n⟩
  · exact pow_eq_prod_replicate a 0
  · intro fits
    rw [pow_mul_pow, if_pos fits]

/-- The exponent of the inverse and one add up to the largest exponent, and two exponents have the
highest bit as their product. -/
theorem exponent_laws_up_to_largest_exponent :
    ((2 ^ 128 - 2) + 1 < 2 ^ 128 ∧
        generator.inverse * generator.pow 1 = generator.pow (BitVec.allOnes 128)) ∧
      (2 ^ 64 * 2 ^ 63 < 2 ^ 128 ∧
        (generator.pow (1#128 <<< 64)).pow (1#128 <<< 63) = generator.pow (1#128 <<< 127)) ∧
      (0 : Element).pow 0 = 1 := by
  have ⟨_, _, sum, _, _⟩ := exponent_laws generator 0 (BitVec.allOnes 128 - 1) 1
  have ⟨_, _, _, product, _⟩ := exponent_laws generator 0 (1#128 <<< 64) (1#128 <<< 63)
  have ⟨_, one, _, _, _⟩ := exponent_laws 0 0 0 0
  exact ⟨⟨by decide, sum (by decide)⟩, ⟨by decide, product (by decide)⟩, one⟩

end Element
end PrivateRetrieval
