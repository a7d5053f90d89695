import PrivateRetrieval.Field.Element

namespace PrivateRetrieval
namespace Element

/-!
# Addition of field elements

Addition is the exclusive or of the coefficients.  So it is commutative and associative, zero changes
nothing, and every element is its own negative; no law of multiplication is needed for that.
-/

theorem eq_of_bits_eq {a b : Element} (same : a.bits = b.bits) : a = b := by
  cases a
  cases b
  exact congrArg Element.mk same

theorem mk_add_mk (x y : BitVec 128) : (⟨x⟩ + ⟨y⟩ : Element) = ⟨x ^^^ y⟩ := rfl

protected theorem add_comm (a b : Element) : a + b = b + a :=
  eq_of_bits_eq (BitVec.xor_comm a.bits b.bits)

protected theorem add_assoc (a b c : Element) : a + b + c = a + (b + c) :=
  eq_of_bits_eq (BitVec.xor_assoc a.bits b.bits c.bits)

protected theorem add_zero (a : Element) : a + 0 = a :=
  eq_of_bits_eq BitVec.xor_zero

protected theorem zero_add (a : Element) : 0 + a = a :=
  eq_of_bits_eq BitVec.zero_xor

protected theorem add_self (a : Element) : a + a = 0 :=
  eq_of_bits_eq BitVec.xor_self

instance : Std.Commutative (α := Element) (· + ·) := ⟨Element.add_comm⟩

instance : Std.Associative (α := Element) (· + ·) := ⟨Element.add_assoc⟩

/-- What is added twice cancels. -/
protected theorem add_add_cancel (a b : Element) : a + (a + b) = b := by
  rw [← Element.add_assoc, Element.add_self, Element.zero_add]

end Element
end PrivateRetrieval
