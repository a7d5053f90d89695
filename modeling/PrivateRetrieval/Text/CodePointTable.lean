namespace PrivateRetrieval
namespace Text

/-!
# Tables of code points

A property of characters is recorded as the ascending list of the closed intervals of code points
that have it.
-/

/-- Closed intervals of code points, in ascending order. -/
abbrev CodePointTable := Array (Nat × Nat)

/-- Test whether a character lies in one of the intervals. -/
def CodePointTable.covers (table : CodePointTable) (c : Char) : Bool :=
  table.any fun interval => interval.1 ≤ c.val.toNat && c.val.toNat ≤ interval.2

end Text
end PrivateRetrieval
