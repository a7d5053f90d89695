import PrivateRetrieval.Client
import PrivateRetrieval.Proofs.Fold.Weighted
import PrivateRetrieval.Proofs.PointFunction.Bit
import PrivateRetrieval.Proofs.PointFunction.Field

namespace PrivateRetrieval
namespace Client

open PointFunction

/-!
# What a client asks and how it adds up the answers

A client can be made for valid parameters and passes every index of its domain on to the generator of
keys.  Two answers of one length are added byte by byte; the sum of two answers in the field is
multiplied, block by block, by the inverse of the element that the keys were made with.
-/

theorem new_eq_ok (context : HashContext) {params : Params} (valid : params.Valid) :
    new context params = .ok ⟨context, params, valid⟩ := by
  have checked := Params.validate_eq_ok_iff.mpr valid
  unfold new
  split
  · rfl
  · rename_i refused
    rw [checked] at refused
    cases refused

theorem requireIndex_eq_ok {client : Client} {index : Nat}
    (inside : index < 2 ^ client.params.logn) : client.requireIndex index = .ok () := by
  have narrow : client.params.logn ≤ 32 := client.valid.logn_le
  rw [requireIndex, Params.domainSize, Size.powerOfTwo_eq_ok (by omega), Nat.one_shiftLeft]
  exact require_eq_ok_iff.mpr inside

/-- A client gets a pair of keys for every index of its domain. -/
theorem query_eq_ok {client : Client} {index : Nat} (inside : index < 2 ^ client.params.logn)
    (tape : Tape) :
    ∃ dealt rest,
      client.query index tape = .ok
          (keysOf client.params.logn dealt (BitKey.leafWord client.context dealt index), rest) ∧
        dealt.DiffersAlong client.context.hash tape.drawOffset.1 (leafPath index)
          (bitDepth client.params.logn) := by
  rcases BitKey.generate_eq_ok client.context client.valid.logn_le inside tape with
    ⟨dealt, rest, generated, differs⟩
  refine ⟨dealt, rest, ?_, differs⟩
  rw [query, bind_of_eq_ok (requireIndex_eq_ok inside)]
  exact generated

theorem queryField_eq_ok {client : Client} {index : Nat} (inside : index < 2 ^ client.params.logn)
    {scale : Element} (other : scale ≠ 0) (tape : Tape) :
    ∃ dealt rest,
      client.queryField index scale tape = .ok
          (keysOf client.params.logn dealt (FieldKey.leafWord client.context dealt scale), rest) ∧
        dealt.DiffersAlong client.context.hash tape.drawOffset.1 index client.params.logn := by
  rcases FieldKey.generate_eq_ok client.context client.valid.logn_le inside scale tape with
    ⟨dealt, rest, generated, differs⟩
  refine ⟨dealt, rest, ?_, differs⟩
  rw [queryField, bind_of_eq_ok (requireIndex_eq_ok inside),
    bind_of_eq_ok (require_eq_ok_iff.mpr other)]
  exact generated

theorem reconstruct_eq_ok {left right : Bytes} (sameSize : left.size = right.size) :
    reconstruct left right = .ok (Bytes.xor left right) := by
  rw [reconstruct, bind_of_eq_ok (require_eq_ok_iff.mpr sameSize), Bytes.xor_eq_mapIdx sameSize]
  exact (Bytes.addInto_computes sameSize.symm).apply_eq_ok rfl

theorem reconstructField_eq_ok {left right : Bytes} {scale : Element} (other : scale ≠ 0)
    (sameSize : left.size = right.size) (whole : left.size % Block.byteCount = 0) :
    reconstructField left right scale =
      .ok (Element.mapBlocks (fun _ element => scale.inverse * element) (Bytes.xor left right)) := by
  have blocks : (Bytes.xor left right).size % Block.byteCount = 0 := by
    rw [Bytes.size_xor_of_size_eq sameSize]
    exact whole
  have zeros := Bytes.size_zeros (Bytes.xor left right).size
  rw [reconstructField, bind_of_eq_ok (require_eq_ok_iff.mpr other),
    bind_of_eq_ok (reconstruct_eq_ok sameSize), bind_of_eq_ok (require_eq_ok_iff.mpr blocks),
    ← Element.mapBlocks_zeros (scale.inverse * ·) blocks]
  exact (Fold.addScaled_computes scale.inverse rfl blocks).apply_eq_ok zeros

end Client
end PrivateRetrieval
