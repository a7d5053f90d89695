import PrivateRetrieval.Proofs.Client
import PrivateRetrieval.Proofs.Field.Inverse
import PrivateRetrieval.Proofs.Field.LittleEndian

namespace PrivateRetrieval

/-!
# Unscaling undoes scaling

The answers to a query in the field add up to the row times an element that the client chose.  The client
adds them and multiplies every block by the inverse of that element.  What comes out is described here
without the inverse: it is the only row whose blocks, multiplied by the element, are those of the sum.

Three things stand in the way, and they are looked at in this order: an element that is zero, answers of
different lengths, and answers that are not whole blocks.
-/

/-- A byte string whose blocks are those of a row, multiplied by an element. -/
structure IsMultiple (scale : Element) (row scaled : Bytes) : Prop where
  size_eq : scaled.size = row.size
  block_eq : ∀ block, block < row.size / Block.byteCount →
    Element.blockAt scaled block = scale * Element.blockAt row block

namespace IsMultiple

variable {scale : Element} {row other scaled : Bytes}

/-- Every row of whole blocks has its multiples. -/
theorem of_mapBlocks (scale : Element) (whole : row.size % Block.byteCount = 0) :
    IsMultiple scale row (Element.mapBlocks (fun _ element => scale * element) row) where
  size_eq := Element.size_mapBlocks _ whole
  block_eq _ inside := Element.blockAt_mapBlocks _ whole inside

/-- A byte string of whole blocks is a multiple of the row that the inverse makes of it. -/
theorem of_inverse (different : scale ≠ 0) (whole : scaled.size % Block.byteCount = 0) :
    IsMultiple scale (Element.mapBlocks (fun _ element => scale.inverse * element) scaled)
      scaled := by
  have size := Element.size_mapBlocks (fun _ element => scale.inverse * element) whole
  refine ⟨size.symm, ?_⟩
  intro block inside
  rw [size] at inside
  rw [Element.blockAt_mapBlocks _ whole inside, ← mul_assoc,
    Element.mul_inverse_cancel scale different, one_mul]

/-- Rows with a common multiple by an element other than zero are equal. -/
theorem unique (different : scale ≠ 0) (whole : scaled.size % Block.byteCount = 0)
    (multiple : IsMultiple scale row scaled) (multipleToo : IsMultiple scale other scaled) :
    other = row := by
  have sameSize : other.size = row.size := multipleToo.size_eq.symm.trans multiple.size_eq
  apply Element.eq_of_blockAt_eq sameSize
  · rw [← multipleToo.size_eq]
    exact whole
  · intro block inside
    apply mul_left_cancel₀ different
    rw [← multipleToo.block_eq block inside, ← multiple.block_eq block (sameSize ▸ inside)]

end IsMultiple

namespace Client

/-! ## Refusals -/

theorem reconstruct_eq_error {left right : Bytes} (apart : left.size ≠ right.size) :
    reconstruct left right = .error (.retrieval (.answerLength left.size right.size)) :=
  bind_of_eq_error (require_eq_error apart) _

theorem reconstructField_zero (left right : Bytes) :
    reconstructField left right 0 = .error (.retrieval .zeroScale) :=
  bind_of_eq_error (require_eq_error fun different => different rfl) _

theorem reconstructField_of_lengths {left right : Bytes} {scale : Element} (different : scale ≠ 0)
    (apart : left.size ≠ right.size) :
    reconstructField left right scale =
      .error (.retrieval (.answerLength left.size right.size)) := by
  rw [reconstructField, bind_of_eq_ok (require_eq_ok_iff.mpr different)]
  exact bind_of_eq_error (reconstruct_eq_error apart) _

theorem reconstructField_of_partialBlock {left right : Bytes} {scale : Element}
    (different : scale ≠ 0) (sameSize : left.size = right.size)
    (broken : left.size % Block.byteCount ≠ 0) :
    reconstructField left right scale =
      .error (.retrieval (.invalidParameter (.answer left.size))) := by
  have size := Bytes.size_xor_of_size_eq sameSize
  rw [reconstructField, bind_of_eq_ok (require_eq_ok_iff.mpr different),
    bind_of_eq_ok (reconstruct_eq_ok sameSize), size]
  exact bind_of_eq_error (require_eq_error broken) _

/-! ## Answers of whole blocks -/

/-- The row that comes out is the only one whose multiple is the sum of the answers. -/
theorem reconstructField_of_whole {left right : Bytes} {scale : Element} (different : scale ≠ 0)
    (sameSize : left.size = right.size) (whole : left.size % Block.byteCount = 0) :
    ∃ row, reconstructField left right scale = .ok row ∧ row.size = left.size ∧
      IsMultiple scale row (Bytes.xor left right) ∧
      ∀ other, IsMultiple scale other (Bytes.xor left right) → other = row := by
  have size := Bytes.size_xor_of_size_eq sameSize
  have blocks : (Bytes.xor left right).size % Block.byteCount = 0 := size.symm ▸ whole
  have multiple := IsMultiple.of_inverse different blocks
  refine ⟨_, reconstructField_eq_ok different sameSize whole, ?_, multiple, ?_⟩
  · rw [← multiple.size_eq, size]
  · intro other multipleToo
    exact multiple.unique different blocks multipleToo

/-- A multiple of a row that is split into two answers gives the row back. -/
theorem reconstructField_of_isMultiple {row scaled mask : Bytes} {scale : Element}
    (different : scale ≠ 0) (whole : row.size % Block.byteCount = 0)
    (multiple : IsMultiple scale row scaled) (sameSize : mask.size = row.size) :
    reconstructField (Bytes.xor scaled mask) mask scale = .ok row := by
  have maskSize : scaled.size = mask.size := multiple.size_eq.trans sameSize.symm
  have size := Bytes.size_xor_of_size_eq maskSize
  have blocks : (Bytes.xor scaled mask).size % Block.byteCount = 0 := by
    rw [size, multiple.size_eq]
    exact whole
  rcases reconstructField_of_whole different (size.trans maskSize) blocks with
    ⟨only, ran, _, _, unique⟩
  rw [Bytes.xor_xor_cancel maskSize] at unique
  rw [ran, unique row multiple]

/-! ## All answers -/

/-- What becomes of two answers and an element. -/
structure Unscales (left right : Bytes) (scale : Element) (outcome : Outcome Bytes) : Prop where
  zeroScale_iff : outcome = .error (.retrieval .zeroScale) ↔ scale = 0
  answerLength_iff :
    outcome = .error (.retrieval (.answerLength left.size right.size)) ↔
      scale ≠ 0 ∧ left.size ≠ right.size
  partialBlock_iff :
    outcome = .error (.retrieval (.invalidParameter (.answer left.size))) ↔
      scale ≠ 0 ∧ left.size = right.size ∧ left.size % Block.byteCount ≠ 0
  /-- The sum of the answers is the multiple of the row and of no other. -/
  row_iff :
    (∃ row, outcome = .ok row ∧ row.size = left.size ∧
        IsMultiple scale row (Bytes.xor left right) ∧
        ∀ other, IsMultiple scale other (Bytes.xor left right) → other = row) ↔
      scale ≠ 0 ∧ left.size = right.size ∧ left.size % Block.byteCount = 0

theorem reconstructField_unscales (left right : Bytes) (scale : Element) :
    Unscales left right scale (reconstructField left right scale) := by
  by_cases zero : scale = 0
  · subst zero
    constructor <;> rw [reconstructField_zero]
    · exact iff_of_true rfl rfl
    · exact iff_of_false nofun fun both => both.1 rfl
    · exact iff_of_false nofun fun all => all.1 rfl
    · exact iff_of_false (fun ⟨_, other, _⟩ => nomatch other) fun all => all.1 rfl
  · by_cases sameSize : left.size = right.size
    · by_cases whole : left.size % Block.byteCount = 0
      · rcases reconstructField_of_whole zero sameSize whole with ⟨row, ran, only⟩
        constructor <;> rw [ran]
        · exact iff_of_false nofun zero
        · exact iff_of_false nofun fun both => both.2 sameSize
        · exact iff_of_false nofun fun all => all.2.2 whole
        · exact iff_of_true ⟨row, rfl, only⟩ ⟨zero, sameSize, whole⟩
      · constructor <;> rw [reconstructField_of_partialBlock zero sameSize whole]
        · exact iff_of_false nofun zero
        · exact iff_of_false nofun fun both => both.2 sameSize
        · exact iff_of_true rfl ⟨zero, sameSize, whole⟩
        · exact iff_of_false (fun ⟨_, other, _⟩ => nomatch other) fun all => whole all.2.2
    · constructor <;> rw [reconstructField_of_lengths zero sameSize]
      · exact iff_of_false nofun zero
      · exact iff_of_true rfl ⟨zero, sameSize⟩
      · exact iff_of_false nofun fun all => sameSize all.2.1
      · exact iff_of_false (fun ⟨_, other, _⟩ => nomatch other) fun all => sameSize all.2.1

/-- **Unscaling.**  Two answers are refused for an element that is zero, for different lengths and for
partial blocks, in this order and for nothing else; all others give the only row whose multiple is their
sum.  So an element other than zero is taken off every row of whole blocks, however the multiple is split
into two answers. -/
theorem unscaling_undoes_scaling (scale : Element) :
    (∀ left right : Bytes,
        Unscales left right scale (reconstructField left right scale)) ∧
      (scale ≠ 0 → ∀ row mask : Bytes, row.size % Block.byteCount = 0 → mask.size = row.size →
        (∃ scaled, IsMultiple scale row scaled) ∧
          ∀ scaled, IsMultiple scale row scaled →
            reconstructField (Bytes.xor scaled mask) mask scale = .ok row) := by
  refine ⟨fun left right => reconstructField_unscales left right scale, ?_⟩
  intro different row mask whole sameSize
  refine ⟨⟨_, IsMultiple.of_mapBlocks scale whole⟩, ?_⟩
  intro scaled multiple
  exact reconstructField_of_isMultiple different whole multiple sameSize

/-- Two blocks are scaled, masked and unscaled; answers of 0 and 1 bytes are refused for their lengths
only if the element is not zero, and answers of 17 bytes for their last block. -/
theorem unscaling_undoes_scaling_of_two_blocks :
    (⟨0x87⟩ : Element) ≠ 0 ∧
      (∃ scaled, IsMultiple ⟨0x87⟩ (Array.replicate 32 0xa5) scaled ∧
        reconstructField (Bytes.xor scaled (Array.replicate 32 0x5a)) (Array.replicate 32 0x5a)
          ⟨0x87⟩ = .ok (Array.replicate 32 0xa5)) ∧
      reconstructField #[] #[1] 0 = .error (.retrieval .zeroScale) ∧
      reconstructField #[] #[1] ⟨0x87⟩ = .error (.retrieval (.answerLength 0 1)) ∧
      reconstructField (Array.replicate 17 1) (Array.replicate 17 2) ⟨0x87⟩ =
        .error (.retrieval (.invalidParameter (.answer 17))) := by
  have different : (⟨0x87⟩ : Element) ≠ 0 := by decide
  rcases unscaling_undoes_scaling ⟨0x87⟩ with ⟨outcomes, takesOff⟩
  rcases takesOff different (Array.replicate 32 0xa5) (Array.replicate 32 0x5a)
    (by rw [Array.size_replicate]; rfl) (by rw [Array.size_replicate, Array.size_replicate]) with
    ⟨⟨scaled, multiple⟩, back⟩
  exact ⟨different, ⟨scaled, multiple, back scaled multiple⟩,
    ((unscaling_undoes_scaling 0).1 #[] #[1]).zeroScale_iff.mpr rfl,
    (outcomes #[] #[1]).answerLength_iff.mpr ⟨different, by decide⟩,
    (outcomes (Array.replicate 17 1) (Array.replicate 17 2)).partialBlock_iff.mpr
      ⟨different, rfl, by decide⟩⟩

end Client
end PrivateRetrieval
