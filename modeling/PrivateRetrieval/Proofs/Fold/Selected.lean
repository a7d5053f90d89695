import Mathlib.Data.List.Basic
import PrivateRetrieval.Fold.Selected
import PrivateRetrieval.Fold.Sum
import PrivateRetrieval.Proofs.PackedBits
import PrivateRetrieval.Proofs.Update

namespace PrivateRetrieval

/-!
# The fold of selected rows is the plain sum

The fold walks the bytes of a selection, passes over those that are zero and stops inside the last one.
At every position of the output this is one loop over the rows, in which a row counts if its bit is set:
a zero byte has no set bit, and the places past the last row add nothing.  Bits of the selection beyond
the last row are never looked at.
-/

/-! ## Loops over ranges -/

/-- A loop in groups is a loop over all items. -/
theorem foldl_range_mul {α : Type} (act : α → Nat → α) (count size : Nat) (start : α) :
    (List.range count).foldl
        (fun current group =>
          (List.range size).foldl (fun current place => act current (size * group + place)) current)
        start =
      (List.range (size * count)).foldl act start := by
  induction count with
  | zero => rfl
  | succ count grouped =>
      rw [List.range_succ, List.foldl_append, grouped, Nat.mul_succ, List.range_add,
        List.foldl_append, List.foldl_map]
      rfl

/-- Items past a bound that add nothing can be left out of a loop. -/
theorem foldl_range_of_le {α : Type} {count bound : Nat} (short : count ≤ bound)
    {act : α → Nat → α} (idle : ∀ current item, count ≤ item → act current item = current)
    (start : α) : (List.range bound).foldl act start = (List.range count).foldl act start := by
  rcases Nat.exists_eq_add_of_le short with ⟨extra, rfl⟩
  have rest (current : α) : ((List.range extra).map (count + ·)).foldl act current = current := by
    rw [List.foldl_map]
    induction extra with
    | zero => rfl
    | succ extra unchanged =>
        rw [List.range_succ, List.foldl_append, unchanged (Nat.le_add_right _ _)]
        exact idle current _ (Nat.le_add_right _ _)
  rw [List.range_add, List.foldl_append, rest]

namespace Database

/-- An output row to which the chosen rows are added. -/
def addSelected (database : Database) (chosen : Nat → Bool) (output : Bytes) : Bytes :=
  output.mapIdx fun position byte => database.selectedSum chosen position byte

theorem getD_addSelected (database : Database) (chosen : Nat → Bool) {output : Bytes} {position : Nat}
    (inside : position < output.size) :
    (database.addSelected chosen output).getD position 0 =
      database.selectedSum chosen position (output.getD position 0) := by
  simp [addSelected, Array.getD_eq_getD_getElem?, inside]

/-- Adding a row adds its bytes at every position. -/
theorem addInto_rowBytes_computes {database : Database} {index : Nat}
    (inside : index < database.rows) :
    (Bytes.addInto (database.rowBytes index)).Computes database.rowLength fun buffer =>
      buffer.mapIdx fun position byte => byte ^^^ database.byteAt index position := by
  refine (Bytes.addInto_computes (size_rowBytes inside)).congr ?_
  intro buffer fits
  apply mapIdx_congr
  intro position byte within
  rw [getD_rowBytes inside (fits ▸ within)]

end Database

namespace Fold

open Update

/-! ## One byte of the selection -/

/-- What one row adds at one position. -/
def addRow (database : Database) (chosen : Nat → Bool) (position : Nat) (byte : UInt8) (row : Nat) :
    UInt8 :=
  if row < database.rows ∧ chosen row = true then byte ^^^ database.byteAt row position else byte

/-- What the eight places of one byte of the selection add at one position. -/
def addPlaces (database : Database) (chosen : Nat → Bool) (position : Nat) (byte : UInt8)
    (byteIndex : Nat) : UInt8 :=
  (List.range 8).foldl
    (fun current place => addRow database chosen position current (8 * byteIndex + place)) byte

/-- The places of a byte without set bits add nothing. -/
theorem addPlaces_of_zero (database : Database) {chosen : Nat → Bool} {byteIndex : Nat}
    (bits : ∀ place, place < 8 → chosen (8 * byteIndex + place) = false) (position : Nat)
    (value : UInt8) : addPlaces database chosen position value byteIndex = value := by
  have idle : ∀ current, ∀ place ∈ List.range 8,
      addRow database chosen position current (8 * byteIndex + place) = current := by
    intro current place member
    rw [addRow, bits place (List.mem_range.mp member), if_neg fun adds => Bool.noConfusion adds.2]
  rw [addPlaces, List.foldl_ext _ (fun current _ => current) value idle]
  exact List.foldl_fixed (List.range 8)

section Byte

variable (database : Database) (byte : UInt8) {chosen : Nat → Bool} {byteIndex : Nat}

/-- One place adds its row or nothing. -/
theorem addRow_computes {place : Nat}
    (bit : chosen (8 * byteIndex + place) = byte.toBitVec.getLsbD place) :
    Computes
      (if 8 * byteIndex + place < database.rows ∧ byte.toBitVec.getLsbD place = true then do
        let row ← database.row (8 * byteIndex + place)
        Bytes.addInto row
      else pure ())
      database.rowLength fun buffer =>
        buffer.mapIdx fun position current =>
          addRow database chosen position current (8 * byteIndex + place) := by
  by_cases adds : 8 * byteIndex + place < database.rows ∧ byte.toBitVec.getLsbD place = true
  · rw [if_pos adds]
    refine Computes.afterCheck (Database.row_eq_ok adds.1) ?_
    refine (Database.addInto_rowBytes_computes adds.1).congr ?_
    intro buffer _
    apply mapIdx_congr
    intro position value _
    rw [addRow, bit, if_pos adds]
  · rw [if_neg adds]
    refine Computes.done.congr ?_
    intro buffer _
    refine (mapIdx_eq_self ?_).symm
    intro position value
    rw [addRow, bit, if_neg adds]

theorem addSelectedOfByte_computes
    (bits : ∀ place, place < 8 → chosen (8 * byteIndex + place) = byte.toBitVec.getLsbD place) :
    (addSelectedOfByte database byte byteIndex).Computes database.rowLength fun buffer =>
      buffer.mapIdx fun position value => addPlaces database chosen position value byteIndex := by
  refine (Computes.loop fun place member =>
    addRow_computes database byte (bits place (List.mem_range.mp member))).congr ?_
  intro buffer _
  exact foldl_mapIdx (List.range 8)
    (fun place position current => addRow database chosen position current (8 * byteIndex + place))
    buffer

/-- To pass over a zero byte is to add the rows of its places, because there are none. -/
theorem addSelectedUnlessZero_computes
    (bits : ∀ place, place < 8 → chosen (8 * byteIndex + place) = byte.toBitVec.getLsbD place) :
    Computes (if byte = 0 then pure () else addSelectedOfByte database byte byteIndex)
      database.rowLength fun buffer =>
        buffer.mapIdx fun position value => addPlaces database chosen position value byteIndex := by
  by_cases zero : byte = 0
  · rw [if_pos zero]
    refine Computes.done.congr ?_
    intro buffer _
    refine (mapIdx_eq_self ?_).symm
    intro position value
    apply addPlaces_of_zero
    intro place small
    rw [bits place small, zero]
    exact BitVec.getLsbD_zero
  · rw [if_neg zero]
    exact addSelectedOfByte_computes database byte bits

end Byte

/-! ## The whole selection -/

/-- The bits of a byte of the selection, at the places that the byte covers. -/
theorem bit_eq_of_mem_zipIdx {selection : Bytes} {count byteIndex place : Nat} {byte : UInt8}
    (enough : count ≤ selection.size)
    (member : (byte, byteIndex) ∈ (selection.extract 0 count).toList.zipIdx) (small : place < 8) :
    selection.bit (8 * byteIndex + place) = byte.toBitVec.getLsbD place := by
  have found : (selection.extract 0 count)[byteIndex]? = some byte := by
    rw [← Array.getElem?_toList]
    exact List.mem_zipIdx_iff_getElem?.mp member
  rcases Array.getElem?_eq_some_iff.mp found with ⟨inside, same⟩
  have within : 8 * byteIndex + place < 8 * (count - 0) := by
    rw [Array.size_extract, Nat.min_eq_left enough] at inside
    omega
  rw [← same, ← Bytes.bit_eq_getLsbD_getElem inside small, Bytes.bit_extract enough within,
    Nat.mul_zero, Nat.zero_add]

/-- The loop over all bytes adds the chosen rows at every position. -/
theorem foldl_addPlaces_eq_selectedSum (database : Database) (chosen : Nat → Bool) (position : Nat)
    (start : UInt8) :
    (List.range (Size.ceilDiv database.rows 8)).foldl (addPlaces database chosen position) start =
      database.selectedSum chosen position start := by
  have idle : ∀ current row, database.rows ≤ row →
      addRow database chosen position current row = current := by
    intro current row beyond
    rw [addRow, if_neg fun adds => Nat.not_lt_of_ge beyond adds.1]
  have rows := foldl_range_mul (addRow database chosen position) (Size.ceilDiv database.rows 8) 8 start
  refine rows.trans ?_
  rw [foldl_range_of_le (Size.le_mul_ceilDiv database.rows) idle, Database.selectedSum]
  apply List.foldl_ext
  intro current row member
  rw [addRow]
  simp only [List.mem_range.mp member, true_and]

/-- **The sequential fold.**  If the selection covers the rows, the fold succeeds on every output of one
row and adds exactly the rows whose bits are set. -/
theorem selected_computes {selection : Bytes} {database : Database}
    (short : selection.size * 8 < Size.limit) (covers : database.rows ≤ selection.size * 8) :
    (selected selection database).Computes database.rowLength
      (database.addSelected selection.bit) := by
  have enough : Size.ceilDiv database.rows 8 ≤ selection.size := by
    unfold Size.ceilDiv
    split <;> omega
  let bytes := selection.extract 0 (Size.ceilDiv database.rows 8)
  have positions : bytes.toList.zipIdx.map Prod.snd =
      List.range (Size.ceilDiv database.rows 8) := by
    rw [List.zipIdx_map_snd, Array.length_toList, Array.size_extract, Nat.min_eq_left enough,
      Nat.sub_zero, ← List.range_eq_range']
  have each : ∀ entry ∈ bytes.toList.zipIdx,
      Computes (if entry.1 = 0 then pure () else addSelectedOfByte database entry.1 entry.2)
        database.rowLength fun buffer =>
          buffer.mapIdx fun position value =>
            addPlaces database selection.bit position value entry.2 := by
    rintro ⟨byte, byteIndex⟩ member
    exact addSelectedUnlessZero_computes database byte fun _ small =>
      bit_eq_of_mem_zipIdx enough member small
  refine Computes.afterGet fun output fits => ?_
  refine Computes.afterCheck (require_eq_ok_iff.mpr fits) ?_
  refine Computes.afterCheck (Size.mul_eq_ok short) ?_
  refine Computes.afterCheck (require_eq_ok_iff.mpr covers) ?_
  refine Computes.afterCheck (Bytes.slice_eq_ok (Nat.zero_le _) enough) ?_
  refine (Computes.loop each).congr ?_
  intro buffer _
  have read := foldl_mapIdx bytes.toList.zipIdx
    (fun entry position value => addPlaces database selection.bit position value entry.2) buffer
  refine read.trans (mapIdx_congr ?_)
  intro position value _
  -- The position of a byte in the selection is all that its places need.
  rw [← foldl_addPlaces_eq_selectedSum, ← positions, List.foldl_map]

end Fold
end PrivateRetrieval
