import PrivateRetrieval.Proofs.Fold.Sharing
import PrivateRetrieval.Proofs.Fold.Sum

namespace PrivateRetrieval

/-!
# The selected rows, one by one

The plain sum of selected rows goes position by position.  Here the rows themselves are added up, as whole
byte strings and one after the other: row `r` takes part if bit `r % 8` of byte `r / 8` of the selection
is set.  Nothing that the selection says past the last row counts, and the fold adds the result to
whatever its output held before.

A fold run twice therefore leaves the output as it was, and a selection of a single row brings that row
into an output of zeros.
-/

theorem Selection.isSelected_eq_ok {selection : Bytes} {row : Nat}
    (covered : row < selection.size * 8) :
    isSelected selection row = .ok (selection.bit row) := by
  have inside : row / 8 < selection.size := by omega
  rw [isSelected, Bytes.bit, Array.getD_eq_getD_getElem?, Array.getElem?_eq_getElem inside]
  rfl

namespace Database

variable (database : Database)

/-- The rows that a choice picks, in ascending order. -/
def chosenRows (chosen : Nat → Bool) : List Nat :=
  (List.range database.rows).filter chosen

/-- The exclusive or of the listed rows. -/
def xorOfRows (rows : List Nat) : Bytes :=
  rows.foldl (fun sum row => Bytes.xor sum (database.rowBytes row)) (Bytes.zeros database.rowLength)

variable {database}

theorem lt_of_mem_chosenRows {chosen : Nat → Bool} {row : Nat}
    (member : row ∈ database.chosenRows chosen) : row < database.rows :=
  List.mem_range.mp (List.mem_filter.mp member).1

/-- Adding rows to a byte string of their length adds their bytes at every position. -/
theorem foldl_xor_rowBytes {rows : List Nat} (inside : ∀ row ∈ rows, row < database.rows)
    {start : Bytes} (fits : start.size = database.rowLength) :
    (rows.foldl (fun sum row => Bytes.xor sum (database.rowBytes row)) start).size =
        database.rowLength ∧
      ∀ position, position < database.rowLength →
        (rows.foldl (fun sum row => Bytes.xor sum (database.rowBytes row)) start).getD position 0 =
          rows.foldl (fun sum row => sum ^^^ database.byteAt row position)
            (start.getD position 0) := by
  induction rows generalizing start with
  | nil => exact ⟨fits, fun _ _ => rfl⟩
  | cons row rest later =>
      have below := inside row List.mem_cons_self
      have sameSize : start.size = (database.rowBytes row).size :=
        fits.trans (size_rowBytes below).symm
      have kept := (Bytes.size_xor_of_size_eq sameSize).trans fits
      rcases later (fun other member => inside other (List.mem_cons_of_mem _ member)) kept with
        ⟨size, bytes⟩
      refine ⟨size, fun position inRow => ?_⟩
      rw [List.foldl_cons, List.foldl_cons, bytes position inRow, Bytes.getD_xor sameSize,
        getD_rowBytes below inRow]

theorem size_xorOfRows {rows : List Nat} (inside : ∀ row ∈ rows, row < database.rows) :
    (database.xorOfRows rows).size = database.rowLength :=
  (foldl_xor_rowBytes inside (Bytes.size_zeros _)).1

theorem getD_xorOfRows {rows : List Nat} (inside : ∀ row ∈ rows, row < database.rows)
    {position : Nat} (inRow : position < database.rowLength) :
    (database.xorOfRows rows).getD position 0 =
      rows.foldl (fun sum row => sum ^^^ database.byteAt row position) 0 := by
  rw [xorOfRows, (foldl_xor_rowBytes inside (Bytes.size_zeros _)).2 position inRow,
    Bytes.getD_zeros]

/-- The plain sum passes over the rows that are not chosen, and what it starts from can be added last. -/
theorem selectedSum_eq_xor_foldl (chosen : Nat → Bool) (position : Nat) (start : UInt8) :
    database.selectedSum chosen position start =
      start ^^^ (database.chosenRows chosen).foldl
        (fun sum row => sum ^^^ database.byteAt row position) 0 := by
  have listed : database.selectedSum chosen position start =
      ((database.chosenRows chosen).map (database.byteAt · position)).foldl (· ^^^ ·) start := by
    rw [selectedSum, chosenRows, List.foldl_map, List.foldl_filter]
  have apart (bytes : List UInt8) :
      bytes.foldl (· ^^^ ·) (start ^^^ 0) = start ^^^ bytes.foldl (· ^^^ ·) 0 :=
    List.foldl_assoc
  rw [UInt8.xor_zero] at apart
  rw [listed, apart, List.foldl_map]

/-- To add the chosen rows at every position is to add their exclusive or. -/
theorem addSelected_eq_xor (chosen : Nat → Bool) {output : Bytes}
    (fits : output.size = database.rowLength) :
    database.addSelected chosen output =
      Bytes.xor output (database.xorOfRows (database.chosenRows chosen)) := by
  have inside : ∀ row ∈ database.chosenRows chosen, row < database.rows :=
    fun _ => lt_of_mem_chosenRows
  have sameSize := fits.trans (size_xorOfRows inside).symm
  have size : (database.addSelected chosen output).size = output.size := Array.size_mapIdx
  apply Bytes.eq_of_getD_eq
  · rw [size, Bytes.size_xor_of_size_eq sameSize]
  · intro position within
    rw [size] at within
    rw [getD_addSelected _ _ within, selectedSum_eq_xor_foldl, Bytes.getD_xor sameSize,
      getD_xorOfRows inside (fits ▸ within)]

end Database

namespace Fold

variable {selection : Bytes} {database : Database} {output : Bytes}

/-- The rows that a packed selection picks: row `r` by bit `r % 8` of byte `r / 8`. -/
def selectedRows (selection : Bytes) (database : Database) : List Nat :=
  database.chosenRows fun row => (selection.getD (row / 8) 0).toBitVec.getLsbD (row % 8)

theorem run_selected_eq_ok (short : selection.size * 8 < Size.limit)
    (covers : database.rows ≤ selection.size * 8) (fits : output.size = database.rowLength) :
    (selected selection database).run output =
      .ok () (Bytes.xor output (database.xorOfRows (selectedRows selection database))) := by
  rw [(selected_computes short covers output fits).1, Database.addSelected_eq_xor _ fits]
  rfl

/-- **The selected rows.**  With a selection of enough bytes the fold turns every output of one row into
its exclusive or with exactly the rows whose bits are set.  Only a selection so long that its bits cannot
be counted is refused, and then the output is not touched. -/
theorem run_selected_eq_xor_of_rows (enough : Size.ceilDiv database.rows 8 ≤ selection.size)
    (fits : output.size = database.rowLength) :
    (selection.size * 8 < Size.limit →
        (selected selection database).run output =
          .ok () (Bytes.xor output (database.xorOfRows (selectedRows selection database)))) ∧
      (Size.limit ≤ selection.size * 8 →
        (selected selection database).run output = .error (.fault .sizeOverflow) output) := by
  have covers : database.rows ≤ selection.size * 8 := by
    have grouped := Size.le_mul_ceilDiv database.rows
    omega
  exact ⟨fun short => run_selected_eq_ok short covers fits, selected_refuses fits⟩

/-- A selection of 25 rows with a zero byte, stray bits past the last row and a byte too many. -/
theorem run_selected_eq_xor_of_nine_rows :
    Size.ceilDiv 25 8 ≤ 5 ∧ 5 * 8 < Size.limit ∧
      (selected #[0x96, 0, 0x5a, 0xff, 0x81] twentyFiveRows).run #[9, 200] =
        .ok () (Bytes.xor #[9, 200]
          (twentyFiveRows.xorOfRows [1, 2, 4, 7, 17, 19, 20, 22, 24])) := by
  have picked : selectedRows #[0x96, 0, 0x5a, 0xff, 0x81] twentyFiveRows =
      [1, 2, 4, 7, 17, 19, 20, 22, 24] := by decide
  have folded := @run_selected_eq_xor_of_rows #[0x96, 0, 0x5a, 0xff, 0x81] twentyFiveRows #[9, 200]
    (by decide) rfl
  rw [picked] at folded
  exact ⟨by decide, by decide, folded.1 (by decide)⟩

/-! ## Two selections that come to a single row or to none -/

/-- A selection that is folded in twice leaves the output as it was. -/
theorem run_selected_twice (short : selection.size * 8 < Size.limit)
    (covers : database.rows ≤ selection.size * 8) (fits : output.size = database.rowLength) :
    ∃ folded, (selected selection database).run output = .ok () folded ∧
      (selected selection database).run folded = .ok () output := by
  have rows : (database.xorOfRows (selectedRows selection database)).size = database.rowLength :=
    Database.size_xorOfRows fun _ => Database.lt_of_mem_chosenRows
  have sameSize := fits.trans rows.symm
  have kept := (Bytes.size_xor_of_size_eq sameSize).trans fits
  refine ⟨_, run_selected_eq_ok short covers fits, ?_⟩
  rw [run_selected_eq_ok short covers kept, Bytes.xor_xor_cancel sameSize]

/-- A selection of one row brings that row into an output of zeros, whatever the bits past the last row
are. -/
theorem run_selected_single (short : selection.size * 8 < Size.limit)
    (covers : database.rows ≤ selection.size * 8) {index : Nat} (inside : index < database.rows)
    (single : ∀ row, row < database.rows → selection.bit row = decide (row = index)) :
    (selected selection database).run (Bytes.zeros database.rowLength) =
      .ok () (database.rowBytes index) := by
  have zeros := Bytes.size_zeros database.rowLength
  have size : (database.addSelected selection.bit (Bytes.zeros database.rowLength)).size =
      database.rowLength := Array.size_mapIdx.trans zeros
  rw [(selected_computes short covers _ zeros).1]
  refine congrArg (EStateM.Result.ok ()) (Bytes.eq_of_getD_eq ?_ ?_)
  · rw [size, Database.size_rowBytes inside]
  · intro position within
    rw [size] at within
    rw [Database.getD_addSelected _ _ (zeros.symm ▸ within), Bytes.getD_zeros,
      database.selectedSum_congr position single, Database.selectedSum_single, if_pos inside,
      Database.getD_rowBytes inside within]

end Fold
end PrivateRetrieval
