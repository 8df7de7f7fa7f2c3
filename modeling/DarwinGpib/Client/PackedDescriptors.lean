import DarwinGpib.Client.Lookup
import DarwinGpib.Library.PackedWord

/-!
# Packed descriptors

The descriptor of a device holds the index of its board and the handle of the driver, as fields of
one word, and a bit that tells it from a board.
-/

namespace DarwinGpib

open PackedWord

namespace Libgpib

def boardBits : Field := ⟨24, 7⟩
def deviceBits : Field := ⟨23, 1⟩
def handleBits : Field := ⟨0, 23⟩

theorem toBitVec_makeUd (boardIndex handle : Int32) :
    (makeUd boardIndex handle).toBitVec =
      boardBits.put boardIndex.toBitVec ||| deviceBits.put 1 |||
        handleBits.put handle.toBitVec := by
  have hboard : boardBits.mask 32 = 0x7f#32 := by decide
  have hdevice : deviceBits.put (1 : BitVec 32) = 0x800000#32 := by decide
  have hhandle : handleBits.mask 32 = 0x7fffff#32 := by decide
  rw [hdevice, Field.put.eq_1 boardBits, Field.put.eq_1 handleBits, hboard, hhandle]
  simp [makeUd, deviceTag, handleMask, boardBits, handleBits]

theorem toBitVec_and_handleMask (ud : Int32) :
    (ud &&& handleMask).toBitVec = handleBits.get ud.toBitVec := by
  have hmask : handleBits.mask 32 = 0x7fffff#32 := by decide
  rw [Field.get, hmask]
  simp [handleMask, handleBits]

/-- The sign is not among the bits of the board. -/
theorem toBitVec_board (ud : Int32) :
    ((ud >>> 24) &&& 0x7f).toBitVec = boardBits.get ud.toBitVec := by
  have hmask : Int32.toBitVec 0x7f = boardBits.mask 32 := by decide
  have hshift : (Int32.toBitVec 24).smod 32 = 24#32 := by decide
  apply BitVec.eq_of_getLsbD_eq
  intro i _
  rw [Int32.toBitVec_and, Int32.toBitVec_shiftRight, hmask, hshift, BitVec.getLsbD_and,
    BitVec.getLsbD_sshiftRight', Field.getLsbD_get, Field.getLsbD_mask]
  by_cases hi : i < boardBits.width
  · have hlt : i < 7 := hi
    have hle : ¬ 32 ≤ i := by omega
    have hin : (24#32).toNat + i < 32 := by
      rw [BitVec.toNat_ofNat]
      omega
    have hi' : i < 32 := by omega
    rw [decide_eq_false hle, if_pos hin, decide_eq_true hi']
    rfl
  · rw [decide_eq_false hi, Bool.and_false, Bool.and_false, Bool.and_false]

section Ranges

variable {boardIndex handle : Int32}

/-- A number that is not negative is read off its bits. -/
theorem toNat_toBitVec {x : Int32} (h : 0 ≤ x) : (x.toBitVec.toNat : Int) = x.toInt := by
  have hle : 0 ≤ x.toInt := Int32.le_iff_toInt_le.mp h
  have hcond := BitVec.toInt_eq_toNat_cond x.toBitVec
  have hlt := x.toBitVec.isLt
  rw [Int32.toInt_toBitVec] at hcond
  split at hcond <;> omega

theorem board_and_mask (hpos : 0 ≤ boardIndex) (hle : boardIndex ≤ 127) :
    boardIndex.toBitVec &&& boardBits.mask 32 = boardIndex.toBitVec := by
  have hnat := toNat_toBitVec hpos
  have hle' := Int32.le_iff_toInt_le.mp hle
  have hmax : Int32.toInt 127 = 127 := by decide
  apply Field.and_mask
  change _ < 128
  omega

theorem handle_and_mask (hpos : 0 ≤ handle) (hle : handle ≤ 0x7fffff) :
    handle.toBitVec &&& handleBits.mask 32 = handle.toBitVec := by
  have hnat := toNat_toBitVec hpos
  have hle' := Int32.le_iff_toInt_le.mp hle
  have hmax : Int32.toInt 0x7fffff = 0x7fffff := by decide
  apply Field.and_mask
  change _ < 0x800000
  omega

/-- The device bit keeps a descriptor clear of the boards. -/
theorem isBoardUd_makeUd (boardIndex handle : Int32) :
    isBoardUd (makeUd boardIndex handle) = false := by
  have hdevice : deviceBits.get (makeUd boardIndex handle).toBitVec = 1 := by
    rw [toBitVec_makeUd, Field.get_or, Field.get_or, Field.get_put (by decide),
      Field.get_put_of_apart (by decide), Field.get_put_of_apart (by decide)]
    decide
  have hbit : (makeUd boardIndex handle).toBitVec.getLsbD 23 = true := by
    have hget := Field.getLsbD_get (f := deviceBits) (x := (makeUd boardIndex handle).toBitVec) 0
    rw [hdevice] at hget
    exact (Bool.and_eq_true_iff.mp hget.symm).1
  have hge : 2 ^ 23 ≤ (makeUd boardIndex handle).toBitVec.toNat := Nat.ge_two_pow_of_testBit hbit
  have hpos := Int32.not_lt.mp (makeUd_not_neg boardIndex handle)
  have hnat := toNat_toBitVec hpos
  have hout : ¬ makeUd boardIndex handle < maxBoards := by
    rw [Int32.lt_iff_toInt_lt]
    have hmax : maxBoards.toInt = 16 := by decide
    omega
  simp [isBoardUd, inRange, hout]

theorem boardOf_makeUd (hpos : 0 ≤ boardIndex) (hle : boardIndex ≤ 127) (handle : Int32) :
    boardOf (makeUd boardIndex handle) = boardIndex := by
  rw [boardOf, isBoardUd_makeUd, if_neg (by decide)]
  apply Int32.toBitVec_inj.mp
  rw [toBitVec_board, toBitVec_makeUd, Field.get_or, Field.get_or, Field.get_put (by decide),
    Field.get_put_of_apart (by decide), Field.get_put_of_apart (by decide),
    board_and_mask hpos hle]
  simp

theorem makeUd_and_mask (hpos : 0 ≤ handle) (hle : handle ≤ 0x7fffff) (boardIndex : Int32) :
    makeUd boardIndex handle &&& handleMask = handle := by
  apply Int32.toBitVec_inj.mp
  rw [toBitVec_and_handleMask, toBitVec_makeUd, Field.get_or, Field.get_or,
    Field.get_put (by decide), Field.get_put_of_apart (by decide),
    Field.get_put_of_apart (by decide), handle_and_mask hpos hle]
  simp

end Ranges

/-! ## Handles of the driver -/

section DriverHandles

variable {handle : Int} (h : handle ∈ DescriptorTable.handles)

include h

/-- A handle that the driver reports fits the library's type. -/
theorem toInt_ofInt_handle : (Int32.ofInt handle).toInt = handle := by
  obtain ⟨hpos, hlt⟩ := DescriptorTable.mem_handles_iff.mp h
  have hmax : DarwinGpib.kMaxDescriptors = 64 := rfl
  exact Int32.toInt_ofInt_of_le (by omega) (by omega)

theorem ofInt_handle_range : 0 ≤ Int32.ofInt handle ∧ Int32.ofInt handle ≤ 0x7fffff := by
  obtain ⟨hpos, hlt⟩ := DescriptorTable.mem_handles_iff.mp h
  have hmax : DarwinGpib.kMaxDescriptors = 64 := rfl
  have hlimit : Int32.toInt 0x7fffff = 0x7fffff := by decide
  rw [Int32.le_iff_toInt_le, Int32.le_iff_toInt_le, toInt_ofInt_handle h, hlimit]
  exact ⟨show (0 : Int) ≤ handle by omega, by omega⟩

/-- It survives in a device descriptor. -/
theorem makeUd_ofInt_handle (boardIndex : Int32) :
    makeUd boardIndex (Int32.ofInt handle) &&& handleMask = Int32.ofInt handle := by
  obtain ⟨hpos, hle⟩ := ofInt_handle_range h
  exact makeUd_and_mask hpos hle boardIndex

end DriverHandles

end Libgpib

end DarwinGpib
