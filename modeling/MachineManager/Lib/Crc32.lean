import Mathlib.Tactic.Common

/-!
# CRC-32

The reflected CRC-32 with polynomial `0xEDB88320`, as a fold of `update` over the bytes. Every step
is injective in the running state, so that two byte strings which leave different states before a
common tail have different checksums.
-/

namespace Crc32

/-- The reflected generator polynomial. -/
def polynomial : BitVec 32 := 0xEDB88320

def shift (c : BitVec 32) : BitVec 32 :=
  c >>> 1 ^^^ if c.getLsbD 0 then polynomial else 0

def update (c : BitVec 32) (b : UInt8) : BitVec 32 :=
  shift (shift (shift (shift (shift (shift (shift (shift (c ^^^ b.toBitVec.setWidth 32))))))))

def state (bytes : List UInt8) : BitVec 32 :=
  bytes.foldl update 0xFFFFFFFF

def crc32 (bytes : List UInt8) : UInt32 :=
  UInt32.ofBitVec (~~~state bytes)

/-- The polynomial has its top bit set and a right shift clears it, so the top bit after a shift is
the bit that was shifted out. -/
theorem getLsbD_shift (c : BitVec 32) :
  (shift c).getLsbD 31 = c.getLsbD 0
  := by
  have top : (c >>> 1).getLsbD 31 = false := by simp
  have bit : polynomial.getLsbD 31 = true := by decide
  rw [shift, BitVec.getLsbD_xor, top, Bool.false_xor]
  cases c.getLsbD 0
  · rfl
  · exact bit

theorem shift_injective :
  Function.Injective shift
  := by
  intro c d h
  have low : c.getLsbD 0 = d.getLsbD 0 := by rw [← getLsbD_shift, ← getLsbD_shift, h]
  have high : c >>> 1 = d >>> 1 := by
    unfold shift at h
    rw [low] at h
    exact BitVec.xor_left_inj _ |>.mp h
  apply BitVec.eq_of_getLsbD_eq
  intro i hi
  cases i with
  | zero => exact low
  | succ i =>
    have bit := congrArg (fun x => x.getLsbD i) high
    simpa [BitVec.getLsbD_ushiftRight, Nat.add_comm] using bit

theorem update_injective (b : UInt8) :
  Function.Injective fun c => update c b
  := by
  intro c d h
  have same := shift_injective (shift_injective (shift_injective (shift_injective
    (shift_injective (shift_injective (shift_injective (shift_injective h)))))))
  exact BitVec.xor_left_inj _ |>.mp same

theorem foldl_update_injective (bytes : List UInt8) :
  Function.Injective fun c => bytes.foldl update c
  := by
  induction bytes with
  | nil => exact Function.injective_id
  | cons b _ ih => exact ih.comp (update_injective b)

/-- Different states before a common tail give different checksums. -/
theorem crc32_append_ne {p q : List UInt8} (tail : List UInt8) (h : state p ≠ state q) :
  crc32 (p ++ tail) ≠ crc32 (q ++ tail)
  := by
  intro same
  apply h
  have states : state (p ++ tail) = state (q ++ tail) := by
    have := congrArg UInt32.toBitVec same
    simpa [crc32] using this
  simp only [state, List.foldl_append] at states
  exact foldl_update_injective tail states

/-- The checksum of the nine digits, the usual check value. -/
example : crc32 [0x31, 0x32, 0x33, 0x34, 0x35, 0x36, 0x37, 0x38, 0x39] = 0xCBF43926 := by
  decide +kernel

end Crc32
