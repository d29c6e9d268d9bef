import QuotaFabric.Persistence.Corruption

/-!
# The checksum bit by bit

`crc32` takes a byte in with one look into a table of 256 words.  The checksum it stands for takes in one
bit at a time: the low bit of the register is compared with the next bit of the message, the register
moves down one place, and where the two differ the reflected polynomial is added.

* `crcSerialBit`, `crc32Serial` — the checksum bit by bit, the lowest bit of each byte first;
* `stepBit_crcBit` — a bit of the message is added to the low end before the shift of the table;
* `crc32_eq_serial` — both compute the same word from every byte string.
-/

set_option autoImplicit false

namespace QuotaFabric

/-! ## The specification -/

/-- One bit of the message into the reflected register. -/
def crcSerialBit (c : BitVec 32) (bit : Bool) : BitVec 32 :=
  if c.getLsbD 0 ≠ bit then (c >>> 1) ^^^ 0xEDB88320 else c >>> 1

/-- The bits of a byte in the order they are taken in. -/
def messageBits (b : UInt8) : List Bool := (List.finRange 8).map fun i => b.toBitVec.getLsbD i

/-- Bit-serial CRC-32: initial value and final addition of all ones. -/
def crc32Serial (bs : Bytes) : BitVec 32 :=
  (bs.flatMap messageBits).foldl crcSerialBit 0xFFFFFFFF ^^^ 0xFFFFFFFF

/-! ## The table -/

/-- A bit of the message is compared with the low bit of the register by adding it there. -/
theorem stepBit_crcBit (c : BitVec 32) (bit : Bool) : Register.stepBit crcBit c bit = crcSerialBit c bit := by
  have hlow : (c ^^^ Register.lowBit bit).getLsbD 0 = (c.getLsbD 0 ^^ bit) := by
    unfold Register.lowBit
    rw [BitVec.getLsbD_xor]
    cases bit <;> simp
  have hrest : (c ^^^ Register.lowBit bit) >>> 1 = c >>> 1 := by
    have hout : Register.lowBit bit >>> 1 = 0#32 := by cases bit <;> decide
    rw [BitVec.ushiftRight_xor_distrib, hout, BitVec.xor_zero]
  have hdiffer : (c ^^^ Register.lowBit bit) &&& 1 = 1 ↔ c.getLsbD 0 ≠ bit := by
    rw [low_bit, hlow]
    cases c.getLsbD 0 <;> cases bit <;> decide
  unfold Register.stepBit crcBit crcSerialBit
  rw [hrest, BitVec.xor_comm (c >>> 1)]
  exact if_congr hdiffer rfl rfl

/-- **The table computes the bit-serial checksum** of every byte string. -/
theorem crc32_eq_serial (bs : Bytes) : crc32 bs = crc32Serial bs := by
  have hstep : Register.stepBit crcBit = crcSerialBit := funext fun c => funext (stepBit_crcBit c)
  have hbits : (bs.map UInt8.toBitVec).flatMap Register.bitsOf = bs.flatMap messageBits := by
    rw [List.flatMap_map]
    rfl
  have hrun := crcBit_linear.run_tableOf (bs.map UInt8.toBitVec) 0xFFFFFFFF
  rw [hbits, hstep] at hrun
  unfold crc32 crc32Serial
  exact congrArg (· ^^^ 0xFFFFFFFF) hrun

/-- The check value of the polynomial. -/
example : crc32Serial (text "123456789") = 0xCBF43926 := by decide +kernel

end QuotaFabric
