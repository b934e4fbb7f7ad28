import PilotingMavsdk.Library.ShiftRegister
import PilotingMavsdk.MavlinkChecksum

/-! What the formula of `crc_accumulate` computes: eight steps of a shift register. So a checksum
notices whatever such a register does. -/

namespace PilotingMavsdk
open Library

/-- `x ^ 16 + x ^ 12 + x ^ 5 + 1`, without its leading term and with the constant one at the
left. -/
def x25 : ShiftRegister 16 where
  polynomial := 0x8408#16
  proper := rfl

/-- The bits of a byte in the order in which a serial line sends them. -/
def byteBits (byte : UInt8) : List Bool := (List.range 8).map byte.toBitVec.getLsbD

def bits (bytes : Bytes) : List Bool := bytes.flatMap byteBits

@[simp] private theorem length_bits (bytes : Bytes) : (bits bytes).length = 8 * bytes.length := by
  induction bytes with
  | nil => rfl
  | cons byte bytes ih =>
    have one : (bits (byte :: bytes)).length = (byteBits byte).length + (bits bytes).length := by
      rw [bits, List.flatMap_cons, List.length_append]
      rfl
    rw [one, ih, List.length_cons, byteBits, List.length_map, List.length_range]
    omega

private theorem word_byteBits (byte : UInt8) :
    (ShiftRegister.word (byteBits byte) : BitVec 16) = byte.toBitVec.setWidth 16 := by
  apply BitVec.eq_of_getLsbD_eq
  intro place inside
  rw [ShiftRegister.getLsbD_word, BitVec.getLsbD_setWidth, byteBits]
  congr 1
  by_cases low : place < 8
  · simp [low]
  · rw [BitVec.getLsbD_of_ge _ _ (Nat.not_lt.mp low)]
    simp [low]

/-- The formula of the source, for the byte that has been added to the lower half. -/
def folded (byte : BitVec 8) : BitVec 16 :=
  let tmp := byte ^^^ (byte <<< 4)
  (tmp.setWidth 16 <<< 8) ^^^ (tmp.setWidth 16 <<< 3) ^^^ (tmp.setWidth 16 >>> 4)

private theorem shift_low (byte : BitVec 8) : x25.shift^[8] (byte.setWidth 16) = folded byte := by
  revert byte
  decide +kernel

private theorem shift_high {state : BitVec 16} {steps : Nat}
    (even : ∀ place < steps, state.getLsbD place = false) :
    x25.shift^[steps] state = state >>> steps := by
  induction steps with
  | zero => simp
  | succ steps ih =>
    have before := ih fun place inside => even place (Nat.lt_succ_of_lt inside)
    have zero : (state >>> steps).getLsbD 0 = false := by
      rw [BitVec.getLsbD_ushiftRight]
      exact even steps (Nat.lt_succ_self steps)
    rw [Function.iterate_succ_apply', before, ShiftRegister.shift, zero, BitVec.shiftRight_add]
    rfl

private theorem iterate_shift_xor (steps : Nat) (first second : BitVec 16) :
    x25.shift^[steps] (first ^^^ second) = x25.shift^[steps] first ^^^ x25.shift^[steps] second := by
  induction steps generalizing first second with
  | zero => rfl
  | succ steps ih => simp only [Function.iterate_succ_apply, x25.shift_xor, ih]

/-- The lower half goes through the polynomial, the upper half takes its place. -/
private theorem shift_eight (state : BitVec 16) :
    x25.shift^[8] state = folded (state.setWidth 8) ^^^ state >>> 8 := by
  let low := (state.setWidth 8).setWidth 16
  let high := (state >>> 8) <<< 8
  have parts : state = low ^^^ high := by
    apply BitVec.eq_of_getLsbD_eq
    intro place inside
    by_cases small : place < 8
    · simp [low, high, small, inside]
    · have back : 8 + (place - 8) = place := by omega
      simp [low, high, small, inside, back]
  have even : ∀ place < 8, high.getLsbD place = false := by
    intro place small
    simp [high, small]
  have moved : high >>> 8 = state >>> 8 := by
    apply BitVec.eq_of_getLsbD_eq
    intro place inside
    by_cases small : 8 + place < 16
    · simp [high, small]
    · have beyond : 16 ≤ 8 + place := by omega
      simp [high, beyond]
  calc x25.shift^[8] state = x25.shift^[8] low ^^^ x25.shift^[8] high := by
        rw [← iterate_shift_xor, ← parts]
    _ = folded (state.setWidth 8) ^^^ state >>> 8 := by
        rw [shift_low, shift_high even, moved]

theorem toBitVec_crcAccumulate (data : UInt8) (crc : UInt16) :
    (crcAccumulate data crc).toBitVec = x25.takeBits crc.toBitVec (byteBits data) := by
  have eight : (byteBits data).length = 8 := by simp [byteBits]
  have ones : (0xff#16).setWidth 8 = BitVec.allOnes 8 := rfl
  have low : (crc.toBitVec ^^^ data.toBitVec.setWidth 16).setWidth 8 =
      data.toBitVec ^^^ (crc.toBitVec &&& 0xff#16).setWidth 8 := by
    rw [BitVec.setWidth_xor, BitVec.setWidth_and, ones, BitVec.and_allOnes, BitVec.xor_comm,
      BitVec.setWidth_setWidth_of_le _ (by omega), BitVec.setWidth_eq]
  have high : (crc.toBitVec ^^^ data.toBitVec.setWidth 16) >>> 8 = crc.toBitVec >>> 8 := by
    apply BitVec.eq_of_getLsbD_eq
    intro place inside
    simp
  have source : (crcAccumulate data crc).toBitVec =
      folded (data.toBitVec ^^^ (crc.toBitVec &&& 0xff#16).setWidth 8) ^^^
        crc.toBitVec >>> 8 := by
    have formula (upper first second third : BitVec 16) :
        upper ^^^ first ^^^ second ^^^ third = (first ^^^ second ^^^ third) ^^^ upper := by
      rw [BitVec.xor_comm (first ^^^ second ^^^ third), ← BitVec.xor_assoc, ← BitVec.xor_assoc]
    exact formula _ _ _ _
  rw [x25.takeBits_eq (by omega), eight, word_byteBits, shift_eight, source, low, high]

private theorem toBitVec_crcAccumulateBuffer (crc : UInt16) (buffer : Bytes) :
    (crcAccumulateBuffer crc buffer).toBitVec = x25.takeBits crc.toBitVec (bits buffer) := by
  induction buffer generalizing crc with
  | nil => rfl
  | cons data buffer ih =>
    have first : crcAccumulateBuffer crc (data :: buffer) =
        crcAccumulateBuffer (crcAccumulate data crc) buffer := rfl
    have serial : bits (data :: buffer) = byteBits data ++ bits buffer := List.flatMap_cons
    rw [first, ih, toBitVec_crcAccumulate, serial, x25.takeBits_append]

/-- The bytewise formula computes what a register of sixteen bits does with the single bits. -/
theorem toBitVec_crcCalculate (buffer : Bytes) :
    (crcCalculate buffer).toBitVec = x25.takeBits (BitVec.allOnes 16) (bits buffer) :=
  toBitVec_crcAccumulateBuffer x25InitCrc buffer

theorem crcAccumulateBuffer_append (crc : UInt16) (buffer more : Bytes) :
    crcAccumulateBuffer crc (buffer ++ more) =
      crcAccumulateBuffer (crcAccumulateBuffer crc buffer) more :=
  List.foldl_append

/-- The buffers differ, and all wrong bits lie within a stretch of sixteen. -/
def Burst (sent arrived : Bytes) : Prop :=
  ∃ front right wrong back, bits sent = front ++ right ++ back ∧
    bits arrived = front ++ wrong ++ back ∧
    right.length = wrong.length ∧ right.length ≤ 16 ∧ right ≠ wrong

def OddlyWrong (sent arrived : Bytes) : Prop :=
  sent.length = arrived.length ∧
    ShiftRegister.odd (List.zipWith xor (bits sent) (bits arrived)) = true

theorem crcAccumulateBuffer_ne_of_burst (crc : UInt16) {sent arrived : Bytes}
    (burst : Burst sent arrived) :
    crcAccumulateBuffer crc sent ≠ crcAccumulateBuffer crc arrived := by
  obtain ⟨front, right, wrong, back, before, after, length, short, differ⟩ := burst
  intro same
  have registers := congrArg UInt16.toBitVec same
  rw [toBitVec_crcAccumulateBuffer, toBitVec_crcAccumulateBuffer, before, after] at registers
  exact x25.takeBits_ne_of_burst _ front back length short differ registers

theorem crcAccumulateBuffer_ne_of_odd (crc : UInt16) {sent arrived : Bytes}
    (odd : OddlyWrong sent arrived) :
    crcAccumulateBuffer crc sent ≠ crcAccumulateBuffer crc arrived := by
  intro same
  have registers := congrArg UInt16.toBitVec same
  rw [toBitVec_crcAccumulateBuffer, toBitVec_crcAccumulateBuffer] at registers
  have length : (bits sent).length = (bits arrived).length := by
    rw [length_bits, length_bits, odd.1]
  exact x25.takeBits_ne_of_odd (by decide) _ length odd.2 registers

end PilotingMavsdk
