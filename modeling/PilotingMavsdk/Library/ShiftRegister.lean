import Mathlib.Data.List.Basic
import Mathlib.Logic.Function.Iterate

/-! Cyclic redundancy checks as shift registers that take one bit at a time, the least significant
bit first. Shifting is linear and loses nothing, so short bursts of wrong bits are noticed. -/

namespace PilotingMavsdk.Library

/-- The polynomial is added whenever a one is shifted out. Its own last term is not zero. -/
structure ShiftRegister (width : Nat) where
  polynomial : BitVec width
  proper : polynomial.msb = true

namespace ShiftRegister
variable {width : Nat} (register : ShiftRegister width)

def shift (state : BitVec width) : BitVec width :=
  if state.getLsbD 0 then state >>> 1 ^^^ register.polynomial else state >>> 1

def takeBit (state : BitVec width) (bit : Bool) : BitVec width :=
  register.shift (state ^^^ if bit then BitVec.ofNat width 1 else BitVec.ofNat width 0)

def takeBits (state : BitVec width) (bits : List Bool) : BitVec width :=
  bits.foldl register.takeBit state

theorem takeBits_append (state : BitVec width) (bits more : List Bool) :
    register.takeBits state (bits ++ more) = register.takeBits (register.takeBits state bits) more :=
  List.foldl_append

theorem xor_xor_cancel (first second mask : BitVec width) :
    (first ^^^ mask) ^^^ (second ^^^ mask) = first ^^^ second := by
  rw [BitVec.xor_assoc, ← BitVec.xor_assoc mask, BitVec.xor_comm mask, BitVec.xor_assoc second,
    BitVec.xor_self, BitVec.xor_zero]

theorem shift_xor (first second : BitVec width) :
    register.shift (first ^^^ second) = register.shift first ^^^ register.shift second := by
  simp only [shift, BitVec.getLsbD_xor, BitVec.ushiftRight_xor_distrib]
  cases first.getLsbD 0 <;> cases second.getLsbD 0
  · rfl
  · simp [BitVec.xor_assoc]
  · simp only [Bool.xor_false, if_true, Bool.false_eq_true, if_false]
    rw [BitVec.xor_assoc, BitVec.xor_assoc, BitVec.xor_comm (second >>> 1)]
  · simp only [Bool.xor_true, Bool.not_true, Bool.false_eq_true, if_false, if_true]
    exact (xor_xor_cancel _ _ _).symm

theorem positive (register : ShiftRegister width) : 0 < width := by
  rcases Nat.eq_zero_or_pos width with none | some
  · subst none
    have empty : register.polynomial = 0#0 := BitVec.eq_nil _
    have proper := register.proper
    rw [empty] at proper
    cases proper
  · exact some

theorem eq_zero_of_shift {state : BitVec width} (zero : register.shift state = BitVec.ofNat width 0) :
    state = BitVec.ofNat width 0 := by
  have positive := register.positive
  rw [shift] at zero
  split at zero
  · have same : state >>> 1 = register.polynomial := by
      rw [← BitVec.xor_zero (x := state >>> 1), ← BitVec.xor_self (x := register.polynomial),
        ← BitVec.xor_assoc, zero, BitVec.zero_xor]
    have proper := register.proper
    rw [← same, BitVec.msb_ushiftRight] at proper
    simp at proper
  next even =>
    apply BitVec.eq_of_getLsbD_eq
    intro place inside
    cases place with
    | zero => simpa using even
    | succ place =>
      have bit := congrArg (BitVec.getLsbD · place) zero
      simpa [BitVec.getLsbD_ushiftRight, Nat.add_comm] using bit

theorem shift_injective : Function.Injective register.shift := by
  intro first second same
  have zero : register.shift (first ^^^ second) = BitVec.ofNat width 0 := by
    rw [shift_xor, same, BitVec.xor_self]
  have equal := register.eq_zero_of_shift zero
  rw [← BitVec.xor_zero (x := first), ← BitVec.xor_self (x := second), ← BitVec.xor_assoc, equal,
    BitVec.zero_xor]

def word (bits : List Bool) : BitVec width :=
  (BitVec.ofBoolListLE bits).setWidth width

theorem getLsbD_word (bits : List Bool) (place : Nat) :
    (word bits : BitVec width).getLsbD place = (decide (place < width) && bits.getD place false) := by
  rw [word, BitVec.getLsbD_setWidth, BitVec.getLsbD_ofBoolListLE]

theorem word_injective {first second : List Bool} (length : first.length = second.length)
    (short : first.length ≤ width)
    (same : (word first : BitVec width) = word second) : first = second := by
  apply List.ext_getElem length
  intro place here there
  have inside : place < width := Nat.lt_of_lt_of_le here short
  have bit := congrArg (BitVec.getLsbD · place) same
  simp only [getLsbD_word, inside, decide_true, Bool.true_and] at bit
  rwa [List.getD_eq_getElem?_getD, List.getD_eq_getElem?_getD, List.getElem?_eq_getElem here,
    List.getElem?_eq_getElem there] at bit

theorem word_cons (bit : Bool) (bits : List Bool) :
    (word (bit :: bits) : BitVec width) =
      (if bit then BitVec.ofNat width 1 else BitVec.ofNat width 0) ^^^ (word bits <<< 1) := by
  apply BitVec.eq_of_getLsbD_eq
  intro place inside
  rw [BitVec.getLsbD_xor, BitVec.getLsbD_shiftLeft, getLsbD_word, getLsbD_word]
  cases place with
  | zero => cases bit <;> simp [inside]
  | succ place =>
    have before : place < width := by omega
    cases bit <;> simp [inside, before]

theorem shift_word {bits : List Bool} (short : bits.length < width) :
    register.shift (word bits <<< 1) = word bits := by
  have even : (word bits <<< 1 : BitVec width).getLsbD 0 = false := by simp
  rw [shift, even]
  apply BitVec.eq_of_getLsbD_eq
  intro place inside
  simp only [Bool.false_eq_true, if_false, BitVec.getLsbD_ushiftRight, BitVec.getLsbD_shiftLeft,
    Nat.add_sub_cancel_left, getLsbD_word]
  by_cases last : 1 + place < width
  · simp [last]
  · have beyond : bits.length ≤ place := by omega
    simp [last, beyond]

theorem takeBits_eq {bits : List Bool} (short : bits.length ≤ width) (state : BitVec width) :
    register.takeBits state bits = register.shift^[bits.length] (state ^^^ word bits) := by
  induction bits generalizing state with
  | nil =>
    have empty : (word [] : BitVec width) = BitVec.ofNat width 0 := by
      apply BitVec.eq_of_getLsbD_eq
      intro place _
      simp [getLsbD_word]
    rw [empty, BitVec.xor_zero]
    rfl
  | cons bit bits ih =>
    rw [List.length_cons] at short
    have room : bits.length < width := by omega
    have first : register.takeBits state (bit :: bits) =
        register.takeBits (register.takeBit state bit) bits := rfl
    rw [first, ih (Nat.le_of_lt room), List.length_cons, Function.iterate_succ_apply, word_cons,
      ← BitVec.xor_assoc, shift_xor, register.shift_word room, takeBit]

theorem takeBits_injective (bits : List Bool) :
    Function.Injective (register.takeBits · bits) := by
  induction bits with
  | nil => exact fun _ _ same => same
  | cons bit bits ih =>
    intro first second same
    have shifted := register.shift_injective (ih same)
    rw [← BitVec.xor_zero (x := first), ← BitVec.xor_zero (x := second),
      ← BitVec.xor_self (x := if bit then BitVec.ofNat width 1 else BitVec.ofNat width 0), ← BitVec.xor_assoc,
      ← BitVec.xor_assoc, shifted]

/-- Wrong bits that lie no farther apart than the register is wide change the result. -/
theorem takeBits_ne_of_burst (state : BitVec width) (front back : List Bool)
    {first second : List Bool} (length : first.length = second.length)
    (short : first.length ≤ width) (differ : first ≠ second) :
    register.takeBits state (front ++ first ++ back) ≠
      register.takeBits state (front ++ second ++ back) := by
  intro same
  simp only [takeBits_append] at same
  have middle := register.takeBits_injective back same
  have other : second.length ≤ width := by omega
  rw [register.takeBits_eq short, register.takeBits_eq other, ← length] at middle
  have words := register.shift_injective.iterate _ middle
  refine differ (word_injective length short ?_)
  rw [← BitVec.zero_xor (x := word first),
    ← BitVec.xor_self (x := register.takeBits state front), BitVec.xor_assoc, words,
    ← BitVec.xor_assoc, BitVec.xor_self, BitVec.zero_xor]

def odd (bits : List Bool) : Bool := bits.foldr xor false

theorem odd_append_false (bits : List Bool) : odd (bits ++ [false]) = odd bits := by
  simp [odd]

theorem odd_zipWith {first second : List Bool} (length : first.length = second.length) :
    odd (List.zipWith xor first second) = xor (odd first) (odd second) := by
  induction first generalizing second with
  | nil =>
    cases second with
    | nil => rfl
    | cons => cases length
  | cons bit first ih =>
    cases second with
    | nil => cases length
    | cons other second =>
      have rest : odd (List.zipWith xor first second) = xor (odd first) (odd second) :=
        ih (Nat.succ.inj length)
      show xor (xor bit other) (odd (List.zipWith xor first second)) =
        xor (xor bit (odd first)) (xor other (odd second))
      rw [rest]
      cases bit <;> cases other <;> cases odd first <;> cases odd second <;> rfl

def parity (state : BitVec width) : Bool := odd ((List.range width).map state.getLsbD)

theorem parity_xor (first second : BitVec width) :
    parity (first ^^^ second) = xor (parity first) (parity second) := by
  have bits : (List.range width).map (first ^^^ second).getLsbD =
      List.zipWith xor ((List.range width).map first.getLsbD)
        ((List.range width).map second.getLsbD) := by
    rw [List.zipWith_map, List.zipWith_self]
    apply List.map_congr_left
    intro place _
    exact BitVec.getLsbD_xor
  rw [parity, bits, odd_zipWith (by simp)]
  rfl

theorem parity_ushiftRight (positive : 0 < width) (state : BitVec width) :
    parity (state >>> 1) = xor (state.getLsbD 0) (parity state) := by
  obtain ⟨rest, rfl⟩ := Nat.exists_eq_succ_of_ne_zero (Nat.ne_of_gt positive)
  have shifted : (List.range (rest + 1)).map (state >>> 1).getLsbD =
      (List.range rest).map (fun place => state.getLsbD (place + 1)) ++ [false] := by
    rw [List.range_succ, List.map_append]
    congr 1
    · apply List.map_congr_left
      intro place _
      rw [BitVec.getLsbD_ushiftRight, Nat.add_comm]
    · simp [Nat.add_comm 1 rest]
  have whole : (List.range (rest + 1)).map state.getLsbD =
      state.getLsbD 0 :: (List.range rest).map (fun place => state.getLsbD (place + 1)) := by
    rw [List.range_succ_eq_map, List.map_cons, List.map_map]
    rfl
  rw [parity, parity, shifted, odd_append_false, whole]
  generalize (List.range rest).map (fun place => state.getLsbD (place + 1)) = bits
  show odd bits = xor (state.getLsbD 0) (xor (state.getLsbD 0) (odd bits))
  cases state.getLsbD 0 <;> cases odd bits <;> rfl

theorem parity_shift (balanced : parity register.polynomial = true) (state : BitVec width) :
    parity (register.shift state) = parity state := by
  have moved := parity_ushiftRight register.positive state
  rw [shift]
  split
  next one =>
    rw [parity_xor, moved, balanced, one]
    cases parity state <;> rfl
  next zero =>
    rw [Bool.not_eq_true] at zero
    rw [moved, zero, Bool.false_xor]

theorem parity_single (positive : 0 < width) (bit : Bool) :
    parity (if bit then BitVec.ofNat width 1 else BitVec.ofNat width 0) = bit := by
  obtain ⟨rest, rfl⟩ := Nat.exists_eq_succ_of_ne_zero (Nat.ne_of_gt positive)
  have zeros (bit : BitVec (rest + 1)) (low : ∀ place, bit.getLsbD (place + 1) = false) :
      parity bit = bit.getLsbD 0 := by
    have later : (List.range rest).map (bit.getLsbD ∘ Nat.succ) = List.replicate rest false := by
      apply List.eq_replicate_iff.mpr
      refine ⟨by simp, ?_⟩
      intro value member
      obtain ⟨place, _, same⟩ := List.mem_map.mp member
      exact same.symm.trans (low place)
    have none (count : Nat) : odd (List.replicate count false) = false := by
      induction count with
      | zero => rfl
      | succ count ih => exact (Bool.false_xor _).trans ih
    rw [parity, List.range_succ_eq_map, List.map_cons, List.map_map, later]
    show xor (bit.getLsbD 0) (odd (List.replicate rest false)) = bit.getLsbD 0
    rw [none, Bool.xor_false]
  cases bit with
  | false => exact (zeros 0#(rest + 1) fun _ => BitVec.getLsbD_zero).trans BitVec.getLsbD_zero
  | true =>
    refine (zeros 1#(rest + 1) ?_).trans ?_
    · intro place
      simp
    · simp

theorem parity_takeBits (balanced : parity register.polynomial = true) (state : BitVec width)
    (bits : List Bool) :
    parity (register.takeBits state bits) = xor (parity state) (odd bits) := by
  induction bits generalizing state with
  | nil => exact (Bool.xor_false _).symm
  | cons bit bits ih =>
    have one : register.takeBits state (bit :: bits) =
        register.takeBits (register.takeBit state bit) bits := rfl
    have both : odd (bit :: bits) = xor bit (odd bits) := rfl
    rw [one, ih, takeBit, register.parity_shift balanced, parity_xor,
      parity_single register.positive, both, Bool.xor_assoc]

/-- So does any odd number of wrong bits, if the polynomial has an odd number of terms. -/
theorem takeBits_ne_of_odd (balanced : parity register.polynomial = true) (state : BitVec width)
    {first second : List Bool} (length : first.length = second.length)
    (wrong : odd (List.zipWith xor first second) = true) :
    register.takeBits state first ≠ register.takeBits state second := by
  intro same
  have equal := congrArg parity same
  rw [register.parity_takeBits balanced, register.parity_takeBits balanced] at equal
  rw [odd_zipWith length] at wrong
  revert equal wrong
  cases parity state <;> cases odd first <;> cases odd second <;> decide

end ShiftRegister
end PilotingMavsdk.Library
