import Mathlib.Data.List.Basic

/-! Strings that end at the first zero byte, and their copies in fields of a fixed width. -/

namespace PilotingMavsdk.Library

/-- What is read from this memory up to the first zero; `none` if the memory ends before. -/
def cString : List UInt8 → Option (List UInt8)
  | [] => none
  | byte :: rest => if byte = 0 then some [] else (cString rest).map (byte :: ·)

/-- So many bytes from the beginning of a string on: its text, its zero and what lies behind. -/
def fixedWidth (width : Nat) (text : List UInt8) (behind : Nat → UInt8) : List UInt8 :=
  (text ++ 0 :: (List.range width).map behind).take width

variable {width : Nat} {text rest : List UInt8} {behind : Nat → UInt8}

@[simp] theorem length_fixedWidth : (fixedWidth width text behind).length = width := by
  simp only [fixedWidth, List.length_take, List.length_append, List.length_cons, List.length_map,
    List.length_range]
  omega

theorem fixedWidth_of_short (behind : Nat → UInt8) (short : text.length < width) :
    ∃ filling, fixedWidth width text behind = text ++ 0 :: filling := by
  refine ⟨((List.range width).map behind).take (width - text.length - 1), ?_⟩
  obtain ⟨room, equal⟩ := Nat.exists_eq_add_of_lt short
  rw [fixedWidth, List.take_append, List.take_of_length_le (Nat.le_of_lt short)]
  have left : width - text.length = room + 1 := by omega
  rw [left, List.take_succ_cons, Nat.add_sub_cancel]

theorem fixedWidth_of_long (long : width ≤ text.length) :
    fixedWidth width text behind = text.take width :=
  List.take_append_of_le_length long

theorem cString_append (nulFree : 0 ∉ text) :
    cString (text ++ rest) = (cString rest).map (text ++ ·) := by
  induction text with
  | nil => simp
  | cons byte text ih =>
    rw [List.mem_cons, not_or] at nulFree
    rw [List.cons_append, cString, if_neg (Ne.symm nulFree.1), ih nulFree.2, Option.map_map]
    rfl

theorem cString_append_zero (nulFree : 0 ∉ text) : cString (text ++ 0 :: rest) = some text := by
  simp [cString_append nulFree, cString]

theorem cString_eq_nil_iff : cString rest = some [] ↔ rest.head? = some 0 := by
  cases rest with
  | nil => simp [cString]
  | cons byte rest =>
    rw [cString]
    split
    next zero => simp [zero]
    next other => simp [other]

theorem cString_fixedWidth_iff (nulFree : 0 ∉ text) :
    cString (fixedWidth width text behind ++ rest) = some (text.take width) ↔
      text.length < width ∨ rest.head? = some 0 := by
  by_cases short : text.length < width
  · obtain ⟨filling, equal⟩ := fixedWidth_of_short behind short
    rw [equal, List.append_assoc, List.cons_append, cString_append_zero nulFree,
      List.take_of_length_le (Nat.le_of_lt short)]
    exact iff_of_true rfl (.inl short)
  · have long : width ≤ text.length := Nat.not_lt.mp short
    have still : 0 ∉ text.take width := fun member => nulFree (List.mem_of_mem_take member)
    rw [fixedWidth_of_long long, cString_append still, or_iff_right short, ← cString_eq_nil_iff]
    cases cString rest with
    | none => simp
    | some more => simp

theorem cString_fixedWidth_zero (nulFree : 0 ∉ text) :
    cString (fixedWidth width text behind ++ 0 :: rest) = some (text.take width) :=
  (cString_fixedWidth_iff nulFree).mpr (.inr rfl)

theorem cString_append_singleton :
    cString (text ++ [0]) = some (text.takeWhile (· ≠ 0)) := by
  induction text with
  | nil => rfl
  | cons byte text ih =>
    rw [List.cons_append, cString]
    split
    next zero => simp [zero]
    next other => simp [ih, other]

theorem takeWhile_fixedWidth :
    (fixedWidth width text behind).takeWhile (· ≠ 0) = (text.takeWhile (· ≠ 0)).take width := by
  rw [fixedWidth, ← List.take_takeWhile, List.takeWhile_append]
  split
  next whole =>
    have same : text.takeWhile (· ≠ 0) = text := (List.takeWhile_prefix _).eq_of_length whole
    rw [same]
    simp
  · rfl

end PilotingMavsdk.Library
