import Mathlib.Order.Basic

/-! Bisection with the middle rounded up. Where nothing can be read, or the rounds do not suffice,
it has no result. -/

namespace PilotingMavsdk.Library

/-- What is looked for lies before, at or after a place. The search keeps the first place at which
it does not lie before, and ends when one place is left. -/
def bisect (compare : Nat → Option Ordering) : Nat → Nat → Nat → Option Nat
  | 0, low, high => if low < high then none else some low
  | rounds + 1, low, high =>
    if low < high then
      let mid := (low + 1 + high) / 2
      match compare mid with
      | none => none
      | some .lt => bisect compare rounds low (mid - 1)
      | some .gt => bisect compare rounds mid high
      | some .eq => some mid
    else some low

variable {compare : Nat → Option Ordering} {rounds low high : Nat}

theorem bisect_ends (read : ∀ mid, low < mid → mid ≤ high → (compare mid).isSome)
    (ordered : low ≤ high) (enough : high - low ≤ rounds) :
    ∃ place, low ≤ place ∧ place ≤ high ∧ bisect compare rounds low high = some place := by
  induction rounds generalizing low high with
  | zero => exact ⟨low, Nat.le_refl low, ordered, if_neg (by omega)⟩
  | succ rounds ih =>
    rw [bisect]
    split
    next wide =>
      have above : low < (low + 1 + high) / 2 := by omega
      have below : (low + 1 + high) / 2 ≤ high := by omega
      obtain ⟨side, seen⟩ := Option.isSome_iff_exists.mp (read _ above below)
      simp only [seen]
      cases side with
      | lt =>
        obtain ⟨place, least, most, ends⟩ := @ih low ((low + 1 + high) / 2 - 1)
          (fun mid left right => read mid left (by omega)) (by omega) (by omega)
        exact ⟨place, least, by omega, ends⟩
      | eq => exact ⟨_, Nat.le_of_lt above, below, rfl⟩
      | gt =>
        obtain ⟨place, least, most, ends⟩ := @ih ((low + 1 + high) / 2) high
          (fun mid left right => read mid (by omega) right) below (by omega)
        exact ⟨place, by omega, most, ends⟩
    next => exact ⟨low, Nat.le_refl low, ordered, rfl⟩

theorem bisect_eq {place : Nat} (before : ∀ mid, mid < place → compare mid = some .gt)
    (found : compare place = some .eq)
    (after : ∀ mid, place < mid → mid ≤ high → compare mid = some .lt)
    (lower : low ≤ place) (upper : place ≤ high) (enough : high - low ≤ rounds) :
    bisect compare rounds low high = some place := by
  induction rounds generalizing low high with
  | zero =>
    rw [bisect, if_neg (by omega)]
    congr 1
    omega
  | succ rounds ih =>
    rw [bisect]
    split
    next wide =>
      simp only
      rcases Nat.lt_trichotomy ((low + 1 + high) / 2) place with less | same | more
      · rw [before _ less]
        exact ih after (Nat.le_of_lt less) upper (by omega)
      · rw [same, found]
      · rw [after _ more (by omega)]
        exact ih (fun mid beyond inside => after mid beyond (by omega)) lower (by omega) (by omega)
    · congr 1
      omega

end PilotingMavsdk.Library
