import Mathlib.Data.List.Basic

/-! Lists that the first occurrence of a mark cuts in two. -/

namespace PilotingMavsdk.Library

universe u
variable {α : Type u} [DecidableEq α] {mark : α} {before behind : List α}

theorem unmarked_or_cut (mark : α) (items : List α) :
    mark ∉ items ∨ ∃ before behind, mark ∉ before ∧ items = before ++ mark :: behind := by
  by_cases marked : mark ∈ items
  · obtain ⟨before, behind, split, first⟩ := List.eq_append_cons_of_mem marked
    exact .inr ⟨before, behind, first, split⟩
  · exact .inl marked

theorem findIdx?_unmarked {items : List α} (unmarked : mark ∉ items) :
    items.findIdx? (· = mark) = none := by
  rw [List.findIdx?_eq_none_iff]
  intro item member
  refine decide_eq_false ?_
  rintro rfl
  exact unmarked member

theorem findIdx?_cut (first : mark ∉ before) :
    (before ++ mark :: behind).findIdx? (· = mark) = some before.length := by
  rw [List.findIdx?_append, findIdx?_unmarked first, List.findIdx?_cons]
  simp

theorem cut_unique {other more : List α} (first : mark ∉ before) (also : mark ∉ other)
    (same : before ++ mark :: behind = other ++ mark :: more) :
    before = other ∧ behind = more := by
  have lengths : before.length = other.length := by
    have found := @findIdx?_cut _ _ mark before behind first
    rw [same, findIdx?_cut also] at found
    exact (Option.some_inj.mp found).symm
  obtain ⟨equal, rest⟩ := List.append_inj same lengths
  exact ⟨equal, (List.cons_inj_right mark).mp rest⟩

end PilotingMavsdk.Library
