import Mathlib.Data.List.Basic

/-! Lists whose elements carry their own position, as numbered messages do. Two such lists with
elements from one source agree wherever both are defined. -/

namespace PilotingMavsdk.Library

universe u
variable {α : Type u} {index : α → Nat}

def Indexed (index : α → Nat) (items : List α) : Prop :=
  ∀ position item, items[position]? = some item → index item = position

theorem Indexed.nil : Indexed index [] := by simp [Indexed]

theorem indexed_append_singleton {items : List α} {item : α} :
    Indexed index (items ++ [item]) ↔ Indexed index items ∧ index item = items.length := by
  constructor
  · intro indexed
    refine ⟨?_, indexed items.length item (by simp)⟩
    intro position other found
    have inside := (List.getElem?_eq_some_iff.mp found).1
    exact indexed position other (by rwa [List.getElem?_append_left inside])
  · intro ⟨indexed, last⟩ position other found
    rw [List.getElem?_append] at found
    split at found
    · exact indexed position other found
    next outside =>
      rw [List.getElem?_singleton] at found
      split at found
      · cases found; omega
      · cases found

theorem Indexed.pair {one two : α} (first : index one = 0) (second : index two = 1) :
    Indexed index [one, two] :=
  indexed_append_singleton.mpr ⟨@indexed_append_singleton _ _ [] one |>.mpr ⟨.nil, first⟩, second⟩

theorem Indexed.take {items : List α} (indexed : Indexed index items) (count : Nat) :
    Indexed index (items.take count) := by
  intro position item found
  rw [List.getElem?_take] at found
  split at found
  · exact indexed position item found
  · cases found

theorem Indexed.of_append {first second : List α} (indexed : Indexed index (first ++ second)) :
    Indexed index first := by
  simpa using indexed.take first.length

theorem Indexed.eq_take {items source : List α} (indexed : Indexed index items)
    (numbered : Indexed index source) (drawn : ∀ item ∈ items, item ∈ source) :
    items = source.take items.length := by
  apply List.ext_getElem?
  intro position
  rw [List.getElem?_take]
  split
  next inside =>
    have found := List.getElem?_eq_getElem inside
    obtain ⟨other, same⟩ := List.mem_iff_getElem?.mp (drawn _ (List.getElem_mem inside))
    have position_eq : other = position :=
      (numbered other _ same).symm.trans (indexed position _ found)
    rw [found, ← same, position_eq]
  next outside => rw [List.getElem?_eq_none (by omega)]

theorem Indexed.eq_source {items source : List α} (indexed : Indexed index items)
    (numbered : Indexed index source) (drawn : ∀ item ∈ items, item ∈ source)
    (complete : items.length = source.length) : items = source := by
  have initial := indexed.eq_take numbered drawn
  rwa [complete, List.take_length] at initial

end PilotingMavsdk.Library
