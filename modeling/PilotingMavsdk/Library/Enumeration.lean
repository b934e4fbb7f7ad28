import Mathlib.Data.List.Nodup

/-! Enumerations of a finite set in any order, as an unordered container yields them, and what its
first element can tell about the others. -/

namespace PilotingMavsdk.Library

universe u

/-- The members of a set, each of them once. -/
structure Enumeration {α : Type u} (Member : α → Prop) where
  items : List α
  nodup : items.Nodup
  complete : ∀ item, item ∈ items ↔ Member item

namespace Enumeration
variable {α : Type u} {Member : α → Prop}

def startingWith [DecidableEq α] (order : Enumeration Member) (first : α) (member : Member first) :
    Enumeration Member where
  items := first :: order.items.erase first
  nodup := List.nodup_cons.mpr ⟨order.nodup.not_mem_erase, order.nodup.erase first⟩
  complete := by
    intro item
    rw [List.mem_cons, order.nodup.mem_erase_iff, order.complete]
    constructor
    · rintro (rfl | ⟨_, inside⟩)
      · exact member
      · exact inside
    · intro inside
      by_cases same : item = first
      · exact .inl same
      · exact .inr ⟨same, inside⟩

def First (Property : α → Prop) (order : Enumeration Member) : Prop :=
  ∃ first ∈ order.items.head?, Property first

theorem first_startingWith [DecidableEq α] {Property : α → Prop} (order : Enumeration Member)
    {first : α} (member : Member first) :
    (order.startingWith first member).First Property ↔ Property first := by
  simp [First, startingWith]

/-- The first member shows, in every order, whether exactly one has the property: if and only if
none has it or there is only one member to ask. -/
theorem first_iff_unique [DecidableEq α] {Property : α → Prop} (some : Enumeration Member)
    (inside : ∀ item, Property item → Member item) :
    (∀ order : Enumeration Member, order.First Property ↔ ∃! item, Property item) ↔
      (∀ item, ¬Property item) ∨ ∃ only, ∀ item, Member item → item = only := by
  constructor
  · intro tells
    by_cases none : ∀ item, ¬Property item
    · exact .inl none
    · push Not at none
      obtain ⟨one, has⟩ := none
      refine .inr ⟨one, ?_⟩
      intro other member
      -- Started with either of them, the order must tell the same.
      have unique := (tells (some.startingWith one (inside one has))).mp
        ((first_startingWith some _).mpr has)
      have also := (tells (some.startingWith other member)).mpr unique
      exact unique.unique ((first_startingWith some _).mp also) has
  · rintro (none | ⟨only, alone⟩) order
    · refine iff_of_false ?_ ?_
      · exact fun ⟨first, _, has⟩ => none first has
      · exact fun ⟨item, has, _⟩ => none item has
    · constructor
      · intro ⟨first, _, has⟩
        refine ⟨first, has, ?_⟩
        intro other also
        rw [alone other (inside other also), alone first (inside first has)]
      · intro ⟨item, has, _⟩
        have listed := (order.complete item).mpr (inside item has)
        obtain ⟨first, rest, split⟩ := List.exists_cons_of_ne_nil (List.ne_nil_of_mem listed)
        have member : Member first := by
          rw [← order.complete, split]
          exact List.mem_cons_self
        refine ⟨first, by rw [split]; rfl, ?_⟩
        rw [alone first member, ← alone item (inside item has)]
        exact has

end Enumeration
end PilotingMavsdk.Library
