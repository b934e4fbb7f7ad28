import Mathlib.Data.List.Range

/-! Numbers that are given out, called up and handed back in order, so that at most one of those
that are out has been called up. -/

namespace PilotingMavsdk.Library

structure Tickets where
  given : Nat
  called : Nat
  back : Nat
  behind : back ≤ called
  single : called ≤ back + 1
  known : called ≤ given

namespace Tickets

def start : Tickets where
  given := 0
  called := 0
  back := 0
  behind := Nat.le_refl 0
  single := Nat.zero_le 1
  known := Nat.le_refl 0

def give (tickets : Tickets) : Tickets :=
  { tickets with
    given := tickets.given + 1
    known := Nat.le_succ_of_le tickets.known }

def call (tickets : Tickets) (free : tickets.called = tickets.back)
    (waiting : tickets.back < tickets.given) : Tickets :=
  { tickets with
    called := tickets.called + 1
    behind := Nat.le_succ_of_le tickets.behind
    single := by omega
    known := by omega }

def handBack (tickets : Tickets) (busy : tickets.called = tickets.back + 1) : Tickets :=
  { tickets with
    back := tickets.back + 1
    behind := Nat.le_of_eq busy.symm
    single := by omega }

def out (tickets : Tickets) : List Nat := List.range' tickets.back (tickets.given - tickets.back)

theorem mem_out {tickets : Tickets} {number : Nat} :
    number ∈ tickets.out ↔ tickets.back ≤ number ∧ number < tickets.given := by
  have behind := tickets.behind
  have known := tickets.known
  rw [out, List.mem_range'_1]
  omega

theorem nodup_out (tickets : Tickets) : tickets.out.Nodup := List.nodup_range'

theorem out_give (tickets : Tickets) : tickets.give.out = tickets.out ++ [tickets.given] := by
  have behind := tickets.behind
  have known := tickets.known
  have more : tickets.given + 1 - tickets.back = tickets.given - tickets.back + 1 := by omega
  have last : tickets.back + (tickets.given - tickets.back) = tickets.given := by omega
  simp only [out, give]
  rw [more, List.range'_concat, Nat.one_mul, last]

theorem out_handBack (tickets : Tickets) (busy : tickets.called = tickets.back + 1) :
    tickets.out = tickets.back :: (tickets.handBack busy).out := by
  have known := tickets.known
  have fewer : tickets.given - tickets.back = tickets.given - (tickets.back + 1) + 1 := by omega
  simp only [out, handBack]
  rw [fewer, List.range'_succ]

theorem out_cons {tickets : Tickets} {front : Nat} {rest : List Nat}
    (split : tickets.out = front :: rest) : front = tickets.back ∧ front < tickets.given := by
  have member : front ∈ tickets.out := by
    rw [split]
    exact List.mem_cons_self
  refine ⟨?_, (mem_out.mp member).2⟩
  have length := congrArg List.length split
  rw [out, List.length_range', List.length_cons] at length
  have more : tickets.given - tickets.back = tickets.given - tickets.back - 1 + 1 := by omega
  rw [out, more, List.range'_succ] at split
  exact (List.cons.inj split).1.symm

theorem called_unique {tickets : Tickets} {one other : Nat} (first : one ∈ tickets.out)
    (second : other ∈ tickets.out) (called : one < tickets.called)
    (also : other < tickets.called) : one = other := by
  have single := tickets.single
  have one_out := mem_out.mp first
  have other_out := mem_out.mp second
  omega

end Tickets
end PilotingMavsdk.Library
