import Mathlib.Data.List.Nodup
import Mathlib.Logic.Function.Basic

/-! Tables that are iterated in some order, as lists whose elements have different keys: which
partial function of the keys such a list is, and what stays behind a position in it. -/

namespace PilotingMavsdk.Library

universe u v
variable {Item : Type u} {Key : Type v} [DecidableEq Key] {key : Item → Key}

def lookup (key : Item → Key) (items : List Item) (name : Key) : Option Item :=
  items.find? (key · = name)

theorem lookup_eq_none_iff {items : List Item} {name : Key} :
    lookup key items name = none ↔ name ∉ items.map key := by
  simp [lookup]

theorem lookup_eq_some_iff {items : List Item} (distinct : (items.map key).Nodup) {name : Key}
    {item : Item} : lookup key items name = some item ↔ item ∈ items ∧ key item = name := by
  constructor
  · intro found
    exact ⟨List.mem_of_find?_eq_some found, by simpa using List.find?_some found⟩
  · intro ⟨member, same⟩
    cases found : lookup key items name with
    | none =>
      rw [← same] at found
      exact absurd (List.mem_map_of_mem member) (lookup_eq_none_iff.mp found)
    | some other =>
      have named : key other = name := by simpa using List.find?_some found
      have among := List.mem_of_find?_eq_some found
      rw [List.inj_on_of_nodup_map distinct among member (named.trans same.symm)]

theorem lookup_perm {items others : List Item} (distinct : (items.map key).Nodup)
    (perm : others.Perm items) : lookup key others = lookup key items := by
  funext name
  ext item
  have same := perm.map key
  rw [lookup_eq_some_iff distinct, lookup_eq_some_iff (same.nodup_iff.mpr distinct), perm.mem_iff]

theorem lookup_append {items : List Item} {item : Item} (absent : key item ∉ items.map key) :
    lookup key (items ++ [item]) = Function.update (lookup key items) (key item) (some item) := by
  funext name
  rw [lookup, List.find?_append]
  by_cases same : name = key item
  · subst same
    have missing : items.find? (key · = key item) = none := lookup_eq_none_iff.mpr absent
    simp [missing]
  · rw [Function.update_of_ne same]
    simp [Ne.symm same, lookup]

theorem lookup_erase (items : List Item) (gone : Key) :
    lookup key (items.filter (key · ≠ gone)) =
      Function.update (lookup key items) gone none := by
  funext name
  by_cases same : name = gone
  · subst same
    rw [Function.update_self, lookup_eq_none_iff]
    simp
  · rw [Function.update_of_ne same, lookup, List.find?_filter, lookup]
    congr 1
    funext item
    by_cases named : key item = name
    · simp [named, same]
    · simp [named]

theorem lookup_change (items : List Item) {change : Item → Item} (changed : Key)
    (keeps : ∀ item, key (change item) = key item) :
    lookup key (items.map fun item => if key item = changed then change item else item) =
      Function.update (lookup key items) changed ((lookup key items changed).map change) := by
  have named (item : Item) :
      key (if key item = changed then change item else item) = key item := by
    split
    · exact keeps item
    · rfl
  funext name
  have found : lookup key (items.map fun item =>
      if key item = changed then change item else item) name =
      (lookup key items name).map fun item =>
        if key item = changed then change item else item := by
    simp only [lookup, List.find?_map, Function.comp_def, named]
  rw [found]
  by_cases same : name = changed
  · subst same
    rw [Function.update_self]
    apply Option.map_congr
    intro item here
    have own : key item = name := by simpa using List.find?_some here
    rw [if_pos own]
  · rw [Function.update_of_ne same]
    cases here : lookup key items name with
    | none => rfl
    | some item =>
      have own : key item = name := by simpa using List.find?_some here
      rw [Option.map_some, if_neg (own.symm ▸ same)]

theorem mem_dropWhile_of_sublist {position other : Key} {keys more : List Key}
    (sublist : keys.Sublist more) (behind : other ∈ keys.dropWhile (· ≠ position)) :
    other ∈ more.dropWhile (· ≠ position) := by
  induction sublist with
  | slnil => exact behind
  | cons head sublist ih =>
    rw [List.dropWhile_cons]
    split
    · exact ih behind
    · exact List.mem_cons_of_mem _ (sublist.subset (List.dropWhile_subset _ behind))
  | cons_cons head sublist ih =>
    rw [List.dropWhile_cons] at behind ⊢
    split
    next skipped =>
      rw [if_pos skipped] at behind
      exact ih behind
    next found =>
      rw [if_neg found] at behind
      exact (sublist.cons_cons head).subset behind

theorem behind_of_sublist {items others : List Item} {position : Key} {item other : Item}
    (sublist : (items.map key).Sublist (others.map key)) (distinct : (others.map key).Nodup)
    (behind : item ∈ items.dropWhile (key · ≠ position)) (member : other ∈ others)
    (same : key other = key item) : other ∈ others.dropWhile (key · ≠ position) := by
  have later : key item ∈ (items.map key).dropWhile (· ≠ position) := by
    rw [List.dropWhile_map]
    exact List.mem_map_of_mem behind
  have still := mem_dropWhile_of_sublist sublist later
  rw [List.dropWhile_map] at still
  obtain ⟨found, after, equal⟩ := List.mem_map.mp still
  have among : found ∈ others := (List.dropWhile_sublist _).subset after
  rw [List.inj_on_of_nodup_map distinct member among (same.trans equal.symm)]
  exact after

end PilotingMavsdk.Library
