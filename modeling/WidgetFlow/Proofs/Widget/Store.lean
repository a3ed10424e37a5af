import WidgetFlow.Proofs.Dict
import WidgetFlow.Widget.Store

/-!
# What the operations of the store do

One look-up law for each operation of the store, and two relations that say what a sequence of
operations may have done.

## Conventions

`Store.Writes s t` says that `t` comes from `s` by writes that keep the place of every instance:
its id, its kind and its links. Everything that flows through an engine, and everything handler
code can do, is of this form. `Store.Evolves s t` also allows instances to come, to go and to be
linked anew, as long as whatever comes or changes takes the next tick of the clock.

## Main results

* `get?_register`, `get?_mutate`, `get?_remove`: the look-up laws.
* `Indexed.register`, `Indexed.mutate`, `Indexed.remove`: instances stand under their own ids.
* `Writes.of_setProperty` and its companions: the writes of a view are writes of this form.
* `Writes.contains`, `Writes.get?`: writes keep which instances there are, and their places.
* `Evolves.register`, `Evolves.mutate`, `Evolves.remove`: a revision stands for one content of one
  instance, now and later.
-/

namespace WidgetFlow

/-- Two versions of an instance with the same id, the same kind and the same links. -/
structure Instance.SamePlace (i j : Instance) : Prop where
  id : j.id = i.id
  kind : j.kind = i.kind
  parent : j.parent = i.parent
  children : j.children = i.children

/-- An instance is at its own place. -/
theorem Instance.SamePlace.refl (i : Instance) : i.SamePlace i := ⟨rfl, rfl, rfl, rfl⟩

/-- Being at the same place passes on along versions. -/
theorem Instance.SamePlace.trans {i j k : Instance} (h : i.SamePlace j) (h' : j.SamePlace k) :
    i.SamePlace k :=
  ⟨h'.id.trans h.id, h'.kind.trans h.kind, h'.parent.trans h.parent,
    h'.children.trans h.children⟩

/-- A new revision does not move an instance. -/
theorem Instance.SamePlace.revise {i j : Instance} (h : i.SamePlace j) (n : Nat) :
    i.SamePlace { j with revision := n } := ⟨h.id, h.kind, h.parent, h.children⟩

namespace Store

variable {s t u : Store} {id key : String} {i : Instance} {change : Instance → Instance}

/-- There is an instance of an id if a look-up finds one. -/
theorem contains_iff : s.contains id = true ↔ ∃ i, s.get? id = some i := Dict.contains_iff

/-- There is no instance of an id if a look-up finds none. -/
theorem contains_eq_false_iff : s.contains id = false ↔ s.get? id = none :=
  Dict.contains_eq_false_iff

/-- Whether there is an instance depends on the look-up only. -/
theorem contains_congr (h : (s.get? id).isSome = (t.get? id).isSome) :
    s.contains id = t.contains id := h

/-! ### Look-up laws -/

/-- An instance put into the store is found under its id, with the next tick as its revision. -/
theorem get?_register :
    (s.register i).get? id =
      if i.id = id then some { i with revision := s.clock + 1 } else s.get? id :=
  Dict.get?_insert

/-- A change touches the instance of one id and gives it the next tick as its revision. -/
theorem get?_mutate :
    (s.mutate id change).2.get? key =
      if id = key then (s.get? id).map fun i => { change i with revision := s.clock + 1 }
      else s.get? key := by
  rw [mutate]
  split
  · next h =>
      by_cases hk : id = key
      · rw [if_pos hk, ← hk, h]
        rfl
      · rw [if_neg hk]
  · next i h =>
      change Dict.get? (Dict.insert _ _ _) key = _
      rw [Dict.get?_insert, h]
      rfl

/-- A change leaves the other instances alone. -/
theorem get?_mutate_of_ne (h : id ≠ key) : (s.mutate id change).2.get? key = s.get? key := by
  rw [get?_mutate, if_neg h]

/-- A change makes no instance and drops none. -/
theorem contains_mutate : (s.mutate id change).2.contains key = s.contains key := by
  refine contains_congr ?_
  rw [get?_mutate]
  split
  · next h => rw [h, Option.isSome_map]
  · rfl

/-- Whether a change finds its instance. -/
theorem mutate_fst : (s.mutate id change).1 = s.contains id := by
  rw [mutate, contains, Dict.contains]
  change _ = (s.get? id).isSome
  split
  · next h => rw [h]; rfl
  · next h => rw [h]; rfl

/-- Nothing changes if there is no instance. -/
theorem mutate_of_get?_eq_none (h : s.get? id = none) : s.mutate id change = (false, s) := by
  rw [mutate, h]

/-- Writing an effective property writes the property and drops the state of that name; it tells
whether there is the instance. -/
theorem view_setProperty (s : Store) (id key : String) (v : Value) :
    View.setProperty s id key v =
      (s.contains id, ((s.setProperty id key v).2.removeStateValue id key).2) := by
  have hfound : (s.setProperty id key v).1 = s.contains id := mutate_fst
  simp only [View.setProperty]
  split
  · next t ht =>
      have hnone : s.get? id = none := contains_eq_false_iff.mp (by rw [← hfound, ht])
      have hstate : s.stateValue id key = none := by
        rw [stateValue, hnone]
        rfl
      obtain rfl : s = t := congrArg Prod.snd ((mutate_of_get?_eq_none hnone).symm.trans ht)
      rw [← hfound, ht, removeStateValue, hstate]
  · next t ht => rw [← hfound, ht]

/-- Removal gives the instance that was there. -/
theorem remove_fst : (s.remove id).1 = s.get? id := by
  rw [remove]
  split
  · next h => exact h.symm
  · next h => exact h.symm

/-- A removed instance is gone, and the others stay. -/
theorem get?_remove (hs : Dict.Sorted s.instances) :
    (s.remove id).2.get? key = if id = key then none else s.get? key := by
  rw [remove]
  split
  · next h =>
      by_cases hk : id = key
      · rw [if_pos hk, ← hk, h]
      · rw [if_neg hk]
  · exact hs.get?_erase

/-- The ids after an instance is put into the store. -/
theorem contains_register :
    (s.register i).contains key = (decide (i.id = key) || s.contains key) := Dict.contains_insert

/-- The ids after a removal. -/
theorem contains_remove (hs : Dict.Sorted s.instances) :
    (s.remove id).2.contains key = (decide (id ≠ key) && s.contains key) := by
  by_cases hk : id = key
  · rw [contains_eq_false_iff.mpr (by rw [get?_remove hs, if_pos hk])]
    simp [hk]
  · rw [contains_congr (t := s) (by rw [get?_remove hs, if_neg hk])]
    simp [hk]

/-- The clock ticks with every instance put into the store. -/
theorem clock_register : (s.register i).clock = s.clock + 1 := rfl

/-- The clock stands still when an instance is removed. -/
theorem clock_remove : (s.remove id).2.clock = s.clock := by
  rw [remove]
  split <;> rfl

/-! ### The index -/

/-- The entries of a store are sorted, and every instance stands under its own id. -/
structure Indexed (s : Store) : Prop where
  sorted : Dict.Sorted s.instances
  keyed : ∀ entry ∈ s.instances, entry.2.id = entry.1

/-- An instance that is found has the id that it is looked up by. -/
theorem Indexed.id_eq (h : s.Indexed) (hi : s.get? id = some i) : i.id = id :=
  h.keyed (id, i) (Dict.mem_of_get? hi)

/-- The empty store is indexed. -/
theorem Indexed.empty : ({} : Store).Indexed :=
  ⟨Dict.Sorted.nil, fun _ h => absurd h List.not_mem_nil⟩

/-- An indexed store stays so when an instance is put into it. -/
theorem Indexed.register (h : s.Indexed) (i : Instance) : (s.register i).Indexed := by
  refine ⟨h.sorted.insert, fun entry he => ?_⟩
  rcases Dict.mem_insert he with rfl | he
  · rfl
  · exact h.keyed entry he

/-- An indexed store stays so under changes that keep the id. -/
theorem Indexed.mutate (h : s.Indexed) (hid : ∀ i, (change i).id = i.id) :
    (s.mutate id change).2.Indexed := by
  rw [Store.mutate]
  split
  · exact h
  · next i hi =>
      refine ⟨h.sorted.insert, fun entry he => ?_⟩
      rcases Dict.mem_insert he with rfl | he
      · exact (hid i).trans (h.id_eq hi)
      · exact h.keyed entry he

/-- An indexed store stays so when an instance is removed. -/
theorem Indexed.remove (h : s.Indexed) : (s.remove id).2.Indexed := by
  rw [Store.remove]
  split
  · exact h
  · exact ⟨h.sorted.erase, fun entry he => h.keyed entry (Dict.mem_erase he)⟩

/-! ### Writes -/

/-- The second store comes from the first by changes that keep the place of every instance. -/
inductive Writes : Store → Store → Prop
  | refl (s : Store) : Writes s s
  | mutate {s t : Store} {change : Instance → Instance} (h : Writes s t) (id : String)
      (place : ∀ i : Instance, i.SamePlace (change i)) : Writes s (t.mutate id change).2

/-- Writes after writes are writes. -/
theorem Writes.trans (h : s.Writes t) (h' : t.Writes u) : s.Writes u := by
  induction h' with
  | refl => exact h
  | mutate _ id place ih => exact ih.mutate id place

/-- One change that keeps the place of its instance is a write. -/
theorem Writes.of_mutate (place : ∀ i : Instance, i.SamePlace (change i)) :
    s.Writes (s.mutate id change).2 :=
  (Writes.refl s).mutate id place

/-- Writing the state under a key is a write. -/
theorem Writes.of_setStateValue {v : Value} : s.Writes (s.setStateValue id key v).2 :=
  .of_mutate fun _ => ⟨rfl, rfl, rfl, rfl⟩

/-- A change of presentation is a write. -/
theorem Writes.of_present {change : Presentation → Presentation} :
    s.Writes (s.present id change).2 :=
  .of_mutate fun _ => ⟨rfl, rfl, rfl, rfl⟩

/-- Removing the state under a key is a write. -/
theorem Writes.of_removeStateValue : s.Writes (s.removeStateValue id key).2 := by
  rw [removeStateValue]
  split
  · exact .refl s
  · exact .of_mutate fun _ => ⟨rfl, rfl, rfl, rfl⟩

/-- Writing an effective property is a write. -/
theorem Writes.of_setProperty {v : Value} : s.Writes (View.setProperty s id key v).2 := by
  have hw : s.Writes (s.setProperty id key v).2 := .of_mutate fun _ => ⟨rfl, rfl, rfl, rfl⟩
  rw [view_setProperty]
  exact hw.trans .of_removeStateValue

/-- Writes keep which instances there are. -/
theorem Writes.contains (h : s.Writes t) (id : String) : t.contains id = s.contains id := by
  induction h with
  | refl => rfl
  | mutate _ _ _ ih => rw [contains_mutate, ih]

/-- Writes keep the place of every instance. -/
theorem Writes.get? (h : s.Writes t) (hi : s.get? id = some i) :
    ∃ j, t.get? id = some j ∧ i.SamePlace j := by
  induction h with
  | refl => exact ⟨i, hi, .refl i⟩
  | @mutate t _ _ key place ih =>
      obtain ⟨j, hj, hij⟩ := ih
      by_cases hk : key = id
      · subst hk
        refine ⟨_, ?_, (hij.trans (place j)).revise (t.clock + 1)⟩
        rw [get?_mutate, if_pos rfl, hj, Option.map_some]
      · exact ⟨j, by rw [get?_mutate_of_ne hk, hj], hij⟩

/-- Writes keep the instance of every id at its place, and make none. -/
theorem Writes.rel (h : s.Writes t) (id : String) :
    Option.Rel Instance.SamePlace (s.get? id) (t.get? id) := by
  cases hi : s.get? id with
  | some i =>
      obtain ⟨j, hj, hij⟩ := h.get? hi
      rw [hj]
      exact .some hij
  | none =>
      cases hj : t.get? id with
      | none => exact .none
      | some j =>
          have hs : s.contains id = true := by
            rw [← h.contains]
            exact contains_iff.mpr ⟨j, hj⟩
          obtain ⟨i, hi'⟩ := contains_iff.mp hs
          exact nomatch hi.symm.trans hi'

/-- An indexed store stays so under writes. -/
theorem Writes.indexed (h : s.Writes t) (hs : s.Indexed) : t.Indexed := by
  induction h with
  | refl => exact hs
  | mutate _ _ place ih => exact ih.mutate fun i => (place i).id

/-! ### Revisions -/

/-- No revision is ahead of the clock. -/
structure Dated (s : Store) : Prop where
  sorted : Dict.Sorted s.instances
  past : ∀ {id i}, s.get? id = some i → i.revision ≤ s.clock

/-- An instance of the second store whose revision the first store has seen is the one that the
first store has: revisions are not used again. -/
structure Later (s t : Store) : Prop where
  clock : s.clock ≤ t.clock
  kept : ∀ {id i}, t.get? id = some i → i.revision ≤ s.clock → s.get? id = some i

/-- A store is as late as itself. -/
theorem Later.refl (s : Store) : s.Later s := ⟨Nat.le_refl _, fun h _ => h⟩

/-- Later than later is later. -/
theorem Later.trans (h : s.Later t) (h' : t.Later u) : s.Later u :=
  ⟨Nat.le_trans h.clock h'.clock, fun hi hrev =>
    h.kept (h'.kept hi (Nat.le_trans hrev h.clock)) hrev⟩

/-- The second store comes from the first by anything that takes a tick for each instance it makes
or changes. -/
def Evolves (s t : Store) : Prop := s.Dated → t.Dated ∧ s.Later t

/-- An empty store is dated. -/
theorem Dated.empty : ({} : Store).Dated := ⟨Dict.Sorted.nil, fun h => nomatch h⟩

namespace Evolves

/-- A store comes from itself. -/
theorem refl (s : Store) : s.Evolves s := fun h => ⟨h, .refl s⟩

/-- Stores evolve step by step. -/
theorem trans (h : s.Evolves t) (h' : t.Evolves u) : s.Evolves u := fun hs =>
  let ⟨ht, hst⟩ := h hs
  let ⟨hu, htu⟩ := h' ht
  ⟨hu, hst.trans htu⟩

/-- Putting an instance into a store takes a tick. -/
theorem register (s : Store) (i : Instance) : s.Evolves (s.register i) := by
  have hclock : s.clock ≤ (s.register i).clock := by
    rw [clock_register]
    exact Nat.le_succ _
  refine fun hs => ⟨⟨hs.sorted.insert, fun {id j} hj => ?_⟩, hclock, fun {id j} hj hrev => ?_⟩
  · rw [get?_register] at hj
    split at hj
    · exact Option.some.inj hj ▸ Nat.le_refl _
    · exact Nat.le_trans (hs.past hj) hclock
  · rw [get?_register] at hj
    split at hj
    · obtain rfl := Option.some.inj hj
      exact absurd hrev (Nat.not_succ_le_self _)
    · exact hj

/-- A change takes a tick. -/
theorem mutate (s : Store) (id : String) (change : Instance → Instance) :
    s.Evolves (s.mutate id change).2 := by
  intro hs
  rw [Store.mutate]
  split
  · exact ⟨hs, .refl s⟩
  · next i hi =>
      refine ⟨⟨hs.sorted.insert, fun {key j} hj => ?_⟩, Nat.le_succ _, fun {key j} hj hrev => ?_⟩
      · change Dict.get? (Dict.insert _ _ _) key = _ at hj
        rw [Dict.get?_insert] at hj
        split at hj
        · exact Option.some.inj hj ▸ Nat.le_refl _
        · exact Nat.le_trans (hs.past hj) (Nat.le_succ _)
      · change Dict.get? (Dict.insert _ _ _) key = _ at hj
        rw [Dict.get?_insert] at hj
        split at hj
        · obtain rfl := Option.some.inj hj
          exact absurd hrev (Nat.not_succ_le_self _)
        · exact hj

/-- Removing an instance takes no tick and shows no other one. -/
theorem remove (s : Store) (id : String) : s.Evolves (s.remove id).2 := by
  intro hs
  have hget : ∀ {key j}, (s.remove id).2.get? key = some j → s.get? key = some j := by
    intro key j hj
    rw [get?_remove hs.sorted] at hj
    split at hj
    · exact nomatch hj
    · exact hj
  refine ⟨⟨?_, fun hj => ?_⟩, Nat.le_of_eq clock_remove.symm, fun hj _ => hget hj⟩
  · rw [Store.remove]
    split
    · exact hs.sorted
    · exact hs.sorted.erase
  · rw [clock_remove]
    exact hs.past (hget hj)

/-- Writes take ticks. -/
theorem of_writes (h : s.Writes t) : s.Evolves t := by
  induction h with
  | refl => exact .refl s
  | mutate _ id _ ih => exact ih.trans (.mutate _ id _)

end Evolves

end Store

end WidgetFlow
