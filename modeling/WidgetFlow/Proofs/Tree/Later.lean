import WidgetFlow.Proofs.Tree.Planting

/-!
# Later states of an arena

Nodes move only forward: a node waits until it is ready or has failed, and from then on its status
stays; children of a node that is there are only taken away; and a number that was given is never
given again. `Arena.Later a b` says this of two states of an arena without a reset in between.

## Main results

* `Grown.later`, `later_of_map`, `Linked.later_removeSubtree`: mounting, resolving and removing lead
  to later states.
-/

namespace WidgetFlow

/-- What a node can become as long as it is there. -/
structure Node.Becomes (n m : Node) : Prop where
  id : m.id = n.id
  tag : m.tag = n.tag
  declared : m.declared = n.declared
  status : n.status.isWaiting = false → m.status = n.status
  children : m.children.Sublist n.children

/-- A node can stay as it is. -/
theorem Node.Becomes.refl (n : Node) : n.Becomes n := ⟨rfl, rfl, rfl, fun _ => rfl, .refl _⟩

/-- What a node becomes can become something else. -/
theorem Node.Becomes.trans {n m k : Node} (h : n.Becomes m) (h' : m.Becomes k) : n.Becomes k where
  id := h'.id.trans h.id
  tag := h'.tag.trans h.tag
  declared := h'.declared.trans h.declared
  status hn := (h'.status (by rw [h.status hn, hn])).trans (h.status hn)
  children := h'.children.trans h.children

namespace Arena

variable {a b c : Arena} {n m : Node} {i : Nat}

/-- The second arena is a later state of the first. -/
structure Later (a b : Arena) : Prop where
  length : a.slots.length ≤ b.slots.length
  kept : ∀ {i m}, i < a.slots.length → b.get? i = some m → ∃ n, a.get? i = some n ∧ n.Becomes m

/-- An arena is as late as itself. -/
theorem Later.refl (a : Arena) : a.Later a := ⟨Nat.le_refl _, fun _ hm => ⟨_, hm, .refl _⟩⟩

/-- Later than later is later. -/
theorem Later.trans (h : a.Later b) (h' : b.Later c) : a.Later c where
  length := Nat.le_trans h.length h'.length
  kept hi hm := by
    obtain ⟨n', hn', hbecomes'⟩ := h'.kept (Nat.lt_of_lt_of_le hi h.length) hm
    obtain ⟨n, hn, hbecomes⟩ := h.kept hi hn'
    exact ⟨n, hn, hbecomes.trans hbecomes'⟩

/-- Mounting trees of their own leads to a later state. -/
theorem Grown.later {kindOf : String → Kind} {entries : List (String × NodeInfo)}
    (h : Grown kindOf a b none entries) : a.Later b where
  length := h.length
  kept hi hm := ⟨_, (h.old hi nofun).symm.trans hm, .refl _⟩

/-- Changing nodes one by one into what they can become leads to a later state. -/
theorem later_of_map {change : Nat → Node → Node} (hlength : a.slots.length = b.slots.length)
    (hget : ∀ i, b.get? i = (a.get? i).map (change i)) (hchange : ∀ i n, a.get? i = some n →
      n.Becomes (change i n)) : a.Later b where
  length := Nat.le_of_eq hlength
  kept {i m} _ hm := by
    rw [hget] at hm
    obtain ⟨n, hn, rfl⟩ := Option.map_eq_some_iff.mp hm
    exact ⟨n, hn, hchange i n hn⟩

/-- Removing a node leads to a later state. -/
theorem Linked.later_removeSubtree (h : a.Linked []) (i : Nat) :
    a.Later (a.removeSubtree i).2 where
  length := Nat.le_of_eq length_removeSubtree.symm
  kept _ hm := by
    obtain ⟨-, n, hn, rfl⟩ := h.of_get?_removeSubtree hm
    exact ⟨n, hn, rfl, rfl, rfl, fun _ => rfl, List.filter_sublist⟩

end Arena

end WidgetFlow
