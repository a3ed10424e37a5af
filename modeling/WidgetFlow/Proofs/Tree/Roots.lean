import WidgetFlow.Proofs.Tree.Planting

/-!
# Every node stands below one root

The roots of an arena are listed apart from the nodes. `Arena.Ordered` says that they stand in the
order in which they were inserted, which is that of their numbers. Together with `Arena.Linked` this
makes the list redundant: it can be read off the nodes (`Linked.roots_eq`).

In a forest the walks below the roots partition the nodes. `Arena.WellFormed` puts together what
this says of the nodes, of the ids and of the roots, as it can be read off an arena without knowing
how it was built.

## Main results

* `Ordered.plantAll`, `Ordered.removeSubtree`: mounting and removing keep the roots in order.
* `Linked.roots_eq`: the roots are the nodes without parent, in order.
* `Linked.existsUnique_root`: every node stands below exactly one root.
* `Linked.order_perm`: the walks below the roots together visit every node once.
* `Linked.wellFormed`: a forest whose ids lead to their nodes and whose roots are in order is well
  formed.
-/

namespace WidgetFlow

/-- A list of what is found in another one names it in the same order. -/
theorem map_filterMap_sublist {α β γ : Type} {f : α → Option β} {name : β → γ} {label : α → γ}
    (h : ∀ x y, f x = some y → name y = label x) (l : List α) :
    ((l.filterMap f).map name).Sublist (l.map label) := by
  induction l with
  | nil => exact .slnil
  | cons x rest ih =>
      rw [List.filterMap_cons, List.map_cons]
      cases hx : f x with
      | none => exact ih.cons _
      | some y =>
          rw [List.map_cons, h x y hx]
          exact ih.cons_cons _

namespace Arena

variable {a : Arena} {n m : Node} {i j r r' : Nat} {kindOf : String → Kind}

/-! ### The nodes that are listed -/

/-- Nodes are listed in the order of their numbers. -/
theorem sorted_live (a : Arena) : (a.live.map (·.1)).Pairwise (· < ·) := by
  have hsub : (a.live.map (·.1)).Sublist (a.slots.zipIdx.map (·.2)) :=
    map_filterMap_sublist (fun x y hxy => by
      obtain ⟨node, -, rfl⟩ := Option.map_eq_some_iff.mp hxy
      rfl) _
  refine List.Pairwise.sublist hsub ?_
  rw [List.zipIdx_map_snd]
  exact List.pairwise_lt_range'

/-- No number is listed twice. -/
theorem nodup_live (a : Arena) : (a.live.map (·.1)).Nodup := a.sorted_live.imp Nat.ne_of_lt

/-- A number is listed if it has a node. -/
theorem mem_map_live : i ∈ a.live.map (·.1) ↔ ∃ n, a.get? i = some n := by
  rw [List.mem_map]
  constructor
  · rintro ⟨⟨i, n⟩, hmem, rfl⟩
    exact ⟨n, mem_live.mp hmem⟩
  · rintro ⟨n, hn⟩
    exact ⟨(i, n), mem_live.mpr hn, rfl⟩

/-! ### The order of the roots -/

/-- The roots stand in the order in which they were inserted. -/
def Ordered (a : Arena) : Prop := a.roots.Pairwise (· < ·)

/-- Planned children leave the roots as they are. -/
theorem roots_plantBelow (parent : Nat) (parentId : String) :
    ∀ (position : Nat) (plans : List ChildPlan) (a : Arena),
      (a.plantBelow kindOf parent parentId position plans).roots = a.roots
  | position, [], a => by
      rw [plantBelow]
  | position, .text content :: rest, a => by
      rw [plantBelow]
      exact roots_plantBelow parent parentId (position + 1) rest _
  | position, .node info children :: rest, a => by
      rw [plantBelow]
      exact (roots_plantBelow parent parentId (position + 1) rest _).trans
        (roots_plantBelow a.slots.length _ 0 children _)

/-- A planned tree becomes the last root, under the next number. -/
theorem roots_plant (a : Arena) (plan : NodePlan) (position : Nat) :
    (a.plant kindOf plan position).2.roots = a.roots ++ [a.slots.length] :=
  roots_plantBelow a.slots.length _ 0 plan.children _

/-- Every planned tree becomes a root. -/
theorem length_roots_plantAll (position : Nat) (plans : List NodePlan) (a : Arena) :
    (a.plantAll kindOf position plans).2.roots.length = a.roots.length + plans.length := by
  induction plans generalizing position a with
  | nil => rfl
  | cons plan rest ih =>
      have hrest := ih (position + 1) (a.plant kindOf plan position).2
      rw [roots_plant, List.length_append, List.length_singleton, Nat.add_assoc,
        Nat.add_comm 1] at hrest
      exact hrest

namespace Ordered

/-- There are no roots to order in an empty arena. -/
theorem empty : ({} : Arena).Ordered := List.Pairwise.nil

/-- A planned tree becomes the last root. -/
theorem plant (h : a.Ordered) (ha : a.Linked []) (plan : NodePlan) (position : Nat) :
    (a.plant kindOf plan position).2.Ordered := by
  rw [Ordered, roots_plant]
  refine List.pairwise_append.mpr ⟨h, List.pairwise_singleton _ _, fun r hr k hk => ?_⟩
  obtain rfl := List.mem_singleton.mp hk
  obtain ⟨n, hn, -⟩ := ha.root.mp hr
  exact lt_of_get? hn

/-- Trees planted in turn become roots in turn. -/
theorem plantAll (h : a.Ordered) (ha : a.Linked []) (position : Nat) (plans : List NodePlan) :
    (a.plantAll kindOf position plans).2.Ordered := by
  induction plans generalizing position a with
  | nil => exact h
  | cons plan rest ih =>
      exact ih (h.plant ha plan position) (ha.plant plan position) (position + 1)

/-- The roots that are left after a removal stay in order. -/
theorem removeSubtree (h : a.Ordered) (i : Nat) : (a.removeSubtree i).2.Ordered := by
  rw [Ordered, roots_removeSubtree]
  exact h.sublist List.filter_sublist

end Ordered

namespace Linked

/-- The roots are the nodes without parent, in the order in which they were inserted. -/
theorem roots_eq (h : a.Linked []) (ho : a.Ordered) :
    a.roots = (a.live.filter (·.2.parent?.isNone)).map (·.1) := by
  have hsorted : ((a.live.filter (·.2.parent?.isNone)).map (·.1)).Pairwise (· < ·) :=
    a.sorted_live.sublist (List.filter_sublist.map _)
  refine List.Perm.eq_of_pairwise (fun _ _ _ _ hij hji => absurd hij (Nat.lt_asymm hji))
    ho hsorted ?_
  refine (List.perm_ext_iff_of_nodup h.nodupRoots (hsorted.imp Nat.ne_of_lt)).mpr fun i => ?_
  rw [h.root, List.mem_map]
  constructor
  · rintro ⟨n, hn, hp⟩
    exact ⟨(i, n), List.mem_filter.mpr ⟨mem_live.mpr hn, Option.isNone_iff_eq_none.mpr hp⟩, rfl⟩
  · rintro ⟨⟨i, n⟩, hmem, rfl⟩
    obtain ⟨hlive, hp⟩ := List.mem_filter.mp hmem
    exact ⟨n, mem_live.mp hlive, Option.isNone_iff_eq_none.mp hp⟩

/-! ### One root for each node -/

/-- A node stands below one root only. The induction is on the number of the node: a walk that
visits it comes from its parent, or starts at it, and then it has none. -/
theorem root_unique (h : a.Linked []) (hr : r ∈ a.roots) (hr' : r' ∈ a.roots)
    (hj : j ∈ a.subtree r) (hj' : j ∈ a.subtree r') : r = r' := by
  induction j using Nat.strongRecOn with
  | ind j ih =>
      have hroot : ∀ {i}, i ∈ a.roots → (a.get? i).bind (·.parent?) = none := fun hi => by
        obtain ⟨n, hn, hp⟩ := h.root.mp hi
        rw [hn, Option.bind_some, hp]
      obtain ⟨m, hm, rfl | ⟨-, p, hp, hparent⟩⟩ := h.of_mem_subtree hj
      · obtain ⟨m', hm', heq | ⟨-, p, -, hparent⟩⟩ := h.of_mem_subtree hj'
        · exact heq
        · have hnone := hroot hr
          rw [hm', Option.bind_some, hparent] at hnone
          cases hnone
      · obtain ⟨m', hm', rfl | ⟨-, p', hp', hparent'⟩⟩ := h.of_mem_subtree hj'
        · have hnone := hroot hr'
          rw [hm, Option.bind_some, hparent] at hnone
          cases hnone
        · obtain rfl := Option.some.inj (hm.symm.trans hm')
          obtain rfl := Option.some.inj (hparent.symm.trans hparent')
          obtain ⟨n, hn, hmem⟩ := h.parent hm hparent
          exact ih p (h.child hn (hmem List.not_mem_nil)).1 hp hp'

/-- Every node stands below exactly one root. -/
theorem existsUnique_root (h : a.Linked []) (hj : a.get? j = some m) :
    ∃ r ∈ a.roots, j ∈ a.subtree r ∧ ∀ r' ∈ a.roots, j ∈ a.subtree r' → r' = r := by
  obtain ⟨r, hr, hmem⟩ := List.mem_flatMap.mp (h.mem_order hj)
  exact ⟨r, hr, hmem, fun r' hr' hmem' => h.root_unique hr' hr hmem' hmem⟩

/-- The walks below the roots visit nothing twice. -/
theorem nodup_order (h : a.Linked []) : a.order.Nodup := by
  refine List.nodup_flatMap.mpr ⟨fun r _ => h.nodup_subtree, ?_⟩
  refine h.nodupRoots.imp_of_mem fun {r r'} hr hr' hne j hj hj' => ?_
  exact hne (h.root_unique hr hr' hj hj')

/-- The walks below the roots together visit every node once, and nothing else. -/
theorem order_perm (h : a.Linked []) : a.order.Perm (a.live.map (·.1)) := by
  refine (List.perm_ext_iff_of_nodup h.nodup_order a.nodup_live).mpr fun j => ?_
  rw [mem_map_live]
  constructor
  · intro hj
    obtain ⟨r, -, hmem⟩ := List.mem_flatMap.mp hj
    obtain ⟨m, hm, -⟩ := h.of_mem_subtree hmem
    exact ⟨m, hm⟩
  · rintro ⟨m, hm⟩
    exact h.mem_order hm

end Linked

/-! ### Well-formed arenas -/

/-- What the parts of an arena say of each other: ids are distinct, each of them leads to its node
and no other does; the roots are the nodes without parent, in the order of their insertion; parents
and children name each other, every child once; and every node stands below exactly one root, where
the walk visits it once. -/
structure WellFormed (a : Arena) : Prop where
  distinct : ∀ {i j n m}, a.get? i = some n → a.get? j = some m → n.id = m.id → i = j
  index : ∀ {id i}, a.indexOf? id = some i ↔ ∃ n, a.get? i = some n ∧ n.id = id
  contains : ∀ {id}, a.containsId id = true ↔ ∃ i n, a.get? i = some n ∧ n.id = id
  roots : a.roots = (a.live.filter (·.2.parent?.isNone)).map (·.1)
  nodupRoots : a.roots.Nodup
  nodupChildren : ∀ {i n}, a.get? i = some n → n.childNodes.Nodup
  child : ∀ {i n j}, a.get? i = some n → j ∈ n.childNodes →
    ∃ m, a.get? j = some m ∧ m.parent? = some i
  parent : ∀ {j m i}, a.get? j = some m → m.parent? = some i →
    ∃ n, a.get? i = some n ∧ n.childNodes.count j = 1
  reached : ∀ {j m}, a.get? j = some m →
    ∃ r ∈ a.roots, (a.subtree r).count j = 1 ∧ ∀ r' ∈ a.roots, j ∈ a.subtree r' → r' = r
  visited : a.order.Perm (a.live.map (·.1))

/-- A forest whose ids lead to their nodes and whose roots are in order is well formed. -/
theorem Linked.wellFormed (h : a.Linked []) (hk : a.Keyed) (ho : a.Ordered) : a.WellFormed where
  distinct := hk.unique
  index := hk.found
  contains := hk.containsId_iff
  roots := h.roots_eq ho
  nodupRoots := h.nodupRoots
  nodupChildren := h.nodup
  child hn hj := (h.child hn hj).2.2
  parent hm hp := by
    obtain ⟨n, hn, hmem⟩ := h.parent hm hp
    exact ⟨n, hn, List.count_eq_one_of_mem (h.nodup hn) (hmem List.not_mem_nil)⟩
  reached hm := by
    obtain ⟨r, hr, hmem, hunique⟩ := h.existsUnique_root hm
    exact ⟨r, hr, List.count_eq_one_of_mem h.nodup_subtree hmem, hunique⟩
  visited := h.order_perm

end Arena

end WidgetFlow
