import WidgetFlow.Proofs.Tree.Links
import WidgetFlow.Proofs.Tree.Place

/-!
# Arenas of nodes that are named by their places

If only plans without ids of their own are mounted, then every root has the automatic id of some
position, and every other node is named below its parent (`Arena.AutoNamed`). So the id of a node
tells the root that the node stands below, as long as this root is there.

## Main results

* `AutoNamed.plantAll`, `AutoNamed.removeSubtree`: mounting and removing keep it that way.
* `AutoNamed.within_root`: every node is named within the id of a root.
-/

namespace WidgetFlow.Arena

variable {a b : Arena} {bound bound' : Nat} {node m n : Node} {i j : Nat}
  {kindOf : String → Kind}

/-- Every root is named by a position below the bound, and every other node below its parent. -/
structure AutoNamed (a : Arena) (bound : Nat) : Prop where
  root : ∀ {i n}, a.get? i = some n → n.parent? = none →
    ∃ k tag, k < bound ∧ '/' ∉ tag.toList ∧ n.id = placeId none k tag
  child : ∀ {i j m}, a.get? j = some m → m.parent? = some i →
    ∃ n, a.get? i = some n ∧ Below n.id m.id

namespace AutoNamed

/-- There is nothing to name in an empty arena. -/
theorem empty (bound : Nat) : ({} : Arena).AutoNamed bound where
  root h := nomatch get?_empty.symm.trans h
  child h := nomatch get?_empty.symm.trans h

/-- A position below a bound is below a greater one. -/
theorem mono (h : a.AutoNamed bound) (hle : bound ≤ bound') : a.AutoNamed bound' where
  root hn hp := by
    obtain ⟨k, tag, hk, htag, hid⟩ := h.root hn hp
    exact ⟨k, tag, Nat.lt_of_lt_of_le hk hle, htag, hid⟩
  child := h.child

/-- Changes that keep the ids and the parents keep the names. -/
theorem of_same (h : a.AutoNamed bound)
    (hsame : ∀ k, (b.get? k).map (fun n => (n.id, n.parent?)) =
      (a.get? k).map fun n => (n.id, n.parent?)) : b.AutoNamed bound := by
  have hback : ∀ {c c' : Arena}, (∀ k, (c.get? k).map (fun n => (n.id, n.parent?)) =
      (c'.get? k).map fun n => (n.id, n.parent?)) → ∀ {k n}, c.get? k = some n →
      ∃ n', c'.get? k = some n' ∧ n'.id = n.id ∧ n'.parent? = n.parent? := by
    intro c c' hsame k n hn
    have hk := hsame k
    rw [hn] at hk
    obtain ⟨n', hn', heq⟩ := Option.map_eq_some_iff.mp hk.symm
    obtain ⟨hid, hp⟩ := Prod.mk.inj heq
    exact ⟨n', hn', hid, hp⟩
  constructor
  · intro i n hn hp
    obtain ⟨n', hn', hid, hparent⟩ := hback hsame hn
    rw [← hid]
    exact h.root hn' (hparent.trans hp)
  · intro i j m hm hp
    obtain ⟨m', hm', hid, hparent⟩ := hback hsame hm
    obtain ⟨n, hn, hbelow⟩ := h.child hm' (hparent.trans hp)
    obtain ⟨n', hn', hnid, -⟩ := hback (fun k => (hsame k).symm) hn
    refine ⟨n', hn', ?_⟩
    rwa [hnid, ← hid]

/-- A new child of a node keeps the names. -/
theorem addChild (h : a.AutoNamed bound) (i : Nat) (child : Child) :
    (a.addChild i child).AutoNamed bound := by
  refine h.of_same fun k => ?_
  rw [Arena.addChild, get?_modify]
  split
  · cases a.get? k <;> rfl
  · rfl

/-- A node that is named by its place is inserted. -/
theorem insert (h : a.AutoNamed bound)
    (hroot : node.parent? = none →
      ∃ k tag, k < bound ∧ '/' ∉ tag.toList ∧ node.id = placeId none k tag)
    (hchild : ∀ p, node.parent? = some p → ∃ n, a.get? p = some n ∧ Below n.id node.id) :
    (a.insert node).2.AutoNamed bound := by
  have hold : ∀ {k x}, (a.insert node).2.get? k = some x → x = node ∨ a.get? k = some x := by
    intro k x hx
    rw [get?_insert] at hx
    split at hx
    · exact .inl (Option.some.inj hx).symm
    · exact .inr hx
  have hnew : ∀ {k x}, a.get? k = some x → (a.insert node).2.get? k = some x := by
    intro k x hx
    rw [get?_insert_of_lt (lt_of_get? hx), hx]
  constructor
  · intro i n hn hp
    obtain rfl | hn := hold hn
    · exact hroot hp
    · exact h.root hn hp
  · intro i j m hm hp
    obtain rfl | hm := hold hm
    · obtain ⟨n, hn, hbelow⟩ := hchild i hp
      exact ⟨n, hnew hn, hbelow⟩
    · obtain ⟨n, hn, hbelow⟩ := h.child hm hp
      exact ⟨n, hnew hn, hbelow⟩

end AutoNamed

/-- The planned children of a node are named below it. -/
theorem plantBelow_autoNamed (parent : Nat) (parentId : String) :
    ∀ (position : Nat) (plans : List ChildPlan) (a : Arena), anonymousBelow plans = true →
      a.AutoNamed bound → a.Has parent parentId →
      (a.plantBelow kindOf parent parentId position plans).AutoNamed bound
  | position, [], a, _, h, _ => by
      rw [plantBelow]
      exact h
  | position, .text content :: rest, a, hplans, h, ⟨n, hn, hid⟩ => by
      rw [anonymousBelow] at hplans
      rw [plantBelow]
      have htext : Grown kindOf a (a.addChild parent (.text content)) (some parent) [] :=
        .addChild (.text content)
      obtain ⟨more, hmore⟩ := htext.grown rfl hn
      exact plantBelow_autoNamed parent parentId (position + 1) rest _ hplans
        (h.addChild parent _) ⟨_, hmore, hid⟩
  | position, .node info children :: rest, a, hplans, h, ⟨n, hn, hid⟩ => by
      rw [anonymousBelow, Bool.and_eq_true, Bool.and_eq_true] at hplans
      obtain ⟨⟨hinfo, hchildren⟩, hrest⟩ := hplans
      rw [plantBelow]
      let id := info.idAt (some parentId) position
      let inserted := (a.insert (info.toNode id (kindOf info.tag) (some parent))).2
      let b := inserted.plantBelow kindOf a.slots.length id 0 children
      have hplace : id = placeId (some parentId) position info.tag :=
        (info.idAt_of_isAnonymous hinfo (some parentId) position).1
      have hbelow : Below n.id id := by
        rw [hid, hplace]
        exact below_placeId parentId position info.tag
      have hinserted : inserted.AutoNamed bound :=
        h.insert (absurd · (Option.some_ne_none parent)) fun p hp =>
          ⟨n, Option.some.inj hp ▸ hn, hbelow⟩
      have hb : b.AutoNamed bound := plantBelow_autoNamed a.slots.length id 0 children inserted
        hchildren hinserted ⟨_, get?_insert_self, rfl⟩
      -- the parent is not among the new nodes, and only gets the new child
      have hgrown : Grown kindOf inserted b (some a.slots.length) (entriesBelow id 0 children) :=
        plantBelow_grown a.slots.length id 0 children inserted (by
          rw [length_insert]
          exact Nat.lt_succ_self _)
      have hchild := (hgrown.sprout.below (p := parent)).trans (.addChild (.node a.slots.length))
        fun p hp => Option.some.inj hp ▸ lt_of_get? hn
      obtain ⟨more, hmore⟩ := hchild.grown rfl hn
      exact plantBelow_autoNamed parent parentId (position + 1) rest _ hrest
        (hb.addChild parent _) ⟨_, hmore, hid⟩

namespace AutoNamed

/-- Planned trees without ids of their own are named by their places. -/
theorem plantAll (h : a.AutoNamed bound) {plans : List NodePlan} {position : Nat}
    (hplans : ∀ plan ∈ plans, plan.isAnonymous = true) (hbound : position + plans.length ≤ bound) :
    (a.plantAll kindOf position plans).2.AutoNamed bound := by
  induction plans generalizing position a with
  | nil => exact h
  | cons plan rest ih =>
      rw [List.length_cons] at hbound
      refine ih (a := (a.plant kindOf plan position).2) ?_
        (fun p hp => hplans p (List.mem_cons_of_mem plan hp)) (by omega)
      have hplan := hplans plan List.mem_cons_self
      rw [NodePlan.isAnonymous, Bool.and_eq_true] at hplan
      obtain ⟨hid, htag⟩ := plan.info.idAt_of_isAnonymous hplan.1 none position
      refine plantBelow_autoNamed a.slots.length _ 0 plan.children _ hplan.2
        (h.insert (fun _ => ?_) fun p hp => absurd hp.symm (Option.some_ne_none p))
        ⟨_, get?_insert_self, rfl⟩
      exact ⟨position, plan.info.tag, by omega, htag, hid⟩

/-- A removal takes what is named below the removed node along. -/
theorem removeSubtree (h : a.AutoNamed bound) (ha : a.Linked []) (i : Nat) :
    (a.removeSubtree i).2.AutoNamed bound := by
  constructor
  · intro k m hm hp
    obtain ⟨-, n, hn, rfl⟩ := ha.of_get?_removeSubtree hm
    obtain ⟨position, tag, hlt, htag, hid⟩ := h.root hn hp
    exact ⟨position, tag, hlt, htag, hid⟩
  · intro k j m hm hp
    obtain ⟨hj, n, hn, rfl⟩ := ha.of_get?_removeSubtree hm
    obtain ⟨p, hparent, hbelow⟩ := h.child hn hp
    obtain ⟨p', hp', hid⟩ := ha.has_parent_removeSubtree hn hj hp ⟨p, hparent, rfl⟩
    exact ⟨p', hp', by rw [hid]; exact hbelow⟩

/-- Every node is named within the id of a root that is there. -/
theorem within_root (h : a.AutoNamed bound) (ha : a.Linked []) (hm : a.get? j = some m) :
    ∃ i n, a.get? i = some n ∧ n.parent? = none ∧ Within n.id m.id := by
  induction j using Nat.strongRecOn generalizing m with
  | ind j ih =>
      cases hp : m.parent? with
      | none => exact ⟨j, m, hm, hp, .inl rfl⟩
      | some p =>
          -- parents have smaller numbers
          obtain ⟨n, hn, hbelow⟩ := h.child hm hp
          obtain ⟨n', hn', hmem⟩ := ha.parent hm hp
          obtain ⟨i, r, hr, hroot, hwithin⟩ :=
            ih p (ha.child hn' (hmem List.not_mem_nil)).1 hn
          exact ⟨i, r, hr, hroot, hwithin.trans (.inr hbelow)⟩

end AutoNamed

end WidgetFlow.Arena
