import Mathlib.Logic.Function.Iterate
import Mathlib.Logic.Relation
import WidgetFlow.Proofs.Tree.Planting

/-!
# The walk below a node, in pre-order

The walk below a node is a loop over a stack of numbers (`Arena.advance`), and it is cut off after
as many rounds as there are slots. This module says what the loop does if it is never cut off. As
long as children have greater numbers than their parent, it comes to an end, and then the cut was
never felt: the numbers that were visited are the node, followed by what the loop visits below each
of its children in turn (`Linked.subtree_eq_cons`).

The invariant is about the top of the stack only. `Arena.Clears` says that the loop takes some
numbers off the top of any stack and visits certain numbers meanwhile, whatever waits further down.
What clears one number after the other clears all of them (`Clears.append`), so a node is cleared
once its children are, and children are reached before their parent when one goes down from the
greatest number.

## Which arenas

`Arena.Built` lists the steps in which an arena comes about: nodes are inserted below nodes that are
there, become children of their parents, and are removed with everything below them. Mounting plans
is made of such steps (`Built.plantAll`).

## Main results

* `Built.sound`: what is built in such steps is a forest.
* `Linked.clears`, `Linked.subtree_eq_cons`: the loop and its recursion.
* `subtree_preorder`: **the walk below a node** ends, and visits the node and its descendants, each
  of them once and parents before children.
-/

namespace WidgetFlow.Arena

variable {a : Arena} {node n m : Node} {i j p c : Nat} {loose loose' : List Nat}

/-! ### Arenas that are built step by step -/

/-- The arenas that insertions and removals lead to. A node is inserted without children, as a root
or below a node that is there, and it is loose until it becomes a child of its parent. Texts become
children, and nodes change apart from their links. A node is removed when nothing is loose. -/
inductive Built : Arena → List Nat → Prop
  | empty : Built {} []
  | root {a : Arena} {m : Node} {loose : List Nat} (h : Built a loose)
      (hchildren : m.children = []) (hparent : m.parent? = none) : Built (a.insert m).2 loose
  | child {a : Arena} {m n : Node} {p : Nat} {loose : List Nat} (h : Built a loose)
      (hchildren : m.children = []) (hparent : m.parent? = some p) (hthere : a.get? p = some n) :
      Built (a.insert m).2 (a.slots.length :: loose)
  | attach {a : Arena} {m : Node} {j p : Nat} {loose : List Nat} (h : Built a loose)
      (hj : j ∈ loose) (hm : a.get? j = some m) (hparent : m.parent? = some p) :
      Built (a.addChild p (.node j)) (loose.erase j)
  | text {a : Arena} {loose : List Nat} (h : Built a loose) (i : Nat) (content : String) :
      Built (a.addChild i (.text content)) loose
  | revise {a b : Arena} {loose : List Nat} (h : Built a loose) (change : Nat → Node → Node)
      (hlength : b.slots.length = a.slots.length) (hroots : b.roots = a.roots)
      (hget : ∀ k, b.get? k = (a.get? k).map (change k))
      (hlinks : ∀ k n, (change k n).parent? = n.parent? ∧ (change k n).children = n.children) :
      Built b loose
  | remove {a : Arena} (h : Built a []) (i : Nat) : Built (a.removeSubtree i).2 []

/-- Parents have smaller numbers, also those of loose nodes. -/
def Upward (a : Arena) : Prop :=
  ∀ j m p, a.get? j = some m → m.parent? = some p → p < j

/-- An inserted node stands behind its parent. -/
theorem Upward.insert (h : a.Upward) (hparent : ∀ p, node.parent? = some p → p < a.slots.length) :
    (a.insert node).2.Upward := by
  intro j m p hm hp
  rw [get?_insert] at hm
  split at hm
  · next heq =>
      obtain rfl := Option.some.inj hm
      exact heq ▸ hparent p hp
  · exact h j m p hm hp

/-- A change that keeps the parents keeps their order. -/
theorem Upward.modify (h : a.Upward) {change : Node → Node}
    (hchange : ∀ n, (change n).parent? = n.parent?) : (a.modify i change).Upward := by
  intro j m p hm hp
  rw [get?_modify] at hm
  split at hm
  · obtain ⟨n, hn, rfl⟩ := Option.map_eq_some_iff.mp hm
    exact h j n p hn ((hchange n).symm.trans hp)
  · exact h j m p hm hp

/-- In a forest it does not count in which order the loose nodes are listed. -/
theorem Linked.of_mem_iff (h : a.Linked loose) (hloose : ∀ k, k ∈ loose' ↔ k ∈ loose) :
    a.Linked loose' where
  child hn hj := by
    obtain ⟨hlt, hj', hm⟩ := h.child hn hj
    exact ⟨hlt, fun hmem => hj' ((hloose _).mp hmem), hm⟩
  nodup := h.nodup
  parent hm hp := by
    obtain ⟨n, hn, hmem⟩ := h.parent hm hp
    exact ⟨n, hn, fun hj => hmem fun hmem' => hj ((hloose _).mpr hmem')⟩
  root := h.root
  nodupRoots := h.nodupRoots

/-- What is built step by step is a forest; the loose nodes differ from each other and are there,
and parents have smaller numbers. -/
theorem Built.sound (h : a.Built loose) :
    a.Linked loose ∧ loose.Nodup ∧ (∀ j ∈ loose, j < a.slots.length) ∧ a.Upward := by
  induction h with
  | empty =>
      refine ⟨.empty, List.nodup_nil, by simp, fun j m p hm => ?_⟩
      exact nomatch get?_empty.symm.trans hm
  | root _ hchildren hparent ih =>
      obtain ⟨hlinked, hnodup, hlt, hupward⟩ := ih
      have hnone : ∀ {p : Nat} {P : Prop}, _ = some p → P := fun hp =>
        nomatch hparent.symm.trans hp
      refine ⟨hlinked.insert hchildren (fun _ => hnone) fun _ _ => Iff.rfl, hnodup, ?_,
        hupward.insert fun _ => hnone⟩
      intro j hj
      rw [length_insert]
      exact Nat.lt_succ_of_lt (hlt j hj)
  | @child a node n q loose _ hchildren hparent hthere ih =>
      obtain ⟨hlinked, hnodup, hlt, hupward⟩ := ih
      refine ⟨hlinked.insert hchildren ?_ ?_, ?_, ?_, hupward.insert ?_⟩
      · intro p hp
        obtain rfl := Option.some.inj (hparent.symm.trans hp)
        exact ⟨⟨n, hthere⟩, List.mem_cons_self⟩
      · intro k hk
        simp [Nat.ne_of_lt hk]
      · exact List.nodup_cons.mpr ⟨fun hmem => Nat.lt_irrefl _ (hlt _ hmem), hnodup⟩
      · intro j hj
        rw [length_insert]
        obtain rfl | hj := List.mem_cons.mp hj
        · exact Nat.lt_succ_self _
        · exact Nat.lt_succ_of_lt (hlt j hj)
      · intro p hp
        obtain rfl := Option.some.inj (hparent.symm.trans hp)
        exact lt_of_get? hthere
  | attach _ hj hm hparent ih =>
      obtain ⟨hlinked, hnodup, hlt, hupward⟩ := ih
      have hfirst := hlinked.of_mem_iff fun k => (List.perm_cons_erase hj).symm.mem_iff
      have hfresh := (List.nodup_cons.mp ((List.perm_cons_erase hj).nodup_iff.mp hnodup)).1
      refine ⟨hfirst.attach hfresh hm hparent (hupward _ _ _ hm hparent), hnodup.erase _, ?_,
        hupward.modify fun _ => rfl⟩
      intro k hk
      rw [addChild, length_modify]
      exact hlt k (List.mem_of_mem_erase hk)
  | text _ i content ih =>
      obtain ⟨hlinked, hnodup, hlt, hupward⟩ := ih
      refine ⟨hlinked.addText content, hnodup, ?_, hupward.modify fun _ => rfl⟩
      intro j hj
      rw [addChild, length_modify]
      exact hlt j hj
  | @revise a b loose _ change hlength hroots hget hlinks ih =>
      obtain ⟨hlinked, hnodup, hlt, hupward⟩ := ih
      refine ⟨hlinked.of_same (fun k => ?_) hroots, hnodup, fun j hj => hlength ▸ hlt j hj, ?_⟩
      · rw [hget]
        cases a.get? k with
        | none => rfl
        | some n =>
            simp only [Option.map_some, Node.childNodes, (hlinks k n).1, (hlinks k n).2]
      · intro j m p hm hp
        rw [hget] at hm
        obtain ⟨n, hn, rfl⟩ := Option.map_eq_some_iff.mp hm
        exact hupward j n p hn ((hlinks j n).1.symm.trans hp)
  | remove _ i ih =>
      obtain ⟨hlinked, -, -, hupward⟩ := ih
      refine ⟨hlinked.removeSubtree i, List.nodup_nil, by simp, ?_⟩
      intro j m p hm hp
      obtain ⟨-, n, hn, rfl⟩ := hlinked.of_get?_removeSubtree hm
      exact hupward j n p hn hp

/-- The planned children of a node are built below it. -/
theorem Built.plantBelow {kindOf : String → Kind} (parent : Nat) (parentId : String) :
    ∀ (position : Nat) (plans : List ChildPlan) (a : Arena) (loose : List Nat), a.Built loose →
      (∃ n, a.get? parent = some n) →
      (a.plantBelow kindOf parent parentId position plans).Built loose
  | position, [], a, loose, h, _ => by
      rw [Arena.plantBelow]
      exact h
  | position, .text content :: rest, a, loose, h, ⟨n, hn⟩ => by
      rw [Arena.plantBelow]
      have htext : Grown kindOf a (a.addChild parent (.text content)) (some parent) [] :=
        .addChild (.text content)
      obtain ⟨more, hmore⟩ := htext.grown rfl hn
      exact plantBelow parent parentId (position + 1) rest _ loose (h.text parent content)
        ⟨_, hmore⟩
  | position, .node info children :: rest, a, loose, h, ⟨n, hn⟩ => by
      rw [Arena.plantBelow]
      let index := a.slots.length
      let id := info.idAt (some parentId) position
      let inserted := (a.insert (info.toNode id (kindOf info.tag) (some parent))).2
      let b := inserted.plantBelow kindOf index id 0 children
      have hgrown : Grown kindOf inserted b (some index) (entriesBelow id 0 children) :=
        plantBelow_grown index id 0 children inserted (by
          rw [length_insert]
          exact Nat.lt_succ_self _)
      obtain ⟨more, hself⟩ := hgrown.grown rfl get?_insert_self
      have hb : b.Built (index :: loose) := plantBelow index id 0 children inserted _
        (h.child rfl rfl hn) ⟨_, get?_insert_self⟩
      have hattached : (b.addChild parent (.node index)).Built loose := by
        have hchild := hb.attach List.mem_cons_self hself rfl
        rwa [List.erase_cons_head] at hchild
      have hstep := (hgrown.sprout.below (p := parent)).trans (.addChild (.node index))
        fun p hp => Option.some.inj hp ▸ lt_of_get? hn
      obtain ⟨more', hmore'⟩ := hstep.grown rfl hn
      exact plantBelow parent parentId (position + 1) rest _ loose hattached ⟨_, hmore'⟩

/-- Planned trees are built in turn. -/
theorem Built.plantAll {kindOf : String → Kind} (h : a.Built loose) (position : Nat)
    (plans : List NodePlan) : (a.plantAll kindOf position plans).2.Built loose := by
  induction plans generalizing position a with
  | nil => exact h
  | cons plan rest ih =>
      refine ih (a := (a.plant kindOf plan position).2) ?_ (position + 1)
      exact plantBelow a.slots.length _ 0 plan.children _ loose (h.root rfl rfl)
        ⟨_, get?_insert_self⟩

/-! ### Walks that end -/

/-- A walk comes to an end, with certain numbers visited. -/
def Ends (a : Arena) (w : Walk) (visited : List Nat) : Prop :=
  ∃ k, a.advance^[k] w = { stack := [], visited }

variable {w : Walk} {visited visited' numbers numbers' top top' : List Nat}

/-- A walk comes to one end only. -/
theorem Ends.unique (h : a.Ends w visited) (h' : a.Ends w visited') : visited = visited' := by
  obtain ⟨k, hk⟩ := h
  obtain ⟨k', hk'⟩ := h'
  -- a walk that is over stays as it is
  have hover : ∀ (d : Nat) (v : List Nat), a.advance^[d] ⟨[], v⟩ = ⟨[], v⟩ :=
    fun d v => Function.iterate_fixed rfl d
  obtain ⟨d, rfl⟩ | ⟨d, rfl⟩ : (∃ d, k' = d + k) ∨ ∃ d, k = d + k' := by
    rcases Nat.le_total k k' with hle | hle
    · exact .inl ⟨k' - k, by omega⟩
    · exact .inr ⟨k - k', by omega⟩
  · rw [Function.iterate_add_apply, hk, hover] at hk'
    exact congrArg Walk.visited hk'
  · rw [Function.iterate_add_apply, hk', hover] at hk
    exact (congrArg Walk.visited hk).symm

/-- A walk that is cut off has gone some rounds of the loop. -/
theorem exists_walk_eq (k : Nat) (w : Walk) : ∃ d, a.walk k w = a.advance^[d] w := by
  induction k generalizing w with
  | zero => exact ⟨0, rfl⟩
  | succ k ih =>
      rw [walk]
      split
      · exact ⟨0, rfl⟩
      · obtain ⟨d, hd⟩ := ih (a.advance w)
        exact ⟨d + 1, hd⟩

/-- In a forest the walk below a node is not cut off. -/
theorem Linked.ends (h : a.Linked loose) (i : Nat) : a.Ends { stack := [i] } (a.subtree i) := by
  cases hi : a.get? i with
  | none =>
      have hstep : a.advance ⟨[] ++ [i], []⟩ = ⟨[], []⟩ := advance_of_none hi
      rw [subtree_eq_nil hi]
      exact ⟨1, hstep⟩
  | some n =>
      obtain ⟨d, hd⟩ := exists_walk_eq (a := a) (a.slots.length + 1) { stack := [i] }
      have hempty := ((Walked.begin hi).finish h (w := { stack := [i] }) (Nat.lt_succ_self _)).1
      exact ⟨d, hd.symm.trans (congrArg (fun stack => Walk.mk stack (a.subtree i)) hempty)⟩

/-! ### The top of the stack -/

/-- Numbers on top of any stack are taken off, and certain numbers are visited meanwhile. -/
def Clears (a : Arena) (top numbers : List Nat) : Prop :=
  ∀ stack visited, ∃ k, a.advance^[k] ⟨stack ++ top, visited⟩ = ⟨stack, visited ++ numbers⟩

/-- What clears a stack ends a walk. -/
theorem Clears.ends (h : a.Clears top numbers) : a.Ends { stack := top } numbers := h [] []

/-- What lies on top is cleared first. -/
theorem Clears.append (h : a.Clears top numbers) (h' : a.Clears top' numbers') :
    a.Clears (top' ++ top) (numbers ++ numbers') := by
  intro stack visited
  obtain ⟨k, hk⟩ := h (stack ++ top') visited
  obtain ⟨k', hk'⟩ := h' stack (visited ++ numbers)
  refine ⟨k' + k, ?_⟩
  rw [Function.iterate_add_apply, ← List.append_assoc, hk, hk', List.append_assoc]

/-- Numbers that are cleared one by one are cleared together, the last of a stack first. -/
theorem Clears.flatMap {visits : Nat → List Nat} (children : List Nat)
    (h : ∀ c ∈ children, a.Clears [c] (visits c)) :
    a.Clears children.reverse (children.flatMap visits) := by
  induction children with
  | nil => exact fun stack visited => ⟨0, by simp⟩
  | cons c rest ih =>
      rw [List.reverse_cons, List.flatMap_cons]
      exact (h c List.mem_cons_self).append (ih fun d hd => h d (List.mem_cons_of_mem c hd))

/-- A node is visited before its children are cleared. -/
theorem Clears.visit (hn : a.get? i = some n) (h : a.Clears n.childNodes.reverse numbers) :
    a.Clears [i] (i :: numbers) := by
  intro stack visited
  obtain ⟨k, hk⟩ := h stack (visited ++ [i])
  refine ⟨k + 1, ?_⟩
  rw [Function.iterate_succ_apply, advance_of_get? hn, hk, List.append_assoc,
    List.singleton_append]

/-! ### The recursion -/

/-- Where something is visited there is a node to start from. -/
theorem exists_of_mem_subtree (hj : j ∈ a.subtree i) : ∃ n, a.get? i = some n := by
  cases hn : a.get? i with
  | none =>
      rw [subtree_eq_nil hn] at hj
      exact nomatch hj
  | some n => exact ⟨n, rfl⟩

namespace Linked

/-- The children of a node that is there. -/
theorem childNodes_of_get? (hn : a.get? i = some n) : a.childNodes i = n.childNodes := by
  rw [childNodes, hn]
  rfl

/-- What holds of a number if it holds of its children, holds of every number: children have greater
numbers, and there are only so many slots. -/
theorem inductionOn (h : a.Linked loose) {P : Nat → Prop}
    (hstep : ∀ i, (∀ c ∈ a.childNodes i, P c) → P i) (i : Nat) : P i := by
  induction hk : a.slots.length - i using Nat.strongRecOn generalizing i with
  | ind k ih =>
      refine hstep i fun c hc => ?_
      cases hn : a.get? i with
      | none =>
          rw [childNodes, hn] at hc
          exact absurd hc List.not_mem_nil
      | some n =>
          rw [childNodes_of_get? hn] at hc
          have hlt := (h.child hn hc).1
          have hle := lt_of_get? hn
          exact ih (a.slots.length - c) (by omega) c rfl

/-- A number is cleared off any stack by the walk below it. -/
theorem clears (h : a.Linked loose) (i : Nat) : a.Clears [i] (a.subtree i) := by
  induction i using h.inductionOn with
  | hstep i hchildren =>
      cases hn : a.get? i with
      | none =>
          intro stack visited
          rw [subtree_eq_nil hn, List.append_nil]
          exact ⟨1, advance_of_none hn⟩
      | some n =>
          rw [childNodes_of_get? hn] at hchildren
          have hnode := (Clears.flatMap n.childNodes hchildren).visit hn
          rwa [(h.ends i).unique hnode.ends]

/-- The walk below a node visits the node, and then what the walks below its children visit, in the
order of the children. -/
theorem subtree_eq_cons (h : a.Linked loose) (hn : a.get? i = some n) :
    a.subtree i = i :: n.childNodes.flatMap a.subtree :=
  (h.ends i).unique ((Clears.flatMap n.childNodes fun c _ => h.clears c).visit hn).ends

/-- What is visited below a node that is visited, is visited in the same order. -/
theorem subtree_sublist (h : a.Linked loose) (hp : p ∈ a.subtree i) :
    (a.subtree p).Sublist (a.subtree i) := by
  induction i using h.inductionOn with
  | hstep i hchildren =>
      obtain ⟨n, hn⟩ := exists_of_mem_subtree hp
      rw [childNodes_of_get? hn] at hchildren
      rw [h.subtree_eq_cons hn] at hp ⊢
      obtain rfl | hp := List.mem_cons.mp hp
      · rw [h.subtree_eq_cons hn]
      · obtain ⟨c, hc, hp⟩ := List.mem_flatMap.mp hp
        have hbelow : (a.subtree c).Sublist (n.childNodes.flatMap a.subtree) := by
          obtain ⟨before, behind, heq⟩ := List.append_of_mem hc
          rw [heq, List.flatMap_append, List.flatMap_cons]
          exact (List.sublist_append_left _ _).trans (List.sublist_append_right _ _)
        exact ((hchildren c hc hp).trans hbelow).cons i

/-- Parents are visited before their children. -/
theorem pair_sublist (h : a.Linked loose) (hp : p ∈ a.subtree i) (hc : c ∈ a.childNodes p) :
    [p, c].Sublist (a.subtree i) := by
  refine List.Sublist.trans ?_ (h.subtree_sublist hp)
  obtain ⟨n, hn, -⟩ := h.of_mem_subtree hp
  rw [childNodes_of_get? hn] at hc
  rw [h.subtree_eq_cons hn]
  obtain ⟨-, -, m, hm, -⟩ := h.child hn hc
  exact (List.singleton_sublist.mpr
    (List.mem_flatMap.mpr ⟨c, hc, h.mem_subtree_self hm⟩)).cons_cons p

/-- The walk below a node visits what can be reached from child to child. -/
theorem mem_subtree_iff_reaches (h : a.Linked loose) :
    j ∈ a.subtree i ↔ (∃ n, a.get? i = some n) ∧
      Relation.ReflTransGen (fun p c => c ∈ a.childNodes p) i j := by
  constructor
  · intro hj
    induction i using h.inductionOn with
    | hstep i hchildren =>
        obtain ⟨n, hn⟩ := exists_of_mem_subtree hj
        refine ⟨⟨n, hn⟩, ?_⟩
        rw [h.subtree_eq_cons hn] at hj
        obtain rfl | hj := List.mem_cons.mp hj
        · exact .refl
        · obtain ⟨c, hc, hj⟩ := List.mem_flatMap.mp hj
          rw [← childNodes_of_get? hn] at hc
          exact .head hc (hchildren c hc hj).2
  · rintro ⟨⟨n, hn⟩, hreaches⟩
    induction hreaches with
    | refl => exact h.mem_subtree_self hn
    | tail _ hc ih =>
        obtain ⟨m, hm, -⟩ := h.of_mem_subtree ih
        rw [childNodes_of_get? hm] at hc
        exact h.mem_subtree_child ih hm hc

end Linked

/-- **The walk below a node.** In an arena that was built by insertions below nodes that are there
and by removals, the loop comes to an end with the walk below the node visited. There is nothing
below a number without node. Otherwise the walk is the node, followed by the walks below its
children in order; it meets the node and its descendants, each of them once and every parent before
its children. -/
theorem subtree_preorder (h : a.Built loose) (i : Nat) :
    (∃ k, a.advance^[k] { stack := [i] } = { stack := [], visited := a.subtree i }) ∧
    (a.get? i = none → a.subtree i = []) ∧
    (∀ n, a.get? i = some n → a.subtree i = i :: n.childNodes.flatMap a.subtree) ∧
    (a.subtree i).Nodup ∧
    (∀ j, j ∈ a.subtree i ↔ (∃ n, a.get? i = some n) ∧
      Relation.ReflTransGen (fun p c => c ∈ a.childNodes p) i j) ∧
    (∀ p c, p ∈ a.subtree i → c ∈ a.childNodes p → [p, c].Sublist (a.subtree i)) := by
  obtain ⟨hlinked, -⟩ := h.sound
  exact ⟨hlinked.ends i, subtree_eq_nil, fun n hn => hlinked.subtree_eq_cons hn,
    hlinked.nodup_subtree, fun j => hlinked.mem_subtree_iff_reaches,
    fun p c hp hc => hlinked.pair_sublist hp hc⟩

/-- A node without anything but its links. -/
def sprig (id : String) (parent? : Option Nat) : Node :=
  { id, tag := "text", kind := .text, parent? }

/-- A root with two children, of which the first had two children and has lost one of them. -/
def grove : Arena :=
  let a := (({} : Arena).insert (sprig "root" none)).2
  let a := (a.insert (sprig "first" (some 0))).2
  let a := ((a.insert (sprig "lost" (some 1))).2.addChild 1 (.node 2)).addChild 1 (.text "kept")
  let a := ((a.insert (sprig "left" (some 1))).2.addChild 1 (.node 3)).addChild 0 (.node 1)
  let a := (a.insert (sprig "second" (some 0))).2.addChild 0 (.node 4)
  (a.removeSubtree 2).2

/-- The walk below the root, and below the number of the node that was removed. -/
theorem subtree_preorder_grove :
    grove.Built [] ∧ grove.subtree 0 = [0, 1, 3, 4] ∧
      grove.subtree 0 = 0 :: [1, 4].flatMap grove.subtree ∧ grove.subtree 2 = [] := by
  have hbuilt : grove.Built [] := by
    refine .remove ?_ 2
    have hfirst := (Built.empty.root (m := sprig "root" none) rfl rfl).child
      (m := sprig "first" (some 0)) rfl rfl rfl
    have hlost := ((hfirst.child (m := sprig "lost" (some 1)) rfl rfl rfl).attach (j := 2)
      List.mem_cons_self rfl rfl).text 1 "kept"
    have hleft := ((hlost.child (m := sprig "left" (some 1)) rfl rfl rfl).attach (j := 3)
      List.mem_cons_self rfl rfl).attach (j := 1) List.mem_cons_self rfl rfl
    exact (hleft.child (m := sprig "second" (some 0)) rfl rfl rfl).attach (j := 4)
      List.mem_cons_self rfl rfl
  obtain ⟨-, hempty, -⟩ := subtree_preorder hbuilt 2
  obtain ⟨-, -, hnode, -⟩ := subtree_preorder hbuilt 0
  exact ⟨hbuilt, rfl, hnode _ rfl, hempty rfl⟩

end WidgetFlow.Arena
