import WidgetFlow.Proofs.Tree.Arena
import Mathlib.Data.List.Nodup

/-!
# The nodes of an arena form a forest

`Arena.Linked a loose` says that the nodes of an arena and their numbers fit together: children are
there, know their parent and have greater numbers, every node with a parent is among its children,
and the roots are the nodes without parent. A node that is being mounted is inserted first and
becomes a child of its parent only when everything below it is mounted; `loose` lists the nodes
that are between the two.

## Main results

* `Linked.insert`, `Linked.attach`, `Linked.addText`, `Linked.revise`, `Linked.removeSubtree`: what
  happens to a forest leaves a forest.
* `Linked.mem_subtree_iff`, `Linked.nodup_subtree`: the walk below a node visits exactly the node and
  its descendants (`Arena.Beneath`), and visits each of them once.
* `Linked.mem_order`: the roots and what is below them is everything.
-/

namespace WidgetFlow.Arena

variable {a b : Arena} {node n m : Node} {i j k p r : Nat} {loose loose' : List Nat}

/-- The numbers of the nodes fit together, apart from nodes that are not yet among the children of
their parent. -/
structure Linked (a : Arena) (loose : List Nat) : Prop where
  child : ∀ {i j n}, a.get? i = some n → j ∈ n.childNodes →
    i < j ∧ j ∉ loose ∧ ∃ m, a.get? j = some m ∧ m.parent? = some i
  nodup : ∀ {i n}, a.get? i = some n → n.childNodes.Nodup
  parent : ∀ {i j m}, a.get? j = some m → m.parent? = some i →
    ∃ n, a.get? i = some n ∧ (j ∉ loose → j ∈ n.childNodes)
  root : ∀ {i}, i ∈ a.roots ↔ ∃ n, a.get? i = some n ∧ n.parent? = none
  nodupRoots : a.roots.Nodup

namespace Linked

/-- An empty arena is a forest. -/
theorem empty : ({} : Arena).Linked [] where
  child h := nomatch get?_empty.symm.trans h
  nodup h := nomatch get?_empty.symm.trans h
  parent h := nomatch get?_empty.symm.trans h
  root {i} := by
    constructor
    · exact fun h => nomatch h
    · rintro ⟨n, h, -⟩
      exact nomatch get?_empty.symm.trans h
  nodupRoots := List.nodup_nil

/-- The parent of a child is the node that it is a child of. -/
theorem parent?_of_mem (h : a.Linked loose) (hn : a.get? i = some n) (hj : j ∈ n.childNodes) :
    (a.get? j).bind (·.parent?) = some i := by
  obtain ⟨-, -, m, hm, hp⟩ := h.child hn hj
  rw [hm, Option.bind_some, hp]

/-! ### Mounting -/

/-- A node without children is inserted. If it has a parent, the parent has to be there, and the
node is loose from now on. -/
theorem insert (h : a.Linked loose) (hchildren : node.children = [])
    (hparent : ∀ p, node.parent? = some p → (∃ n, a.get? p = some n) ∧ a.slots.length ∈ loose')
    (hkeep : ∀ k, k < a.slots.length → (k ∈ loose' ↔ k ∈ loose)) :
    (a.insert node).2.Linked loose' := by
  have hnone : node.childNodes = [] := by rw [Node.childNodes, hchildren, List.filterMap_nil]
  have hold : ∀ {k x}, (a.insert node).2.get? k = some x →
      (k = a.slots.length ∧ x = node) ∨ a.get? k = some x := by
    intro k x hk
    rw [get?_insert] at hk
    split at hk
    · next heq => exact .inl ⟨heq, (Option.some.inj hk).symm⟩
    · exact .inr hk
  have hnew : ∀ {k x}, a.get? k = some x → (a.insert node).2.get? k = some x := by
    intro k x hk
    rw [get?_insert_of_lt (lt_of_get? hk), hk]
  have hroots : (a.insert node).2.roots =
      if node.parent?.isNone then a.roots ++ [a.slots.length] else a.roots := rfl
  constructor
  · intro i j n hi hj
    obtain ⟨-, rfl⟩ | hi := hold hi
    · rw [hnone] at hj
      cases hj
    · obtain ⟨hlt, hloose, m, hm, hp⟩ := h.child hi hj
      exact ⟨hlt, fun hmem => hloose ((hkeep j (lt_of_get? hm)).mp hmem), m, hnew hm, hp⟩
  · intro i n hi
    obtain ⟨-, rfl⟩ | hi := hold hi
    · rw [hnone]
      exact List.nodup_nil
    · exact h.nodup hi
  · intro i j m hj hp
    obtain ⟨rfl, rfl⟩ | hj := hold hj
    · obtain ⟨⟨n, hn⟩, hmem⟩ := hparent i hp
      exact ⟨n, hnew hn, fun hloose => absurd hmem hloose⟩
    · obtain ⟨n, hn, hmem⟩ := h.parent hj hp
      exact ⟨n, hnew hn, fun hloose => hmem fun hj' =>
        hloose ((hkeep j (lt_of_get? hj)).mpr hj')⟩
  · intro i
    have hiff : i ∈ (a.insert node).2.roots ↔
        i ∈ a.roots ∨ (i = a.slots.length ∧ node.parent? = none) := by
      rw [hroots]
      cases node.parent? with
      | none =>
          rw [if_pos (by rfl), List.mem_append, List.mem_singleton, and_iff_left rfl]
      | some p =>
          rw [if_neg (by simp)]
          exact ⟨.inl, fun h => h.resolve_right fun hi => by cases hi.2⟩
    rw [hiff, h.root]
    constructor
    · rintro (⟨n, hn, hp⟩ | ⟨rfl, hp⟩)
      · exact ⟨n, hnew hn, hp⟩
      · exact ⟨node, by rw [get?_insert, if_pos rfl], hp⟩
    · rintro ⟨n, hn, hp⟩
      obtain ⟨rfl, rfl⟩ | hn := hold hn
      · exact .inr ⟨rfl, hp⟩
      · exact .inl ⟨n, hn, hp⟩
  · rw [hroots]
    split
    · refine List.nodup_append.mpr ⟨h.nodupRoots, by simp, ?_⟩
      rintro x hx y hy rfl
      obtain ⟨n, hn, -⟩ := h.root.mp hx
      exact absurd (List.mem_singleton.mp hy) (Nat.ne_of_lt (lt_of_get? hn))
    · exact h.nodupRoots

/-- A loose node becomes the last child of its parent. -/
theorem attach (h : a.Linked (j :: loose)) (hj : j ∉ loose) (hm : a.get? j = some m)
    (hp : m.parent? = some i) (hlt : i < j) : (a.addChild i (.node j)).Linked loose := by
  obtain ⟨n, hn, -⟩ := h.parent hm hp
  have hget : ∀ k, (a.addChild i (.node j)).get? k =
      if i = k then (a.get? k).map fun n => { n with children := n.children ++ [.node j] }
      else a.get? k := fun k => get?_modify
  have hchildren : ({ n with children := n.children ++ [.node j] } : Node).childNodes =
      n.childNodes ++ [j] := by
    rw [Node.childNodes, List.filterMap_append]
    rfl
  have hother : ∀ {k x}, k ≠ i →
      (a.get? k = some x ↔ (a.addChild i (.node j)).get? k = some x) := by
    intro k x hk
    rw [hget, if_neg (Ne.symm hk)]
  have hself : (a.addChild i (.node j)).get? i =
      some { n with children := n.children ++ [.node j] } := by
    rw [hget, if_pos rfl, hn]
    rfl
  -- every node is there as before, with the same parent
  have hkept : ∀ {k x}, a.get? k = some x →
      ∃ x', (a.addChild i (.node j)).get? k = some x' ∧ x'.parent? = x.parent? := by
    intro k x hk
    by_cases hki : k = i
    · subst hki
      obtain rfl := Option.some.inj (hn.symm.trans hk)
      exact ⟨_, hself, rfl⟩
    · exact ⟨x, (hother hki).mp hk, rfl⟩
  have hback : ∀ {k x'}, (a.addChild i (.node j)).get? k = some x' →
      ∃ x, a.get? k = some x ∧ x'.parent? = x.parent? ∧
        (x'.childNodes = x.childNodes ∨ (k = i ∧ x'.childNodes = x.childNodes ++ [j])) := by
    intro k x' hk
    by_cases hki : k = i
    · subst hki
      obtain rfl := Option.some.inj (hself.symm.trans hk)
      exact ⟨n, hn, rfl, .inr ⟨rfl, hchildren⟩⟩
    · exact ⟨x', (hother hki).mpr hk, rfl, .inl rfl⟩
  constructor
  · intro k l x' hk hl
    obtain ⟨x, hx, -, hsame⟩ := hback hk
    have hl' : l ∈ x.childNodes ∨ (k = i ∧ l = j) := by
      obtain heq | ⟨rfl, heq⟩ := hsame
      · exact .inl (heq ▸ hl)
      · rw [heq, List.mem_append, List.mem_singleton] at hl
        exact hl.imp id fun hl => ⟨rfl, hl⟩
    obtain hl' | ⟨rfl, rfl⟩ := hl'
    · obtain ⟨hlt, hloose, y, hy, hyp⟩ := h.child hx hl'
      obtain ⟨y', hy', hyp'⟩ := hkept hy
      exact ⟨hlt, fun hmem => hloose (List.mem_cons_of_mem j hmem), y', hy', hyp'.trans hyp⟩
    · obtain ⟨m', hm', hp'⟩ := hkept hm
      exact ⟨hlt, hj, m', hm', hp'.trans hp⟩
  · intro k x' hk
    obtain ⟨x, hx, -, heq | ⟨-, heq⟩⟩ := hback hk
    · rw [heq]
      exact h.nodup hx
    · rw [heq]
      refine List.nodup_append.mpr ⟨h.nodup hx, by simp, ?_⟩
      rintro y hy z hz rfl
      obtain rfl := List.mem_singleton.mp hz
      exact (h.child hx hy).2.1 List.mem_cons_self
  · intro k l y' hl hyp
    obtain ⟨y, hy, hpar, -⟩ := hback hl
    obtain ⟨x, hx, hmem⟩ := h.parent hy (hpar.symm.trans hyp)
    obtain ⟨x', hx', -⟩ := hkept hx
    obtain ⟨x₀, hx₀, -, hsame⟩ := hback hx'
    obtain rfl := Option.some.inj (hx₀.symm.trans hx)
    refine ⟨x', hx', fun hloose => ?_⟩
    by_cases hlj : l = j
    · subst hlj
      obtain rfl := Option.some.inj (hm.symm.trans hy)
      obtain rfl : i = k := Option.some.inj (hp.symm.trans (hpar.symm.trans hyp))
      obtain rfl := Option.some.inj (hself.symm.trans hx')
      rw [hchildren]
      exact List.mem_append_right _ List.mem_cons_self
    · have hl' := hmem fun hmem' => (List.mem_cons.mp hmem').elim hlj hloose
      obtain heq | ⟨-, heq⟩ := hsame
      · exact heq ▸ hl'
      · rw [heq]
        exact List.mem_append_left _ hl'
  · intro k
    change k ∈ a.roots ↔ _
    rw [h.root]
    constructor
    · rintro ⟨x, hx, hxp⟩
      obtain ⟨x', hx', hpar⟩ := hkept hx
      exact ⟨x', hx', hpar.trans hxp⟩
    · rintro ⟨x', hx', hxp⟩
      obtain ⟨x, hx, hpar, -⟩ := hback hx'
      exact ⟨x, hx, hpar.symm.trans hxp⟩
  · exact h.nodupRoots

/-- Changes that keep the parent and the children of every node leave a forest. -/
theorem of_same (h : a.Linked loose)
    (hplace : ∀ k, (b.get? k).map (fun n => (n.parent?, n.childNodes)) =
      (a.get? k).map fun n => (n.parent?, n.childNodes))
    (hroots : b.roots = a.roots) : b.Linked loose := by
  have hback : ∀ {k x'}, b.get? k = some x' →
      ∃ x, a.get? k = some x ∧ x'.parent? = x.parent? ∧ x'.childNodes = x.childNodes := by
    intro k x' hk
    have hpair := hplace k
    rw [hk] at hpair
    cases hx : a.get? k with
    | none =>
        rw [hx] at hpair
        exact nomatch hpair
    | some x =>
        rw [hx] at hpair
        obtain ⟨hpar, hch⟩ := Prod.mk.inj (Option.some.inj hpair)
        exact ⟨x, rfl, hpar, hch⟩
  have hkept : ∀ {k x}, a.get? k = some x →
      ∃ x', b.get? k = some x' ∧ x'.parent? = x.parent? ∧ x'.childNodes = x.childNodes := by
    intro k x hk
    have hpair := hplace k
    rw [hk] at hpair
    cases hx : b.get? k with
    | none =>
        rw [hx] at hpair
        exact nomatch hpair
    | some x' =>
        rw [hx] at hpair
        obtain ⟨hpar, hch⟩ := Prod.mk.inj (Option.some.inj hpair)
        exact ⟨x', rfl, hpar, hch⟩
  constructor
  · intro k l x' hk hl
    obtain ⟨x, hx, -, hch⟩ := hback hk
    obtain ⟨hlt, hloose, y, hy, hyp⟩ := h.child hx (hch ▸ hl)
    obtain ⟨y', hy', hpar, -⟩ := hkept hy
    exact ⟨hlt, hloose, y', hy', hpar.trans hyp⟩
  · intro k x' hk
    obtain ⟨x, hx, -, hch⟩ := hback hk
    exact hch ▸ h.nodup hx
  · intro k l y' hl hyp
    obtain ⟨y, hy, hpar, -⟩ := hback hl
    obtain ⟨x, hx, hmem⟩ := h.parent hy (hpar.symm.trans hyp)
    obtain ⟨x', hx', -, hch⟩ := hkept hx
    exact ⟨x', hx', fun hloose => hch ▸ hmem hloose⟩
  · intro k
    rw [hroots, h.root]
    constructor
    · rintro ⟨x, hx, hxp⟩
      obtain ⟨x', hx', hpar, -⟩ := hkept hx
      exact ⟨x', hx', hpar.trans hxp⟩
    · rintro ⟨x', hx', hxp⟩
      obtain ⟨x, hx, hpar, -⟩ := hback hx'
      exact ⟨x, hx, hpar.symm.trans hxp⟩
  · exact hroots ▸ h.nodupRoots

/-- A text becomes the last child of a node. -/
theorem addText (h : a.Linked loose) (content : String) :
    (a.addChild i (.text content)).Linked loose := by
  refine h.of_same (fun k => ?_) rfl
  rw [addChild, get?_modify]
  split
  · cases a.get? k with
    | none =>
        rfl
    | some n =>
        refine congrArg some (Prod.ext rfl ?_)
        change (n.children ++ [Child.text content]).filterMap Child.node? = n.childNodes
        rw [List.filterMap_append]
        exact List.append_nil _
  · rfl

end Linked

/-! ### Walking -/

/-- A walk with nothing waiting is over. -/
theorem walk_nil {visited : List Nat} (k : Nat) : a.walk k ⟨[], visited⟩ = ⟨[], visited⟩ := by
  cases k <;> rfl

/-- A walk with something waiting goes on. -/
theorem walk_concat {stack visited : List Nat} (k : Nat) :
    a.walk (k + 1) ⟨stack ++ [i], visited⟩ = a.walk k (a.advance ⟨stack ++ [i], visited⟩) :=
  if_neg (by simp)

/-- A number without node is skipped. -/
theorem advance_of_none {stack visited : List Nat} (hi : a.get? i = none) :
    a.advance ⟨stack ++ [i], visited⟩ = ⟨stack, visited⟩ := by
  simp [advance, hi]

/-- A node is visited, and its children come next, in order. -/
theorem advance_of_get? {stack visited : List Nat} (hi : a.get? i = some n) :
    a.advance ⟨stack ++ [i], visited⟩ =
      ⟨stack ++ n.childNodes.reverse, visited ++ [i]⟩ := by
  simp [advance, childNodes, hi]

/-- How far a walk from a number has come: what has been visited, and what waits. No number is there
twice, and every number but the first one has its parent among those visited. -/
structure Walked (a : Arena) (r : Nat) (seen waiting : List Nat) : Prop where
  nodup : (seen ++ waiting).Nodup
  start : r ∈ seen ++ waiting
  place : ∀ {j}, j ∈ seen ++ waiting → ∃ m, a.get? j = some m ∧
    (j = r ∨ r < j ∧ ∃ p ∈ seen, m.parent? = some p)
  closed : ∀ {i n j}, i ∈ seen → a.get? i = some n → j ∈ n.childNodes → j ∈ seen ++ waiting

namespace Walked

variable {seen waiting : List Nat}

/-- A walk starts at a node. -/
theorem begin (hr : a.get? r = some n) : a.Walked r [] [r] where
  nodup := by simp
  start := List.mem_singleton_self r
  place hj := ⟨n, List.mem_singleton.mp hj ▸ hr, .inl (List.mem_singleton.mp hj)⟩
  closed h := nomatch h

/-- Visiting a number keeps what is known of a walk. -/
theorem visit (h : a.Linked loose) (hw : a.Walked r seen (i :: waiting)) (hi : a.get? i = some n) :
    a.Walked r (seen ++ [i]) (n.childNodes ++ waiting) := by
  have hperm : (seen ++ [i] ++ (n.childNodes ++ waiting)).Perm
      (n.childNodes ++ (seen ++ i :: waiting)) := by
    rw [← List.append_assoc, show n.childNodes ++ (seen ++ i :: waiting) =
      n.childNodes ++ (seen ++ [i]) ++ waiting by simp]
    exact List.perm_append_comm.append_right waiting
  have hmem : ∀ {j}, j ∈ seen ++ [i] ++ (n.childNodes ++ waiting) ↔
      j ∈ n.childNodes ∨ j ∈ seen ++ i :: waiting := fun {j} => by
    rw [hperm.mem_iff, List.mem_append]
  have hin : i ∈ seen ++ i :: waiting := List.mem_append_right _ List.mem_cons_self
  have hle : r ≤ i := by
    obtain ⟨-, -, rfl | ⟨hlt, -⟩⟩ := hw.place hin
    · exact Nat.le_refl i
    · exact Nat.le_of_lt hlt
  have hfresh : i ∉ seen := fun hseen =>
    (List.nodup_append.mp hw.nodup).2.2 i hseen i List.mem_cons_self rfl
  -- a child was not met before: its parent is visited only now
  have hchild : ∀ {j}, j ∈ n.childNodes → j ∉ seen ++ i :: waiting := by
    intro j hj hold
    obtain ⟨hlt, -, m, hm, hp⟩ := h.child hi hj
    obtain ⟨m', hm', rfl | ⟨-, p, hp', hparent⟩⟩ := hw.place hold
    · omega
    · obtain rfl := Option.some.inj (hm.symm.trans hm')
      obtain rfl := Option.some.inj (hp.symm.trans hparent)
      exact hfresh hp'
  constructor
  · rw [hperm.nodup_iff]
    refine List.nodup_append.mpr ⟨h.nodup hi, hw.nodup, ?_⟩
    rintro j hj k hk rfl
    exact hchild hj hk
  · exact hmem.mpr (.inr hw.start)
  · intro j hj
    obtain hj | hj := hmem.mp hj
    · obtain ⟨hlt, -, m, hm, hp⟩ := h.child hi hj
      exact ⟨m, hm, .inr ⟨by omega, i, List.mem_append_right _ List.mem_cons_self, hp⟩⟩
    · obtain ⟨m, hm, heq | ⟨hlt, p, hp, hparent⟩⟩ := hw.place hj
      · exact ⟨m, hm, .inl heq⟩
      · exact ⟨m, hm, .inr ⟨hlt, p, List.mem_append_left _ hp, hparent⟩⟩
  · intro k x j hk hx hj
    obtain hk | hk := List.mem_append.mp hk
    · exact hmem.mpr (.inr (hw.closed hk hx hj))
    · obtain rfl := List.mem_singleton.mp hk
      obtain rfl := Option.some.inj (hi.symm.trans hx)
      exact hmem.mpr (.inl hj)

/-- A walk meets at most as many numbers as there are slots. -/
theorem length_le (hw : a.Walked r seen waiting) :
    (seen ++ waiting).length ≤ a.slots.length := by
  have hsub : seen ++ waiting ⊆ List.range a.slots.length := fun j hj => by
    obtain ⟨m, hm, -⟩ := hw.place hj
    exact List.mem_range.mpr (lt_of_get? hm)
  have hle := hw.nodup.length_le_of_subset hsub
  rwa [List.length_range] at hle

/-- With as many rounds as there are slots left, a walk ends with nothing waiting. -/
theorem finish (h : a.Linked loose) {w : Walk} {k : Nat}
    (hw : a.Walked r w.visited w.stack.reverse) (hk : a.slots.length < k + w.visited.length) :
    (a.walk k w).stack = [] ∧ a.Walked r (a.walk k w).visited [] := by
  induction k generalizing w with
  | zero =>
      have hle := hw.length_le
      rw [List.length_append] at hle
      omega
  | succ k ih =>
      obtain ⟨stack, visited⟩ := w
      obtain rfl | ⟨stack, i, rfl⟩ := List.eq_nil_or_concat' stack
      · exact ⟨rfl, hw⟩
      · dsimp only at hw hk
        rw [List.reverse_append, List.reverse_singleton, List.singleton_append] at hw
        obtain ⟨n, hn, -⟩ := hw.place (List.mem_append_right _ List.mem_cons_self)
        rw [walk_concat, advance_of_get? hn]
        refine ih ?_ ?_
        · rw [List.reverse_append, List.reverse_reverse]
          exact hw.visit h hn
        · rw [List.length_append, List.length_singleton]
          omega

end Walked

/-- The node of the second number is the node of the first one or a descendant of it. -/
inductive Beneath (a : Arena) (i : Nat) : Nat → Prop
  | self {n : Node} (hn : a.get? i = some n) : Beneath a i i
  | child {j k : Nat} {n : Node} (h : Beneath a i j) (hn : a.get? k = some n)
      (hp : n.parent? = some j) : Beneath a i k

/-- There is nothing below a number without node. -/
theorem subtree_eq_nil (hi : a.get? i = none) : a.subtree i = [] := by
  have hstack : ([i] : List Nat) = [] ++ [i] := rfl
  rw [subtree, hstack, walk_concat, advance_of_none hi, walk_nil]

namespace Linked

/-- The walk below a node ends with nothing waiting. -/
theorem walked_subtree (h : a.Linked loose) (hi : a.get? i = some n) :
    a.Walked i (a.subtree i) [] :=
  ((Walked.begin hi).finish h (w := { stack := [i] }) (Nat.lt_succ_self _)).2

/-- A node is visited by the walk below it. -/
theorem mem_subtree_self (h : a.Linked loose) (hi : a.get? i = some n) : i ∈ a.subtree i := by
  have hstart := (h.walked_subtree hi).start
  rwa [List.append_nil] at hstart

/-- What is visited by the walk below a node is this node, or has its parent among what is
visited. -/
theorem of_mem_subtree (h : a.Linked loose) (hj : j ∈ a.subtree i) : ∃ m, a.get? j = some m ∧
    (j = i ∨ i < j ∧ ∃ p ∈ a.subtree i, m.parent? = some p) := by
  cases hi : a.get? i with
  | none =>
      rw [subtree_eq_nil hi] at hj
      exact nomatch hj
  | some n =>
      exact (h.walked_subtree hi).place (List.mem_append_left _ hj)

/-- With a node its children are visited. -/
theorem mem_subtree_child (h : a.Linked loose) (hj : j ∈ a.subtree i) (hn : a.get? j = some n)
    (hk : k ∈ n.childNodes) : k ∈ a.subtree i := by
  cases hi : a.get? i with
  | none =>
      rw [subtree_eq_nil hi] at hj
      exact nomatch hj
  | some m =>
      have hmem := (h.walked_subtree hi).closed hj hn hk
      rwa [List.append_nil] at hmem

/-- The walk below a node meets the node and its descendants. -/
theorem mem_subtree_iff (h : a.Linked []) : k ∈ a.subtree i ↔ a.Beneath i k := by
  constructor
  · -- the parent of a node has a smaller number
    intro hk
    induction k using Nat.strongRecOn with
    | ind k ih =>
        obtain ⟨n, hn, rfl | ⟨-, p, hp, hparent⟩⟩ := h.of_mem_subtree hk
        · exact .self hn
        · obtain ⟨m, hm, hchild⟩ := h.parent hn hparent
          exact .child (ih p (h.child hm (hchild List.not_mem_nil)).1 hp) hn hparent
  · intro hk
    induction hk with
    | self hn => exact h.mem_subtree_self hn
    | child _ hn hp ih =>
        obtain ⟨m, hm, hchild⟩ := h.parent hn hp
        exact h.mem_subtree_child ih hm (hchild List.not_mem_nil)

/-- The children of a node outside of a walk are outside, apart from the node where it starts. -/
theorem child_not_mem_subtree (h : a.Linked loose) (hm : a.get? p = some m) (hp : p ∉ a.subtree i)
    (hj : j ∈ m.childNodes) (hne : j ≠ i) : j ∉ a.subtree i := by
  intro hmem
  obtain ⟨-, -, n, hn, hparent⟩ := h.child hm hj
  obtain ⟨n', hn', heq | ⟨-, q, hq, hparent'⟩⟩ := h.of_mem_subtree hmem
  · exact hne heq
  · obtain rfl := Option.some.inj (hn.symm.trans hn')
    obtain rfl := Option.some.inj (hparent.symm.trans hparent')
    exact hp hq

/-- The parent of the node where a walk starts is outside. -/
theorem parent_not_mem_subtree (h : a.Linked []) (hn : a.get? i = some n)
    (hp : n.parent? = some p) : p ∉ a.subtree i := by
  intro hmem
  obtain ⟨m, hm, hchild⟩ := h.parent hn hp
  have hlt : p < i := (h.child hm (hchild List.not_mem_nil)).1
  obtain ⟨-, -, rfl | ⟨hgt, -⟩⟩ := h.of_mem_subtree hmem
  · exact Nat.lt_irrefl p hlt
  · exact Nat.lt_asymm hlt hgt

/-- The walk below a node visits nothing twice. -/
theorem nodup_subtree (h : a.Linked loose) : (a.subtree i).Nodup := by
  cases hi : a.get? i with
  | none =>
      rw [subtree_eq_nil hi]
      exact List.nodup_nil
  | some n =>
      have hnodup := (h.walked_subtree hi).nodup
      rwa [List.append_nil] at hnodup

/-- Every node is a root or below a root. -/
theorem mem_order (h : a.Linked []) (hj : a.get? j = some m) : j ∈ a.order := by
  induction j using Nat.strongRecOn generalizing m with
  | ind j ih =>
      cases hp : m.parent? with
      | none =>
          exact List.mem_flatMap.mpr ⟨j, h.root.mpr ⟨m, hj, hp⟩, h.mem_subtree_self hj⟩
      | some i =>
          obtain ⟨n, hn, hmem⟩ := h.parent hj hp
          have hchild := hmem List.not_mem_nil
          obtain ⟨r, hr, hi⟩ := List.mem_flatMap.mp (ih i (h.child hn hchild).1 hn)
          exact List.mem_flatMap.mpr ⟨r, hr, h.mem_subtree_child hi hn hchild⟩

/-! ### Removing -/

/-- What is left after a removal was there before, with the same parent and without the removed node
among its children. -/
theorem of_get?_removeSubtree (h : a.Linked loose) (hk : (a.removeSubtree i).2.get? k = some m) :
    k ∉ a.subtree i ∧ ∃ n, a.get? k = some n ∧ m = n.without i := by
  rw [get?_removeSubtree] at hk
  split at hk
  · exact nomatch hk
  · next hmem =>
      refine ⟨hmem, ?_⟩
      split at hk
      · obtain ⟨n, hn, rfl⟩ := Option.map_eq_some_iff.mp hk
        exact ⟨n, hn, rfl⟩
      · next hparent =>
          exact ⟨m, hk, (Node.without_eq_self fun hi => hparent (h.parent?_of_mem hk hi)).symm⟩

/-- What is not below a removed node is left. -/
theorem get?_removeSubtree_of_not_mem (h : a.Linked loose) (hk : a.get? k = some n)
    (hmem : k ∉ a.subtree i) : (a.removeSubtree i).2.get? k = some (n.without i) := by
  have hsome : ∃ m, (a.removeSubtree i).2.get? k = some m := by
    rw [get?_removeSubtree, if_neg hmem, hk]
    split
    · exact ⟨_, rfl⟩
    · exact ⟨_, rfl⟩
  obtain ⟨m, hm⟩ := hsome
  obtain ⟨-, n', hn', rfl⟩ := h.of_get?_removeSubtree hm
  obtain rfl := Option.some.inj (hk.symm.trans hn')
  exact hm

/-- A removal leaves a forest. -/
theorem removeSubtree (h : a.Linked []) (i : Nat) : (a.removeSubtree i).2.Linked [] := by
  have hself : ∀ {k x}, a.get? k = some x → k ∉ a.subtree i → k ≠ i := by
    rintro k x hk hmem rfl
    exact hmem (h.mem_subtree_self hk)
  have hwithout : ∀ {n : Node} {j}, j ∈ (n.without i).childNodes ↔ j ∈ n.childNodes ∧ j ≠ i := by
    intro n j
    rw [Node.mem_childNodes, Node.mem_childNodes, Node.without, List.mem_filter, bne_iff_ne]
    exact and_congr_right fun _ => not_congr ⟨fun heq => Child.node.inj heq, fun heq => heq ▸ rfl⟩
  constructor
  · intro k l m hk hl
    obtain ⟨hmem, n, hn, rfl⟩ := h.of_get?_removeSubtree hk
    obtain ⟨hl, hne⟩ := hwithout.mp hl
    obtain ⟨hlt, hloose, x, hx, hxp⟩ := h.child hn hl
    exact ⟨hlt, hloose, _,
      h.get?_removeSubtree_of_not_mem hx (h.child_not_mem_subtree hn hmem hl hne), hxp⟩
  · intro k m hk
    obtain ⟨-, n, hn, rfl⟩ := h.of_get?_removeSubtree hk
    exact (h.nodup hn).sublist (List.filter_sublist.filterMap Child.node?)
  · intro k l m hl hp
    obtain ⟨hmem, x, hx, rfl⟩ := h.of_get?_removeSubtree hl
    obtain ⟨n, hn, hchild⟩ := h.parent hx hp
    have hchild := hchild List.not_mem_nil
    refine ⟨_, h.get?_removeSubtree_of_not_mem hn fun hk => ?_, fun _ =>
      hwithout.mpr ⟨hchild, hself hx hmem⟩⟩
    exact hmem (h.mem_subtree_child hk hn hchild)
  · intro k
    rw [roots_removeSubtree, List.mem_filter, bne_iff_ne, h.root]
    constructor
    · rintro ⟨⟨n, hn, hp⟩, hne⟩
      refine ⟨_, h.get?_removeSubtree_of_not_mem hn fun hk => ?_, hp⟩
      obtain ⟨m, hm, heq | ⟨-, p, -, hparent⟩⟩ := h.of_mem_subtree hk
      · exact hne heq
      · obtain rfl := Option.some.inj (hn.symm.trans hm)
        cases hp.symm.trans hparent
    · rintro ⟨m, hm, hp⟩
      obtain ⟨hmem, n, hn, rfl⟩ := h.of_get?_removeSubtree hm
      exact ⟨⟨n, hn, hp⟩, hself hn hmem⟩
  · rw [roots_removeSubtree]
    exact h.nodupRoots.sublist List.filter_sublist

end Linked

end WidgetFlow.Arena
