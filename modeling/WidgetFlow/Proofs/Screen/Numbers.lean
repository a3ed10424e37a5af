import WidgetFlow.Proofs.Screen.Atomic

/-!
# The representation of the tree of a screen

After every run of moves the tree of a screen is well formed (`Arena.WellFormed`), and the numbers
of its nodes can be kept: a number that was handed out never stands for another node until the tree
is forgotten. `Arena.Continues a b` says so of an earlier and a later state. The status of a node
moves on and its children may be taken away, so `Node.Persists` leaves these two fields open and
fixes all others.

A tree is forgotten when it is unmounted or replaced. A replacement that is refused forgets nothing,
so whether a move resets a screen depends on the screen (`Screen.resets`).

## Main results

* `Screen.continues_move`: a move that does not reset the screen reuses no number.
* `Screen.represented`: **the representation invariant** of the tree of a screen.
-/

namespace WidgetFlow

/-- A node is another one at a later time: only its status and its children may differ. -/
def Node.Persists (n m : Node) : Prop := m = { n with status := m.status, children := m.children }

/-- A node at a still later time. -/
theorem Node.Persists.trans {n m k : Node} (h : n.Persists m) (h' : m.Persists k) :
    n.Persists k := by
  rw [Node.Persists] at h h' ⊢
  rw [h', h]

namespace Arena

variable {a b c : Arena} {status : Nat → Node → Status}

/-- No number is used for another node: under a number that was handed out there is the node that
was there, or nothing. -/
structure Continues (a b : Arena) : Prop where
  length : a.slots.length ≤ b.slots.length
  kept : ∀ {i m}, i < a.slots.length → b.get? i = some m → ∃ n, a.get? i = some n ∧ n.Persists m

namespace Continues

/-- Nothing changes. -/
theorem refl (a : Arena) : a.Continues a := ⟨Nat.le_refl _, fun _ hm => ⟨_, hm, rfl⟩⟩

/-- Numbers that are not reused once and once more are not reused. -/
theorem trans (h : a.Continues b) (h' : b.Continues c) : a.Continues c where
  length := Nat.le_trans h.length h'.length
  kept hi hm := by
    obtain ⟨m', hm', hpersists'⟩ := h'.kept (Nat.lt_of_lt_of_le hi h.length) hm
    obtain ⟨n, hn, hpersists⟩ := h.kept hi hm'
    exact ⟨n, hn, hpersists.trans hpersists'⟩

/-- A removal reuses no number. -/
theorem removeSubtree (h : a.Linked []) (i : Nat) : a.Continues (a.removeSubtree i).2 where
  length := Nat.le_of_eq length_removeSubtree.symm
  kept _ hm := by
    obtain ⟨-, n, hn, rfl⟩ := h.of_get?_removeSubtree hm
    exact ⟨n, hn, rfl⟩

end Continues

/-- Other statuses are those of the same nodes. -/
theorem Restated.continues (h : a.Restated b status) : a.Continues b where
  length := Nat.le_of_eq h.length.symm
  kept {i m} _ hm := by
    rw [h.get?, Option.map_eq_some_iff] at hm
    obtain ⟨n, hn, rfl⟩ := hm
    exact ⟨n, hn, rfl⟩

/-- Roots stay in order under other statuses. -/
theorem Restated.ordered (h : a.Restated b status) (ha : a.Ordered) : b.Ordered := by
  rwa [Ordered, h.roots]

end Arena

namespace Screen

variable {s : Screen} {op : ScreenOp} {a : Arena}

/-- Mounting behind what is there reuses no number. -/
theorem continues_planted (s : Screen) (a : Arena) (position : Nat) (plans : List NodePlan) :
    a.Continues (s.planted a position plans) where
  length := (s.later_planted a position plans).length
  kept hi hm := by
    rw [get?_planted_of_lt hi, Option.map_eq_some_iff] at hm
    obtain ⟨n, hn, rfl⟩ := hm
    exact ⟨n, hn, rfl⟩

/-- Roots stay in order when trees are mounted. -/
theorem ordered_planted (h : a.Ordered) (ha : a.Linked []) (position : Nat)
    (plans : List NodePlan) : (s.planted a position plans).Ordered :=
  (restated_queue _).ordered (h.plantAll ha position plans)

/-- Roots stay in order however the tree is reshaped. -/
theorem Reshapes.ordered (h : s.Reshapes op a) (hs : s.arena.Linked []) (ho : s.arena.Ordered) :
    a.Ordered := by
  cases h with
  | planted _ => exact ordered_planted ho hs _ _
  | replaced t _ => exact ordered_planted .empty .empty _ _
  | restated h => exact h.ordered ho
  | removed _ _ => exact ho.removeSubtree _
  | cleared => exact .empty

/-- After every run of moves the roots stand in order. -/
theorem ordered_run (h : s.arena.Linked []) (ho : s.arena.Ordered) (moves : List ScreenMove) :
    (moves.foldl move s).arena.Ordered :=
  (arena_run (P := fun a => a.Linked [] ∧ a.Ordered) ⟨h, ho⟩
    (fun ht hreshapes => ⟨hreshapes.linked ht.1, hreshapes.ordered ht.1 ht.2⟩) moves).2

/-! ### Numbers -/

/-- Whether a move forgets the tree, so that numbers are handed out anew. -/
def resets (s : Screen) : ScreenMove → Bool
  | .operate (.replaceTree plan) => !s.fails (.replaceTree plan)
  | .operate (.replaceApp app) => !s.fails (.replaceApp app)
  | .operate .unmount => true
  | _ => false

/-- No move of a run forgets the tree. -/
def Steady (s : Screen) : List ScreenMove → Prop
  | [] => True
  | m :: rest => s.resets m = false ∧ (s.move m).Steady rest

/-- An answer that carries nothing, if it is one, is known. -/
theorem eq_ok_of_isOk {answer : Except ScreenError Unit} (h : answer.isOk = true) :
    answer = .ok () := by
  cases answer with
  | ok _ => rfl
  | error e => cases h

/-- What is answered is an error or not, whatever it carries. -/
theorem isOk_of_map {α : Type} {answer : Except ScreenError α} {answer' : Except ScreenError Unit}
    (h : answer.map (fun _ => ()) = answer') : answer.isOk = answer'.isOk := by
  rw [← h]
  cases answer <;> rfl

/-- A move that does not forget the tree leaves it, plants trees behind it, resolves it, or removes a
node with what is below it. -/
theorem arena_move_of_not_resets {m : ScreenMove} (hm : s.resets m = false) :
    (s.move m).arena = s.arena ∨
      (∃ plans, (s.move m).arena = s.planted s.arena s.arena.roots.length plans) ∨
      m = .operate .resolve ∨
      ∃ index, (s.move m).arena = (s.arena.removeSubtree index).2 := by
  cases m with
  | write op => exact .inl rfl
  | operate op =>
      change (s.perform op).arena = _ ∨ (∃ plans, (s.perform op).arena = _) ∨ _ ∨
        ∃ index, (s.perform op).arena = _
      cases op with
      | mount plan =>
          rcases s.mount_cases plan with heq | ⟨-, heq⟩
          · exact .inl (congrArg arena heq)
          · exact .inr (.inl ⟨[plan], congrArg arena heq⟩)
      | mountApp app =>
          rcases s.mountApp_cases app with heq | hok
          · exact .inl (congrArg arena heq)
          · obtain ⟨layout?, theme?, heq⟩ := mountApp_of_ok hok
            exact .inr (.inl ⟨app.components, by rw [perform, heq]⟩)
      | replaceTree plan =>
          exact .inl (congrArg arena (perform_of_fails (Bool.not_eq_eq_eq_not.mp hm)))
      | replaceApp app =>
          exact .inl (congrArg arena (perform_of_fails (Bool.not_eq_eq_eq_not.mp hm)))
      | resolve => exact .inr (.inr (.inl rfl))
      | render => exact .inl (by rw [perform, render_eq])
      | renderId id => exact .inl (by rw [perform, renderId_rest])
      | refresh ids => exact .inl rfl
      | dispatch id event payload =>
          exact .inl (by rw [perform, (s.dispatch_reacts id event payload).rest])
      | invoke id method args =>
          exact .inl (by rw [perform, (s.invoke_reacts id method args).rest])
      | removeNode id =>
          rcases s.removeNode_cases id with heq | ⟨index, engine, memo, -, -, heq⟩
          · exact .inl (congrArg arena heq)
          · exact .inr (.inr (.inr ⟨index, congrArg arena heq⟩))
      | unmount => cases hm

/-- A move that forgets the tree leaves what is planted anew. -/
theorem arena_move_of_resets {m : ScreenMove} (hm : s.resets m = true) :
    ∃ (t : Screen) (plans : List NodePlan), (s.move m).arena = t.planted {} 0 plans := by
  cases m with
  | write op => cases hm
  | operate op =>
      cases op with
      | replaceTree plan =>
          rw [resets, fails, isOk_of_map (s.map_replaceTree plan), Bool.not_not] at hm
          obtain ⟨index, heq⟩ := replaceTree_of_ok (s := s) (eq_ok_of_isOk hm)
          exact ⟨s.reconcile [plan], [plan], congrArg (·.2.arena) heq⟩
      | replaceApp app =>
          rw [resets, fails, isOk_of_map (s.map_replaceApp app), Bool.not_not] at hm
          obtain ⟨layout?, theme?, heq⟩ := @mountApp_of_ok (s.vacated app) app (eq_ok_of_isOk hm)
          refine ⟨s.vacated app, app.components, ?_⟩
          change (s.replaceApp app).2.arena = _
          rw [(replaceApp_of_ok hm).1, heq]
          rfl
      | unmount => exact ⟨s, [], rfl⟩
      | _ => cases hm

/-- A move that does not forget the tree reuses no number. -/
theorem continues_move (h : s.arena.Linked []) {m : ScreenMove} (hm : s.resets m = false) :
    s.arena.Continues (s.move m).arena := by
  rcases arena_move_of_not_resets hm with heq | ⟨plans, heq⟩ | rfl | ⟨index, heq⟩
  · exact heq ▸ .refl _
  · exact heq ▸ s.continues_planted _ _ _
  · exact s.restated_resolve.continues
  · exact heq ▸ .removeSubtree h index

/-- A run of moves that do not forget the tree reuses no number. -/
theorem continues_run (h : s.arena.Linked []) {moves : List ScreenMove} (hsteady : s.Steady moves) :
    s.arena.Continues (moves.foldl move s).arena := by
  induction moves generalizing s with
  | nil => exact .refl _
  | cons m rest ih =>
      obtain ⟨hm, hrest⟩ := hsteady
      exact (continues_move h hm).trans (ih (linked_run h [m]) hrest)

/-- **The representation invariant.** After every run of moves from a screen over any engine, with
any way to look up definitions, the tree is well formed; and however a run goes on, as long as no
move forgets the tree, no number that was handed out stands for another node. -/
theorem represented (engine : Engine) (resolver : Resolver) (moves : List ScreenMove) :
    let s := moves.foldl move { engine, resolver }
    s.arena.WellFormed ∧ ∀ later : List ScreenMove, s.Steady later →
      s.arena.Continues (later.foldl move s).arena := by
  intro s
  have hlinked : s.arena.Linked [] := linked_run .empty moves
  have hkeyed : s.arena.Keyed := keyed_run .empty moves
  have hordered : s.arena.Ordered := ordered_run .empty .empty moves
  exact ⟨hlinked.wellFormed hkeyed hordered, fun later hsteady => continues_run hlinked hsteady⟩

/-- A container with a text. -/
def page : NodePlan where
  info := { id? := some "page", tag := "container" }
  children := [.node { id? := some "line", tag := "text" } []]

/-- The number of a text that is removed is not used again, although its page is mounted anew. -/
theorem represented_removed_page :
    let s := [ScreenMove.operate (.mount page)].foldl move { engine := Engine.new {} }
    s.arena.WellFormed ∧ s.arena.Continues
      ([ScreenMove.operate (.removeNode "page"), .operate (.mount page)].foldl move s).arena := by
  have hrepresented := represented (Engine.new {}) Registry.resolve [.operate (.mount page)]
  exact ⟨hrepresented.1, hrepresented.2 _ ⟨rfl, rfl, trivial⟩⟩

end Screen

end WidgetFlow
