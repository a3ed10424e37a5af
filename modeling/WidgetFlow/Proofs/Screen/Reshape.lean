import WidgetFlow.Proofs.Screen.Cache
import WidgetFlow.Proofs.Tree.Preorder

/-!
# What becomes of the tree of a screen

`Screen.Reshapes` lists what an operation can do to the tree: trees that passed the check of their
ids are planted, behind what is mounted or alone; nodes get other statuses; a node is removed with
what is below it; or everything is forgotten. What all of these keep is kept by every run of
moves (`arena_run`), also if the engine is written past the screen, which cannot reach the tree.

## Main results

* `reshapes_perform`: an operation reshapes the tree in one of the listed ways.
* `keyed_run`, `linked_run`: after every run of moves the tree is a forest in which every id leads
  to its node.
* `built_run`: the tree comes about by single insertions and removals.
-/

namespace WidgetFlow

/-- The trees that an operation asks to be mounted. -/
def ScreenOp.plans : ScreenOp → List NodePlan
  | .mount plan => [plan]
  | .mountApp app => app.components
  | .replaceTree plan => [plan]
  | .replaceApp app => app.components
  | _ => []

/-- Other statuses leave the links as they were built. -/
theorem Arena.Built.restated {a b : Arena} {status : Nat → Node → Status} {loose : List Nat}
    (h : a.Built loose) (hstatus : a.Restated b status) : b.Built loose :=
  h.revise _ hstatus.length hstatus.roots hstatus.get? fun _ _ => ⟨rfl, rfl⟩

namespace Screen

variable {s : Screen} {op : ScreenOp} {a : Arena}

/-- Mounting is made of single insertions. -/
theorem built_planted (s : Screen) {a : Arena} (h : a.Built []) (position : Nat)
    (plans : List NodePlan) : (s.planted a position plans).Built [] :=
  Arena.Built.restated (h.plantAll position plans)
    (restated_queue { s with arena := (a.plantAll s.engine.kindOf position plans).2 })

/-- What an operation can do to the tree of a screen. -/
inductive Reshapes (s : Screen) (op : ScreenOp) : Arena → Prop
  | planted (h : checkIds s.arena.containsId s.arena.roots.length op.plans = .ok ()) :
      Reshapes s op (s.planted s.arena s.arena.roots.length op.plans)
  | replaced (t : Screen) (h : checkIds (fun _ => false) 0 op.plans = .ok ()) :
      Reshapes s op (t.planted {} 0 op.plans)
  | restated {a : Arena} {status : Nat → Node → Status} (h : s.arena.Restated a status) :
      Reshapes s op a
  | removed {id : String} {index : Nat} (hop : op = .removeNode id)
      (h : s.arena.indexOf? id = some index) : Reshapes s op (s.arena.removeSubtree index).2
  | cleared : Reshapes s op {}

namespace Reshapes

/-- A tree that stays has the statuses that it has. -/
theorem kept (h : a = s.arena) : s.Reshapes op a := by
  have hsame : s.arena.Restated s.arena fun _ node => node.status :=
    ⟨rfl, rfl, rfl, fun i => (Option.map_id' (x := s.arena.get? i)).symm⟩
  rw [h]
  exact .restated hsame

/-- A reshaped forest is a forest. -/
theorem linked (h : s.Reshapes op a) (hs : s.arena.Linked []) : a.Linked [] := by
  cases h with
  | planted _ => exact s.linked_planted hs _ _
  | replaced t _ => exact t.linked_planted .empty _ _
  | restated h => exact h.linked hs
  | removed _ _ => exact hs.removeSubtree _
  | cleared => exact .empty

/-- Ids that lead to their nodes do so after the tree is reshaped. -/
theorem keyed (h : s.Reshapes op a) (hs : s.arena.Keyed) : a.Keyed := by
  cases h with
  | planted h => exact keyed_planted hs h
  | replaced t h => exact keyed_planted .empty h
  | restated h => exact h.keyed hs
  | removed _ _ => exact hs.removeSubtree _
  | cleared => exact .empty

/-- A reshaped tree is built step by step if it was before. -/
theorem built (h : s.Reshapes op a) (hs : s.arena.Built []) : a.Built [] := by
  cases h with
  | planted _ => exact s.built_planted hs _ _
  | replaced t _ => exact t.built_planted .empty _ _
  | restated h => exact hs.restated h
  | removed _ _ => exact hs.remove _
  | cleared => exact .empty

end Reshapes

/-- Every operation reshapes the tree in one of the ways that are listed. -/
theorem reshapes_perform (s : Screen) (op : ScreenOp) : s.Reshapes op (s.perform op).arena := by
  cases op with
  | mount plan =>
      rcases s.mount_cases plan with heq | ⟨h, heq⟩
      · exact .kept (congrArg arena heq)
      · rw [perform, heq]
        exact .planted h
  | mountApp app =>
      rcases s.mountApp_cases app with heq | h
      · exact .kept (congrArg arena heq)
      · obtain ⟨layout?, theme?, heq⟩ := mountApp_of_ok h
        rw [perform, heq]
        exact .planted h
  | replaceTree plan =>
      rcases s.replaceTree_cases plan with heq | ⟨h, heq⟩
      · exact .kept (congrArg arena heq)
      · rw [perform, heq]
        exact .replaced (s.reconcile [plan]) h
  | replaceApp app =>
      rcases s.replaceApp_cases app with heq | ⟨h, layout?, theme?, heq⟩
      · exact .kept (congrArg arena heq)
      · rw [perform, heq]
        exact .replaced (s.reconcile app.components) h
  | resolve => exact .restated s.restated_resolve
  | render => exact .kept (by rw [perform, render_eq])
  | renderId id => exact .kept (by rw [perform, renderId_rest])
  | refresh ids => exact .kept rfl
  | dispatch id event payload => exact .kept (by rw [perform, (s.dispatch_reacts ..).rest])
  | invoke id method args => exact .kept (by rw [perform, (s.invoke_reacts ..).rest])
  | removeNode id =>
      rcases s.removeNode_cases id with heq | ⟨index, engine, memo, h, -, heq⟩
      · exact .kept (congrArg arena heq)
      · rw [perform, heq]
        exact .removed rfl h
  | unmount => exact .cleared

/-- What holds of a tree however it is reshaped holds after every run of moves. -/
theorem arena_run {P : Arena → Prop} (h : P s.arena)
    (hstep : ∀ {t : Screen} {op : ScreenOp} {a : Arena}, P t.arena → t.Reshapes op a → P a)
    (moves : List ScreenMove) : P (moves.foldl move s).arena :=
  List.foldlRecOn (motive := fun t : Screen => P t.arena) moves move h fun t ht m _ => by
    cases m with
    | operate op => exact hstep ht (t.reshapes_perform op)
    | write op => exact ht

/-- After every run of moves the tree is a forest. -/
theorem linked_run (h : s.arena.Linked []) (moves : List ScreenMove) :
    (moves.foldl move s).arena.Linked [] :=
  arena_run h (fun ht hreshapes => hreshapes.linked ht) moves

/-- After every run of moves every id leads to its node. -/
theorem keyed_run (h : s.arena.Keyed) (moves : List ScreenMove) :
    (moves.foldl move s).arena.Keyed :=
  arena_run h (fun ht hreshapes => hreshapes.keyed ht) moves

/-- After every run of moves the tree is one that was built step by step. -/
theorem built_run (h : s.arena.Built []) (moves : List ScreenMove) :
    (moves.foldl move s).arena.Built [] :=
  arena_run h (fun ht hreshapes => hreshapes.built ht) moves

end Screen

end WidgetFlow
