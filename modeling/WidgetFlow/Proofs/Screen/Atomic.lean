import WidgetFlow.Proofs.Tree.Ids
import WidgetFlow.Proofs.Screen.Mirror
import WidgetFlow.Proofs.Screen.Reshape

/-!
# Operations that fail change nothing

An operation on a screen may report that it failed (`Screen.fails`). Trees are refused because of
their ids only, which are compared before anything is planted or removed. Replacing an application
checks the ids a second time, after instances were removed and the tree was forgotten. This is where
it could stop halfway; but the second check asks for less than the first one, because nothing is
mounted any more (`replaceApp_of_ok`).

## Main results

* `isOk_checkIds`: the check passes if no two nodes get the same id, and none gets one that is
  taken.
* `fails_atomic`: **what fails changes nothing**, and trees are refused because of their ids only.
-/

namespace WidgetFlow

namespace Screen

variable {s : Screen} {isTaken : String → Bool} {position : Nat} {plans : List NodePlan}

/-- Whether an operation on a screen reports that it failed. -/
def fails (s : Screen) : ScreenOp → Bool
  | .mount plan => !(s.mount plan).1.isOk
  | .mountApp app => !(s.mountApp app).1.isOk
  | .replaceTree plan => !(s.replaceTree plan).1.isOk
  | .replaceApp app => !(s.replaceApp app).1.isOk
  | .dispatch id event payload => !(s.dispatch id event payload).1.isOk
  | .invoke id method args => !(s.invoke id method args).1.isOk
  | .removeNode id => !(s.removeNode id).1
  | _ => false

/-- The screen that a replacing application is mounted on: what does not stay of the old one was
removed, and the tree, the layout and the wires were forgotten. -/
def vacated (s : Screen) (app : AppPlan) : Screen :=
  { (s.reconcile app.components).reset with layout? := none, wires := [] }

/-! ### Refused trees -/

/-- The ids of trees pass the check if no two nodes get the same, and none gets one that is
taken. -/
theorem isOk_checkIds (kindOf : String → Kind) :
    (checkIds isTaken position plans).isOk = true ↔
      (mountedIds kindOf position plans).Nodup ∧
        ∀ id ∈ mountedIds kindOf position plans, isTaken id = false := by
  have hperm := mountedIds_perm kindOf position plans
  have hiff : (checkIds isTaken position plans).isOk = true ↔
      checkIds isTaken position plans = .ok () := by
    cases checkIds isTaken position plans with
    | ok u => exact ⟨fun _ => rfl, fun _ => rfl⟩
    | error e => exact ⟨nofun, nofun⟩
  rw [hiff, checkIds_eq_ok, hperm.nodup_iff]
  exact and_congr_right fun _ => forall_congr' fun id => by rw [hperm.mem_iff]

/-- A refused tree is refused because of an id. -/
theorem eq_duplicateId_iff {α : Type} {answer : Except ScreenError α}
    (h : answer.map (fun _ => ()) = checkIds isTaken position plans) :
    (∃ id, answer = .error (.duplicateId id)) ↔
      ¬ (checkIds isTaken position plans).isOk = true := by
  rw [← h]
  cases answer with
  | ok x =>
      refine ⟨?_, fun hno => absurd rfl hno⟩
      rintro ⟨_, heq⟩
      cases heq
  | error e =>
      refine ⟨fun _ hyes => Bool.noConfusion hyes, fun _ => ?_⟩
      rw [checkIds] at h
      split at h
      · next id _ =>
          obtain rfl := Except.error.inj h
          exact ⟨id, rfl⟩
      · cases h

/-- A tree is refused if its ids do not pass the check. -/
theorem map_mount (s : Screen) (plan : NodePlan) : (s.mount plan).1.map (fun _ => ()) =
    checkIds s.arena.containsId s.arena.roots.length [plan] := by
  rw [mount]
  dsimp only
  split
  · next h => exact h.symm
  · next h => exact h.symm

/-- An application is refused if its ids do not pass the check. -/
theorem map_mountApp (s : Screen) (app : AppPlan) : (s.mountApp app).1.map (fun _ => ()) =
    checkIds s.arena.containsId s.arena.roots.length app.components := by
  rw [mountApp]
  dsimp only
  split
  · next h => exact h.symm
  · next h => exact h.symm

/-- A replacing tree is refused if its own ids do not pass the check. -/
theorem map_replaceTree (s : Screen) (plan : NodePlan) :
    (s.replaceTree plan).1.map (fun _ => ()) = checkIds (fun _ => false) 0 [plan] := by
  rw [replaceTree]
  split
  · next h => exact h.symm
  · next h => exact h.symm

/-- An application whose own ids pass the check is mounted on what is left of the old one, and this
does not fail. -/
theorem replaceApp_of_ok {app : AppPlan}
    (h : (checkIds (fun _ => false) 0 app.components).isOk = true) :
    s.replaceApp app = (s.vacated app).mountApp app ∧
      ((s.vacated app).mountApp app).1.map (fun _ => ()) =
        checkIds (fun _ => false) 0 app.components := by
  refine ⟨?_, map_mountApp (s.vacated app) app⟩
  rw [replaceApp]
  split
  · next heq =>
      rw [heq] at h
      cases h
  · rfl

/-- A replacing application is refused if its own ids do not pass the check. -/
theorem map_replaceApp (s : Screen) (app : AppPlan) :
    (s.replaceApp app).1.map (fun _ => ()) = checkIds (fun _ => false) 0 app.components := by
  by_cases h : (checkIds (fun _ => false) 0 app.components).isOk = true
  · obtain ⟨heq, hmap⟩ := replaceApp_of_ok (s := s) h
    rw [heq, hmap]
  · rw [replaceApp]
    split
    · next heq => exact heq.symm
    · next heq =>
        rw [heq] at h
        exact absurd rfl h

/-! ### What fails -/

/-- What does not succeed is an error. -/
theorem exists_error_of_not_isOk {α : Type} {answer : Except ScreenError α}
    (h : (!answer.isOk) = true) : ∃ e, answer = .error e := by
  cases answer with
  | ok x => exact nomatch h
  | error e => exact ⟨e, rfl⟩

/-- A refused operation leaves the screen as it is. -/
theorem perform_of_fails {op : ScreenOp} (h : s.fails op = true) : s.perform op = s := by
  cases op with
  | mount plan =>
      obtain ⟨e, he⟩ := exists_error_of_not_isOk h
      rw [mount] at he
      rw [perform, mount]
      dsimp only at he ⊢
      split at he
      · rfl
      · cases he
  | mountApp app =>
      obtain ⟨e, he⟩ := exists_error_of_not_isOk h
      rw [mountApp] at he
      rw [perform, mountApp]
      dsimp only at he ⊢
      split at he
      · rfl
      · cases he
  | replaceTree plan =>
      obtain ⟨e, he⟩ := exists_error_of_not_isOk h
      rw [replaceTree] at he
      rw [perform, replaceTree]
      split at he
      · rfl
      · cases he
  | replaceApp app =>
      obtain ⟨e, he⟩ := exists_error_of_not_isOk h
      have hmap := s.map_replaceApp app
      rw [he] at hmap
      rw [perform, replaceApp, ← hmap]
      rfl
  | dispatch id event payload =>
      obtain ⟨e, he⟩ := exists_error_of_not_isOk h
      rw [dispatch] at he
      rw [perform, dispatch]
      split at he
      · rfl
      · cases he
  | invoke id method args =>
      obtain ⟨e, he⟩ := exists_error_of_not_isOk h
      rw [invoke] at he
      rw [perform, invoke]
      split at he
      · rfl
      · dsimp only at he ⊢
        split at he
        · rfl
        · cases he
  | removeNode id =>
      rw [fails, removeNode] at h
      rw [perform, removeNode]
      split at h
      · rfl
      · cases h
  | resolve => cases h
  | render => cases h
  | renderId id => cases h
  | refresh ids => cases h
  | unmount => cases h

/-- **What fails changes nothing.** After every run of moves, whatever the engine held at the start
and with any way to look up definitions: trees are refused exactly because two of their nodes would
get the same id or, if other trees stay, because a node that is mounted has one of the ids; an
operation that fails leaves the whole screen as it is; and an application that is not refused before
anything is removed is not refused afterwards. -/
theorem fails_atomic (engine : Engine) (resolver : Resolver) (moves : List ScreenMove) :
    let s := moves.foldl move { engine, resolver }
    let ids := mountedIds s.engine.kindOf
    (∀ plan, (∃ id, (s.mount plan).1 = .error (.duplicateId id)) ↔
      ¬ (ids s.arena.roots.length [plan]).Nodup ∨
        ∃ id ∈ ids s.arena.roots.length [plan], id ∈ s.arena.ids) ∧
    (∀ app, (∃ id, (s.mountApp app).1 = .error (.duplicateId id)) ↔
      ¬ (ids s.arena.roots.length app.components).Nodup ∨
        ∃ id ∈ ids s.arena.roots.length app.components, id ∈ s.arena.ids) ∧
    (∀ plan, (∃ id, (s.replaceTree plan).1 = .error (.duplicateId id)) ↔
      ¬ (ids 0 [plan]).Nodup) ∧
    (∀ app, (∃ id, (s.replaceApp app).1 = .error (.duplicateId id)) ↔
      ¬ (ids 0 app.components).Nodup) ∧
    (∀ op, s.fails op = true → s.perform op = s) ∧
    ∀ app, (ids 0 app.components).Nodup →
      s.replaceApp app = (s.vacated app).mountApp app ∧
        ((s.vacated app).mountApp app).1.isOk = true := by
  intro s ids
  have hkeyed : s.arena.Keyed := keyed_run .empty moves
  have htaken : ∀ {id}, id ∈ s.arena.ids ↔ ¬ s.arena.containsId id = false := fun {id} => by
    rw [Arena.mem_ids, Bool.not_eq_false, hkeyed.containsId_iff]
  have hbehind : ∀ plans, ¬ (checkIds s.arena.containsId s.arena.roots.length plans).isOk = true ↔
      ¬ (ids s.arena.roots.length plans).Nodup ∨
        ∃ id ∈ ids s.arena.roots.length plans, id ∈ s.arena.ids := fun plans => by
    rw [isOk_checkIds s.engine.kindOf, not_and_or, not_forall]
    refine or_congr_right (exists_congr fun id => ?_)
    rw [Classical.not_imp, htaken]
  have halone : ∀ plans, (checkIds (fun _ => false) 0 plans).isOk = true ↔ (ids 0 plans).Nodup :=
    fun plans => (isOk_checkIds s.engine.kindOf).trans (and_iff_left fun _ _ => rfl)
  refine ⟨fun plan => ?_, fun app => ?_, fun plan => ?_, fun app => ?_,
    fun op => perform_of_fails, fun app hnodup => ?_⟩
  · rw [eq_duplicateId_iff (s.map_mount plan), hbehind]
  · rw [eq_duplicateId_iff (s.map_mountApp app), hbehind]
  · rw [eq_duplicateId_iff (s.map_replaceTree plan), halone]
  · rw [eq_duplicateId_iff (s.map_replaceApp app), halone]
  · have hok := (halone app.components).mpr hnodup
    obtain ⟨heq, hmap⟩ := replaceApp_of_ok (s := s) hok
    refine ⟨heq, ?_⟩
    rw [← hmap] at hok
    cases hanswer : ((s.vacated app).mountApp app).1 with
    | ok indices => rfl
    | error e =>
        rw [hanswer] at hok
        exact nomatch hok

/-- A tree whose nodes are named alike is refused by a new screen, which stays as it is. -/
theorem twins_refused :
    let twins : NodePlan := { info := { id? := some "a", tag := "container" }
                              children := [.node { id? := some "a", tag := "text" } []] }
    let s : Screen := .new {}
    (∃ id, (s.mount twins).1 = .error (.duplicateId id)) ∧ s.perform (.mount twins) = s := by
  intro twins s
  obtain ⟨hmount, -, -, -, hperform, -⟩ := fails_atomic s.engine Registry.resolve []
  have hrepeats : ¬ (mountedIds s.engine.kindOf 0 [twins]).Nodup := by
    rw [(mountedIds_perm s.engine.kindOf 0 [twins]).nodup_iff]
    simp [twins, planEntries, NodePlan.entries, entriesBelow, NodeInfo.idAt]
  obtain ⟨id, hrefused⟩ := (hmount twins).mpr (.inl hrepeats)
  refine ⟨⟨id, hrefused⟩, hperform (.mount twins) ?_⟩
  exact congrArg (fun answer => !answer.isOk) hrefused

end Screen

end WidgetFlow
