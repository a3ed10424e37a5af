import WidgetFlow.Proofs.Screen.Redraw
import WidgetFlow.Proofs.Screen.Reshape
import WidgetFlow.Proofs.Screen.InStep

/-!
# Rendering again

After a rendering no shown node is due (`Screen.Settled`). Edits leave the tree and the set of
instances alone: nodes are marked as stale, by a refresh or by a dispatched event, and instances are
written to, which gives them new revisions. So a shown node becomes due in two ways. It is marked,
or its stamp changes; and the stamp of a node changes if and only if the revision of an instance
changes that is shown by the node (`Painted.parts_eq_iff`).

The statements are about nodes all of which have an instance if they are ready. Without its instance
a node gives the same stamp whatever goes on below it.

## Main results

* `Painted.parts_eq_iff`: stamps tell revisions apart, and nothing else.
* `Edited.due_iff`: what is due after edits.
* `rendering_again`: **rendering again draws exactly what it has to**.
-/

namespace WidgetFlow

/-! ### Stamps and revisions -/

/-- Every node that is ready has an instance. -/
def Arena.Instanced (a : Arena) (s : Store) : Prop :=
  ∀ j node d, a.get? j = some node → node.status = .ready d → s.contains node.id = true

/-- The instance of a node has different revisions in two stores. -/
def Arena.Revised (a : Arena) (s t : Store) (j : Nat) : Prop :=
  ∃ node, a.get? j = some node ∧
    (s.get? node.id).map Instance.revision ≠ (t.get? node.id).map Instance.revision

/-- The instance of a node that is ready. -/
theorem Arena.Instanced.exists {a : Arena} {s : Store} {j : Nat} {node : Node} {d : Definition}
    (h : a.Instanced s) (hnode : a.get? j = some node) (hstatus : node.status = .ready d) :
    ∃ i, s.get? node.id = some i :=
  Store.contains_iff.mp (h j node d hnode hstatus)

namespace Painted

variable {a : Arena} {s t : Store} {children : List Child} {outputs outputs' : List Output}
  {parts parts' : List StampPart} {index : Nat} {node : Node} {d : Definition} {i : Instance}

/-- A blank node is not ready. -/
theorem not_ready_of_blank (hs : a.Instanced s) {out : Output × Stamp}
    (h : a.blank s index = some out) : ∀ node d, a.get? index = some node →
      node.status ≠ .ready d := fun node d hnode hstatus => by
  obtain ⟨i, hi⟩ := hs.exists hnode hstatus
  exact nomatch h.symm.trans (blank_eq_none hnode hstatus hi)

/-- A node that is not ready is blank in the same way over all stores. -/
theorem blank_eq (h : ∀ node d, a.get? index = some node → node.status ≠ .ready d) :
    a.blank t index = a.blank s index := by
  rw [Arena.blank, Arena.blank]
  cases hnode : a.get? index with
  | none => rfl
  | some node =>
      dsimp only
      cases hstatus : node.status with
      | ready d => exact absurd hstatus (h node d hnode)
      | _ => rfl

/-- The revision of the instance of a node is another one. -/
theorem revised_iff {j : Instance} (hnode : a.get? index = some node)
    (hi : s.get? node.id = some i) (hj : t.get? node.id = some j) :
    a.Revised s t index ↔ i.revision ≠ j.revision := by
  constructor
  · rintro ⟨node', hnode', h⟩
    obtain rfl := Option.some.inj (hnode.symm.trans hnode')
    rw [hi, hj] at h
    exact fun heq => h (congrArg some heq)
  · intro h
    refine ⟨node, hnode, ?_⟩
    rw [hi, hj]
    exact fun heq => h (Option.some.inj heq)

/-- The stamps of children are the same over two stores if and only if all instances that the
children show have the same revisions. -/
theorem parts_eq_iff (hs : a.Instanced s) (ht : a.Instanced t)
    (h : Painted a s children outputs parts) (h' : Painted a t children outputs' parts') :
    parts = parts' ↔ ∀ k, a.Shown children k → ¬ a.Revised s t k := by
  induction h generalizing outputs' parts' with
  | nil =>
      cases h'
      exact iff_of_true rfl fun k hk => absurd hk Arena.not_shown_nil
  | text content _ ih =>
      cases h' with
      | text _ h' =>
          rw [List.cons_inj_right, ih h']
          refine forall_congr' fun k => imp_congr_left ?_
          rw [Arena.shown_cons]
          exact (or_iff_right Arena.not_shown_text).symm
  | blank hblank _ ih =>
      have hready := not_ready_of_blank hs hblank
      cases h' with
      | drawn hnode hstatus _ _ _ => exact absurd hstatus (hready _ _ hnode)
      | blank hblank' h' =>
          obtain ⟨-, rfl⟩ := Prod.mk.inj
            (Option.some.inj (hblank.symm.trans ((blank_eq hready).symm.trans hblank')))
          rw [List.cons_inj_right, ih h']
          refine forall_congr' fun k => imp_congr_left ?_
          rw [Arena.shown_cons]
          exact (or_iff_right (Arena.not_shown_of_not_ready hready)).symm
  | drawn hnode hstatus hi _ _ ihbelow ih =>
      cases h' with
      | blank hblank' _ => exact absurd hstatus (not_ready_of_blank ht hblank' _ _ hnode)
      | drawn hnode' hstatus' hj hbelow' h' =>
          obtain rfl := Option.some.inj (hnode.symm.trans hnode')
          have hself := revised_iff hnode hi hj
          have hbelow := ihbelow hbelow'
          have hrest := ih h'
          constructor
          · intro heq
            obtain ⟨hpart, hparts⟩ := List.cons.inj heq
            obtain ⟨hpartsBelow, hrevision⟩ := Stamp.ofParts_inj (StampPart.child.inj hpart)
            intro k hk
            rw [Arena.shown_cons, Arena.shown_ready hnode hstatus] at hk
            rcases hk with (hk | rfl) | hk
            · exact hbelow.mp hpartsBelow k hk
            · exact fun hrevised => hself.mp hrevised hrevision
            · exact hrest.mp hparts k hk
          · intro hall
            simp only [Arena.shown_cons, Arena.shown_ready hnode hstatus] at hall
            have hpartsBelow := hbelow.mpr fun k hk => hall k (.inl (.inl hk))
            have hparts := hrest.mpr fun k hk => hall k (.inr hk)
            have hrevision := not_ne_iff.mp (hself.not.mp (hall _ (.inl (.inr rfl))))
            rw [hpartsBelow, hparts, hrevision]

end Painted

/-! ### Edits -/

/-- Whether an operation makes no instance and removes none. -/
def EngineOp.edits : EngineOp → Bool
  | .createInstance _ _ _ | .removeInstance _ | .clear => false
  | _ => true

/-- An edit leaves alone which instances there are. -/
theorem Engine.contains_edit (e : Engine) {op : EngineOp} (h : op.edits = true) (id : String) :
    (e.perform op).instances.contains id = e.instances.contains id := by
  cases op with
  | createInstance => exact nomatch h
  | removeInstance => exact nomatch h
  | clear => exact nomatch h
  | registerType d => rfl
  | registerBehavior b => rfl
  | updateInstance key u =>
      obtain ⟨events, heq⟩ := e.updateInstance_eq key u
      rw [perform, heq]
      exact Store.contains_mutate
  | connect source target transform? => rw [perform, instances_connect]
  | connectNamed source target name? => rw [perform, connectNamed, instances_connect]
  | disconnect key =>
      obtain ⟨events, heq⟩ := e.disconnect_cases key
      rw [perform, heq]
  | autoConnect components => rw [perform, instances_autoConnect]
  | call call => exact (e.writes_call call).contains id
  | setProperty key name v => exact Store.Writes.of_setProperty.contains id
  | setStyle key property v => exact Store.Writes.of_present.contains id
  | addClass key name => exact Store.Writes.of_present.contains id
  | removeClass key name => exact Store.Writes.of_present.contains id
  | setHidden key hidden => exact Store.Writes.of_present.contains id

/-- Whether a move is an edit: nodes are refreshed, an event is dispatched, or the engine is
written to. -/
def ScreenMove.edits : ScreenMove → Bool
  | .operate (.refresh _) => true
  | .operate (.dispatch _ _ _) => true
  | .write op => op.edits
  | _ => false

/-- The ids that an edit marks: those that are refreshed, by hand or by a dispatched event. -/
def ScreenMove.marks (s : Screen) : ScreenMove → List String
  | .operate (.refresh ids) => ids
  | .operate (.dispatch id event payload) =>
    match (s.dispatch id event payload).1 with
    | .ok done => done.refreshed
    | .error _ => []
  | _ => []

/-- What can be used depends on what is kept only. -/
theorem RenderMemo.output?_congr {m m' : RenderMemo} (h : m'.kept = m.kept) {j : Nat}
    {stamp : Stamp} : m'.output? j stamp = m.output? j stamp := by
  rw [output?, output?, h]

/-- What is kept with one stamp cannot be used with another one. -/
theorem RenderMemo.output?_eq_none_iff {m : RenderMemo} {j : Nat} {stamp stamp' : Stamp}
    (h : ¬ m.output? j stamp = none) : m.output? j stamp' = none ↔ stamp ≠ stamp' := by
  obtain ⟨output, houtput⟩ := Option.ne_none_iff_exists'.mp h
  obtain ⟨r, hr, -⟩ := Option.map_eq_some_iff.mp houtput
  obtain ⟨hlookup, hstamp⟩ := Option.filter_eq_some_iff.mp hr
  obtain rfl : r.stamp = stamp := of_decide_eq_true hstamp
  rw [output?, hlookup, Option.map_eq_none_iff, Option.filter_some]
  simp

/-- Marking adds marks. -/
theorem RenderMemo.mem_stale_mark {m : RenderMemo} {ids : List String} {id : String} :
    id ∈ (m.mark ids).stale ↔ id ∈ m.stale ∨ id ∈ ids := by
  rw [mark]
  dsimp only
  generalize m.stale = stale
  induction ids generalizing stale with
  | nil => simp
  | cons key rest ih =>
      rw [List.foldl_cons, ih, mem_insertName, List.mem_cons]
      tauto

namespace Screen

/-- The ids that a run of edits marks. -/
def marked : Screen → List ScreenMove → List String
  | _, [] => []
  | s, edit :: rest => edit.marks s ++ marked (s.move edit) rest

variable {s t u : Screen} {ids ids' : List String}

/-- Handler code marks the nodes that it says it refreshes. -/
theorem memo_runCode (s : Screen) (id name : String) (code : NodeCode) (event : Value) :
    (s.runCode id name code event).2.memo =
      s.memo.mark (s.runCode id name code event).1.2.2 := by
  rw [runCode]
  cases code.handler? with
  | none => rfl
  | some handler =>
      dsimp only
      generalize handler.run ⟨event, some id, s.engine.config.script.maxSteps⟩ s.engine = out
      obtain ⟨result, engine⟩ := out
      cases result <;> rfl

/-- An event that goes out marks nothing, and says so. -/
theorem emitEvent_marks (s : Screen) (id event : String) (payload : Value) (done : Dispatched) :
    (s.emitEvent id event payload done).2.memo = s.memo ∧
      (s.emitEvent id event payload done).1.refreshed = done.refreshed := by
  rw [emitEvent]
  dsimp only
  split <;> exact ⟨rfl, rfl⟩

/-- A dispatched event marks the nodes that it says it refreshes. -/
theorem memo_dispatch (s : Screen) (id event : String) (payload : Value) :
    (s.dispatch id event payload).2.memo =
      s.memo.mark (ScreenMove.marks s (.operate (.dispatch id event payload))) := by
  rw [ScreenMove.marks, dispatch]
  cases s.readyNode id with
  | error e => rfl
  | ok node =>
      dsimp only
      cases (handlerNames event).findSome? (Dict.get? node.events) with
      | none =>
          dsimp only
          rw [(emitEvent_marks _ id event payload _).1, (emitEvent_marks _ id event payload _).2]
          rfl
      | some code =>
          dsimp only
          rw [(emitEvent_marks _ id event payload _).1, (emitEvent_marks _ id event payload _).2,
            memo_runCode]
          rfl

/-- Between two screens there were edits that marked ids: the tree and what is kept of it are as
before, and there are as many instances. -/
structure Edited (s : Screen) (ids : List String) (t : Screen) : Prop where
  arena : t.arena = s.arena
  kept : t.memo.kept = s.memo.kept
  count : t.memo.count = s.memo.count
  stale : ∀ id, id ∈ t.memo.stale ↔ id ∈ s.memo.stale ∨ id ∈ ids
  contains : ∀ id, t.engine.instances.contains id = s.engine.instances.contains id

namespace Edited

/-- No edit. -/
theorem refl (s : Screen) : s.Edited [] s := ⟨rfl, rfl, rfl, fun _ => by simp, fun _ => rfl⟩

/-- Edits after edits. -/
theorem trans (h : s.Edited ids t) (h' : t.Edited ids' u) : s.Edited (ids ++ ids') u where
  arena := h'.arena.trans h.arena
  kept := h'.kept.trans h.kept
  count := h'.count.trans h.count
  stale id := by rw [h'.stale, h.stale, List.mem_append, or_assoc]
  contains id := (h'.contains id).trans (h.contains id)

/-- One edit. -/
theorem move (s : Screen) {edit : ScreenMove} (h : edit.edits = true) :
    s.Edited (edit.marks s) (s.move edit) := by
  cases edit with
  | write op => exact ⟨rfl, rfl, rfl, fun _ => by simp [ScreenMove.marks, Screen.move],
      s.engine.contains_edit h⟩
  | operate op =>
      cases op with
      | refresh ids => exact ⟨rfl, rfl, rfl, fun _ => RenderMemo.mem_stale_mark, fun _ => rfl⟩
      | dispatch id event payload =>
          have hreacts := s.dispatch_reacts id event payload
          have hmemo := s.memo_dispatch id event payload
          refine ⟨(congrArg Screen.arena hreacts.rest).trans rfl,
            (congrArg RenderMemo.kept hmemo).trans rfl,
            (congrArg RenderMemo.count hmemo).trans rfl, fun key => ?_,
            hreacts.flows.writes.contains⟩
          rw [Screen.move, perform, hmemo]
          exact RenderMemo.mem_stale_mark
      | _ => cases h

/-- A run of edits. -/
theorem run (s : Screen) (edits : List ScreenMove) (h : ∀ edit ∈ edits, edit.edits = true) :
    s.Edited (s.marked edits) (edits.foldl Screen.move s) := by
  induction edits generalizing s with
  | nil => exact .refl s
  | cons edit rest ih =>
      obtain ⟨hfirst, hrest⟩ := List.forall_mem_cons.mp h
      exact (move s hfirst).trans (ih (s.move edit) hrest)

end Edited

/-! ### After a rendering -/

/-- No shown node is due. -/
def Settled (s : Screen) : Prop := ∀ j, s.Shown j → ¬ s.Due j

/-- Rendering changes only what is remembered. -/
theorem render_rest (s : Screen) : s.render.2 = { s with memo := s.render.2.memo } := by
  rw [render_eq]

/-- Rendering leaves the tree alone. -/
theorem arena_render (s : Screen) : s.render.2.arena = s.arena := by
  rw [render_eq]

/-- Rendering leaves the engine alone. -/
theorem engine_render (s : Screen) : s.render.2.engine = s.engine := by
  rw [render_eq]

/-- A rendering settles a screen. -/
theorem Coherent.settled_render (h : s.Coherent) (hk : s.arena.Keyed) : s.render.2.Settled := by
  obtain ⟨drawn, hdrawn⟩ := h.render_redraws hk
  rw [render_rest]
  exact fun j hshown hdue => ((hdrawn.due_iff j).mp hdue).2 hshown

/-- Rendering a second time gives the same. -/
theorem Coherent.render_render (h : s.Coherent) : s.render.2.render.1 = s.render.1 := by
  obtain ⟨m, hm⟩ : ∃ m, s.render.2 = { s with memo := m } := ⟨_, s.render_rest⟩
  have hsound := h.render.sound
  rw [hm] at hsound ⊢
  rw [render_eq, render_eq s]
  exact congrArg s.arranged (h.mapM_renderAt_eq s.arena.roots hsound h.sound)

/-- Rendering a settled screen draws nothing. -/
theorem Coherent.render_settled (h : s.Coherent) (hk : s.arena.Keyed) (hsettled : s.Settled) :
    Draws s.arena s.engine.instances s.memo [] s.render.2.memo := by
  obtain ⟨drawn, hdrawn⟩ := h.render_redraws hk
  have hnone : drawn = [] := List.eq_nil_iff_forall_not_mem.mpr fun j hj =>
    have hdue := (hdrawn.mem_iff j).mp hj
    hsettled j hdue.1 hdue.2
  rw [← hnone]
  exact hdrawn.draws

/-- What a node looks like. -/
theorem Coherent.exists_painted (h : s.Coherent) (j : Nat) :
    ∃ output stamp, Painted s.arena s.engine.instances [.node j] [output] [.child stamp] :=
  ⟨_, _, (renderNode_paints h.linked h.dated (s.arena.slots.length + 1) j (by omega) h.sound).1⟩

/-- After edits of a settled screen a shown node is due if and only if it is marked, or it shows an
instance that has another revision. -/
theorem Edited.due_iff (h : s.Edited ids t) (hs : s.Coherent) (ht : t.Coherent)
    (hsettled : s.Settled) (hinstances : s.arena.Instanced s.engine.instances) {j : Nat}
    (hj : s.Shown j) :
    t.Due j ↔ (∃ node, s.arena.get? j = some node ∧ node.id ∈ ids) ∨
      ∃ k, s.arena.Shown [.node j] k ∧
        s.arena.Revised s.engine.instances t.engine.instances k := by
  have hlater : s.arena.Instanced t.engine.instances := fun k node d hnode hstatus =>
    (h.contains node.id).trans (hinstances k node d hnode hstatus)
  obtain ⟨node, d, hnode, hstatus⟩ := hj.ready
  obtain ⟨i, hi⟩ := hinstances.exists hnode hstatus
  obtain ⟨i', hi'⟩ := hlater.exists hnode hstatus
  obtain ⟨output, stamp, hbefore⟩ := hs.exists_painted j
  obtain ⟨output', stamp', hafter⟩ := ht.exists_painted j
  rw [h.arena] at hafter
  -- before the edits the node was not marked, and was kept with its stamp
  have hclean := hsettled j hj
  rw [Due, Arena.due_iff hnode hstatus hi hbefore, not_or] at hclean
  have hstamp : t.memo.output? j stamp' = none ↔ stamp ≠ stamp' := by
    rw [RenderMemo.output?_congr h.kept, RenderMemo.output?_eq_none_iff hclean.2]
  have hparts : stamp = stamp' ↔ _ := Iff.trans (by simp)
    (hbefore.parts_eq_iff hinstances hlater hafter)
  rw [Due, h.arena, Arena.due_iff hnode hstatus hi' hafter, h.stale, or_iff_right hclean.1, hstamp,
    ne_eq, hparts]
  refine or_congr ⟨fun hid => ⟨node, hnode, hid⟩, ?_⟩ (by simp)
  rintro ⟨node', hnode', hid⟩
  obtain rfl := Option.some.inj (hnode.symm.trans hnode')
  exact hid

/-! ### Where every ready node has an instance -/

/-- The moves that register definitions and then work on the tree only. -/
def movesOver (definitions : List Definition) (ops : List ScreenOp) : List ScreenMove :=
  definitions.map (fun d => .write (.registerType d)) ++ ops.map .operate

/-- Registering definitions first is like having them from the start. -/
theorem foldl_movesOver (config : Config) (definitions : List Definition) (ops : List ScreenOp) :
    (movesOver definitions ops).foldl move { engine := Engine.new config } =
      ops.foldl perform (initial config definitions []) := by
  have hregister : ∀ s : Screen,
      definitions.foldl (fun s d => s.move (.write (.registerType d))) s =
        { s with engine := definitions.foldl Engine.registerType s.engine } := by
    induction definitions with
    | nil => exact fun _ => rfl
    | cons d rest ih => exact fun s => ih _
  rw [movesOver, List.foldl_append, List.foldl_map, List.foldl_map, hregister]
  rfl

/-- If definitions are registered first that make their instances in the usual way, and then there
are operations only, then every node that is ready has an instance. -/
theorem instanced_movesOver (config : Config) {definitions : List Definition}
    (hplain : ∀ d ∈ definitions, d.instantiate? = none) (ops : List ScreenOp) :
    let s := (movesOver definitions ops).foldl move { engine := Engine.new config }
    s.arena.Instanced s.engine.instances := by
  have hfaithful : ∀ d ∈ definitions, d.Faithful := fun d hd id properties =>
    (Definition.instantiate_of_plain (hplain d hd) id properties).1
  have hblank := blank_initial config [] hfaithful
  have htracked : Tracked _ (ops.foldl perform (initial config definitions [])) :=
    hblank.tracked.run hblank.engine.sane (plain_initial config [] hplain) ops
  rw [foldl_movesOver]
  intro s j node d hnode hstatus
  obtain ⟨i, hi, -⟩ := htracked.ready hnode (hstatus ▸ rfl)
  exact Store.contains_iff.mpr ⟨i, hi⟩

/-! ### Rendering again -/

/-- **Rendering again draws exactly what it has to.** Take any screen that a run of moves leads to,
in which every node that is ready has an instance. Right after it has been rendered, another
rendering gives the same and draws nothing. After edits it draws, once each, the shown nodes that
were marked and those that show an instance with another revision, and no other node. -/
theorem rendering_again (config : Config) (resolver : Resolver) (moves edits : List ScreenMove)
    (hinstances :
      let s := moves.foldl move { engine := Engine.new config, resolver }
      s.arena.Instanced s.engine.instances)
    (hedits : ∀ edit ∈ edits, edit.edits = true) :
    let s := (moves.foldl move { engine := Engine.new config, resolver }).render
    let t := edits.foldl move s.2
    (∃ drawn, Draws t.arena t.engine.instances t.memo drawn t.render.2.memo ∧ drawn.Nodup ∧
      t.render.2.memo.count = s.2.memo.count + drawn.length ∧
      ∀ j, j ∈ drawn ↔ t.Shown j ∧
        ((∃ node, t.arena.get? j = some node ∧ node.id ∈ s.2.marked edits) ∨
          ∃ k, t.arena.Shown [.node j] k ∧
            t.arena.Revised s.2.engine.instances t.engine.instances k)) ∧
    s.2.render.1 = s.1 ∧
      Draws s.2.arena s.2.engine.instances s.2.memo [] s.2.render.2.memo := by
  intro s t
  set u := moves.foldl move { engine := Engine.new config, resolver }
  have hcoherent : u.Coherent := (Coherent.start config resolver).run moves
  have hkeyed : u.arena.Keyed := keyed_run .empty moves
  have harena : s.2.arena = u.arena := u.arena_render
  have hengine : s.2.engine = u.engine := u.engine_render
  have hs : s.2.Coherent := hcoherent.render
  have hsettled : s.2.Settled := hcoherent.settled_render hkeyed
  have hedited : s.2.Edited _ t := .run s.2 edits hedits
  have ht : t.Coherent := hs.run edits
  refine ⟨?_, hcoherent.render_render, hs.render_settled (harena ▸ hkeyed) hsettled⟩
  obtain ⟨drawn, hdrawn⟩ := ht.render_redraws (hedited.arena ▸ harena ▸ hkeyed)
  refine ⟨drawn, hdrawn.draws, hdrawn.nodup, ?_, fun j => ?_⟩
  · rw [hdrawn.draws.count, hedited.count]
  · rw [hdrawn.mem_iff]
    refine and_congr_right fun hshown => ?_
    have hbefore : s.2.Shown j := by
      rwa [Shown, hedited.arena] at hshown
    have hthere : s.2.arena.Instanced s.2.engine.instances := by
      rw [harena, hengine]
      exact hinstances
    change t.Due j ↔ _
    rw [hedited.arena]
    exact hedited.due_iff hs ht hsettled hthere hbefore

/-- A draft was mounted, resolved and rendered. Then its container is refreshed, and its first text
gets another content. -/
theorem rendering_again_draft :
    let moves := movesOver Catalog.definitions [.mount draft, .resolve]
    let edits := [.operate (.refresh ["root"]), .write (.setProperty "t1" "text" (.str "b"))]
    let s := (moves.foldl move { engine := Engine.new {} }).render
    let t := edits.foldl move s.2
    (∃ drawn, Draws t.arena t.engine.instances t.memo drawn t.render.2.memo ∧ drawn.Nodup ∧
      t.render.2.memo.count = s.2.memo.count + drawn.length ∧
      ∀ j, j ∈ drawn ↔ t.Shown j ∧
        ((∃ node, t.arena.get? j = some node ∧ node.id ∈ s.2.marked edits) ∨
          ∃ k, t.arena.Shown [.node j] k ∧
            t.arena.Revised s.2.engine.instances t.engine.instances k)) ∧
    s.2.render.1 = s.1 ∧
      Draws s.2.arena s.2.engine.instances s.2.memo [] s.2.render.2.memo :=
  rendering_again {} Registry.resolve (movesOver Catalog.definitions [.mount draft, .resolve])
    [.operate (.refresh ["root"]), .write (.setProperty "t1" "text" (.str "b"))]
    (instanced_movesOver {} instantiate?_catalog [.mount draft, .resolve]) (by decide)

end Screen

end WidgetFlow
