import WidgetFlow.Proofs.Screen.Paint
import WidgetFlow.Proofs.Screen.Mount

/-!
# The cache of renderings is invisible

Rendering keeps what it rendered of a node together with a stamp, and uses it again as long as the
stamp is the same. What is kept embeds the outputs of everything below the node, while the stamp
only names texts, stamps of children and one revision.

`RenderMemo.Sound` is the invariant behind it: whatever is kept of a node is what the node looks
like (`Painted`) whenever it has this stamp, now and in every later state of the tree and of the
instances. Later states come from mounting, resolving and removing on one side (`Arena.Later`), and
from everything that happens to an engine on the other (`Store.Later`); a reset of the tree forgets
what was kept.

## Main results

* `renderNode_paints`: with a sound memo, rendering gives what the tree looks like.
* `Coherent.perform`: every operation keeps the memo sound.
* `render_eq_uncached`: **the cache is invisible**.
-/

namespace WidgetFlow

namespace RenderMemo

variable {a b : Arena} {s t : Store} {m : RenderMemo} {index : Nat} {stamp : Stamp}

/-- Whatever is kept of a node is what the node looks like whenever it has the same stamp, now and
in every later state. -/
def Sound (m : RenderMemo) (a : Arena) (s : Store) : Prop :=
  ∀ entry ∈ m.kept, ∀ b t, a.Later b → s.Later t → b.Linked [] → ∀ output,
    Painted b t [.node entry.1] [output] [.child entry.2.stamp] → output = entry.2.output

/-- Without a kept output a memo is sound. -/
theorem Sound.of_kept_eq_nil (h : m.kept = []) : m.Sound a s := by
  rw [Sound, h]
  exact fun entry hentry => nomatch hentry

/-- A memo that keeps less stays sound in a later state. -/
theorem Sound.later {m' : RenderMemo} (h : m.Sound a s) (hkept : m'.kept ⊆ m.kept) (hab : a.Later b)
    (hst : s.Later t) : m'.Sound b t :=
  fun entry hentry c u hbc htu => h entry (hkept hentry) c u (hab.trans hbc) (hst.trans htu)

/-- Another mark does not matter. -/
theorem Sound.of_kept_eq {m' : RenderMemo} (h : m.Sound a s) (hkept : m'.kept = m.kept) :
    m'.Sound a s :=
  h.later (by rw [hkept]; exact List.Subset.refl _) (.refl a) (.refl s)

/-- What is kept of a node is what it looks like with the same stamp. -/
theorem Sound.eq_of_output? {output painted : Output} (h : m.Sound a s) (ha : a.Linked [])
    (hkept : m.output? index stamp = some output)
    (hpainted : Painted a s [.node index] [painted] [.child stamp]) : painted = output := by
  obtain ⟨r, hr, rfl⟩ := Option.map_eq_some_iff.mp hkept
  obtain ⟨hlookup, hstamp⟩ := Option.filter_eq_some_iff.mp hr
  obtain rfl : r.stamp = stamp := of_decide_eq_true hstamp
  have hmem : (index, r) ∈ m.kept := Dict.mem_of_lookup hlookup
  exact h (index, r) hmem a s (.refl a) (.refl s) ha painted hpainted

/-- What a node looks like now may be kept with its stamp. -/
theorem Sound.keep {output : Output} (h : m.Sound a s) (ha : a.Linked []) (hs : s.Dated)
    (hstamp : stamp ≠ .waiting) (hpainted : Painted a s [.node index] [output] [.child stamp]) :
    (m.keep index ⟨stamp, output⟩).Sound a s := by
  intro entry hentry b t hab hst hb later hlater
  obtain rfl | hentry := List.mem_cons.mp hentry
  · obtain ⟨n, hn⟩ := hpainted.exists_node hstamp
    have hthere := hlater.exists_node hstamp
    have heq := hpainted.stable ha hb hs hab hst (fun j hj => by
      obtain rfl := Child.node.inj (List.mem_singleton.mp hj)
      exact ⟨Arena.lt_of_get? hn, hthere⟩) hlater
    exact (List.cons.inj heq).1
  · exact h entry (List.mem_of_mem_filter hentry) b t hab hst hb later hlater

end RenderMemo

variable {a : Arena} {s : Store} {m : RenderMemo}

/-- A rendering of children by a way to render nodes that gives what they look like. -/
theorem mapM_renderChild {render : Nat → StateM RenderMemo (Output × Stamp)} (children : List Child)
    (hrender : ∀ j, Child.node j ∈ children → ∀ m : RenderMemo, m.Sound a s →
      Painted a s [.node j] [(render j m).1.1] [.child (render j m).1.2] ∧
        (render j m).2.Sound a s) (hm : m.Sound a s) :
    Painted a s children ((children.mapM (renderChild render) m).1.map (·.1))
        ((children.mapM (renderChild render) m).1.map (·.2)) ∧
      (children.mapM (renderChild render) m).2.Sound a s := by
  induction children generalizing m with
  | nil => exact ⟨.nil, hm⟩
  | cons child rest ih =>
      rw [List.mapM_cons]
      have hrest := fun j hj => hrender j (List.mem_cons_of_mem child hj)
      cases child with
      | text content =>
          obtain ⟨hpainted, hsound⟩ := ih hrest hm
          exact ⟨.text content hpainted, hsound⟩
      | node j =>
          obtain ⟨hfirst, hm'⟩ := hrender j List.mem_cons_self m hm
          obtain ⟨hpainted, hsound⟩ := ih hrest hm'
          exact ⟨hfirst.cons hpainted, hsound⟩

/-- Rendering a node that has a definition and an instance gives what it looks like. -/
theorem renderInstance_paints {index : Nat} {d : Definition} {i : Instance} {below : List Output}
    {parts : List StampPart} (id : String) (ha : a.Linked []) (hs : s.Dated) (hm : m.Sound a s)
    (hpainted : Painted a s [.node index] [d.render (renderContext d i below)]
      [.child (.ofParts parts i.revision)]) :
    (renderInstance index id d i below (.ofParts parts i.revision) m).1 =
        d.render (renderContext d i below) ∧
      (renderInstance index id d i below (.ofParts parts i.revision) m).2.Sound a s := by
  rw [renderInstance]
  split
  · next output hkept =>
      split at hkept
      · exact nomatch hkept
      · exact ⟨(hm.eq_of_output? ha hkept hpainted).symm, hm.of_kept_eq rfl⟩
  · refine ⟨rfl, RenderMemo.Sound.keep (hm.of_kept_eq rfl) ha hs ?_ hpainted⟩
    exact Stamp.ofParts_ne_waiting

/-- A node that is not ready is rendered blank, and nothing is remembered of it. -/
theorem renderNode_of_not_ready (n : Nat) {index : Nat}
    (h : ∀ node d, a.get? index = some node → node.status ≠ .ready d) :
    ∃ out, a.blank s index = some out ∧ renderNode a s (n + 1) index m = (out, m) := by
  rw [renderNode, Arena.blank]
  cases hnode : a.get? index with
  | none => exact ⟨_, rfl, rfl⟩
  | some node =>
      dsimp only
      cases hstatus : node.status with
      | unresolved => exact ⟨_, rfl, rfl⟩
      | loading => exact ⟨_, rfl, rfl⟩
      | error reason => exact ⟨_, rfl, rfl⟩
      | ready d => exact absurd hstatus (h node d hnode)

/-- A node that is ready is rendered after its children, from its instance if there is one. -/
theorem renderNode_of_ready (n : Nat) {index : Nat} {node : Node} {d : Definition}
    (hnode : a.get? index = some node) (hstatus : node.status = .ready d) :
    renderNode a s (n + 1) index m =
      let out := node.children.mapM (renderChild (renderNode a s n)) m
      match s.get? node.id with
      | none => ((node.fallback "instance missing", .failed), out.2)
      | some i =>
        let stamp := Stamp.ofParts (out.1.map (·.2)) i.revision
        let drawn := renderInstance index node.id d i (out.1.map (·.1)) stamp out.2
        ((drawn.1, stamp), drawn.2) := by
  rw [renderNode, hnode]
  dsimp only
  rw [hstatus]
  cases s.get? node.id <;> rfl

/-- Rendering a node with a sound memo, deep enough, gives what the node looks like, and leaves the
memo sound. -/
theorem renderNode_paints (ha : a.Linked []) (hs : s.Dated) (n index : Nat)
    (hdeep : a.slots.length ≤ index + n) (hm : m.Sound a s) :
    Painted a s [.node index] [(renderNode a s n index m).1.1]
        [.child (renderNode a s n index m).1.2] ∧
      (renderNode a s n index m).2.Sound a s := by
  induction n generalizing index m with
  | zero =>
      refine ⟨.blank ?_ .nil, hm⟩
      rw [Arena.blank, Arena.get?_eq_none (Nat.add_zero index ▸ hdeep)]
      rfl
  | succ n ih =>
      by_cases hready : ∃ node d, a.get? index = some node ∧ node.status = .ready d
      · obtain ⟨node, d, hnode, hstatus⟩ := hready
        obtain ⟨hbelow, hm'⟩ := mapM_renderChild node.children (fun j hj m hm =>
          ih j (by
            have hlt := (ha.child hnode (Node.mem_childNodes.mpr hj)).1
            omega) hm) hm
        rw [renderNode_of_ready n hnode hstatus]
        cases hi : s.get? node.id with
        | none =>
            refine ⟨.blank ?_ .nil, hm'⟩
            rw [Arena.blank, hnode]
            dsimp only
            rw [hstatus]
            exact if_neg fun hcontains => by
              rw [Store.contains_eq_false_iff.mpr hi] at hcontains
              cases hcontains
        | some i =>
            have hdrawn := Painted.drawn hnode hstatus hi hbelow .nil
            obtain ⟨heq, hsound⟩ := renderInstance_paints node.id ha hs hm' hdrawn
            refine ⟨?_, hsound⟩
            dsimp only
            rw [heq]
            exact hdrawn
      · obtain ⟨out, hblank, heq⟩ := renderNode_of_not_ready (m := m) (s := s) n
          fun node d hnode hstatus => hready ⟨node, d, hnode, hstatus⟩
        rw [heq]
        exact ⟨.blank hblank .nil, hm⟩

namespace Screen

variable {s s' : Screen}

/-- The tree is a forest, no revision is ahead of the clock, and what is kept of renderings can be
used. -/
structure Coherent (s : Screen) : Prop where
  linked : s.arena.Linked []
  dated : s.engine.instances.Dated
  sound : s.memo.Sound s.arena s.engine.instances

/-! ### Rendering -/

/-- Rendering nodes in turn gives what they look like. -/
theorem Coherent.mapM_renderAt (h : s.Coherent) (indices : List Nat) {m : RenderMemo}
    (hm : m.Sound s.arena s.engine.instances) :
    (∃ parts, Painted s.arena s.engine.instances (indices.map .node)
        (indices.mapM s.renderAt m).1 parts) ∧
      (indices.mapM s.renderAt m).2.Sound s.arena s.engine.instances := by
  induction indices generalizing m with
  | nil => exact ⟨⟨[], .nil⟩, hm⟩
  | cons index rest ih =>
      rw [List.mapM_cons, List.map_cons]
      obtain ⟨hfirst, hm'⟩ := renderNode_paints h.linked h.dated (s.arena.slots.length + 1) index
        (by omega) hm
      obtain ⟨⟨parts, hrest⟩, hsound⟩ := ih hm'
      exact ⟨⟨_, hfirst.cons hrest⟩, hsound⟩

/-- Rendering with one memo and with another one gives the same. -/
theorem Coherent.mapM_renderAt_eq (h : s.Coherent) (indices : List Nat) {m m' : RenderMemo}
    (hm : m.Sound s.arena s.engine.instances) (hm' : m'.Sound s.arena s.engine.instances) :
    (indices.mapM s.renderAt m).1 = (indices.mapM s.renderAt m').1 := by
  obtain ⟨⟨parts, hpainted⟩, -⟩ := h.mapM_renderAt indices hm
  obtain ⟨⟨parts', hpainted'⟩, -⟩ := h.mapM_renderAt indices hm'
  exact (hpainted.unique hpainted').1

/-! ### Operations -/

/-- A coherent screen stays coherent when something happens to its engine, and its tree moves on or
is forgotten. -/
theorem Coherent.step (h : s.Coherent) (hruns : s.engine.Runs true s'.engine)
    (hlinked : s'.arena.Linked [])
    (hmemo : s'.memo.kept = [] ∨ s.arena.Later s'.arena ∧ s'.memo.kept ⊆ s.memo.kept) :
    s'.Coherent := by
  obtain ⟨hdated, hlater⟩ := hruns.evolves h.dated
  refine ⟨hlinked, hdated, ?_⟩
  obtain hnil | ⟨harena, hkept⟩ := hmemo
  · exact .of_kept_eq_nil hnil
  · exact h.sound.later hkept harena hlater

/-- Rendering keeps a screen coherent. -/
theorem Coherent.render (h : s.Coherent) : s.render.2.Coherent := by
  rw [render_eq]
  exact ⟨h.linked, h.dated, (h.mapM_renderAt s.arena.roots h.sound).2⟩

/-- Rendering one node keeps a screen coherent. -/
theorem Coherent.renderId (h : s.Coherent) (id : String) : (s.renderId id).2.Coherent := by
  rw [Screen.renderId]
  cases s.arena.indexOf? id with
  | none => exact h
  | some index =>
      exact ⟨h.linked, h.dated, (renderNode_paints h.linked h.dated (s.arena.slots.length + 1) index
        (by omega) h.sound).2⟩

/-- Handler code and values that go through the engine keep a screen coherent. -/
theorem Coherent.reacts (h : s.Coherent) (hreacts : s.Reacts s') : s'.Coherent := by
  have hruns : s.engine.Runs true s'.engine := (Engine.Runs.refl _).flow hreacts.flows
  refine h.step hruns ?_ (.inr ⟨?_, ?_⟩)
  · rw [hreacts.rest]
    exact h.linked
  · rw [hreacts.rest]
    exact .refl _
  · rw [hreacts.rest]
    exact List.Subset.refl _

/-- Every operation keeps a screen coherent. -/
theorem Coherent.perform (h : s.Coherent) (op : ScreenOp) : (s.perform op).Coherent := by
  have hruns : s.engine.Runs true (s.perform op).engine := s.runs_perform op (.inl rfl)
  cases op with
  | mount plan =>
      rcases s.mount_cases plan with heq | ⟨-, heq⟩
      · rwa [Screen.perform, heq]
      · rw [Screen.perform, heq] at hruns ⊢
        exact h.step hruns (s.linked_planted h.linked _ _)
          (.inr ⟨s.later_planted s.arena _ _, List.Subset.refl _⟩)
  | mountApp app =>
      rcases s.mountApp_cases app with heq | hok
      · rwa [Screen.perform, heq]
      · obtain ⟨layout?, theme?, heq⟩ := mountApp_of_ok hok
        rw [Screen.perform, heq] at hruns ⊢
        exact h.step hruns (s.linked_planted h.linked _ _)
          (.inr ⟨s.later_planted s.arena _ _, List.Subset.refl _⟩)
  | replaceTree plan =>
      rcases s.replaceTree_cases plan with heq | ⟨-, heq⟩
      · rwa [Screen.perform, heq]
      · rw [Screen.perform, heq] at hruns ⊢
        exact h.step hruns (linked_planted .empty _ _) (.inl rfl)
  | replaceApp app =>
      rcases s.replaceApp_cases app with heq | ⟨-, layout?, theme?, heq⟩
      · rwa [Screen.perform, heq]
      · rw [Screen.perform, heq] at hruns ⊢
        exact h.step hruns (linked_planted .empty _ _) (.inl rfl)
  | resolve =>
      obtain ⟨engine, wires, autoConnectPending, heq⟩ := s.resolve_rest
      refine h.step hruns (s.restated_resolve.linked h.linked) (.inr ⟨s.later_resolve, ?_⟩)
      rw [Screen.perform, heq]
      exact List.Subset.refl _
  | render => exact h.render
  | renderId id => exact h.renderId id
  | refresh ids => exact h.reacts (s.refresh_reacts ids)
  | dispatch id event payload => exact h.reacts (s.dispatch_reacts id event payload)
  | invoke id method args => exact h.reacts (s.invoke_reacts id method args)
  | removeNode id =>
      rcases s.removeNode_cases id with heq | ⟨index, engine, memo, -, hkept, heq⟩
      · rwa [Screen.perform, heq]
      · rw [Screen.perform, heq] at hruns ⊢
        refine h.step hruns (h.linked.removeSubtree index)
          (.inr ⟨h.linked.later_removeSubtree index, ?_⟩)
        rw [hkept]
        exact List.filter_subset_self _
  | unmount => exact h.step hruns .empty (.inl rfl)

/-- Whatever is done to the engine of a screen from outside keeps the screen coherent. -/
theorem Coherent.write (h : s.Coherent) (op : EngineOp) :
    { s with engine := s.engine.perform op }.Coherent :=
  h.step (.of_perform s.engine op fun _ => rfl) h.linked (.inr ⟨.refl _, List.Subset.refl _⟩)

end Screen

/-- What may happen to a screen: an operation on it, or an operation on its engine past it. -/
inductive ScreenMove where
  | operate (op : ScreenOp)
  | write (op : EngineOp)

namespace Screen

/-- The screen after a move. -/
def move (s : Screen) : ScreenMove → Screen
  | .operate op => s.perform op
  | .write op => { s with engine := s.engine.perform op }

/-- What a run of moves does to the engine is a run of the engine. -/
theorem runs_run (s : Screen) (moves : List ScreenMove) :
    s.engine.Runs true (moves.foldl move s).engine :=
  List.foldlRecOn (motive := fun t : Screen => s.engine.Runs true t.engine) moves move (.refl _)
    fun t ht m _ => by
      cases m with
      | operate op => exact ht.trans (t.runs_perform op (.inl rfl))
      | write op => exact ht.perform op fun _ => rfl

/-- The screen as it would be if nothing that was rendered had been kept. -/
def uncached (s : Screen) : Screen := { s with memo := { s.memo with kept := [] } }

/-- A screen over a new engine is coherent. -/
theorem Coherent.start (config : Config) (resolver : Resolver) :
    Coherent { engine := Engine.new config, resolver } :=
  ⟨.empty, .empty, .of_kept_eq_nil rfl⟩

/-- Every run of moves keeps a screen coherent. -/
theorem Coherent.run {s : Screen} (h : s.Coherent) (moves : List ScreenMove) :
    (moves.foldl move s).Coherent :=
  List.foldlRecOn moves move h fun t ht m _ => by
    cases m with
    | operate op => exact ht.perform op
    | write op => exact ht.write op

/-- **The cache is invisible.** After every run of moves from a screen over a new engine, with any
way to look up definitions, rendering gives exactly what it would give without any kept output. -/
theorem render_eq_uncached (config : Config) (resolver : Resolver) (moves : List ScreenMove) :
    let s := moves.foldl move { engine := Engine.new config, resolver }
    s.render.1 = s.uncached.render.1 := by
  intro s
  have h : s.Coherent := (Coherent.start config resolver).run moves
  rw [render_eq, render_eq]
  exact congrArg s.arranged (h.mapM_renderAt_eq s.arena.roots h.sound (.of_kept_eq_nil rfl))

end Screen

end WidgetFlow
