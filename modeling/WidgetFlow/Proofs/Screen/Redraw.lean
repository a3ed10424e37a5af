import WidgetFlow.Proofs.Screen.Cache
import WidgetFlow.Proofs.Tree.Planting

/-!
# Which nodes a rendering draws

A rendering goes to every node that is shown: from the roots through nodes that are ready
(`Arena.Shown`). It draws a shown node, by running its definition, if the node is due
(`Arena.Due`): if it is marked as stale, or if nothing is kept of it with the stamp that it has now.

`Redraws a s region m drawn m'` says this of a rendering of the nodes of a region. Every due node of
the region is drawn once, and no other one; afterwards nothing in the region is due, and outside of
it nothing has changed. Renderings compose (`Redraws.append`), and regions need not be disjoint for
that, because a node that was drawn is not due any more.

## Main results

* `renderInstance_redraws`: one node is drawn if it is due.
* `renderNode_redraws`: a node is rendered with what it shows.
* `Screen.Coherent.render_redraws`: a screen is rendered.
-/

namespace WidgetFlow

/-! ### What is shown -/

namespace Arena

variable {a : Arena} {children rest : List Child} {child : Child} {node : Node} {d : Definition}
  {j k : Nat}

/-- A node that is ready is shown below children: as one of them, or below one of them that is ready
as well. -/
inductive Shown (a : Arena) : List Child → Nat → Prop
  | here {children : List Child} {k : Nat} {node : Node} {d : Definition}
      (hk : .node k ∈ children) (hnode : a.get? k = some node) (hstatus : node.status = .ready d) :
      Shown a children k
  | under {children : List Child} {j k : Nat} {node : Node} {d : Definition}
      (hj : .node j ∈ children) (hnode : a.get? j = some node) (hstatus : node.status = .ready d)
      (h : Shown a node.children k) : Shown a children k

/-- What is shown below children is shown below more children. -/
theorem Shown.mono {more : List Child} (h : a.Shown children k) (hsub : children ⊆ more) :
    a.Shown more k := by
  cases h with
  | here hk hnode hstatus => exact .here (hsub hk) hnode hstatus
  | under hj hnode hstatus h => exact .under (hsub hj) hnode hstatus h

/-- Below no children nothing is shown. -/
theorem not_shown_nil : ¬ a.Shown [] k := by
  intro h
  cases h with
  | here hk _ _ => cases hk
  | under hj _ _ _ => cases hj

/-- What is shown below a child and others is shown below the child or below the others. -/
theorem shown_cons : a.Shown (child :: rest) k ↔ a.Shown [child] k ∨ a.Shown rest k := by
  constructor
  · intro h
    cases h with
    | here hk hnode hstatus =>
        rcases List.mem_cons.mp hk with rfl | hk
        · exact .inl (.here List.mem_cons_self hnode hstatus)
        · exact .inr (.here hk hnode hstatus)
    | under hj hnode hstatus h =>
        rcases List.mem_cons.mp hj with rfl | hj
        · exact .inl (.under List.mem_cons_self hnode hstatus h)
        · exact .inr (.under hj hnode hstatus h)
  · rintro (h | h)
    · exact h.mono (List.cons_subset_cons _ (List.nil_subset _))
    · exact h.mono (List.subset_cons_self _ _)

/-- Below a text nothing is shown. -/
theorem not_shown_text {content : String} : ¬ a.Shown [.text content] k := by
  intro h
  cases h with
  | here hk _ _ => cases List.mem_singleton.mp hk
  | under hj _ _ _ => cases List.mem_singleton.mp hj

/-- A shown node is ready. -/
theorem Shown.ready (h : a.Shown children k) :
    ∃ node d, a.get? k = some node ∧ node.status = .ready d := by
  induction h with
  | here _ hnode hstatus => exact ⟨_, _, hnode, hstatus⟩
  | under _ _ _ _ ih => exact ih

/-- A node that is ready is shown with what is shown below it. -/
theorem shown_ready (hnode : a.get? j = some node) (hstatus : node.status = .ready d) :
    a.Shown [.node j] k ↔ a.Shown node.children k ∨ k = j := by
  constructor
  · intro h
    cases h with
    | here hk _ _ => exact .inr (Child.node.inj (List.mem_singleton.mp hk))
    | under hj hnode' _ h =>
        obtain rfl := Child.node.inj (List.mem_singleton.mp hj)
        obtain rfl := Option.some.inj (hnode.symm.trans hnode')
        exact .inl h
  · rintro (h | rfl)
    · exact .under List.mem_cons_self hnode hstatus h
    · exact .here List.mem_cons_self hnode hstatus

/-- A node that is not ready shows nothing. -/
theorem not_shown_of_not_ready (h : ∀ node d, a.get? j = some node → node.status ≠ .ready d) :
    ¬ a.Shown [.node j] k := by
  intro hshown
  cases hshown with
  | here hk hnode hstatus =>
      obtain rfl := Child.node.inj (List.mem_singleton.mp hk)
      exact h _ _ hnode hstatus
  | under hj hnode hstatus _ =>
      obtain rfl := Child.node.inj (List.mem_singleton.mp hj)
      exact h _ _ hnode hstatus

/-! ### What is due -/

/-- A node that is ready and has an instance is due if it is marked as stale, or if nothing is kept
of it with the stamp that it has now. -/
def Due (a : Arena) (s : Store) (m : RenderMemo) (j : Nat) : Prop :=
  ∃ node d i output stamp, a.get? j = some node ∧ node.status = .ready d ∧
    s.get? node.id = some i ∧ Painted a s [.node j] [output] [.child stamp] ∧
    (node.id ∈ m.stale ∨ m.output? j stamp = none)

/-- Whether a node is due, if it is known what it looks like. -/
theorem due_iff {s : Store} {m : RenderMemo} {i : Instance} {output : Output} {stamp : Stamp}
    (hnode : a.get? j = some node) (hstatus : node.status = .ready d)
    (hi : s.get? node.id = some i) (hpainted : Painted a s [.node j] [output] [.child stamp]) :
    a.Due s m j ↔ node.id ∈ m.stale ∨ m.output? j stamp = none := by
  constructor
  · rintro ⟨node', d', i', output', stamp', hnode', -, -, hpainted', h⟩
    obtain rfl := Option.some.inj (hnode.symm.trans hnode')
    obtain rfl : stamp = stamp' :=
      StampPart.child.inj (List.cons.inj (hpainted.unique hpainted').2).1
    exact h
  · exact fun h => ⟨node, d, i, output, stamp, hnode, hstatus, hi, hpainted, h⟩

end Arena

/-! ### Memos -/

namespace RenderMemo

variable {m : RenderMemo} {index j : Nat} {id key : String} {stamp : Stamp} {r : Rendering}

/-- The mark is taken from one id. -/
theorem mem_stale_freshen : key ∈ (m.freshen id).stale ↔ key ∈ m.stale ∧ key ≠ id := by
  rw [freshen, List.mem_filter, bne_iff_ne]

/-- A kept output can be used with its stamp. -/
theorem output?_keep_self : (m.keep index r).output? index r.stamp = some r.output := by
  rw [output?, keep, List.lookup_cons_self, Option.filter_some, decide_eq_true rfl]
  rfl

/-- What is kept of the other nodes stays. -/
theorem output?_keep_of_ne (h : j ≠ index) :
    (m.keep index r).output? j stamp = m.output? j stamp := by
  have hfilter : (m.kept.filter (·.1 != index)).lookup j = m.kept.lookup j := by
    induction m.kept with
    | nil => rfl
    | cons entry rest ih =>
        obtain ⟨k, r⟩ := entry
        rw [List.filter_cons, List.lookup_cons]
        by_cases hk : j = k
        · subst hk
          rw [if_pos (bne_iff_ne.mpr h), List.lookup_cons_self, beq_self_eq_true]
        · rw [beq_false_of_ne hk, ← ih]
          split
          · rw [List.lookup_cons, beq_false_of_ne hk]
          · rfl
  rw [output?, output?, keep, List.lookup_cons, beq_false_of_ne h]
  dsimp only
  rw [hfilter]

end RenderMemo

/-! ### Drawing -/

/-- A rendering goes from one memo to another. It takes the marks from nodes whose kept output it
uses, and it draws nodes: runs their definition and keeps what that gives. -/
inductive Draws (a : Arena) (s : Store) : RenderMemo → List Nat → RenderMemo → Prop
  | done (m : RenderMemo) : Draws a s m [] m
  | reuse {m m' : RenderMemo} {drawn : List Nat} (id : String)
      (h : Draws a s (m.freshen id) drawn m') : Draws a s m drawn m'
  | draw {m m' : RenderMemo} {drawn : List Nat} {index : Nat} {node : Node} {d : Definition}
      {i : Instance} (hnode : a.get? index = some node)
      (hstatus : node.status = .ready d) (hi : s.get? node.id = some i) (below : List Output)
      (stamp : Stamp)
      (h : Draws a s ((m.freshen node.id).keep index ⟨stamp, d.render (renderContext d i below)⟩)
        drawn m') : Draws a s m (index :: drawn) m'

namespace Draws

variable {a : Arena} {s : Store} {m m' m'' : RenderMemo} {drawn drawn' : List Nat}

/-- What is drawn is drawn in turn. -/
theorem append (h : Draws a s m drawn m') (h' : Draws a s m' drawn' m'') :
    Draws a s m (drawn ++ drawn') m'' := by
  induction h with
  | done => exact h'
  | reuse id _ ih => exact .reuse id (ih h')
  | draw hnode hstatus hi below stamp _ ih => exact .draw hnode hstatus hi below stamp (ih h')

/-- Every drawing is counted. -/
theorem count (h : Draws a s m drawn m') : m'.count = m.count + drawn.length := by
  induction h with
  | done => rfl
  | reuse _ _ ih => exact ih
  | draw _ _ _ _ _ _ ih =>
      rw [ih, List.length_cons]
      exact Nat.succ_add_eq_add_succ _ _

end Draws

/-- A rendering of the nodes of a region draws each of them that is due, once, and no other node.
Afterwards no node of the region is due, and for the other nodes nothing has changed. -/
structure Redraws (a : Arena) (s : Store) (region : Nat → Prop) (m : RenderMemo)
    (drawn : List Nat) (m' : RenderMemo) : Prop where
  draws : Draws a s m drawn m'
  nodup : drawn.Nodup
  mem_iff : ∀ j, j ∈ drawn ↔ region j ∧ a.Due s m j
  due_iff : ∀ j, a.Due s m' j ↔ a.Due s m j ∧ ¬ region j

namespace Redraws

variable {a : Arena} {s : Store} {region region' : Nat → Prop} {m m' m'' : RenderMemo}
  {drawn drawn' : List Nat}

/-- Where nothing is due, nothing has to be done. -/
theorem done (h : ∀ j, region j → ¬ a.Due s m j) : Redraws a s region m [] m where
  draws := .done m
  nodup := List.nodup_nil
  mem_iff j := ⟨(nomatch ·), fun hj => absurd hj.2 (h j hj.1)⟩
  due_iff j := ⟨fun hj => ⟨hj, fun hregion => h j hregion hj⟩, fun hj => hj.1⟩

/-- Two regions are rendered in turn. -/
theorem append (h : Redraws a s region m drawn m') (h' : Redraws a s region' m' drawn' m'') :
    Redraws a s (fun j => region j ∨ region' j) m (drawn ++ drawn') m'' where
  draws := h.draws.append h'.draws
  nodup := List.nodup_append.mpr ⟨h.nodup, h'.nodup, fun j hj k hk hjk => by
    -- what was drawn before is not due any more
    have hdue := (h.due_iff k).mp ((h'.mem_iff k).mp hk).2
    exact hdue.2 (hjk ▸ ((h.mem_iff j).mp hj).1)⟩
  mem_iff j := by
    rw [List.mem_append, h.mem_iff, h'.mem_iff, h.due_iff]
    tauto
  due_iff j := by
    rw [h'.due_iff, h.due_iff]
    tauto

/-- A region of one node is rendered: the node is not due any more, and the others are as before. -/
theorem single {index : Nat} (hdraws : Draws a s m drawn m') (hnodup : drawn.Nodup)
    (hmem : ∀ j, j ∈ drawn ↔ j = index ∧ a.Due s m j) (hself : ¬ a.Due s m' index)
    (hothers : ∀ j, j ≠ index → (a.Due s m' j ↔ a.Due s m j)) :
    Redraws a s (· = index) m drawn m' where
  draws := hdraws
  nodup := hnodup
  mem_iff := hmem
  due_iff j := by
    by_cases hj : j = index
    · subst hj
      exact iff_of_false hself fun h => h.2 rfl
    · rw [hothers j hj]
      exact (and_iff_left hj).symm

/-- Regions with the same nodes are rendered in the same way. -/
theorem of_iff (h : Redraws a s region m drawn m') (hiff : ∀ j, region' j ↔ region j) :
    Redraws a s region' m drawn m' := by
  obtain rfl : region' = region := funext fun j => propext (hiff j)
  exact h

end Redraws

/-! ### Rendering -/

section Rendering

variable {a : Arena} {s : Store} {m : RenderMemo} {index : Nat} {node : Node} {d : Definition}
  {i : Instance}

/-- Taking the mark from one node does not matter to another one. -/
theorem due_freshen_of_ne (hk : a.Keyed) (hnode : a.get? index = some node) {j : Nat}
    (hj : j ≠ index) : a.Due s (m.freshen node.id) j ↔ a.Due s m j := by
  constructor
  · rintro ⟨n, d, i, output, stamp, hn, hstatus, hi, hpainted, h⟩
    refine ⟨n, d, i, output, stamp, hn, hstatus, hi, hpainted, h.imp_left fun hstale => ?_⟩
    exact (RenderMemo.mem_stale_freshen.mp hstale).1
  · rintro ⟨n, d, i, output, stamp, hn, hstatus, hi, hpainted, h⟩
    refine ⟨n, d, i, output, stamp, hn, hstatus, hi, hpainted, h.imp_left fun hstale => ?_⟩
    exact RenderMemo.mem_stale_freshen.mpr ⟨hstale, fun hid => hj (hk.unique hn hnode hid)⟩

/-- Keeping an output of one node does not matter to another one. -/
theorem due_keep_of_ne {r : Rendering} {j : Nat} (hj : j ≠ index) :
    a.Due s (m.keep index r) j ↔ a.Due s m j := by
  simp only [Arena.Due, RenderMemo.output?_keep_of_ne hj]
  rfl

/-- The instance of a node is drawn if the node is due. -/
theorem renderInstance_redraws (hk : a.Keyed) (hnode : a.get? index = some node)
    (hstatus : node.status = .ready d) (hi : s.get? node.id = some i) {below : List Output}
    {stamp : Stamp}
    (hpainted : Painted a s [.node index] [d.render (renderContext d i below)] [.child stamp]) :
    ∃ drawn, Redraws a s (· = index) m drawn
      (renderInstance index node.id d i below stamp m).2 := by
  have hdue : ∀ m', a.Due s m' index ↔ _ := fun m' => Arena.due_iff hnode hstatus hi hpainted
  have hfresh : node.id ∉ (m.freshen node.id).stale := fun h =>
    (RenderMemo.mem_stale_freshen.mp h).2 rfl
  rw [renderInstance]
  split
  · next output hkept =>
      -- what is kept can be used, so the node was not due
      split at hkept
      · cases hkept
      · next hstale =>
          have hnot : ¬ a.Due s m index := by
            rw [hdue, hkept, ← List.contains_iff_mem]
            exact fun h => h.elim hstale (Option.some_ne_none output)
          have hafter : ¬ a.Due s (m.freshen node.id) index := by
            rw [hdue]
            exact fun h => h.elim hfresh fun hnone =>
              Option.some_ne_none output (hkept.symm.trans hnone)
          refine ⟨[], .single (.reuse node.id (.done _)) List.nodup_nil (fun j => ?_) hafter
            fun j => due_freshen_of_ne hk hnode⟩
          exact ⟨fun hj => absurd hj List.not_mem_nil, fun hj => absurd (hj.1 ▸ hj.2) hnot⟩
  · next hkept =>
      have hwas : a.Due s m index := by
        rw [hdue, ← List.contains_iff_mem]
        split at hkept
        · next hstale => exact .inl hstale
        · exact .inr hkept
      have hafter : ¬ a.Due s
          ((m.freshen node.id).keep index ⟨stamp, d.render (renderContext d i below)⟩) index := by
        rw [hdue]
        refine fun h => h.elim hfresh fun hnone => ?_
        exact Option.some_ne_none _ (RenderMemo.output?_keep_self.symm.trans hnone)
      refine ⟨[index], .single (.draw hnode hstatus hi below stamp (.done _))
        (List.nodup_singleton _) (fun j => ?_) hafter fun j hj => ?_⟩
      · rw [List.mem_singleton]
        exact ⟨fun hj => ⟨hj, hj ▸ hwas⟩, And.left⟩
      · exact (due_keep_of_ne hj).trans (due_freshen_of_ne hk hnode hj)

/-- Children are rendered in turn. -/
theorem mapM_renderChild_redraws {render : Nat → StateM RenderMemo (Output × Stamp)}
    (children : List Child)
    (hrender : ∀ j, Child.node j ∈ children → ∀ m : RenderMemo, m.Sound a s →
      (∃ drawn, Redraws a s (a.Shown [.node j]) m drawn (render j m).2) ∧ (render j m).2.Sound a s)
    (hm : m.Sound a s) :
    ∃ drawn, Redraws a s (a.Shown children) m drawn
      (children.mapM (renderChild render) m).2 := by
  induction children generalizing m with
  | nil => exact ⟨[], .done fun j hj => absurd hj Arena.not_shown_nil⟩
  | cons child rest ih =>
      have hrest := fun j hj => hrender j (List.mem_cons_of_mem child hj)
      rw [List.mapM_cons]
      cases child with
      | text content =>
          obtain ⟨drawn, h⟩ := ih hrest hm
          refine ⟨drawn, h.of_iff fun j => Arena.shown_cons.trans ?_⟩
          exact or_iff_right Arena.not_shown_text
      | node j =>
          obtain ⟨⟨drawn, hfirst⟩, hm'⟩ := hrender j List.mem_cons_self m hm
          obtain ⟨drawn', h⟩ := ih hrest hm'
          exact ⟨drawn ++ drawn', (hfirst.append h).of_iff fun k => Arena.shown_cons⟩

/-- A node is rendered with what it shows. -/
theorem renderNode_redraws (ha : a.Linked []) (hk : a.Keyed) (hs : s.Dated) (n index : Nat)
    (hdeep : a.slots.length ≤ index + n) (hm : m.Sound a s) :
    ∃ drawn, Redraws a s (a.Shown [.node index]) m drawn (renderNode a s n index m).2 := by
  induction n generalizing index m with
  | zero =>
      refine ⟨[], .done fun j hj => absurd hj
        (Arena.not_shown_of_not_ready fun node d hnode _ => ?_)⟩
      exact nomatch hnode.symm.trans (Arena.get?_eq_none (Nat.add_zero index ▸ hdeep))
  | succ n ih =>
      by_cases hready : ∃ node d, a.get? index = some node ∧ node.status = .ready d
      · obtain ⟨node, d, hnode, hstatus⟩ := hready
        have hlower : ∀ j, Child.node j ∈ node.children → a.slots.length ≤ j + n := fun j hj => by
          have hlt := (ha.child hnode (Node.mem_childNodes.mpr hj)).1
          omega
        obtain ⟨hbelow, hm'⟩ := mapM_renderChild node.children
          (fun j hj m hm => renderNode_paints ha hs n j (hlower j hj) hm) hm
        obtain ⟨drawn, hchildren⟩ := mapM_renderChild_redraws node.children
          (fun j hj m hm => ⟨ih j (hlower j hj) hm,
            (renderNode_paints ha hs n j (hlower j hj) hm).2⟩) hm
        rw [renderNode_of_ready n hnode hstatus]
        cases hi : s.get? node.id with
        | none =>
            -- without an instance the node itself is never due
            have hself : ∀ m', Redraws a s (· = index) m' [] m' := fun m' => .done fun j hj => by
              subst hj
              rintro ⟨node', d', i, output, stamp, hnode', -, hi', -⟩
              obtain rfl := Option.some.inj (hnode.symm.trans hnode')
              exact nomatch hi.symm.trans hi'
            exact ⟨drawn ++ [], (hchildren.append (hself _)).of_iff fun j =>
              Arena.shown_ready hnode hstatus⟩
        | some i =>
            have hdrawn := Painted.drawn hnode hstatus hi hbelow .nil
            obtain ⟨drawn', hself⟩ := renderInstance_redraws hk hnode hstatus hi hdrawn
            exact ⟨drawn ++ drawn', (hchildren.append hself).of_iff fun j =>
              Arena.shown_ready hnode hstatus⟩
      · obtain ⟨out, -, heq⟩ := renderNode_of_not_ready (m := m) (s := s) n
          fun node d hnode hstatus => hready ⟨node, d, hnode, hstatus⟩
        rw [heq]
        exact ⟨[], .done fun j hj => absurd hj (Arena.not_shown_of_not_ready
          fun node d hnode hstatus => hready ⟨node, d, hnode, hstatus⟩)⟩

end Rendering

namespace Screen

variable {s : Screen}

/-- What the roots show. -/
def Shown (s : Screen) (j : Nat) : Prop := s.arena.Shown (s.arena.roots.map .node) j

/-- Whether a node is due now. -/
def Due (s : Screen) (j : Nat) : Prop := s.arena.Due s.engine.instances s.memo j

/-- Roots are rendered in turn. -/
theorem Coherent.mapM_renderAt_redraws (h : s.Coherent) (hk : s.arena.Keyed) (indices : List Nat)
    {m : RenderMemo} (hm : m.Sound s.arena s.engine.instances) :
    ∃ drawn, Redraws s.arena s.engine.instances (s.arena.Shown (indices.map .node)) m drawn
      (indices.mapM s.renderAt m).2 := by
  induction indices generalizing m with
  | nil => exact ⟨[], .done fun j hj => absurd hj Arena.not_shown_nil⟩
  | cons index rest ih =>
      have hdeep : s.arena.slots.length ≤ index + (s.arena.slots.length + 1) := by omega
      obtain ⟨drawn, hfirst⟩ := renderNode_redraws h.linked hk h.dated _ index hdeep hm
      obtain ⟨drawn', hrest⟩ := ih (renderNode_paints h.linked h.dated _ index hdeep hm).2
      rw [List.mapM_cons]
      exact ⟨drawn ++ drawn', (hfirst.append hrest).of_iff fun j => Arena.shown_cons⟩

/-- Rendering a screen draws each shown node that is due, once, and no other node. -/
theorem Coherent.render_redraws (h : s.Coherent) (hk : s.arena.Keyed) :
    ∃ drawn, Redraws s.arena s.engine.instances s.Shown s.memo drawn s.render.2.memo := by
  rw [render_eq]
  exact h.mapM_renderAt_redraws hk s.arena.roots h.sound

end Screen

end WidgetFlow
