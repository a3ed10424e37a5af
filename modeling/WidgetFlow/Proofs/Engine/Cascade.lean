import WidgetFlow.Proofs.Engine.Wiring
import WidgetFlow.Proofs.Engine.Emission
import WidgetFlow.Proofs.Flow.Propagation

/-!
# Outputs after a cascade

Behaviors that listen at a point run all their hooks before any effect of them is applied. The
effects are then applied one outcome after the other, each with the emission that it asks for, and
such an emission may come back to a behavior whose older effects still wait. These are applied later
and overwrite what the newer ones had written.

The output is right in the end all the same. All hooks that run at one point belong to one built-in
behavior, so that their emissions start at one outlet and reach the same applications. An outcome
that overwrites a newer value is followed by an emission that reaches its application again, and
refreshes it.

## Main results

* `refreshes_applyOutcomeBy`: one outcome.
* `refreshes_runBehaviorsBy`: all outcomes of an input.
* `refreshes_emitWithin`: an emission refreshes the applications that it reaches.
-/

namespace WidgetFlow

/-! ### What connections carry -/

namespace Graph

variable {g : Graph} {source : Endpoint} {v : Value} {s : Store}

/-- A propagation delivers at those targets of its connections that are there, in order. -/
theorem map_target_propagate :
    (g.propagate source v s).1.map (·.target) =
      ((g.outgoing source.component (some source.point)).map (·.target)).filter
        fun target => s.contains target.component := by
  rw [propagate_eq_carrying, ← filter_outgoing, List.map_map, List.filter_map]
  rfl

/-- A propagation keeps states dictionaries. -/
theorem tidy_propagate (h : s.Tidy) : (g.propagate source v s).2.1.Tidy := by
  rw [propagate_eq]
  refine List.foldlRecOn (motive := fun r : List Delivery × Store × List String => r.2.1.Tidy)
    _ _ h fun r hr c _ => ?_
  rw [carryOver]
  split
  · exact hr.setStateValue
  · exact hr

/-- What is delivered at a point comes by a connection that ends there. -/
theorem exists_of_mem_propagate {d : Delivery} (h : d ∈ (g.propagate source v s).1) :
    ∃ c ∈ g.all, c.target = d.target := by
  rw [propagate_eq_carrying] at h
  obtain ⟨c, hc, rfl⟩ := List.mem_map.mp h
  exact ⟨c, List.mem_of_mem_filter hc, rfl⟩

/-- A propagation writes to no property that it does not deliver at. -/
theorem property_propagate {p : Endpoint} (h : ∀ d ∈ (g.propagate source v s).1, d.target ≠ p) :
    View.property (g.propagate source v s).2.1 p.component p.point =
      View.property s p.component p.point := by
  rw [propagate_eq_carrying] at h ⊢
  refine List.foldlRecOn (motive := fun t : Store =>
    View.property t p.component p.point = View.property s p.component p.point)
    _ Store.receive rfl fun t ht d hd => ?_
  refine (Store.property_setStateValue_of_ne fun hcomponent hpoint => h d hd ?_).trans ht
  exact congrArg₂ Endpoint.mk hcomponent hpoint

end Graph

namespace Engine

variable {w : Wiring} {G : Set Endpoint} {R : String → Prop} {e : Engine} {a a' : Applied}

/-- Running behaviors is running their hooks and then applying the outcomes in turn. -/
theorem runBehaviorsBy_eq (emit : Engine → Endpoint → Value → Engine) (e : Engine)
    (target : Endpoint) (v : Value) :
    runBehaviorsBy emit e target v =
      (e.behaviors.applied.filter (e.behaviors.hears target)).foldl
        (fun e' a => applyOutcomeBy emit e'
          ⟨target.component, (e.behaviors.answer target v e.instances a).2⟩)
        { e with behaviors := { e.behaviors with
            applied := e.behaviors.applied.map fun a =>
              (e.behaviors.answer target v e.instances a).1 } } := by
  rw [runBehaviorsBy, BehaviorSystem.deliver_eq]
  exact List.foldl_map

/-- Running hooks disturbs the applications that have one, since their effects still wait. -/
theorem disturbs_hooks (h : Ready w e) (target : Endpoint) (v : Value) :
    Disturbs w G (fun id => ∃ a ∈ e.behaviors.applied.filter (e.behaviors.hears target), a.id = id)
      e { e with behaviors := { e.behaviors with
            applied := e.behaviors.applied.map fun a =>
              (e.behaviors.answer target v e.instances a).1 } } where
  ready := by
    have hhooks := (Flows.refl e).hooks target.component target.point v
    rw [BehaviorSystem.deliver_eq] at hhooks
    exact h.flows hhooks h.tidy
  kept a hid := by
    have hsame : ∀ x ∈ e.behaviors.applied, x.id = a.id →
        (e.behaviors.answer target v e.instances x).1 = x := by
      intro x hx hxa
      refine BehaviorSystem.answer_of_hears_eq_false (Bool.eq_false_iff.mpr fun hhears => hid ?_)
      exact ⟨x, List.mem_filter.mpr ⟨hx, hhears⟩, hxa⟩
    constructor
    · intro ha
      obtain ⟨x, hx, rfl⟩ := List.mem_map.mp ha
      rw [hsame x hx BehaviorSystem.id_answer.symm]
      exact hx
    · exact fun ha => List.mem_map.mpr ⟨a, ha, hsame a ha rfl⟩
  unwritten _ _ _ _ _ _ := rfl

/-! ### One outcome -/

/-- Bringing an application in line disturbs no other. -/
theorem disturbs_displays (hw : w.Sound G) (h : Ready w e) {effects : List Effect}
    (ha : a.role ∈ w.roles) (hdisplays : a.Displays effects) :
    Disturbs w G (fun id => a.id = id) e
      { e with instances := effects.foldl (Effect.apply a.component) e.instances } where
  ready := by
    have htidy : (effects.foldl (Effect.apply a.component) e.instances).Tidy :=
      List.foldlRecOn effects _ h.tidy fun _ ht effect _ => Effect.tidy_apply ht _ effect
    exact h.flows ((Flows.refl e).write (applyEffects_writes a.component effects _)) htidy
  kept _ _ := Iff.rfl
  unwritten r hr hid p hp hout := by
    refine hdisplays.property fun hout' => hid ?_
    exact congrArg Role.id (hw.distinct p hp _ ha r hr hout' hout)

/-- An application that is brought in line with its private state is shown. -/
theorem refreshes_displays (hw : w.Sound G) (h : Ready w e) {effects : List Effect}
    (ha : a ∈ e.behaviors.applied) (hdisplays : a.Displays effects) :
    Refreshes w G (fun id => a.id = id) e
      { e with instances := effects.foldl (Effect.apply a.component) e.instances } where
  toDisturbs := disturbs_displays hw h (h.role_mem ha) hdisplays
  fresh b hb hid := by
    obtain rfl : a = b := h.eq_of_id_eq hw ha hb hid
    exact hdisplays.shown h.tidy fun _ hp hout => h.contains hw ha hp hout

/-- Applying effects that bring a component in line only changes its instance. -/
theorem applyOutcomeBy_of_displays (emit : Engine → Endpoint → Value → Engine) (e : Engine)
    {effects : List Effect} (hdisplays : a.Displays effects) (component : String) :
    applyOutcomeBy emit e ⟨component, effects⟩ =
      { e with instances := effects.foldl (Effect.apply component) e.instances } := by
  rw [applyOutcomeBy, WidgetFlow.applyEffects, hdisplays.filterMap_emission?]
  rfl

/-- Applying effects that bring a component in line and then emit. -/
theorem applyOutcomeBy_append_emit (emit : Engine → Endpoint → Value → Engine) (e : Engine)
    {effects : List Effect} (hdisplays : a.Displays effects) (component point : String)
    (v : Value) :
    applyOutcomeBy emit e ⟨component, effects ++ [.emit point v]⟩ =
      emit { e with instances := effects.foldl (Effect.apply component) e.instances }
        ⟨component, point⟩ v := by
  have hemissions :
      (effects ++ [Effect.emit point v]).filterMap Effect.emission? = [(point, v)] := by
    rw [List.filterMap_append, hdisplays.filterMap_emission?]
    rfl
  rw [applyOutcomeBy, WidgetFlow.applyEffects, hemissions, List.foldl_append]
  rfl

/-- **One outcome.** Take an application that answered an input, and let its emission refresh the
applications in `R`. Applying the outcome refreshes the application and, if it emits, those in `R`,
provided that the private state is still that of the answer, or that the application is in `R`. -/
theorem refreshes_applyOutcomeBy (hw : w.Sound G) {emit : Engine → Endpoint → Value → Engine}
    {point : String}
    (hemit : ∀ e v, Ready w e → Refreshes w G R e (emit e ⟨a.component, outletAt point⟩ v))
    (h : Ready w e) (ha : a.role ∈ w.roles) {effects : List Effect}
    (hanswers : a.Answers point a' effects) (hstands : a' ∈ e.behaviors.applied ∨ R a.id) :
    Refreshes w G (fun id => a.id = id ∨ a.emits = true ∧ R id) e
      (applyOutcomeBy emit e ⟨a.component, effects⟩) := by
  cases hanswers with
  | silent hrole hsilent =>
      refine ⟨⟨h, fun _ _ => Iff.rfl, fun _ _ _ _ _ _ => rfl⟩, fun b hb hid => ?_⟩
      have hid' : a.id = b.id := hid.resolve_right fun hemits =>
        Bool.noConfusion (hsilent.symm.trans hemits.1)
      have hrole' : b.role = a.role := hw.eq_of_id (h.role_mem hb) ha hid'.symm
      have hout : b.role.output? = none := by
        rw [hrole']
        exact Applied.output?_eq_none_of_emits_eq_false hsilent
      exact Applied.shownIn_of_output?_eq_none hout G _
  | loud hrole hloud hdisplays v =>
      have hid : a'.id = a.id := show a'.role.id = a.role.id by rw [hrole]
      have hcomponent : a'.component = a.component :=
        show a'.role.component = a.role.component by rw [hrole]
      rw [applyOutcomeBy_append_emit emit e hdisplays, ← hcomponent, ← hid]
      rw [← hcomponent] at hemit
      by_cases hR : R a.id
      · -- the emission comes back to the application, whatever was written before
        have hdisturbs := disturbs_displays hw h (hrole ▸ ha) hdisplays
        have hrefreshes := hdisturbs.refreshes (hemit _ v hdisturbs.ready) fun id hid' => ?_
        refine hrefreshes.congr fun id => ?_
        · constructor
          · exact fun hRid => .inr ⟨hloud, hRid⟩
          · rintro (rfl | ⟨-, hRid⟩)
            · rw [hid]
              exact hR
            · exact hRid
        · rw [← hid', hid]
          exact hR
      · -- nothing came back to the application since its hook ran
        have hfresh := refreshes_displays hw h (hstands.resolve_right hR) hdisplays
        refine (hfresh.trans (hemit _ v hfresh.ready)).congr fun id => ?_
        simp only [hloud, true_and]

/-! ### All outcomes of an input -/

/-- Applying the outcomes of several answers to one input in turn. The induction is on the outcomes
that still wait: whichever of them belongs to an application whose private state has changed since,
that application is in `R`. -/
theorem refreshes_foldl_applyOutcomeBy (hw : w.Sound G)
    {emit : Engine → Endpoint → Value → Engine} {target : Endpoint}
    (hemit : ∀ e v, Ready w e →
      Refreshes w G R e (emit e ⟨target.component, outletAt target.point⟩ v))
    {b : BehaviorSystem} (hknown : b.behaviors = BehaviorSystem.standard.behaviors)
    (v : Value) (s : Store) {waiting : List Applied} (hnodup : (waiting.map Applied.id).Nodup)
    (hhears : ∀ a ∈ waiting, b.hears target a = true) (hroles : ∀ a ∈ waiting, a.role ∈ w.roles)
    (h : Ready w e)
    (hstands : ∀ a ∈ waiting, (b.answer target v s a).1 ∈ e.behaviors.applied ∨ R a.id) :
    Refreshes w G
      (fun id => (∃ a ∈ waiting, a.id = id) ∨ (∃ a ∈ waiting, a.emits = true) ∧ R id) e
      (waiting.foldl
        (fun e a => applyOutcomeBy emit e ⟨target.component, (b.answer target v s a).2⟩) e) := by
  induction waiting generalizing e with
  | nil => exact (Refreshes.aside h _ _ _).congr fun id => by simp
  | cons a rest ih =>
      rw [List.map_cons, List.nodup_cons] at hnodup
      rw [List.forall_mem_cons] at hhears hroles hstands
      have hfirst : Refreshes w G (fun id => a.id = id ∨ a.emits = true ∧ R id) e
          (applyOutcomeBy emit e ⟨target.component, (b.answer target v s a).2⟩) := by
        have hcomponent : a.component = target.component :=
          ((BehaviorSystem.hears_iff hknown).mp hhears.1).1
        rw [← hcomponent] at hemit ⊢
        exact refreshes_applyOutcomeBy hw hemit h hroles.1
          (BehaviorSystem.answers_answer hknown hhears.1) hstands.1
      have hrest := ih hnodup.2 hhears.2 hroles.2 hfirst.ready fun b hb => ?_
      · refine (hfirst.trans hrest).congr fun id => ?_
        simp only [List.exists_mem_cons_iff, or_and_right]
        exact or_or_or_comm
      · -- the first outcome leaves the answer of another application alone or brings it into `R`
        by_cases hR : R b.id
        · exact .inr hR
        · have hne : a.id ≠ b.id := fun heq => hnodup.1 (heq ▸ List.mem_map_of_mem hb)
          refine .inl ((hfirst.kept _ ?_).mpr ((hstands.2 b hb).resolve_right hR))
          rw [BehaviorSystem.id_answer]
          exact not_or.mpr ⟨hne, fun hemits => hR hemits.2⟩

/-- **All outcomes of an input.** If an emission at a point refreshes the applications that it
reaches, then so does an input. -/
theorem refreshes_runBehaviorsBy (hw : w.Sound G) {reached : Endpoint → String → Prop}
    {emit : Engine → Endpoint → Value → Engine}
    (hemit : ∀ e source v, Ready w e → Refreshes w G (reached source) e (emit e source v))
    (h : Ready w e) (target : Endpoint) (v : Value) :
    Refreshes w G (w.Stirs reached target) e (runBehaviorsBy emit e target v) := by
  have hmem : ∀ {a}, a ∈ e.behaviors.applied.filter (e.behaviors.hears target) ↔
      a ∈ e.behaviors.applied ∧ a.role.Listens target := by
    intro a
    rw [List.mem_filter, BehaviorSystem.hears_iff h.known]
  have hhooks := disturbs_hooks (G := G) h target v
  have houtcomes := refreshes_foldl_applyOutcomeBy hw (fun e v => hemit e _ v) h.known v
    e.instances ((h.nodup hw).sublist (List.filter_sublist.map _))
    (fun a ha => (List.mem_filter.mp ha).2) (fun a ha => h.role_mem (hmem.mp ha).1) hhooks.ready
    (fun a ha => .inl (List.mem_map_of_mem (hmem.mp ha).1))
  rw [runBehaviorsBy_eq]
  refine (hhooks.refreshes houtcomes fun id hid => .inl hid).congr fun id => ?_
  have hroles : w.roles = e.behaviors.applied.map Applied.role := by
    rw [← h.wiring]
    rfl
  simp only [hmem, Wiring.Stirs, hroles, List.mem_map, exists_exists_and_eq_and, and_assoc]
  rfl

/-! ### Emissions -/

/-- Carrying a value over the connections of a sound wiring disturbs only applications that have a
hook for it. -/
theorem disturbs_entered (hw : w.Sound G) (h : Ready w e) (source : Endpoint) (v : Value) :
    Disturbs w G (fun id => ∃ d ∈ (e.entered source v).1, ∃ r ∈ w.roles, r.Listens d.target ∧
      r.id = id) e (e.entered source v).2 := by
  refine .of_instances h (Graph.tidy_propagate h.tidy) (e.graph.propagate_writes source v _)
    fun r hr hid p hp hout => Graph.property_propagate fun d hd heq => hid ⟨d, hd, r, hr, ?_, rfl⟩
  obtain ⟨c, hc, htarget⟩ := Graph.exists_of_mem_propagate hd
  rw [← h.wiring] at hw hr
  exact heq ▸ hw.answered p hp r hr hout c hc (htarget.trans heq)

/-- Settling a delivery refreshes what an input at its target reaches. -/
theorem refreshes_settleBy (hw : w.Sound G) {reached : Endpoint → String → Prop}
    {emit : Engine → Endpoint → Value → Engine}
    (hemit : ∀ e source v, Ready w e → Refreshes w G (reached source) e (emit e source v))
    (source : Endpoint) (v : Value) (e : Engine) (d : Delivery) (h : Ready w e) :
    Refreshes w G (w.Stirs reached d.target) e (settleBy emit source v e d) := by
  rw [settleBy_eq]
  have hnoted : Refreshes w G (fun _ => False) e (e.noted source v d) := .aside h _ _ _
  exact (hnoted.trans (refreshes_runBehaviorsBy hw hemit hnoted.ready d.target d.value)).congr
    fun id => or_iff_right not_false

/-- **An emission refreshes the applications that it reaches.** The induction is on the room that is
left for nested emissions. At the limit an emission reaches nothing, and what waits is not
overwritten. -/
theorem refreshes_emitWithin (hw : w.Sound G) (room : Nat) (e : Engine) (source : Endpoint)
    (v : Value) (h : Ready w e) :
    Refreshes w G (w.Reaches room source) e (emitWithin room e source v).2 := by
  induction room generalizing e source v with
  | zero => exact Refreshes.aside h _ _ _
  | succ room ih =>
      have hlive : w.live source.component = e.instances.contains source.component := by
        rw [← h.wiring]
        rfl
      rw [emitWithin]
      split
      · next hc =>
          have htargets : (e.entered source v).1.map (·.target) = w.targets source := by
            rw [Wiring.targets, hlive, if_pos hc, ← h.wiring]
            exact Graph.map_target_propagate
          have hentered := disturbs_entered hw h source v
          have hsettled := Refreshes.foldl (refreshes_settleBy hw ih source v)
            (e.entered source v).1 hentered.ready
          have hleft := Refreshes.aside (G := G) hsettled.ready
          -- whatever was overwritten by the value itself belongs to hooks that it runs
          have hcarried := hentered.refreshes hsettled fun id hid =>
            hid.imp fun d hd => hd.imp_right .inl
          refine (hcarried.trans (hleft _ _ _)).congr fun id => ?_
          simp only [Wiring.Reaches, ← htargets, List.mem_map, exists_exists_and_eq_and, or_false]
      · next hc =>
          refine (Refreshes.aside h _ _ _).congr fun id => iff_of_false not_false ?_
          rw [Wiring.Reaches, Wiring.targets, hlive, if_neg hc]
          rintro ⟨_, htarget, -⟩
          exact absurd htarget List.not_mem_nil

end Engine

end WidgetFlow
