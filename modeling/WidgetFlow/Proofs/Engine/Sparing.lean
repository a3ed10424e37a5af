import WidgetFlow.Proofs.Engine.Outputs
import WidgetFlow.Proofs.Engine.Private
import WidgetFlow.Proofs.Script.Limit

/-!
# Acts that spare an output

Counters and toggles keep a property of their component up with their private state. Values may come
to them by an emission, an input from outside, effects or handler code. This module says that each
of these brings the applications that it reaches in line, as long as it does not itself write to the
property that is looked at. Nothing is asked of other properties, which may have any number of
writers. The property may even have the name of an input of the behavior: a value that comes there
runs the hook, which writes after it. A handler is taken apart into the calls of its host for this.

## Main results

* `exists_refreshes_handle`: handler code that spares an output.
* `exists_refreshes_act`: **an act that spares an output refreshes the applications it reaches.**
-/

namespace WidgetFlow

open Script

/-- A value that comes to a point is not left there, since the application that keeps the point up
has a hook for it. -/
def Engine.Heeded (p : Endpoint) (e : Engine) : Prop :=
  ∀ a ∈ e.behaviors.applied, a.output? = some p → e.behaviors.hears p a = true

instance (p : Endpoint) (e : Engine) : Decidable (e.Heeded p) :=
  inferInstanceAs (Decidable (∀ a ∈ e.behaviors.applied, a.output? = some p →
    e.behaviors.hears p a = true))

/-- An act makes values flow, and does not itself write to a point, unless the value is heeded. -/
def Act.Spares (p : Endpoint) (e : Engine) : Act → Prop
  | .perform (.call (.emit _ _)) => True
  | .perform (.call (.sendInput target _)) => target = p → e.Heeded p
  | .perform (.call (.applyEffects component effects)) =>
      ∀ key v, .setProperty key v ∈ effects → ⟨component, key⟩ ≠ p
  | .handle h call => ∀ id key v,
      .write id (.setProperty key v) ∈ programCalls h.body (h.session call e) → ⟨id, key⟩ ≠ p
  | _ => False

namespace Engine

variable {w : Wiring} {p : Endpoint} {e e' : Engine}

/-- A point can be kept up as an output: the behaviors are the built-in ones, states are
dictionaries, the component is there, at most one application writes to the point, and no connection
ends there unless what it carries is heeded. -/
structure Fit (p : Endpoint) (e : Engine) : Prop where
  known : e.behaviors.behaviors = BehaviorSystem.standard.behaviors
  tidy : e.instances.Tidy
  live : e.instances.contains p.component = true
  sole : ∀ a ∈ e.behaviors.applied, ∀ b ∈ e.behaviors.applied,
    a.output? = some p → b.output? = some p → a.id = b.id
  heeded : ∀ c ∈ e.graph.all, c.target = p → Heeded p e

/-- An engine that is fit is ready. -/
theorem Fit.ready (h : Fit p e) : Ready e.wiring e := ⟨rfl, h.known, h.tidy⟩

/-- In a ready engine a point is heeded if the role with this output listens there. -/
theorem Heeded.listens (h : Heeded p e) (hready : Ready w e) {r : Role} (hr : r ∈ w.roles)
    (hout : r.output? = some p) : r.Listens p := by
  rw [← hready.wiring] at hr
  obtain ⟨a, ha, rfl⟩ := List.mem_map.mp hr
  exact (BehaviorSystem.hears_iff hready.known).mp (h a ha hout)

/-- An engine that is fit has a sound wiring. -/
theorem Fit.sound (h : Fit p e) (hcounted : e.behaviors.Counted) : e.wiring.Sound {p} where
  nodup := by
    rw [wiring, List.map_map]
    exact hcounted.distinct
  live := List.forall_mem_map.mpr fun a _ q hq hout => by
    obtain rfl : q = p := hq
    have hcomponent : q.component = a.component := Applied.component_of_output? hout
    change e.instances.contains a.component = true
    rw [← hcomponent]
    exact h.live
  distinct q hq := List.forall_mem_map.mpr fun a ha => List.forall_mem_map.mpr fun b hb => by
    obtain rfl : q = p := hq
    intro hout hout'
    have hid : b.id = a.id := h.sole b hb a ha hout' hout
    rw [hcounted.eq_of_id_eq ha hb hid]
  answered q hq r hr hout c hc heq := by
    obtain rfl : q = p := hq
    exact (h.heeded c hc heq).listens h.ready hr hout

/-! ### Writes -/

/-- Writing another property refreshes and disturbs nothing. -/
theorem refreshes_setProperty (h : Ready w e) {id key : String} (v : Value)
    (hspares : ⟨id, key⟩ ≠ p) : Refreshes w {p} (fun _ => False) e
      { e with instances := (View.setProperty e.instances id key v).2 } := by
  refine .of_instances h h.tidy.setProperty .of_setProperty fun q hq => ?_
  obtain rfl : q = p := hq
  exact Store.property_setProperty_of_ne fun hcomponent hpoint =>
    hspares (congrArg₂ Endpoint.mk hcomponent hpoint)

/-- Presenting a component otherwise refreshes and disturbs nothing. -/
theorem refreshes_present (h : Ready w e) (id : String) (change : Presentation → Presentation) :
    Refreshes w {p} (fun _ => False) e
      { e with instances := (e.instances.present id change).2 } :=
  .of_instances h h.tidy.present .of_present fun _ _ => Store.property_present

/-- Steps that each refresh some applications refresh some applications. -/
theorem exists_refreshes_foldl {α : Type} {f : Engine → α → Engine} {items : List α}
    (hf : ∀ a ∈ items, ∀ e, Ready w e → ∃ P, Refreshes w {p} P e (f e a)) (h : Ready w e) :
    ∃ P, Refreshes w {p} P e (items.foldl f e) :=
  List.foldlRecOn (motive := fun e' => ∃ P, Refreshes w {p} P e e') items f ⟨_, .aside h _ _ _⟩
    fun e' ⟨_, hfirst⟩ a ha =>
      let ⟨_, hrest⟩ := hf a ha e' hfirst.ready
      ⟨_, hfirst.trans hrest⟩

/-! ### Handler code -/

/-- A call of handler code that does not write to the point refreshes the applications that it
reaches. -/
theorem exists_refreshes_call (hw : w.Sound {p}) (h : Ready w e) {call : HostCall}
    (hspares : ∀ id key v, call = .write id (.setProperty key v) → ⟨id, key⟩ ≠ p) :
    ∃ P, Refreshes w {p} P e (HostCall.perform e call) := by
  cases call with
  | select selector => exact ⟨_, .aside h _ _ _⟩
  | read id r => exact ⟨_, .aside h _ _ _⟩
  | log line => exact ⟨_, .aside h (e.console ++ [line]) _ _⟩
  | write id w' =>
      cases w' with
      | setProperty key v => exact ⟨_, refreshes_setProperty h v (hspares id key v rfl)⟩
      | setStyle key v => exact ⟨_, refreshes_present h id _⟩
      | addClass name => exact ⟨_, refreshes_present h id _⟩
      | removeClass name => exact ⟨_, refreshes_present h id _⟩
      | setHidden hidden => exact ⟨_, refreshes_present h id _⟩
      | emit point v => exact ⟨_, refreshes_emit hw h ⟨id, point⟩ v⟩

/-- **Handler code** that does not write to the point refreshes the applications that it reaches. -/
theorem exists_refreshes_handle (hw : w.Sound {p}) (h : Ready w e) (handler : Handler)
    (call : Invocation)
    (hspares : ∀ id key v, .write id (.setProperty key v) ∈
      programCalls handler.body (handler.session call e) → ⟨id, key⟩ ≠ p) :
    ∃ P, Refreshes w {p} P e (handler.run call e).2 := by
  have hrun : (handler.run call e).2 =
      (programCalls handler.body (handler.session call e)).foldl HostCall.perform e :=
    (host_runProgram handler.body (handler.session call e)).trans (by rw [Handler.host_session])
  rw [hrun]
  refine exists_refreshes_foldl (fun call hcall e h => exists_refreshes_call hw h ?_) h
  rintro id key v rfl
  exact hspares id key v hcall

/-! ### Effects -/

/-- Effects that do not write to the point refresh the applications that their emissions reach. -/
theorem exists_refreshes_applyEffects (hw : w.Sound {p}) (h : Ready w e) (component : String)
    (effects : List Effect)
    (hspares : ∀ key v, .setProperty key v ∈ effects → ⟨component, key⟩ ≠ p) :
    ∃ P, Refreshes w {p} P e (e.applyEffects component effects) := by
  have hwritten : ∃ P, Refreshes w {p} P e (effects.foldl (fun e effect =>
      { e with instances := Effect.apply component e.instances effect }) e) := by
    refine exists_refreshes_foldl (fun effect heffect e h => ?_) h
    cases effect with
    | setProperty key v => exact ⟨_, refreshes_setProperty h v (hspares key v heffect)⟩
    | setStyle key v => exact ⟨_, refreshes_present h component _⟩
    | addClass name => exact ⟨_, refreshes_present h component _⟩
    | removeClass name => exact ⟨_, refreshes_present h component _⟩
    | setHidden hidden => exact ⟨_, refreshes_present h component _⟩
    | emit point v => exact ⟨_, .aside h _ _ _⟩
  have hstore : effects.foldl (fun e effect =>
      { e with instances := Effect.apply component e.instances effect }) e =
      { e with instances := effects.foldl (Effect.apply component) e.instances } :=
    List.foldl_hom (fun s => { e with instances := s }) fun _ _ => rfl
  rw [hstore] at hwritten
  obtain ⟨_, hwritten⟩ := hwritten
  have hemit : ∀ m ∈ effects.filterMap Effect.emission?, ∀ e, Ready w e →
      ∃ P, Refreshes w {p} P e (e.emitSilently ⟨component, m.1⟩ m.2) :=
    fun m _ e h => ⟨_, refreshes_emit hw h ⟨component, m.1⟩ m.2⟩
  obtain ⟨_, hemitted⟩ := exists_refreshes_foldl hemit hwritten.ready
  exact ⟨_, hwritten.trans hemitted⟩

/-! ### Acts -/

/-- **An act that spares a point refreshes the applications that it reaches**, as far as the point
is concerned. -/
theorem exists_refreshes_act (hcounted : e.behaviors.Counted) (hfit : Fit p e) {act : Act}
    (hspares : act.Spares p e) : ∃ P, Refreshes e.wiring {p} P e (e.act act) := by
  have hsound := hfit.sound hcounted
  cases act with
  | handle h call => exact exists_refreshes_handle hsound hfit.ready h call hspares
  | note event h => exact hspares.elim
  | perform op =>
      cases op with
      | call call =>
          cases call with
          | emit source v => exact ⟨_, refreshes_emit hsound hfit.ready source v⟩
          | sendInput target v =>
              refine refreshes_sendInput hsound hfit.ready fun hmem r hr hout => ?_
              obtain rfl : target = p := hmem
              exact (hspares rfl).listens hfit.ready hr hout
          | applyEffects component effects =>
              exact exists_refreshes_applyEffects hsound hfit.ready component effects hspares
          | applyBehavior component behavior options => exact hspares.elim
          | removeBehavior id => exact hspares.elim
      | _ => exact hspares.elim

end Engine

end WidgetFlow
