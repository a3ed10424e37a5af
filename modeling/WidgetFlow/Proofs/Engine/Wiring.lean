import Mathlib.Data.List.Nodup
import Mathlib.Data.List.Pairwise
import WidgetFlow.Proofs.Behavior.Delivery
import WidgetFlow.Proofs.Engine.Flows

/-!
# How far an emission reaches

Where values go in an engine does not depend on the values. It is decided by the connections, by
which components are there, and by the roles of the applied behaviors: the `Wiring` of the engine,
which nothing that flows changes. `Wiring.Reaches` lists the applications that an emission reaches
when a given number of emissions may nest in each other.

This module says what it means that something was done to some applications alone.

## Conventions

A set of applications is given by a predicate on their ids. `Engine.Disturbs w G P e e'` says that
between the two engines only the applications in `P` may have a new private state or a new value of
their output. `Engine.Refreshes w G P e e'` says in addition that the applications in `P` are shown
in the end. For an emission `P` has to be known from the wiring alone: two emissions at one point
then refresh the same applications, and the second makes up for what was overwritten after the
first.

Only the outputs in `G` count, which are all of them or a single one. Whatever happens to the others
does no harm, since nothing in an engine reads them.

## Main results

* `Refreshes.trans`: what refreshes some applications and then others refreshes both.
* `Disturbs.refreshes`: disturbing applications before they are refreshed does no harm.
* `Refreshes.shown`: an application that was shown before is shown in the end.
-/

namespace WidgetFlow

/-- What decides where values go: the connections, the components that are there, and the roles of
the applied behaviors. -/
structure Wiring where
  graph : Graph
  live : String → Bool
  roles : List Role

namespace Wiring

/-- The points to which an emission at a point is carried. -/
def targets (w : Wiring) (source : Endpoint) : List Endpoint :=
  if w.live source.component then
    ((w.graph.outgoing source.component (some source.point)).map (·.target)).filter
      fun target => w.live target.component
  else []

/-- The applications that an input at a point reaches: those that listen there and, if one of these
emits, those that the emission reaches. -/
def Stirs (w : Wiring) (reached : Endpoint → String → Prop) (target : Endpoint) (id : String) :
    Prop :=
  (∃ r ∈ w.roles, r.Listens target ∧ r.id = id) ∨
    (∃ r ∈ w.roles, r.Listens target ∧ r.emits = true) ∧
      reached ⟨target.component, outletAt target.point⟩ id

/-- The applications that an emission reaches if at most `room` emissions may nest in each other. -/
def Reaches (w : Wiring) : Nat → Endpoint → String → Prop
  | 0, _, _ => False
  | room + 1, source, id => ∃ target ∈ w.targets source, w.Stirs (w.Reaches room) target id

/-- These outputs in a wiring are fit to be kept up: applications have different ids, those with
such an output have components that are there, no two of them have the same one, and a connection
ends at one only if the application listens there, so that it answers what was written. -/
structure Sound (w : Wiring) (G : Set Endpoint) : Prop where
  nodup : (w.roles.map Role.id).Nodup
  live : ∀ r ∈ w.roles, ∀ p ∈ G, r.output? = some p → w.live r.component = true
  distinct : ∀ p ∈ G, ∀ r ∈ w.roles, ∀ r' ∈ w.roles,
    r.output? = some p → r'.output? = some p → r = r'
  answered : ∀ p ∈ G, ∀ r ∈ w.roles, r.output? = some p →
    ∀ c ∈ w.graph.all, c.target = p → r.Listens p

variable {w : Wiring} {G : Set Endpoint} {r r' : Role}

/-- In a sound wiring an id belongs to one role. -/
theorem Sound.eq_of_id (h : w.Sound G) (hr : r ∈ w.roles) (hr' : r' ∈ w.roles)
    (hid : r.id = r'.id) : r = r' :=
  List.inj_on_of_nodup_map h.nodup hr hr' hid

end Wiring

namespace Engine

/-- The wiring of an engine. -/
def wiring (e : Engine) : Wiring :=
  ⟨e.graph, e.instances.contains, e.behaviors.applied.map Applied.role⟩

/-- An engine with the built-in behaviors and a wiring, in which states are dictionaries. -/
structure Ready (w : Wiring) (e : Engine) : Prop where
  wiring : e.wiring = w
  known : e.behaviors.behaviors = BehaviorSystem.standard.behaviors
  tidy : e.instances.Tidy

/-- Something was done to some applications alone: the others have the same private states and the
same values of their outputs. -/
structure Disturbs (w : Wiring) (G : Set Endpoint) (P : String → Prop) (e e' : Engine) :
    Prop where
  ready : Ready w e'
  kept : ∀ a : Applied, ¬ P a.id → (a ∈ e'.behaviors.applied ↔ a ∈ e.behaviors.applied)
  unwritten : ∀ r ∈ w.roles, ¬ P r.id → ∀ p ∈ G, r.output? = some p →
    View.property e'.instances p.component p.point = View.property e.instances p.component p.point

/-- Something was done to some applications alone, and in the end these are shown. -/
structure Refreshes (w : Wiring) (G : Set Endpoint) (P : String → Prop) (e e' : Engine) : Prop
    extends Disturbs w G P e e' where
  fresh : ∀ a ∈ e'.behaviors.applied, P a.id → a.ShownIn G e'.instances

variable {w : Wiring} {G : Set Endpoint} {P Q : String → Prop} {e e' e'' : Engine} {a b : Applied}

/-! ### What flows -/

/-- With the built-in behaviors nothing that flows changes the wiring. -/
theorem Flows.wiring (h : Flows e e')
    (hknown : e.behaviors.behaviors = BehaviorSystem.standard.behaviors) :
    e'.wiring = e.wiring := by
  induction h with
  | refl => rfl
  | record _ _ ih => exact ih hknown
  | print _ _ ih => exact ih hknown
  | @write e e' s _ hw ih =>
      have hlive : s.contains = e'.instances.contains := funext hw.contains
      rw [← ih hknown, Engine.wiring, hlive]
      rfl
  | @hooks e e' h component point v ih =>
      have hroles : (e'.behaviors.deliver component point v e'.instances).2.applied.map
          Applied.role = e'.behaviors.applied.map Applied.role := by
        rw [BehaviorSystem.deliver_eq e'.behaviors ⟨component, point⟩, List.map_map]
        exact List.map_congr_left fun a _ =>
          BehaviorSystem.role_answer (h.behaviors.trans hknown)
      rw [← ih hknown, Engine.wiring, hroles]
      rfl
  | nest h _ ih ihn => exact (ihn (h.behaviors.trans hknown)).trans (ih hknown)

/-- What flows keeps an engine ready as long as states are dictionaries. -/
theorem Ready.flows (h : Ready w e) (hf : Flows e e') (htidy : e'.instances.Tidy) : Ready w e' :=
  ⟨(hf.wiring h.known).trans h.wiring, hf.behaviors.trans h.known, htidy⟩

/-! ### Ready engines -/

/-- An application has its role in the wiring. -/
theorem Ready.role_mem (h : Ready w e) (ha : a ∈ e.behaviors.applied) : a.role ∈ w.roles := by
  rw [← h.wiring]
  exact List.mem_map_of_mem ha

/-- The component of an application with an output is there. -/
theorem Ready.contains (h : Ready w e) (hw : w.Sound G) (ha : a ∈ e.behaviors.applied)
    {p : Endpoint} (hp : p ∈ G) (hout : a.output? = some p) :
    e.instances.contains a.component = true := by
  have hlive := hw.live _ (h.role_mem ha) p hp hout
  rw [← h.wiring] at hlive
  exact hlive

/-- The applications have different ids. -/
theorem Ready.nodup (h : Ready w e) (hw : w.Sound G) :
    (e.behaviors.applied.map Applied.id).Nodup := by
  have hids := List.map_map (f := Applied.role) (g := Role.id) (l := e.behaviors.applied)
  rw [← h.wiring] at hw
  exact hids ▸ hw.nodup

/-- An id belongs to one application. -/
theorem Ready.eq_of_id_eq (h : Ready w e) (hw : w.Sound G) (ha : a ∈ e.behaviors.applied)
    (hb : b ∈ e.behaviors.applied) (hid : a.id = b.id) : a = b :=
  List.inj_on_of_nodup_map (h.nodup hw) ha hb hid

/-! ### Doing one thing after the other -/

/-- What is shown stays shown if it is not disturbed. -/
theorem Disturbs.shown (h : Disturbs w G P e e') (ha : a ∈ e'.behaviors.applied) (hP : ¬ P a.id)
    (hshown : a.ShownIn G e.instances) : a.ShownIn G e'.instances :=
  hshown.congr fun p hp hout => h.unwritten a.role (h.ready.role_mem ha) hP p hp hout

/-- Disturbances add up. -/
theorem Disturbs.trans (h : Disturbs w G P e e') (h' : Disturbs w G Q e' e'') :
    Disturbs w G (fun id => P id ∨ Q id) e e'' where
  ready := h'.ready
  kept a ha := by
    obtain ⟨hP, hQ⟩ := not_or.mp ha
    rw [h'.kept a hQ, h.kept a hP]
  unwritten r hr hid p hp hout := by
    obtain ⟨hP, hQ⟩ := not_or.mp hid
    rw [h'.unwritten r hr hQ p hp hout, h.unwritten r hr hP p hp hout]

/-- What is done does not depend on how a set of applications is described. -/
theorem Refreshes.congr (h : Refreshes w G P e e') (hPQ : ∀ id, P id ↔ Q id) :
    Refreshes w G Q e e' := by
  obtain rfl : P = Q := funext fun id => propext (hPQ id)
  exact h

/-- What refreshes some applications and then others refreshes both: those that were refreshed first
are either refreshed again or left alone. -/
theorem Refreshes.trans (h : Refreshes w G P e e') (h' : Refreshes w G Q e' e'') :
    Refreshes w G (fun id => P id ∨ Q id) e e'' where
  toDisturbs := h.toDisturbs.trans h'.toDisturbs
  fresh a ha hid := by
    by_cases hQ : Q a.id
    · exact h'.fresh a ha hQ
    · have hP : P a.id := hid.resolve_right hQ
      exact h'.shown ha hQ (h.fresh a ((h'.kept a hQ).mp ha) hP)

/-- Disturbing applications before they are refreshed does no harm. -/
theorem Disturbs.refreshes (h : Disturbs w G P e e') (h' : Refreshes w G Q e' e'')
    (hPQ : ∀ id, P id → Q id) : Refreshes w G Q e e'' where
  ready := h'.ready
  kept a ha := by rw [h'.kept a ha, h.kept a fun hP => ha (hPQ _ hP)]
  unwritten r hr hid p hp hout := by
    rw [h'.unwritten r hr hid p hp hout, h.unwritten r hr (fun hP => hid (hPQ _ hP)) p hp hout]
  fresh := h'.fresh

/-- An application is shown in the end if it was shown before, unless it has changed since. -/
theorem Refreshes.shown (h : Refreshes w G P e e')
    (ha : a ∈ e'.behaviors.applied)
    (hshown : a ∈ e.behaviors.applied → a.ShownIn G e.instances) : a.ShownIn G e'.instances := by
  by_cases hP : P a.id
  · exact h.fresh a ha hP
  · exact h.toDisturbs.shown ha hP (hshown ((h.kept a hP).mp ha))

/-- Writes disturb the applications whose outputs they do not spare. -/
theorem Disturbs.of_instances (h : Ready w e) {s : Store} {console : List String}
    {events : EventLog} {emitDepth : Nat} (htidy : s.Tidy) (hwrites : e.instances.Writes s)
    (hspared : ∀ r ∈ w.roles, ¬ P r.id → ∀ p ∈ G, r.output? = some p →
      View.property s p.component p.point = View.property e.instances p.component p.point) :
    Disturbs w G P e { e with instances := s, console, events, emitDepth } where
  ready := by
    have hready : Ready w { e with instances := s } :=
      h.flows ((Flows.refl e).write hwrites) htidy
    exact ⟨hready.wiring, hready.known, htidy⟩
  kept _ _ := Iff.rfl
  unwritten := hspared

/-- Writes that spare these outputs refresh nothing and disturb nothing. -/
theorem Refreshes.of_instances (h : Ready w e) {s : Store} {console : List String}
    {events : EventLog} {emitDepth : Nat} (htidy : s.Tidy) (hwrites : e.instances.Writes s)
    (hspared : ∀ p ∈ G,
      View.property s p.component p.point = View.property e.instances p.component p.point) :
    Refreshes w G (fun _ => False) e { e with instances := s, console, events, emitDepth } where
  toDisturbs := .of_instances h htidy hwrites fun _ _ _ p hp _ => hspared p hp
  fresh _ _ hid := hid.elim

/-- What is recorded or printed, and how deep emissions are nested, refreshes nothing and disturbs
nothing. -/
theorem Refreshes.aside (h : Ready w e) (console : List String) (events : EventLog)
    (emitDepth : Nat) :
    Refreshes w G (fun _ => False) e { e with console, events, emitDepth } :=
  .of_instances h h.tidy (.refl _) fun _ _ => rfl

/-- Refreshing for every item of a list in turn refreshes all that is refreshed for one of them. -/
theorem Refreshes.foldl {α : Type} {f : Engine → α → Engine} {S : α → String → Prop}
    (hf : ∀ e x, Ready w e → Refreshes w G (S x) e (f e x)) (items : List α) (h : Ready w e) :
    Refreshes w G (fun id => ∃ x ∈ items, S x id) e (items.foldl f e) := by
  induction items generalizing e with
  | nil => exact (Refreshes.aside h _ _ _).congr fun id => by simp
  | cons x rest ih =>
      have hx := hf e x h
      exact (hx.trans (ih hx.ready)).congr fun id => by simp

end Engine

end WidgetFlow
