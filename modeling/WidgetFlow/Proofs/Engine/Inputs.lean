import WidgetFlow.Proofs.Behavior.Delivery
import WidgetFlow.Proofs.Engine.Flows
import WidgetFlow.Proofs.Engine.Operation

/-!
# What applications hear

A value that comes to a point of a component is recorded, and the applications of the component that
have an input there run their hooks on it. `BehaviorSystem.inputs` reads off events what comes to
one application, in order, and `BehaviorSystem.Hooked` says that the hook of an application ran once
for each of some inputs, each time on the private state that the last one had left.

`BehaviorSystem.Heard b events b'` puts the two together for all applications: from one system to
another each of them heard what the events say, and nothing else happened to it.

## Main results

* `Heard.trans`: what is heard is heard step by step.
* `Heard.deliver`: a delivery is heard by the applications it is for.
* `Heard.hooked`: an application that is there before and after ran its hook once for each of its
  inputs.
-/

namespace WidgetFlow

/-- The value that an event says has come to a point. -/
def Event.received? (event : Event) : Option (Endpoint × Value) :=
  if event.kind = .connectionDataReceived then do
    let point ← (event.payload.field? "point").bind Value.text?
    let v ← event.payload.field? "value"
    return (⟨event.component, point⟩, v)
  else none

/-- A value has come to a point of a component. -/
def Event.Reaches (id : String) (event : Event) : Prop :=
  event.kind = .connectionDataReceived ∧ event.component = id

/-- The event that a value has come to a point, perhaps over a connection. -/
def Event.arrival (connection? : Option String) (target : Endpoint) (v : Value) : Event :=
  { kind := .connectionDataReceived, component := target.component, connection?
    payload := Engine.pointPayload target.point v }

/-- An arrival says what has come. -/
theorem Event.received?_arrival (connection? : Option String) (target : Endpoint) (v : Value) :
    (Event.arrival connection? target v).received? = some (target, v) := rfl

/-- Another event says nothing of this kind. -/
theorem Event.received?_of_ne {event : Event} (h : event.kind ≠ .connectionDataReceived) :
    event.received? = none := if_neg h

namespace BehaviorSystem

variable {b b' b'' : BehaviorSystem} {a a' a'' : Applied} {events events' : List Event}
  {first rest : List (Endpoint × Value)} {target : Endpoint} {v : Value} {s : Store}

/-! ### Hooks -/

/-- The hook of an application ran once for each of some inputs, in order, each time on the private
state that the application had then. The store is the one that the hook saw of its owner. -/
inductive Hooked (b : BehaviorSystem) : Applied → List (Endpoint × Value) → Applied → Prop
  | nil (a : Applied) : Hooked b a [] a
  | cons {a a' : Applied} {target : Endpoint} {v : Value} {rest : List (Endpoint × Value)}
      (s : Store) (h : Hooked b (b.answer target v s a).1 rest a') :
      Hooked b a ((target, v) :: rest) a'

/-- What came to an application: the inputs that its behavior listens to. -/
def inputs (b : BehaviorSystem) (a : Applied) (events : List Event) : List (Endpoint × Value) :=
  (events.filterMap Event.received?).filter fun input => b.hears input.1 a

/-- An answer belongs to the same application of the same behavior to the same component. -/
theorem label_answer : (b.answer target v s a).1.label = a.label := by
  rw [answer]
  split <;> rfl

/-- Whether an application has a hook depends on its label. -/
theorem hears_congr (hregistry : b'.behaviors = b.behaviors) (hlabel : a'.label = a.label) :
    b'.hears target a' = b.hears target a := by
  have hbehavior : a'.behavior = a.behavior := congrArg (·.2.1) hlabel
  have hcomponent : a'.component = a.component := congrArg (·.2.2) hlabel
  rw [hears, hears, receiver?, receiver?, get?, get?, hregistry, hbehavior, hcomponent]

/-- What comes to an application depends on its label. -/
theorem inputs_congr (hregistry : b'.behaviors = b.behaviors) (hlabel : a'.label = a.label) :
    b'.inputs a' events = b.inputs a events :=
  List.filter_congr fun _ _ => hears_congr hregistry hlabel

/-- What comes first comes before what comes later. -/
theorem inputs_append :
    b.inputs a (events ++ events') = b.inputs a events ++ b.inputs a events' := by
  rw [inputs, List.filterMap_append, List.filter_append]
  rfl

/-- Events of other kinds put nothing in. -/
theorem inputs_eq_nil (h : ∀ event ∈ events, event.kind ≠ .connectionDataReceived) :
    b.inputs a events = [] := by
  have hnone : events.filterMap Event.received? = [] :=
    List.filterMap_eq_nil_iff.mpr fun event hevent => Event.received?_of_ne (h event hevent)
  rw [inputs, hnone, List.filter_nil]

namespace Hooked

/-- Running hooks belongs to the same application. -/
theorem label (h : b.Hooked a first a') : a'.label = a.label := by
  induction h with
  | nil => rfl
  | cons s _ ih => exact ih.trans label_answer

/-- First some inputs and then others. -/
theorem append (h : b.Hooked a first a') (h' : b.Hooked a' rest a'') :
    b.Hooked a (first ++ rest) a'' := by
  induction h with
  | nil => exact h'
  | cons s _ ih => exact .cons s (ih h')

/-- Hooks are those of the behaviors that are known. -/
theorem congr (hregistry : b'.behaviors = b.behaviors) (h : b'.Hooked a first a') :
    b.Hooked a first a' := by
  induction h with
  | nil => exact .nil _
  | @cons a a' target v rest s _ ih =>
      have hanswer : b'.answer target v s a = b.answer target v s a := by
        rw [answer, answer, receiver?, receiver?, get?, get?, hregistry]
      exact .cons s (hanswer ▸ ih)

/-- Without inputs nothing happens. -/
theorem eq_of_nil (h : b.Hooked a [] a') : a' = a := by
  cases h
  rfl

/-- An application that hears one delivery runs its hook once, and another one not at all. -/
theorem of_arrival (b : BehaviorSystem) (a : Applied) (connection? : Option String)
    (target : Endpoint) (v : Value) (s : Store) :
    b.Hooked a (b.inputs a [Event.arrival connection? target v]) (b.answer target v s a).1 := by
  rw [inputs, List.filterMap_cons_some (Event.received?_arrival connection? target v),
    List.filterMap_nil]
  cases hhears : b.hears target a with
  | false =>
      rw [List.filter_cons_of_neg (by simp [hhears]), List.filter_nil,
        answer_of_hears_eq_false hhears]
      exact .nil a
  | true =>
      rw [List.filter_cons_of_pos (by simp [hhears]), List.filter_nil]
      exact .cons s (.nil _)

end Hooked

/-! ### Names of applications -/

/-- Every application has an id of its own, with a number that was used up. -/
structure Counted (b : BehaviorSystem) : Prop where
  distinct : (b.applied.map Applied.id).Nodup
  used : ∀ a ∈ b.applied, ∃ n < b.next, a.id = idOf n

namespace Counted

/-- Nothing is applied at first. -/
theorem of_nil (h : b.applied = []) : b.Counted where
  distinct := by
    rw [h]
    exact List.nodup_nil
  used a ha := by
    rw [h] at ha
    exact absurd ha List.not_mem_nil

/-- A system stays counted if nothing is applied. -/
theorem sublist (h : b.Counted) (hnext : b'.next = b.next)
    (hids : (b'.applied.map Applied.id).Sublist (b.applied.map Applied.id)) : b'.Counted where
  distinct := h.distinct.sublist hids
  used a' ha' := by
    obtain ⟨a, ha, hid⟩ := List.mem_map.mp (hids.subset (List.mem_map_of_mem ha'))
    obtain ⟨n, hn, heq⟩ := h.used a ha
    exact ⟨n, hnext ▸ hn, hid.symm.trans heq⟩

/-- Whoever has the id of an application is that application. -/
theorem eq_of_id_eq (h : b.Counted) (ha : a ∈ b.applied) (ha' : a' ∈ b.applied)
    (hid : a'.id = a.id) : a' = a :=
  List.inj_on_of_nodup_map h.distinct ha' ha hid

end Counted

/-! ### All applications -/

/-- From one system to another every application heard what the events put into its component, and
is otherwise as it was; or it was newly applied in between. -/
structure Heard (b : BehaviorSystem) (events : List Event) (b' : BehaviorSystem) : Prop where
  registry : b'.behaviors = b.behaviors
  next : b.next ≤ b'.next
  counted : b.Counted → b'.Counted
  applied : ∀ a' ∈ b'.applied, (∃ a ∈ b.applied, b.Hooked a (b.inputs a events) a') ∨
    ∃ n, b.next ≤ n ∧ a'.id = idOf n

namespace Heard

/-- Nothing is heard, and at most something is removed. -/
theorem of_sublist (hregistry : b'.behaviors = b.behaviors) (hnext : b'.next = b.next)
    (hquiet : ∀ event ∈ events, event.kind ≠ .connectionDataReceived)
    (happlied : b'.applied.Sublist b.applied) : b.Heard events b' where
  registry := hregistry
  next := Nat.le_of_eq hnext.symm
  counted h := h.sublist hnext (happlied.map _)
  applied a ha := by
    refine .inl ⟨a, happlied.subset ha, ?_⟩
    rw [inputs_eq_nil hquiet]
    exact .nil a

/-- Nothing happens. -/
theorem refl (b : BehaviorSystem) : b.Heard [] b := of_sublist rfl rfl nofun (.refl _)

/-- What is heard is heard step by step. -/
theorem trans (h : b.Heard events b') (h' : b'.Heard events' b'') :
    b.Heard (events ++ events') b'' where
  registry := h'.registry.trans h.registry
  next := Nat.le_trans h.next h'.next
  counted hcounted := h'.counted (h.counted hcounted)
  applied a'' ha'' := by
    obtain ⟨a', ha', hhooked'⟩ | ⟨n, hn, hid⟩ := h'.applied a'' ha''
    · obtain ⟨a, ha, hhooked⟩ | ⟨n, hn, hid⟩ := h.applied a' ha'
      · refine .inl ⟨a, ha, ?_⟩
        have hlater : b.inputs a events' = b'.inputs a' events' :=
          (inputs_congr h.registry hhooked.label).symm
        rw [inputs_append, hlater]
        exact hhooked.append (hhooked'.congr h.registry)
      · exact .inr ⟨n, hn, (congrArg (·.1) hhooked'.label).trans hid⟩
    · exact .inr ⟨n, Nat.le_trans h.next hn, hid⟩

/-- A delivery is heard by the applications that it is for. -/
theorem deliver (b : BehaviorSystem) (connection? : Option String) (target : Endpoint) (v : Value)
    (s : Store) : b.Heard [Event.arrival connection? target v]
      (b.deliver target.component target.point v s).2 := by
  rw [deliver_eq]
  have hids : (b.applied.map fun a => (b.answer target v s a).1).map Applied.id =
      b.applied.map Applied.id := by
    rw [List.map_map]
    exact List.map_congr_left fun a _ => id_answer
  refine ⟨rfl, Nat.le_refl _, fun h => h.sublist rfl (hids ▸ .refl _), fun a' ha' => ?_⟩
  obtain ⟨a, ha, rfl⟩ := List.mem_map.mp ha'
  exact .inl ⟨a, ha, .of_arrival b a connection? target v s⟩

/-- A behavior is newly applied, under the next number. -/
theorem of_append {behavior component : String} {state : Dict Value}
    (hquiet : ∀ event ∈ events, event.kind ≠ .connectionDataReceived) :
    b.Heard events { b with
      applied := b.applied ++ [⟨idOf b.next, behavior, component, state⟩]
      next := b.next + 1 } where
  registry := rfl
  next := Nat.le_succ _
  counted h := by
    constructor
    · rw [List.map_append, List.map_singleton]
      refine List.nodup_append.mpr ⟨h.distinct, List.nodup_singleton _, fun id hid id' hid' => ?_⟩
      obtain ⟨a, ha, rfl⟩ := List.mem_map.mp hid
      obtain ⟨n, hn, heq⟩ := h.used a ha
      obtain rfl := List.mem_singleton.mp hid'
      intro hsame
      exact Nat.ne_of_lt hn (idOf_injective (heq.symm.trans hsame))
    · intro a ha
      obtain ha | ha := List.mem_append.mp ha
      · obtain ⟨n, hn, heq⟩ := h.used a ha
        exact ⟨n, Nat.lt_succ_of_lt hn, heq⟩
      · obtain rfl := List.mem_singleton.mp ha
        exact ⟨b.next, Nat.lt_succ_self _, rfl⟩
  applied a ha := by
    obtain ha | ha := List.mem_append.mp ha
    · refine .inl ⟨a, ha, ?_⟩
      rw [inputs_eq_nil hquiet]
      exact .nil a
    · obtain rfl := List.mem_singleton.mp ha
      exact .inr ⟨b.next, Nat.le_refl _, rfl⟩

/-- Applying a behavior is heard by no application that is there. -/
theorem apply {component behavior id : String} {options : BehaviorOptions} {o : HookOutcome}
    (h : b.apply component behavior options s = .ok (id, o, b'))
    (hquiet : ∀ event ∈ events, event.kind ≠ .connectionDataReceived) : b.Heard events b' := by
  rw [BehaviorSystem.apply] at h
  split at h
  · cases h
  · split at h
    · cases h
    · split at h
      · obtain ⟨-, hrest⟩ := Prod.mk.inj (Except.ok.inj h)
        obtain ⟨-, rfl⟩ := Prod.mk.inj hrest
        exact .of_append hquiet
      · cases h

/-- Removing an applied behavior is heard by no other application. -/
theorem unapply {id : String} {o : HookOutcome} (h : b.unapply id s = .ok (o, b'))
    (hquiet : ∀ event ∈ events, event.kind ≠ .connectionDataReceived) : b.Heard events b' := by
  rw [BehaviorSystem.unapply] at h
  split at h
  · cases h
  · obtain ⟨-, rfl⟩ := Prod.mk.inj (Except.ok.inj h)
    exact .of_sublist rfl rfl hquiet List.filter_sublist

/-- **What an application heard.** An application that is there before and after ran its hook once
for each of its inputs. -/
theorem hooked (h : b.Heard events b') (hcounted : b.Counted) (ha : a ∈ b.applied)
    (ha' : a' ∈ b'.applied) (hid : a'.id = a.id) : b.Hooked a (b.inputs a events) a' := by
  obtain ⟨a₀, ha₀, hhooked⟩ | ⟨n, hn, hnew⟩ := h.applied a' ha'
  · have hid₀ : a₀.id = a.id := (congrArg (·.1) hhooked.label).symm.trans hid
    obtain rfl := hcounted.eq_of_id_eq ha ha₀ hid₀
    exact hhooked
  · -- the number of a new application was not used up
    obtain ⟨m, hm, hold⟩ := hcounted.used a ha
    have hmn : n = m := idOf_injective (hnew.symm.trans (hid.trans hold))
    omega

end Heard

end BehaviorSystem

end WidgetFlow
