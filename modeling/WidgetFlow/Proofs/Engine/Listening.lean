import WidgetFlow.Proofs.Engine.Private

/-!
# What the applications of one behavior hear in a run

Whatever is done to an engine, an application runs its hook once for each value that comes to one of
its inputs. This module follows the applications of one behavior through any number of acts. In
between other behaviors may be registered, applied and removed; the behavior itself must not be
replaced by another one of its name.

## Conventions

`BehaviorSystem.Asked` is `Hooked` with the effects that each run of the hook asks for. An
application is known by its id, and ids are not used again, so an application that was removed does
not come back.

## Main results

* `HeardAs.trans`: what the applications of a behavior hear, they hear step by step.
* `exists_heardAs`: a run of acts records events, and the applications of a behavior hear them.
-/

namespace WidgetFlow

namespace BehaviorSystem

variable {b b' b'' : BehaviorSystem} {a a' : Applied} {events events' : List Event}
  {given : List (Endpoint × Value)} {name : String}

/-! ### Runs of one hook -/

/-- The hook of an application ran once for each of some inputs, in order, each time on the private
state that the application had then, and asked for these effects. -/
inductive Asked (b : BehaviorSystem) :
    Applied → List (Endpoint × Value) → List (List Effect) → Applied → Prop
  | nil (a : Applied) : Asked b a [] [] a
  | cons {a a' : Applied} {target : Endpoint} {v : Value} {rest : List (Endpoint × Value)}
      {asked : List (List Effect)} (s : Store)
      (h : Asked b (b.answer target v s a).1 rest asked a') :
      Asked b a ((target, v) :: rest) ((b.answer target v s a).2 :: asked) a'

/-- Whenever hooks run they ask for something. -/
theorem Hooked.exists_asked (h : b.Hooked a given a') : ∃ asked, b.Asked a given asked a' := by
  induction h with
  | nil a => exact ⟨[], .nil a⟩
  | cons s _ ih =>
      obtain ⟨asked, hasked⟩ := ih
      exact ⟨_, .cons s hasked⟩

/-- Which hook runs depends on the behavior of the application alone. -/
theorem receiver?_congr (hget : b'.get? a.behavior = b.get? a.behavior) (component point : String) :
    b'.receiver? component point a = b.receiver? component point a := by
  rw [receiver?, receiver?, hget]

/-- What comes to an application depends on its label and its behavior alone. -/
theorem inputs_congr_get? (hget : b'.get? a.behavior = b.get? a.behavior)
    (hlabel : a'.label = a.label) : b'.inputs a' events = b.inputs a events := by
  rw [inputs_congr (b := b') rfl hlabel]
  refine List.filter_congr fun input _ => ?_
  rw [hears, hears, receiver?_congr hget]

/-- Hooks are those of the behavior of the application. -/
theorem Hooked.congr_get? (h : b'.Hooked a given a')
    (hget : b'.get? a.behavior = b.get? a.behavior) : b.Hooked a given a' := by
  induction h with
  | nil a => exact .nil a
  | @cons a a' target v rest s _ ih =>
      have hanswer : b'.answer target v s a = b.answer target v s a := by
        rw [answer, answer, receiver?_congr hget]
      have hbehavior : (b'.answer target v s a).1.behavior = a.behavior :=
        congrArg (·.2.1) label_answer
      refine .cons s ?_
      rw [← hanswer]
      exact ih (by rw [hbehavior, hget])

/-! ### The applications of one behavior -/

/-- From one system to another a behavior stays the same, and each of its applications heard what
the events put into its component; or it was newly applied in between. The others keep their
labels. -/
structure HeardAs (name : String) (b : BehaviorSystem) (events : List Event)
    (b' : BehaviorSystem) : Prop where
  registry : b'.get? name = b.get? name
  next : b.next ≤ b'.next
  counted : b.Counted → b'.Counted
  applied : ∀ a' ∈ b'.applied,
    (∃ a ∈ b.applied, a'.label = a.label ∧
      (a.behavior = name → b.Hooked a (b.inputs a events) a')) ∨
    ∃ n, b.next ≤ n ∧ a'.id = idOf n

/-- What all applications hear, those of one behavior hear. -/
theorem Heard.heardAs (h : b.Heard events b') (name : String) : b.HeardAs name events b' where
  registry := by rw [get?, get?, h.registry]
  next := h.next
  counted := h.counted
  applied a' ha' := (h.applied a' ha').imp_left fun ⟨a, ha, hhooked⟩ =>
    ⟨a, ha, hhooked.label, fun _ => hhooked⟩

/-- Registering another behavior is heard by no application. -/
theorem heardAs_register (b : BehaviorSystem) {behavior : Behavior} (hne : behavior.id ≠ name) :
    b.HeardAs name [] (b.register behavior) where
  registry := Dict.get?_insert_of_ne hne
  next := Nat.le_refl _
  counted h := ⟨h.distinct, h.used⟩
  applied a ha := .inl ⟨a, ha, rfl, fun _ => .nil a⟩

namespace HeardAs

/-- What the applications of a behavior hear, they hear step by step. -/
theorem trans (h : b.HeardAs name events b') (h' : b'.HeardAs name events' b'') :
    b.HeardAs name (events ++ events') b'' where
  registry := h'.registry.trans h.registry
  next := Nat.le_trans h.next h'.next
  counted hcounted := h'.counted (h.counted hcounted)
  applied a'' ha'' := by
    obtain ⟨a', ha', hlabel', hhooked'⟩ | ⟨n, hn, hid⟩ := h'.applied a'' ha''
    · obtain ⟨a, ha, hlabel, hhooked⟩ | ⟨n, hn, hid⟩ := h.applied a' ha'
      · refine .inl ⟨a, ha, hlabel'.trans hlabel, fun hname => ?_⟩
        have hname' : a'.behavior = name := (congrArg (·.2.1) hlabel).trans hname
        have hget : b'.get? a'.behavior = b.get? a'.behavior := by rw [hname', h.registry]
        have hlater : b.inputs a events' = b'.inputs a' events' := by
          rw [inputs_congr_get? hget rfl, inputs_congr rfl hlabel]
        rw [inputs_append, hlater]
        exact (hhooked hname).append ((hhooked' hname').congr_get? hget)
      · exact .inr ⟨n, hn, (congrArg (·.1) hlabel').trans hid⟩
    · exact .inr ⟨n, Nat.le_trans h.next hn, hid⟩

/-- An application that is there in the end was there all the time, if its number was used up
before. -/
theorem exists_hooked (h : b.HeardAs name events b') (ha' : a' ∈ b'.applied) {n : Nat}
    (hn : n < b.next) (hid : a'.id = idOf n) :
    ∃ a ∈ b.applied, a'.label = a.label ∧
      (a.behavior = name → b.Hooked a (b.inputs a events) a') := by
  obtain hkept | ⟨m, hm, hnew⟩ := h.applied a' ha'
  · exact hkept
  · have hmn : m = n := idOf_injective (hnew.symm.trans hid)
    omega

end HeardAs

end BehaviorSystem

namespace Engine

variable {e : Engine} {events events' : List Event}

/-! ### Runs of acts -/

/-- The engine after acts, however they end. -/
def actAll (e : Engine) (acts : List Act) : Engine := acts.foldl act e

/-- Events that are recorded by one thing and then by another are recorded in turn. -/
theorem Records.trans {act act' : Engine → Engine} (h : e.Records act events)
    (h' : (act e).Records act' events') :
    e.Records (fun e => act' (act e)) (events ++ events') := fun log => by
  rw [EventLog.recordAll_append]
  exact (congrArg act' (h log)).trans (h' (log.recordAll events))

/-- An act records events, and the applications of a behavior hear them. -/
theorem exists_heardAs_act (e : Engine) (name : String) (act : Act)
    (hact : ∀ b, act = .perform (.registerBehavior b) → b.id ≠ name) :
    ∃ events, e.Records (fun e => e.act act) events ∧
      e.behaviors.HeardAs name events (e.act act).behaviors := by
  by_cases hregister : ∃ b, act = .perform (.registerBehavior b)
  · obtain ⟨b, rfl⟩ := hregister
    exact ⟨[], fun _ => rfl, e.behaviors.heardAs_register (hact b rfl)⟩
  · obtain ⟨events, htrail⟩ := e.act_trail act fun b heq => hregister ⟨b, heq⟩
    exact ⟨events, htrail.records, htrail.heard.heardAs name⟩

/-- **A run of acts** records events, and the applications of a behavior hear them, unless the
behavior is replaced. -/
theorem exists_heardAs (e : Engine) (name : String) (acts : List Act)
    (hacts : ∀ b, .perform (.registerBehavior b) ∈ acts → b.id ≠ name) :
    ∃ events, e.Records (fun e => e.actAll acts) events ∧
      e.behaviors.HeardAs name events (e.actAll acts).behaviors := by
  induction acts generalizing e with
  | nil => exact ⟨[], fun _ => rfl, (BehaviorSystem.Heard.refl _).heardAs name⟩
  | cons act rest ih =>
      obtain ⟨events, hrecords, hheard⟩ := e.exists_heardAs_act name act fun b hb =>
        hacts b (hb ▸ List.mem_cons_self)
      obtain ⟨events', hrecords', hheard'⟩ := ih (e.act act) fun b hb =>
        hacts b (List.mem_cons_of_mem _ hb)
      exact ⟨events ++ events', hrecords.trans hrecords', hheard.trans hheard'⟩

end Engine

end WidgetFlow
