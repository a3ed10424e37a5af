import WidgetFlow.Proofs.Behavior.Output

/-!
# What a delivery does to the applied behaviors

A delivery runs the hooks of all applied behaviors of a component that have an input point of an id.
`BehaviorSystem.hears` says which applications these are, and `BehaviorSystem.answer` what a hook
gives. The built-in behaviors listen according to their roles, which a delivery does not change.

## Main results

* `deliver_eq`: a delivery gives the answers of the applications that have a hook.
* `hears_iff`: an application of a built-in behavior has a hook if its role listens.
* `answers_answer`, `role_answer`: the answers of built-in behaviors.
-/

namespace WidgetFlow

/-- A role listens at a point of its component if its behavior has an input point there. -/
def Role.Listens (r : Role) (target : Endpoint) : Prop :=
  r.component = target.component ∧
    ∃ b, BehaviorSystem.standard.get? r.behavior = some b ∧ b.hasInput target.point = true

namespace BehaviorSystem

variable {b : BehaviorSystem}

/-- What an application becomes when its hook runs after an input, and the effects that the hook
asks for. -/
def answer (b : BehaviorSystem) (target : Endpoint) (v : Value) (s : Store) (a : Applied) :
    Applied × List Effect :=
  match b.receiver? target.component target.point a with
  | none => (a, [])
  | some behavior =>
    let (state, effects) := behavior.onInput target.point v (.of s target.component) a.state
    ({ a with state }, effects)

/-- Whether an application has a hook for an input at a point. -/
def hears (b : BehaviorSystem) (target : Endpoint) (a : Applied) : Bool :=
  (b.receiver? target.component target.point a).isSome

/-- A delivery runs the hooks that there are, and leaves the other applications alone. -/
theorem deliver_eq (b : BehaviorSystem) (target : Endpoint) (v : Value) (s : Store) :
    b.deliver target.component target.point v s =
      ((b.applied.filter (b.hears target)).map fun a =>
          ⟨target.component, (b.answer target v s a).2⟩,
        { b with applied := b.applied.map fun a => (b.answer target v s a).1 }) := by
  rw [deliver]
  refine congrArg₂ Prod.mk ?_ (congrArg (fun applied => { b with applied }) ?_)
  · rw [List.filterMap_map]
    generalize b.applied = applied
    induction applied with
    | nil => rfl
    | cons a rest ih =>
        rw [List.filterMap_cons, ih, List.filter_cons]
        cases h : b.receiver? target.component target.point a with
        | none => simp [hears, h]
        | some behavior => simp [hears, answer, h]
  · rw [List.map_map]
    refine List.map_congr_left fun a _ => ?_
    rw [Function.comp_apply, answer]
    cases b.receiver? target.component target.point a <;> rfl

variable {target : Endpoint} {v : Value} {s : Store} {a : Applied}

/-- An answer belongs to the same application. -/
theorem id_answer : (b.answer target v s a).1.id = a.id := by
  rw [answer]
  split <;> rfl

/-- An application without a hook stays as it is. -/
theorem answer_of_hears_eq_false (h : b.hears target a = false) :
    (b.answer target v s a).1 = a := by
  rw [hears, Option.isSome_eq_false_iff, Option.isNone_iff_eq_none] at h
  rw [answer, h]

/-- With the built-in behaviors an application has a hook if its role listens. -/
theorem hears_iff (h : b.behaviors = standard.behaviors) :
    b.hears target a = true ↔ a.role.Listens target := by
  have hget : b.get? a.behavior = standard.get? a.behavior := by rw [get?, get?, h]
  rw [hears, receiver?, hget, Role.Listens]
  by_cases hcomponent : a.component = target.component
  · rw [if_pos hcomponent]
    cases hb : standard.get? a.behavior with
    | none => simp [Applied.role, hb]
    | some behavior => simp [Applied.role, hb, hcomponent, Option.filter]
  · rw [if_neg hcomponent]
    simp [Applied.role, hcomponent]

/-- With the built-in behaviors an application with a hook answers. -/
theorem answers_answer (h : b.behaviors = standard.behaviors) (hhears : b.hears target a = true) :
    a.Answers target.point (b.answer target v s a).1 (b.answer target v s a).2 := by
  obtain ⟨behavior, hreceiver⟩ := Option.isSome_iff_exists.mp hhears
  rw [answer, hreceiver]
  rw [receiver?] at hreceiver
  split at hreceiver
  · obtain ⟨hget, hinput⟩ := Option.filter_eq_some_iff.mp hreceiver
    rw [get?, h] at hget
    exact Applied.answers_onInput hget hinput v _
  · cases hreceiver

/-- With the built-in behaviors an answer keeps the role. -/
theorem role_answer (h : b.behaviors = standard.behaviors) :
    (b.answer target v s a).1.role = a.role := by
  cases hhears : b.hears target a with
  | false => rw [answer_of_hears_eq_false hhears]
  | true => exact (answers_answer h hhears).role_eq

end BehaviorSystem

end WidgetFlow
