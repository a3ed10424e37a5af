import WidgetFlow.Behavior.System
import WidgetFlow.Flow.Graph
import WidgetFlow.Proofs.Widget.Property

/-!
# What the built-in behaviors show

A counter and a toggle keep a property of their component up with their private state: the count,
and the state that the index points at. `Applied.output?` is that property, and `Applied.Shown` says
that it has the right value. `Applied.ShownIn` says so if it is one of some points.

A hook of a built-in behavior asks for effects that bring the component in line with the new private
state, and after an input also for one emission. The point of the emission depends on the input
point alone (`outletAt`), because no two built-in behaviors share an input point. Whether there is
an emission, and which property is written, is part of the `Role` of an application, which no hook
changes.

## Main results

* `Applied.displays_onAttach`: what a hook asks for when its behavior is applied.
* `Applied.answers_onInput`: what a hook asks for after an input.
* `Applied.Displays.shown`: effects that bring the component in line do so.
-/

namespace WidgetFlow

open Standard

/-! ### Outputs -/

namespace Applied

/-- The property that an application keeps up with its private state, as a point of its component: a
counter has one, and so has a toggle unless it has no states. -/
def output? (a : Applied) : Option Endpoint :=
  if a.behavior = "counter" then some ⟨a.component, textState a.state "property" "count"⟩
  else if a.behavior = "toggle" ∧ (toggleStates a.state).isEmpty = false then
    some ⟨a.component, textState a.state "property" "state"⟩
  else none

/-- Whether an application emits after every input. Only a toggle without states does not. -/
def emits (a : Applied) : Bool := !(a.behavior = "toggle" && (toggleStates a.state).isEmpty)

/-- A value is what the private state of an application says. -/
inductive Says (a : Applied) (v : Value) : Prop
  | counter (behavior : a.behavior = "counter") (count : Dict.get? a.state "count" = some v)
  | toggle (behavior : a.behavior = "toggle") (i : Nat)
      (index : Dict.get? a.state "index" = some (.ofInt i))
      (current : (toggleStates a.state)[i]? = some v)

/-- The component of a counter has its private count as the effective property, and the component
of a toggle with states has the state that the private index points at. -/
structure Shown (a : Applied) (s : Store) : Prop where
  counter : a.behavior = "counter" → ∃ v, Dict.get? a.state "count" = some v ∧
    View.property s a.component (textState a.state "property" "count") = some v
  toggle : a.behavior = "toggle" → toggleStates a.state ≠ [] → ∃ (i : Nat) (v : Value),
    Dict.get? a.state "index" = some (.ofInt i) ∧ (toggleStates a.state)[i]? = some v ∧
    View.property s a.component (textState a.state "property" "state") = some v

variable {a a' : Applied} {s s' : Store} {p q : Endpoint} {v : Value}

/-- The output of a counter. -/
theorem output?_counter (h : a.behavior = "counter") :
    a.output? = some ⟨a.component, textState a.state "property" "count"⟩ := if_pos h

/-- The output of a toggle with states. -/
theorem output?_toggle (h : a.behavior = "toggle") (hstates : toggleStates a.state ≠ []) :
    a.output? = some ⟨a.component, textState a.state "property" "state"⟩ := by
  have hcounter : a.behavior ≠ "counter" := by
    rw [h]
    decide
  rw [output?, if_neg hcounter, if_pos ⟨h, by simpa using hstates⟩]

/-- The output of an application is a property of its component. -/
theorem component_of_output? (h : a.output? = some p) : p.component = a.component := by
  rw [output?] at h
  split at h
  · exact (Option.some.inj h) ▸ rfl
  · split at h
    · exact (Option.some.inj h) ▸ rfl
    · exact nomatch h

/-- An application is shown if its output has the value that its private state says. -/
theorem shown_iff : a.Shown s ↔
    ∀ p, a.output? = some p → ∃ v, a.Says v ∧ View.property s p.component p.point = some v := by
  constructor
  · intro h p hp
    by_cases hcounter : a.behavior = "counter"
    · rw [output?_counter hcounter] at hp
      obtain rfl := Option.some.inj hp
      obtain ⟨v, hcount, hv⟩ := h.counter hcounter
      exact ⟨v, .counter hcounter hcount, hv⟩
    · rw [output?, if_neg hcounter] at hp
      split at hp
      · next htoggle =>
          obtain rfl := Option.some.inj hp
          obtain ⟨i, v, hindex, hcurrent, hv⟩ := h.toggle htoggle.1 (by simpa using htoggle.2)
          exact ⟨v, .toggle htoggle.1 i hindex hcurrent, hv⟩
      · exact nomatch hp
  · refine fun h => ⟨fun hcounter => ?_, fun htoggle hstates => ?_⟩
    · obtain ⟨v, hvalue, hv⟩ := h _ (output?_counter hcounter)
      cases hvalue with
      | counter _ hcount => exact ⟨v, hcount, hv⟩
      | toggle htoggle => exact absurd (hcounter.symm.trans htoggle) (by decide)
    · obtain ⟨v, hvalue, hv⟩ := h _ (output?_toggle htoggle hstates)
      cases hvalue with
      | counter hcounter => exact absurd (hcounter.symm.trans htoggle) (by decide)
      | toggle _ i hindex hcurrent => exact ⟨i, v, hindex, hcurrent, hv⟩

/-- An application that never emits has no output. -/
theorem output?_eq_none_of_emits_eq_false (h : a.emits = false) : a.output? = none := by
  rw [emits, Bool.not_eq_false', Bool.and_eq_true, decide_eq_true_eq] at h
  obtain ⟨hbehavior, hstates⟩ := h
  simp [output?, hbehavior, hstates]

/-- If the output of an application is one of these points, then it has the value that the private
state says. -/
def ShownIn (a : Applied) (G : Set Endpoint) (s : Store) : Prop :=
  ∀ p ∈ G, a.output? = some p → ∃ v, a.Says v ∧ View.property s p.component p.point = some v

/-- An application is shown if it is, whatever its output is. -/
theorem shownIn_univ : a.ShownIn Set.univ s ↔ a.Shown s :=
  ⟨fun h => shown_iff.mpr fun p => h p trivial, fun h p _ => shown_iff.mp h p⟩

/-- An application stays shown as long as its output has the same value. -/
theorem ShownIn.congr {G : Set Endpoint} (h : a.ShownIn G s)
    (hp : ∀ p ∈ G, a.output? = some p →
      View.property s' p.component p.point = View.property s p.component p.point) :
    a.ShownIn G s' := by
  intro p hG hout
  rw [hp p hG hout]
  exact h p hG hout

end Applied

/-! ### Effects -/

/-- Whether an effect is about the look of a component only. -/
def Effect.isLook : Effect → Bool
  | .setProperty _ _ => false
  | .emit _ _ => false
  | _ => true

/-- An effect about the look of a component keeps all properties. -/
theorem Effect.property_apply_of_isLook {effect : Effect} (h : effect.isLook = true)
    (owner : String) (s : Store) (id key : String) :
    View.property (Effect.apply owner s effect) id key = View.property s id key := by
  cases effect with
  | setProperty key v => exact nomatch h
  | setStyle property v => exact Store.property_present
  | addClass name => exact Store.property_present
  | removeClass name => exact Store.property_present
  | setHidden hidden => exact Store.property_present
  | emit point v => exact nomatch h

/-- Effects keep states dictionaries. -/
theorem Effect.tidy_apply {s : Store} (h : s.Tidy) (owner : String) (effect : Effect) :
    (Effect.apply owner s effect).Tidy := by
  cases effect with
  | setProperty key v => exact h.setProperty
  | setStyle property v => exact h.present
  | addClass name => exact h.present
  | removeClass name => exact h.present
  | setHidden hidden => exact h.present
  | emit point v => exact h

namespace Applied

variable {a a' : Applied} {s : Store} {p q : Endpoint} {v : Value} {effects : List Effect}

/-- Effects on its component bring an application in line with its private state: they write its
output, or are about the look if it has none. -/
inductive Displays (a : Applied) : List Effect → Prop
  | output (p : Endpoint) (v : Value) (output : a.output? = some p) (value : a.Says v) :
      Displays a [.setProperty p.point v]
  | look (effects : List Effect) (output : a.output? = none)
      (look : ∀ effect ∈ effects, effect.isLook = true) : Displays a effects

/-- Bringing an application in line emits nothing. -/
theorem Displays.filterMap_emission? (h : a.Displays effects) :
    effects.filterMap Effect.emission? = [] := by
  cases h with
  | output p v => rfl
  | look _ _ hlook =>
      refine List.filterMap_eq_nil_iff.mpr fun effect heffect => ?_
      cases effect with
      | emit point v => exact nomatch hlook _ heffect
      | _ => rfl

/-- Bringing an application in line changes no property but its output. -/
theorem Displays.property (h : a.Displays effects) (hq : a.output? ≠ some q) :
    View.property (effects.foldl (Effect.apply a.component) s) q.component q.point =
      View.property s q.component q.point := by
  cases h with
  | output p v hp =>
      refine Store.property_setProperty_of_ne fun hcomponent hpoint => hq ?_
      rw [hp]
      obtain ⟨c, k⟩ := p
      obtain rfl : c = a.component := component_of_output? hp
      obtain ⟨c', k'⟩ := q
      exact congrArg₂ (fun c k => some (Endpoint.mk c k)) hcomponent hpoint
  | look _ _ hlook =>
      refine List.foldlRecOn (motive := fun t : Store =>
        View.property t q.component q.point = View.property s q.component q.point) effects _ rfl
        fun t ht effect heffect => ?_
      rw [Effect.property_apply_of_isLook (hlook effect heffect), ht]

/-- An application without an output has nothing to show. -/
theorem shownIn_of_output?_eq_none (h : a.output? = none) (G : Set Endpoint) (s : Store) :
    a.ShownIn G s := by
  rw [ShownIn, h]
  exact nofun

/-- After it was brought in line, an application is shown if its component is there. -/
theorem Displays.shown (h : a.Displays effects) (htidy : s.Tidy) {G : Set Endpoint}
    (hlive : ∀ p ∈ G, a.output? = some p → s.contains a.component = true) :
    a.ShownIn G (effects.foldl (Effect.apply a.component) s) := by
  cases h with
  | output p v hp hvalue =>
      intro q hG hq
      obtain rfl : p = q := Option.some.inj (hp.symm.trans hq)
      rw [component_of_output? hp]
      exact ⟨v, hvalue, Store.property_setProperty_self htidy (hlive p hG hp)⟩
  | look _ hnone => exact shownIn_of_output?_eq_none hnone G _

end Applied

/-! ### Roles -/

/-- What is fixed about an application: its id, its behavior and its component, the property that it
writes, and whether it emits. -/
structure Role where
  id : String
  behavior : String
  component : String
  output? : Option Endpoint
  emits : Bool

/-- The role of an application. -/
def Applied.role (a : Applied) : Role := ⟨a.id, a.behavior, a.component, a.output?, a.emits⟩

/-- The output point at which the built-in behaviors emit after an input at a point. -/
def outletAt : String → String
  | "trigger" => "toggled"
  | "moveRandom" => "positionChanged"
  | "setPosition" => "positionChanged"
  | "increment" => "countChanged"
  | "decrement" => "countChanged"
  | "reset" => "countChanged"
  | _ => "visibilityChanged"

/-- What an application becomes after an input at a point, and the effects that it asks for: its
role stays, and unless it never emits it is brought in line and then emits at the outlet. -/
inductive Applied.Answers (point : String) (a a' : Applied) : List Effect → Prop
  | silent (role : a'.role = a.role) (emits : a.emits = false) : Answers point a a' []
  | loud (role : a'.role = a.role) (emits : a.emits = true) {effects : List Effect}
      (displays : a'.Displays effects) (v : Value) :
      Answers point a a' (effects ++ [.emit (outletAt point) v])

/-- An answer keeps the role. -/
theorem Applied.Answers.role_eq {point : String} {a a' : Applied} {effects : List Effect}
    (h : a.Answers point a' effects) : a'.role = a.role := by
  cases h with
  | silent hrole => exact hrole
  | loud hrole => exact hrole

/-- A behavior has the input points that it lists. -/
theorem Behavior.hasInput_iff {b : Behavior} {point : String} :
    b.hasInput point = true ↔ point ∈ b.inputs.map (·.id) := by
  simp only [Behavior.hasInput, List.any_eq_true, decide_eq_true_eq, List.mem_map]

/-! ### Toggling -/

/-- Writing another key leaves a text of a state alone. -/
theorem textState_insert {state : Dict Value} {key key' otherwise : String} {v : Value}
    (h : key ≠ key') :
    textState (Dict.insert state key v) key' otherwise = textState state key' otherwise := by
  rw [textState, textState, Dict.get?_insert_of_ne h]

/-- Writing another key leaves the states of a toggle alone. -/
theorem toggleStates_insert {state : Dict Value} {key : String} {v : Value} (h : key ≠ "states") :
    toggleStates (Dict.insert state key v) = toggleStates state := by
  rw [toggleStates, toggleStates, Dict.get?_insert_of_ne h]

/-- Bringing the index of a toggle into range gives the state that it points at, if there are
states. -/
theorem toggleCurrent_cases (state : Dict Value) :
    (toggleStates state = [] ∧ toggleCurrent state = (state, none)) ∨
    toggleStates state ≠ [] ∧ ∃ (i : Nat) (v : Value), (toggleStates state)[i]? = some v ∧
      toggleCurrent state = (Dict.insert state "index" (.ofInt i), some (v,
        .setProperty (textState (Dict.insert state "index" (.ofInt i)) "property" "state") v)) := by
  by_cases hnil : toggleStates state = []
  · refine .inl ⟨hnil, ?_⟩
    rw [toggleCurrent, hnil]
    rfl
  · refine .inr ⟨hnil, ?_⟩
    have hlength : 0 < (toggleStates state).length := List.length_pos_iff.mpr hnil
    have hlow := Int.emod_nonneg (intState state "index" 0)
      (b := (toggleStates state).length) (by omega)
    have hhigh := Int.emod_lt_of_pos (intState state "index" 0)
      (b := (toggleStates state).length) (by omega)
    obtain ⟨i, hi⟩ := Int.eq_ofNat_of_zero_le hlow
    have hlt : i < (toggleStates state).length := by omega
    refine ⟨i, (toggleStates state)[i], List.getElem?_eq_getElem hlt, ?_⟩
    simp only [toggleCurrent, hi, Int.toNat_natCast, List.getElem?_eq_getElem hlt]

namespace Applied

variable {a : Applied} {v : Value}

/-- The index of a toggle is no part of its role. -/
theorem role_insert_index (h : a.behavior = "toggle") (v : Value) :
    role { a with state := Dict.insert a.state "index" v } = a.role := by
  simp only [role, output?, emits, h, toggleStates_insert (by decide : "index" ≠ "states"),
    textState_insert (by decide : "index" ≠ "property")]

/-- A toggle whose index is in range writes the state that it points at. -/
theorem displays_toggle (h : a.behavior = "toggle") (hne : toggleStates a.state ≠ []) {i : Nat}
    (hcurrent : (toggleStates a.state)[i]? = some v) :
    let state := Dict.insert a.state "index" (.ofInt i)
    Displays { a with state } [.setProperty (textState state "property" "state") v] := by
  intro state
  have hstates : toggleStates state = toggleStates a.state :=
    toggleStates_insert (by decide : "index" ≠ "states")
  rw [← hstates] at hne hcurrent
  exact .output _ v (output?_toggle (a := { a with state }) h hne)
    (.toggle h i Dict.get?_insert_self hcurrent)

/-- A toggle emits unless it has no states. -/
theorem emits_toggle (h : a.behavior = "toggle") :
    a.emits = !(toggleStates a.state).isEmpty := by
  simp [emits, h]

/-- Applying a toggle brings it in line. -/
theorem displays_toggle_onAttach (h : a.behavior = "toggle") (owner : Owner) :
    Displays { a with state := (toggle.onAttach owner a.state).1 }
      (toggle.onAttach owner a.state).2 := by
  rcases toggleCurrent_cases a.state with ⟨hnil, heq⟩ | ⟨hne, i, v, hcurrent, heq⟩
  · simp only [toggle, heq]
    have hout : a.output? = none :=
      output?_eq_none_of_emits_eq_false (by rw [emits_toggle h, hnil]; rfl)
    exact .look _ hout fun _ heffect => nomatch heffect
  · simp only [toggle, heq]
    exact displays_toggle h hne hcurrent

/-- A toggle answers an input. -/
theorem answers_toggle_onInput (h : a.behavior = "toggle") {point : String}
    (hpoint : toggle.hasInput point = true) (w : Value) (owner : Owner) :
    a.Answers point { a with state := (toggle.onInput point w owner a.state).1 }
      (toggle.onInput point w owner a.state).2 := by
  have hids : toggle.inputs.map (·.id) = ["trigger"] := rfl
  rw [Behavior.hasInput_iff, hids] at hpoint
  obtain rfl := List.mem_singleton.mp hpoint
  -- the next index, which is brought into range by the hook itself
  let next : Value := .ofInt
    (intState a.state "index" 0 % (max 1 (toggleStates a.state).length : Nat) + 1)
  let b : Applied := { a with state := Dict.insert a.state "index" next }
  have hrole : b.role = a.role := role_insert_index h next
  have hemits : a.emits = !(toggleStates b.state).isEmpty := by
    rw [emits_toggle h, toggleStates_insert (by decide : "index" ≠ "states")]
  simp only [toggle]
  rcases toggleCurrent_cases b.state with ⟨hnil, heq⟩ | ⟨hne, i, v, hcurrent, heq⟩
  · rw [heq]
    rw [hnil] at hemits
    exact .silent hrole hemits
  · rw [heq]
    rw [List.isEmpty_eq_false_iff.mpr hne] at hemits
    exact .loud ((role_insert_index (a := b) h _).trans hrole) hemits
      (displays_toggle (a := b) h hne hcurrent) v

/-! ### Counting -/

/-- The count of a counter is no part of its role. -/
theorem role_insert_count (h : a.behavior = "counter") (v : Value) :
    role { a with state := Dict.insert a.state "count" v } = a.role := by
  simp only [role, output?, emits, h, textState_insert (by decide : "count" ≠ "property")]
  rfl

/-- A counter writes its count. -/
theorem displays_counter (h : a.behavior = "counter")
    (hcount : Dict.get? a.state "count" = some v) :
    a.Displays [.setProperty (textState a.state "property" "count") v] :=
  .output _ v (output?_counter h) (.counter h hcount)

/-- Applying a counter brings it in line, if there is a count to start with. -/
theorem displays_counter_onAttach (h : a.behavior = "counter")
    (hcount : Dict.contains a.state "count" = true) (owner : Owner) :
    Displays { a with state := (counter.onAttach owner a.state).1 }
      (counter.onAttach owner a.state).2 := by
  obtain ⟨v, hv⟩ := Dict.contains_iff.mp hcount
  have hattach : counter.onAttach owner a.state = (a.state,
      [.setProperty (textState a.state "property" "count")
        ((Dict.get? a.state "count").getD (.ofInt 0))]) := rfl
  rw [hattach, hv]
  exact displays_counter h hv

/-- A counter that is set to a number brings itself in line and emits it. -/
theorem answers_counter (h : a.behavior = "counter") {point : String}
    (hpoint : outletAt point = "countChanged") (v : Value) :
    let state := Dict.insert a.state "count" v
    a.Answers point { a with state }
      [.setProperty (textState state "property" "count") v, .emit "countChanged" v] := by
  intro state
  have hemits : a.emits = true := by
    rw [emits, h]
    rfl
  rw [← hpoint]
  exact .loud (role_insert_count h v) hemits
    (displays_counter (a := { a with state }) h Dict.get?_insert_self) v

/-- A counter answers an input. -/
theorem answers_counter_onInput (h : a.behavior = "counter") {point : String}
    (hpoint : counter.hasInput point = true) (w : Value) (owner : Owner) :
    a.Answers point { a with state := (counter.onInput point w owner a.state).1 }
      (counter.onInput point w owner a.state).2 := by
  have hids : counter.inputs.map (·.id) = ["increment", "decrement", "reset"] := rfl
  rw [Behavior.hasInput_iff, hids] at hpoint
  simp only [List.mem_cons, List.not_mem_nil, or_false] at hpoint
  rcases hpoint with rfl | rfl | rfl
  · exact answers_counter h rfl _
  · exact answers_counter h rfl _
  · exact answers_counter h rfl _

/-! ### Placing, showing and hiding -/

/-- The role of a behavior that neither toggles nor counts has no output and does not depend on the
state. -/
theorem role_of_ne (hcounter : a.behavior ≠ "counter") (htoggle : a.behavior ≠ "toggle") :
    a.role = ⟨a.id, a.behavior, a.component, none, true⟩ := by
  simp only [role, output?, emits, hcounter, htoggle]
  rfl

/-- Any effects about the look bring an application in line that neither toggles nor counts. -/
theorem displays_of_ne (hcounter : a.behavior ≠ "counter") (htoggle : a.behavior ≠ "toggle")
    {effects : List Effect} (hlook : effects.all Effect.isLook = true) : a.Displays effects :=
  .look effects (congrArg Role.output? (role_of_ne hcounter htoggle)) (List.all_eq_true.mp hlook)

/-- A behavior that neither toggles nor counts answers by effects about the look. -/
theorem answers_of_ne (hcounter : a.behavior ≠ "counter") (htoggle : a.behavior ≠ "toggle")
    {point outlet : String} (houtlet : outletAt point = outlet) (effects : List Effect)
    (hlook : effects.all Effect.isLook = true) (state : Dict Value) (v : Value) :
    a.Answers point { a with state } (effects ++ [.emit outlet v]) := by
  have hrole : a.role = ⟨a.id, a.behavior, a.component, none, true⟩ := role_of_ne hcounter htoggle
  have hrole' : role { a with state } = ⟨a.id, a.behavior, a.component, none, true⟩ :=
    role_of_ne hcounter htoggle
  rw [← houtlet]
  exact .loud (hrole'.trans hrole.symm) (congrArg Role.emits hrole)
    (displays_of_ne (a := { a with state }) hcounter htoggle hlook) v

/-- A placed component answers an input. -/
theorem answers_position_onInput (h : a.behavior = "position") {point : String}
    (hpoint : position.hasInput point = true) (w : Value) (owner : Owner) :
    a.Answers point { a with state := (position.onInput point w owner a.state).1 }
      (position.onInput point w owner a.state).2 := by
  have hcounter : a.behavior ≠ "counter" := h ▸ by decide
  have htoggle : a.behavior ≠ "toggle" := h ▸ by decide
  have hids : position.inputs.map (·.id) = ["moveRandom", "setPosition"] := rfl
  rw [Behavior.hasInput_iff, hids] at hpoint
  simp only [List.mem_cons, List.not_mem_nil, or_false] at hpoint
  rcases hpoint with rfl | rfl
  · exact answers_of_ne hcounter htoggle rfl _ rfl _ _
  · exact answers_of_ne hcounter htoggle rfl _ rfl _ _

/-- A component that is shown or hidden answers an input. -/
theorem answers_visibility_onInput (h : a.behavior = "visibility") {point : String}
    (hpoint : visibility.hasInput point = true) (w : Value) (owner : Owner) :
    a.Answers point { a with state := (visibility.onInput point w owner a.state).1 }
      (visibility.onInput point w owner a.state).2 := by
  have hcounter : a.behavior ≠ "counter" := h ▸ by decide
  have htoggle : a.behavior ≠ "toggle" := h ▸ by decide
  have hids : visibility.inputs.map (·.id) = ["show", "hide", "toggle"] := rfl
  rw [Behavior.hasInput_iff, hids] at hpoint
  simp only [List.mem_cons, List.not_mem_nil, or_false] at hpoint
  rcases hpoint with rfl | rfl | rfl
  · exact answers_of_ne hcounter htoggle rfl [.setHidden _] rfl _ _
  · exact answers_of_ne hcounter htoggle rfl [.setHidden _] rfl _ _
  · exact answers_of_ne hcounter htoggle rfl [.setHidden _] rfl _ _

end Applied

/-! ### All built-in behaviors -/

/-- The built-in behaviors stand under their ids. -/
theorem BehaviorSystem.standard_get?_cases {id : String} {b : Behavior}
    (h : BehaviorSystem.standard.get? id = some b) :
    (id = "counter" ∧ b = counter) ∨ (id = "position" ∧ b = position) ∨
      (id = "toggle" ∧ b = toggle) ∨ (id = "visibility" ∧ b = visibility) := by
  have hstandard : BehaviorSystem.standard.behaviors =
      [("counter", counter), ("position", position), ("toggle", toggle),
        ("visibility", visibility)] := rfl
  rw [BehaviorSystem.get?, hstandard] at h
  have hmem := Dict.mem_of_get? h
  simpa only [List.mem_cons, Prod.mk.injEq, List.not_mem_nil, or_false] using hmem

/-- The state that a behavior starts with has the keys of its defaults. -/
theorem BehaviorOptions.contains_seed (o : BehaviorOptions) {defaults : Dict Value} {key : String}
    (h : Dict.contains defaults key = true) : Dict.contains (o.seed defaults) key = true :=
  Dict.contains_union _ (Dict.contains_union _ h)

namespace Applied

variable {a : Applied} {b : Behavior}

/-- What the hook of a built-in behavior asks for when the behavior is applied brings the component
in line. -/
theorem displays_onAttach (h : BehaviorSystem.standard.get? a.behavior = some b) (owner : Owner)
    (options : BehaviorOptions) (hstate : a.state = options.seed b.defaults) :
    Displays { a with state := (b.onAttach owner a.state).1 } (b.onAttach owner a.state).2 := by
  rcases BehaviorSystem.standard_get?_cases h with
    ⟨hb, rfl⟩ | ⟨hb, rfl⟩ | ⟨hb, rfl⟩ | ⟨hb, rfl⟩
  · refine displays_counter_onAttach hb ?_ owner
    rw [hstate]
    exact options.contains_seed rfl
  · exact displays_of_ne (hb ▸ by decide) (hb ▸ by decide) rfl
  · exact displays_toggle_onAttach hb owner
  · exact displays_of_ne (hb ▸ by decide) (hb ▸ by decide) rfl

/-- What the hook of a built-in behavior asks for after an input. -/
theorem answers_onInput (h : BehaviorSystem.standard.get? a.behavior = some b) {point : String}
    (hpoint : b.hasInput point = true) (v : Value) (owner : Owner) :
    a.Answers point { a with state := (b.onInput point v owner a.state).1 }
      (b.onInput point v owner a.state).2 := by
  rcases BehaviorSystem.standard_get?_cases h with
    ⟨hb, rfl⟩ | ⟨hb, rfl⟩ | ⟨hb, rfl⟩ | ⟨hb, rfl⟩
  · exact answers_counter_onInput hb hpoint v owner
  · exact answers_position_onInput hb hpoint v owner
  · exact answers_toggle_onInput hb hpoint v owner
  · exact answers_visibility_onInput hb hpoint v owner

end Applied

end WidgetFlow
