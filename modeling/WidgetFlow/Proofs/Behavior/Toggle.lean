import WidgetFlow.Proofs.Behavior.Output
import WidgetFlow.Proofs.Decimal.Whole

/-!
# A toggle goes round its states

The index of a toggle is brought into range in two places, before it steps on and when the state
that it points at is written, and each time it is read as a double. For whole numbers up to
`2 ^ 53` in magnitude nothing is lost on the way, so a toggle that starts at such an index, with no
more states than that, goes round them one by one.

## Conventions

A `Rotation` is what a toggle is applied with: its states, its property and the index it starts at.
Steps are counted from 0, which is the application itself. A rotation without states has no current
state at any step, and a toggle without states asks for nothing.

## Main results

* `Rotation.index_succ`: one step goes on to the next index, or back to the first one.
* `Rotation.onAttach_toggle`: what a toggle asks for when it is applied.
* `Rotation.onInput_toggle`: what it asks for at every step.
-/

namespace WidgetFlow

open Standard

/-- What a toggle goes round: its states, the property that it writes them to, and the index that it
starts at. -/
structure Rotation where
  states : List Value
  property : String
  start : Int

namespace Rotation

variable {c : Rotation} {k : Nat} {state : Dict Value} {i : Int} {v : Value}

/-- The index after so many steps. -/
def index (c : Rotation) (k : Nat) : Int := (c.start + k) % c.states.length

/-- The state after so many steps. -/
def current? (c : Rotation) (k : Nat) : Option Value := c.states[(c.index k).toNat]?

/-- The writes of the state after so many steps: one if there are states. -/
def writes (c : Rotation) (k : Nat) : List Effect :=
  (c.current? k).toList.map (.setProperty c.property)

/-- What a step asks for: to write the state and to emit it, if there are states. -/
def asks (c : Rotation) (k : Nat) : List Effect :=
  c.writes k ++ (c.current? k).toList.map (.emit "toggled")

/-! ### Indices -/

/-- An index is in range if there are states. -/
theorem index_mem (hne : c.states ≠ []) (k : Nat) :
    0 ≤ c.index k ∧ c.index k < c.states.length := by
  have hlength : 0 < c.states.length := List.length_pos_iff.mpr hne
  exact ⟨Int.emod_nonneg _ (by omega), Int.emod_lt_of_pos _ (by omega)⟩

/-- One step goes on to the next index, or back to the first one. -/
theorem index_succ (c : Rotation) (k : Nat) :
    c.index (k + 1) = (c.index k % c.states.length + 1) % c.states.length := by
  rw [index, index, Int.emod_emod, Int.emod_add_emod, Nat.cast_succ, Int.add_assoc]

/-- If there are states, one of them is current at every step. -/
theorem exists_current? (hne : c.states ≠ []) (k : Nat) : ∃ v, c.current? k = some v := by
  obtain ⟨hlow, hhigh⟩ := index_mem hne k
  exact ⟨_, List.getElem?_eq_getElem (show (c.index k).toNat < c.states.length by omega)⟩

/-- With states, a step writes the current state once and emits it once. -/
theorem asks_of_current? (h : c.current? k = some v) :
    c.asks k = [.setProperty c.property v, .emit "toggled" v] := by
  rw [asks, writes, h]
  rfl

/-- With states, steps in turn write their current states and emit them. -/
theorem exists_asks_eq (hne : c.states ≠ []) (steps : List Nat) : ∃ values : List Value,
    values.map some = steps.map c.current? ∧
      steps.map c.asks = values.map fun v => [.setProperty c.property v, .emit "toggled" v] := by
  choose value hvalue using exists_current? hne
  refine ⟨steps.map value, ?_, ?_⟩
  · rw [List.map_map]
    exact List.map_congr_left fun k _ => (hvalue k).symm
  · rw [List.map_map]
    exact List.map_congr_left fun k _ => asks_of_current? (hvalue k)

/-- Without states there is nothing to write. -/
theorem writes_of_nil (hnil : c.states = []) (k : Nat) : c.writes k = [] := by
  rw [writes, current?, hnil]
  rfl

/-- Without states no step asks for anything. -/
theorem map_asks_of_nil (hnil : c.states = []) (steps : List Nat) :
    steps.map c.asks = List.replicate steps.length [] := by
  refine List.map_eq_replicate_iff.mpr fun k _ => ?_
  rw [asks, writes_of_nil hnil, current?, hnil]
  rfl

/-! ### Private states -/

/-- A private state goes round these states and writes them to this property. -/
structure Fits (c : Rotation) (state : Dict Value) : Prop where
  states : Dict.get? state "states" = some (.arr c.states)
  property : Dict.get? state "property" = some (.str c.property)

/-- A state that a toggle starts with. -/
structure Seeds (c : Rotation) (state : Dict Value) : Prop extends Fits c state where
  index : Dict.get? state "index" = some (.ofInt c.start)

/-- The private state of a toggle after so many steps. Without states its index means nothing. -/
structure At (c : Rotation) (k : Nat) (state : Dict Value) : Prop extends Fits c state where
  index : c.states ≠ [] → Dict.get? state "index" = some (.ofInt (c.index k))

/-- Options that make a toggle go round these states. -/
def options (c : Rotation) : BehaviorOptions where
  params := [("index", .ofInt c.start), ("property", .str c.property), ("states", .arr c.states)]

/-- Any states, any property and any index may be started with. -/
theorem seeds_options (c : Rotation) : c.Seeds (c.options.seed toggle.defaults) := by
  have hseed : c.options.seed toggle.defaults = Dict.union toggle.defaults c.options.params := rfl
  have hkeys : Dict.keys c.options.params = ["index", "property", "states"] := rfl
  have hnodup : (Dict.keys c.options.params).Nodup := hkeys ▸ by decide
  rw [hseed]
  exact ⟨⟨Dict.get?_union_of_mem hnodup (.tail _ (.tail _ (.head _))),
    Dict.get?_union_of_mem hnodup (.tail _ (.head _))⟩,
    Dict.get?_union_of_mem hnodup (.head _)⟩

/-- The numbers that a rotation needs pass through doubles: the index that it starts at, and the
indices of its states, of which no memory holds `2 ^ 53`. -/
structure Counts (c : Rotation) : Prop where
  low : -2 ^ 53 ≤ c.start
  high : c.start ≤ 2 ^ 53
  length : c.states.length ≤ 2 ^ 53

/-- Writing the index keeps what a private state goes round. -/
theorem Fits.insert_index (h : c.Fits state) (v : Value) :
    c.Fits (Dict.insert state "index" v) where
  states := (Dict.get?_insert_of_ne (by decide)).trans h.states
  property := (Dict.get?_insert_of_ne (by decide)).trans h.property

/-- The states of a toggle are those of the rotation. -/
theorem Fits.toggleStates_eq (h : c.Fits state) : toggleStates state = c.states := by
  rw [toggleStates, h.states]
  rfl

/-- The property of a toggle is that of the rotation. -/
theorem Fits.textState_eq (h : c.Fits state) :
    textState state "property" "state" = c.property := by
  rw [textState, h.property]
  rfl

/-- A whole number up to `2 ^ 53` in magnitude is read from a state as it is. -/
theorem intState_of_get? {key : String} (h : Dict.get? state key = some (.ofInt i))
    (hlow : -2 ^ 53 ≤ i) (hhigh : i ≤ 2 ^ 53) (otherwise : Int) :
    intState state key otherwise = i := by
  obtain ⟨hfinite, hword⟩ := Decimal.toWord_ofInt hlow hhigh
  have hnumber : Value.toNumber (.ofInt i) = Float.ofInt i := by
    rw [Value.ofInt, Value.toNumber]
    rfl
  rw [intState, h, Option.map_some, hnumber]
  dsimp only
  rw [if_pos hfinite, hword]

/-! ### Hooks -/

/-- Bringing an index into range that means this step gives the private state of this step, and the
state to write if there is one. -/
theorem Fits.toggleCurrent_eq (h : c.Fits state)
    (hindex : c.states ≠ [] → intState state "index" 0 % c.states.length = c.index k) :
    ∃ state', c.At k state' ∧ toggleCurrent state =
      (state', (c.current? k).map fun v => (v, .setProperty c.property v)) := by
  by_cases hnil : c.states = []
  · refine ⟨state, ⟨h, fun hne => absurd hnil hne⟩, ?_⟩
    rw [toggleCurrent, h.toggleStates_eq, current?, hnil]
    rfl
  · obtain ⟨v, hv⟩ := exists_current? hnil k
    have hfits := h.insert_index (.ofInt (c.index k))
    refine ⟨_, ⟨hfits, fun _ => Dict.get?_insert_self⟩, ?_⟩
    have hat : c.states[(c.index k).toNat]? = some v := hv
    rw [toggleCurrent, h.toggleStates_eq, hindex hnil, hv]
    dsimp only
    rw [hat]
    dsimp only
    rw [hfits.textState_eq]
    rfl

/-- **Applying a toggle** brings its index into range and writes the state that it points at. -/
theorem Seeds.onAttach_toggle (h : c.Seeds state) (hcounts : c.Counts) (owner : Owner) :
    ∃ state', c.At 0 state' ∧ toggle.onAttach owner state = (state', c.writes 0) := by
  obtain ⟨state', hat, heq⟩ := h.toFits.toggleCurrent_eq (k := 0) fun _ => by
    rw [intState_of_get? h.index hcounts.low hcounts.high, Rotation.index, Nat.cast_zero,
      Int.add_zero]
  refine ⟨state', hat, ?_⟩
  simp only [toggle, heq, writes]
  cases c.current? 0 <;> rfl

/-- **A step of a toggle** goes on to the next index, writes the state there and emits it. -/
theorem At.onInput_toggle (h : c.At k state) (hcounts : c.Counts) (point : String) (v : Value)
    (owner : Owner) : ∃ state', c.At (k + 1) state' ∧
      toggle.onInput point v owner state = (state', c.asks (k + 1)) := by
  have hlength := hcounts.length
  obtain ⟨state', hat, heq⟩ := (h.toFits.insert_index (.ofInt
      (intState state "index" 0 % (max 1 (toggleStates state).length : Nat) + 1))).toggleCurrent_eq
    (k := k + 1) fun hne => by
      obtain ⟨hlow, hhigh⟩ := index_mem hne k
      have hmax : max 1 c.states.length = c.states.length := by omega
      have hread : intState state "index" 0 = c.index k :=
        intState_of_get? (h.index hne) (by omega) (by omega) 0
      have hstep : c.index k % c.states.length = c.index k := Int.emod_eq_of_lt hlow hhigh
      rw [h.toggleStates_eq, hmax, hread, index_succ, hstep,
        intState_of_get? Dict.get?_insert_self (by omega) (by omega)]
  refine ⟨state', hat, ?_⟩
  simp only [toggle, heq, asks, writes]
  cases c.current? (k + 1) <;> rfl

end Rotation

end WidgetFlow
