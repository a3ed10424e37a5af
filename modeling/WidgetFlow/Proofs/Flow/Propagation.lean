import Mathlib.Data.List.Induction
import WidgetFlow.Proofs.Flow.Graph
import WidgetFlow.Proofs.Widget.Store

/-!
# What a propagation delivers

A propagation goes through the connections of a point in one loop, which at once decides what is
delivered, writes it and notes what is printed. `Graph.propagate_eq_carrying` takes the three apart:
there is one delivery for each connection of the point whose target is there (`Graph.carrying`), in
the order of the connections, and the store is the one that receives these deliveries in turn.

`Store.Receives ds s t` says what becomes of a store that receives deliveries, without a loop: under
each key stands the value that came last, and nothing else is different.

## Main results

* `Graph.propagate_eq_carrying`: the deliveries, the store and the lines of a propagation.
* `Store.receives_receiveAll`: a store receives every list of deliveries in this sense.
-/

namespace WidgetFlow

/-- What a connection delivers when it carries a value. -/
def Connection.delivery (c : Connection) (v : Value) : Delivery := ⟨c.id, c.target, (c.carry v).1⟩

/-- The value of the last delivery at a point. -/
def lastTo (target : Endpoint) (ds : List Delivery) : Option Value :=
  (ds.reverse.find? (·.target = target)).map (·.value)

/-- A later delivery at a point goes before the earlier ones. -/
theorem lastTo_concat (target : Endpoint) (ds : List Delivery) (d : Delivery) :
    lastTo target (ds ++ [d]) = if d.target = target then some d.value else lastTo target ds := by
  rw [lastTo, List.reverse_append, List.reverse_singleton, List.singleton_append, List.find?_cons]
  by_cases h : d.target = target
  · simp [h]
  · simp [h, lastTo]

namespace Store

variable {s t : Store} {ds : List Delivery}

/-- Puts a delivered value into the state of its target, under the name of the point. -/
def receive (s : Store) (d : Delivery) : Store :=
  (s.setStateValue d.target.component d.target.point d.value).2

/-- Receives deliveries in turn. -/
def receiveAll (s : Store) (ds : List Delivery) : Store := ds.foldl receive s

/-- The second store is the first after deliveries, as far as it can be told by looking. -/
structure Receives (ds : List Delivery) (s t : Store) : Prop where
  /-- No instance comes or goes, and nothing of one is new but its state and its revision. -/
  kept : ∀ id, ∃ state revision,
    t.get? id = (s.get? id).map fun i => { i with state, revision }
  /-- Under each key of an instance stands what was delivered there last, if anything was. -/
  state : ∀ target : Endpoint, s.contains target.component = true →
    t.stateValue target.component target.point =
      (lastTo target ds).or (s.stateValue target.component target.point)
  /-- An instance to which nothing was delivered has its old revision, too. -/
  aside : ∀ id, (∀ d ∈ ds, d.target.component ≠ id) → t.get? id = s.get? id

/-- A store is itself after no delivery. -/
theorem Receives.nil (s : Store) : s.Receives [] s where
  kept id := by
    cases s.get? id with
    | none => exact ⟨[], 0, rfl⟩
    | some i => exact ⟨i.state, i.revision, rfl⟩
  state _ _ := rfl
  aside _ _ := rfl

/-- The state under a key after the state under a key is written. -/
theorem stateValue_setStateValue {id key id' key' : String} {v : Value} :
    (s.setStateValue id key v).2.stateValue id' key' =
      if id = id' ∧ key = key' then (s.get? id).map fun _ => v else s.stateValue id' key' := by
  rw [stateValue, setStateValue, get?_mutate]
  by_cases hid : id = id'
  · subst hid
    rw [if_pos rfl, stateValue]
    cases s.get? id with
    | none => simp
    | some i => simp [Dict.get?_insert]
  · rw [if_neg hid, if_neg fun h => hid h.1, stateValue]

/-- One more delivery. -/
theorem Receives.concat (h : s.Receives ds t) (d : Delivery) :
    s.Receives (ds ++ [d]) (t.receive d) where
  kept id := by
    obtain ⟨state, revision, hget⟩ := h.kept id
    rw [receive, setStateValue, get?_mutate]
    split
    · next heq =>
        rw [heq, hget, Option.map_map]
        exact ⟨Dict.insert state d.target.point d.value, t.clock + 1, rfl⟩
    · exact ⟨state, revision, hget⟩
  state target htarget := by
    rw [receive, stateValue_setStateValue, lastTo_concat, h.state target htarget]
    by_cases heq : d.target = target
    · subst heq
      rw [if_pos ⟨rfl, rfl⟩, if_pos rfl]
      obtain ⟨i, hi⟩ := contains_iff.mp htarget
      obtain ⟨state, revision, hget⟩ := h.kept d.target.component
      rw [hget, hi]
      rfl
    · rw [if_neg heq, if_neg fun hsame => heq (congrArg₂ Endpoint.mk hsame.1 hsame.2)]
  aside id hid := by
    have hne : d.target.component ≠ id :=
      hid d (List.mem_append_right _ (List.mem_singleton_self d))
    rw [receive, setStateValue, get?_mutate_of_ne hne]
    exact h.aside id fun d' hd' => hid d' (List.mem_append_left _ hd')

/-- **A store receives deliveries in turn**: under each key the last one stays. -/
theorem receives_receiveAll (s : Store) (ds : List Delivery) : s.Receives ds (s.receiveAll ds) := by
  induction ds using List.reverseRecOn with
  | nil => exact .nil s
  | append_singleton ds d ih =>
      rw [receiveAll, List.foldl_append]
      exact ih.concat d

end Store

namespace Graph

variable {g : Graph} {source : Endpoint} {v : Value} {s : Store}

/-- The connections that carry what is emitted at a point: those that start there and whose targets
are in the store. -/
def carrying (g : Graph) (source : Endpoint) (s : Store) : List Connection :=
  g.all.filter fun c => decide (c.source = source) && s.contains c.target.component

/-- Carrying a value makes no instance and drops none. -/
theorem contains_carryOver (r : List Delivery × Store × List String) (c : Connection)
    (id : String) : (carryOver v r c).2.1.contains id = r.2.1.contains id := by
  rw [carryOver]
  split
  · exact Store.contains_mutate
  · rfl

/-- Carrying a value over connections in turn delivers over those whose targets are there. -/
theorem foldl_carryOver (cs : List Connection) (r : List Delivery × Store × List String) :
    let live := cs.filter fun c => r.2.1.contains c.target.component
    cs.foldl (carryOver v) r =
      (r.1 ++ live.map (·.delivery v), r.2.1.receiveAll (live.map (·.delivery v)),
        r.2.2 ++ live.flatMap fun c => (c.carry v).2) := by
  induction cs generalizing r with
  | nil => simp [Store.receiveAll]
  | cons c rest ih =>
      rw [List.foldl_cons, ih]
      simp only [contains_carryOver]
      by_cases hc : r.2.1.contains c.target.component = true
      · simp only [List.filter_cons, hc, if_true, carryOver, List.map_cons, List.flatMap_cons,
          List.append_assoc, List.singleton_append]
        rfl
      · simp only [List.filter_cons, hc, carryOver, Bool.false_eq_true, if_false]

/-- The connections that carry are those that leave the point and lead to something. -/
theorem filter_outgoing (g : Graph) (source : Endpoint) (s : Store) :
    (g.outgoing source.component (some source.point)).filter
      (fun c => s.contains c.target.component) = g.carrying source s := by
  rw [outgoing, List.filter_filter, carrying]
  refine List.filter_congr fun c _ => ?_
  rw [Bool.and_comm]
  obtain ⟨component, point⟩ := source
  cases c with
  | mk id start target transform? =>
    obtain ⟨component', point'⟩ := start
    simp [Endpoint.mk.injEq, Bool.decide_and]

/-- **What a propagation does**: it delivers over the connections that carry, in order, and the
store receives what is delivered. -/
theorem propagate_eq_carrying (g : Graph) (source : Endpoint) (v : Value) (s : Store) :
    g.propagate source v s =
      ((g.carrying source s).map (·.delivery v),
        s.receiveAll ((g.carrying source s).map (·.delivery v)),
        (g.carrying source s).flatMap fun c => (c.carry v).2) := by
  rw [propagate_eq, foldl_carryOver]
  simp only [List.nil_append, filter_outgoing]

end Graph

end WidgetFlow
