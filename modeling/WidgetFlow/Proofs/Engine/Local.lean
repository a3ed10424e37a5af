import Mathlib.Data.Set.Basic
import WidgetFlow.Proofs.Widget.Bare
import WidgetFlow.Proofs.Engine.Closed

/-!
# What is done to one component

`Engine.Local ids e e'` says that something was done to the components `ids` alone: the other
instances and what is applied to them stay, nothing is connected or registered, and what was applied
to the components goes on being applied, with new applications behind. Writes and updates are local.
Creating an instance is local if its definition keeps the id, and so is applying a behavior to a
component without connections, since what its hook emits then goes nowhere.

What comes out of local operations depends on the component alone. `Engine.Alike id e f` compares a
component in two engines, apart from its revision and from the numbers of its applications, and is
kept when the same is done in both.

## Main results

* `applyOutcomeBy_of_quiet`: what a component without connections emits goes nowhere.
* `Local.createInstance`, `Local.applyBehavior`: operations on one component are local.
* `Alike.createInstance`, `Alike.applyBehavior`: they come out alike in engines that are alike.
-/

namespace WidgetFlow

/-- What an application is about: its behavior and its private state. -/
def Applied.content (a : Applied) : String × Dict Value := (a.behavior, a.state)

/-- A definition makes instances that have the ids they are made for. -/
def Definition.Faithful (d : Definition) : Prop :=
  ∀ id properties, (d.instantiate id properties).id = id

/-- All definitions make instances that have the ids they are made for. -/
def Registry.Faithful (types : Registry) : Prop :=
  ∀ {kind d}, types.get? kind = some d → d.Faithful

namespace Engine

variable {e e' e'' f : Engine} {id key : String}

/-! ### Components without connections -/

/-- What a component without connections emits goes nowhere. -/
theorem emitSilently_of_quiet (h : e.Quiet id) (point : String) (v : Value) :
    e.emitSilently ⟨id, point⟩ v = e := by
  have hout : e.graph.outgoing id (some point) = [] := by
    refine List.filter_eq_nil_iff.mpr fun c hc hsource => ?_
    have htouch := h c hc
    simp_all [Connection.touches]
  have hpropagate : e.graph.propagate ⟨id, point⟩ v e.instances = ([], e.instances, []) := by
    rw [Graph.propagate, hout]
    rfl
  rw [emitSilently, emit]
  cases e.config.runtime.maxEmitDepth - e.emitDepth with
  | zero => rfl
  | succ room =>
      rw [emitWithin]
      split
      · rw [hpropagate]
        simp only [List.foldl_nil, List.append_nil, Nat.add_sub_cancel]
      · rfl

/-- What a hook of a component without connections asks for only changes its instance. -/
theorem applyOutcomeBy_of_quiet (h : e.Quiet id) (effects : List Effect) :
    applyOutcomeBy emitSilently e ⟨id, effects⟩ =
      { e with instances := effects.foldl (Effect.apply id) e.instances } := by
  rw [applyOutcomeBy, WidgetFlow.applyEffects]
  generalize effects.foldl (Effect.apply id) e.instances = s
  induction effects.filterMap Effect.emission? with
  | nil => rfl
  | cons m rest ih =>
      dsimp only at ih ⊢
      rw [List.foldl_cons]
      have hquiet : { e with instances := s }.Quiet id := h
      rw [emitSilently_of_quiet hquiet]
      exact ih

/-- What the hook of a behavior gives when the behavior is applied; nothing if it cannot be. -/
def hooked? (e : Engine) (component behavior : String) (options : BehaviorOptions) :
    Option (Dict Value × List Effect) :=
  (e.behaviors.get? behavior).bind fun found => (e.instances.bare? component).bind fun i =>
    if found.compatibility.allows i.kind then
      some (found.onAttach (.of e.instances component) (options.seed found.defaults))
    else none

/-- Applying a behavior to a component without connections changes its instance and applies the
behavior, or nothing. -/
theorem applyBehavior_of_quiet (h : e.Quiet id) (behavior : String) (options : BehaviorOptions) :
    (e.hooked? id behavior options = none ∧ (e.applyBehavior id behavior options).2 = e) ∨
    ∃ state effects events, e.hooked? id behavior options = some (state, effects) ∧
      (e.applyBehavior id behavior options).2 =
        { e with
          instances := effects.foldl (Effect.apply id) e.instances
          behaviors := { e.behaviors with
            applied := e.behaviors.applied ++
              [⟨BehaviorSystem.idOf e.behaviors.next, behavior, id, state⟩]
            next := e.behaviors.next + 1 }
          events } := by
  rw [hooked?, Store.bare?, applyBehavior, BehaviorSystem.apply]
  cases e.behaviors.get? behavior with
  | none => exact Or.inl ⟨rfl, rfl⟩
  | some found =>
      cases e.instances.get? id with
      | none => exact Or.inl ⟨rfl, rfl⟩
      | some i =>
          by_cases ha : found.compatibility.allows i.kind = true
          · have hbare : found.compatibility.allows i.bare.kind = true := ha
            simp only [Option.map_some, Option.bind_some, ha, hbare, if_true]
            refine Or.inr ⟨_, _, _, rfl, applyOutcomeBy_of_quiet ?_ _⟩
            exact h
          · have hbare : ¬ found.compatibility.allows i.bare.kind = true := ha
            simp only [Option.map_some, Option.bind_some, ha, hbare]
            exact Or.inl ⟨rfl, rfl⟩

/-! ### Locality -/

/-- Something was done to some components alone. -/
structure Local (ids : Set String) (e e' : Engine) : Prop where
  setup : e.SameSetup e'
  graph : e'.graph = e.graph
  get? : ∀ {key}, key ∉ ids → e'.instances.get? key = e.instances.get? key
  contains : ∀ {key}, e.instances.contains key = true → e'.instances.contains key = true
  next : e.behaviors.next ≤ e'.behaviors.next
  applied : ∃ added, e'.behaviors.applied = e.behaviors.applied ++ added ∧
    ∀ a ∈ added, a.component ∈ ids ∧ ∃ n, e.behaviors.next ≤ n ∧ a.id = BehaviorSystem.idOf n

namespace Local

variable {ids ids' : Set String}

/-- Nothing was done. -/
theorem refl (e : Engine) : Local ids e e where
  setup := .refl e
  graph := rfl
  get? _ := rfl
  contains h := h
  next := Nat.le_refl _
  applied := ⟨[], (List.append_nil _).symm, fun _ ha => nomatch ha⟩

/-- One thing after the other was done. -/
theorem trans (h : Local ids e e') (h' : Local ids e' e'') : Local ids e e'' where
  setup := h.setup.trans h'.setup
  graph := h'.graph.trans h.graph
  get? hkey := (h'.get? hkey).trans (h.get? hkey)
  contains hkey := h'.contains (h.contains hkey)
  next := Nat.le_trans h.next h'.next
  applied := by
    obtain ⟨added, happlied, hadded⟩ := h.applied
    obtain ⟨added', happlied', hadded'⟩ := h'.applied
    refine ⟨added ++ added', by rw [happlied', happlied, List.append_assoc], fun a ha => ?_⟩
    obtain ha | ha := List.mem_append.mp ha
    · exact hadded a ha
    · obtain ⟨hcomponent, n, hn, hid⟩ := hadded' a ha
      exact ⟨hcomponent, n, Nat.le_trans h.next hn, hid⟩

/-- What was done to some components was done to more of them. -/
theorem mono (h : Local ids e e') (hids : ids ⊆ ids') : Local ids' e e' where
  setup := h.setup
  graph := h.graph
  get? hkey := h.get? fun hmem => hkey (hids hmem)
  contains := h.contains
  next := h.next
  applied := by
    obtain ⟨added, happlied, hadded⟩ := h.applied
    exact ⟨added, happlied, fun a ha => ⟨hids (hadded a ha).1, (hadded a ha).2⟩⟩

/-- Something was done for every item of a list in turn. -/
theorem foldl {α : Type} {f : Engine → α → Engine} {items : List α}
    (hf : ∀ e', Local ids e e' → ∀ a ∈ items, Local ids e' (f e' a)) :
    Local ids e (items.foldl f e) :=
  List.foldlRecOn items f (.refl e) fun e' h a ha => h.trans (hf e' h a ha)

/-- Only instances of the components were written to. -/
theorem of_instances {s : Store} {events : EventLog}
    (hget : ∀ {key}, key ∉ ids → s.get? key = e.instances.get? key)
    (hcontains : ∀ {key}, e.instances.contains key = true → s.contains key = true) :
    Local ids e { e with instances := s, events } where
  setup := ⟨rfl, rfl, rfl, rfl⟩
  graph := rfl
  get? := hget
  contains := hcontains
  next := Nat.le_refl _
  applied := ⟨[], (List.append_nil _).symm, fun _ ha => nomatch ha⟩

/-- What is applied to other components stays. -/
theorem attached_of_not_mem (h : Local ids e e') (hkey : key ∉ ids) :
    e'.behaviors.attached key = e.behaviors.attached key := by
  obtain ⟨added, happlied, hadded⟩ := h.applied
  have hnil : added.filter (·.component = key) = [] :=
    List.filter_eq_nil_iff.mpr fun a ha => by
      rw [decide_eq_true_iff]
      rintro rfl
      exact hkey (hadded a ha).1
  rw [BehaviorSystem.attached, happlied, List.filter_append, hnil, List.append_nil]
  rfl

/-- What is applied to a component stays, and what is new has a new number. -/
theorem attached (h : Local ids e e') (key : String) :
    ∃ added, e'.behaviors.attached key = e.behaviors.attached key ++ added ∧
      ∀ a ∈ added, ∃ n, e.behaviors.next ≤ n ∧ a.id = BehaviorSystem.idOf n := by
  obtain ⟨added, happlied, hadded⟩ := h.applied
  refine ⟨added.filter (·.component = key), ?_,
    fun a ha => (hadded a (List.mem_of_mem_filter ha)).2⟩
  rw [BehaviorSystem.attached, happlied, List.filter_append]
  rfl

/-- No connection touches a component that none touched before. -/
theorem quiet (h : Local ids e e') (hquiet : e.Quiet key) : e'.Quiet key := by
  rw [Quiet, h.graph]
  exact hquiet

/-- Updating an instance is local. -/
theorem updateInstance (e : Engine) (id : String) (u : InstanceUpdate) :
    Local {id} e (e.updateInstance id u).2 := by
  obtain ⟨events, heq⟩ := e.updateInstance_eq id u
  rw [heq]
  exact .of_instances (fun hkey => Store.get?_mutate_of_ne (Ne.symm hkey))
    fun h => Store.contains_mutate.trans h

/-- Setting a style is local. -/
theorem setStyle (e : Engine) (id property : String) (v : Value) :
    Local {id} e (View.setStyle e id property v).2 :=
  .of_instances (fun hkey => Store.get?_mutate_of_ne (Ne.symm hkey))
    fun h => Store.contains_mutate.trans h

/-- Writing a property is local. -/
theorem setProperty (e : Engine) (id property : String) (v : Value) :
    Local {id} e (View.setProperty e id property v).2 :=
  .of_instances (fun hkey => Store.get?_setProperty_of_ne (Ne.symm hkey))
    fun h => (Store.Writes.of_setProperty.contains _).trans h

/-- Creating an instance is local if its definition keeps the id. -/
theorem createInstance (h : e.types.Faithful) (kind : Kind) (id : String)
    (properties : Dict Value) : Local {id} e (e.createInstance kind id properties).2 := by
  rcases e.createInstance_cases kind id properties with ⟨-, heq⟩ | ⟨d, events, hd, heq⟩
  · rw [heq]
    exact .refl e
  · rw [heq]
    refine .of_instances (fun hkey => ?_) fun hkey => ?_
    · rw [Store.get?_register, h hd, if_neg (Ne.symm hkey)]
    · exact Dict.contains_insert.trans (by rw [Bool.or_eq_true]; exact Or.inr hkey)

/-- Applying a behavior to a component without connections is local. -/
theorem applyBehavior (h : e.Quiet id) (behavior : String) (options : BehaviorOptions) :
    Local {id} e (e.applyBehavior id behavior options).2 := by
  rcases applyBehavior_of_quiet h behavior options with
    ⟨-, heq⟩ | ⟨state, effects, events, -, heq⟩
  · rw [heq]
    exact .refl e
  · rw [heq]
    refine ⟨⟨rfl, rfl, rfl, rfl⟩, rfl,
      fun hkey => Effect.get?_foldl_apply_of_ne effects (Ne.symm hkey), fun hkey => ?_,
      Nat.le_succ _, _, rfl, fun a ha => ?_⟩
    · exact ((applyEffects_writes id effects e.instances).contains _).trans hkey
    · obtain rfl := List.mem_singleton.mp ha
      exact ⟨rfl, _, Nat.le_refl _, rfl⟩

end Local

/-! ### Likeness -/

/-- A component is alike in two engines that have the same types and behaviors: apart from its
revision and from the numbers of its applications. -/
structure Alike (id : String) (e f : Engine) : Prop where
  types : f.types = e.types
  behaviors : f.behaviors.behaviors = e.behaviors.behaviors
  bare : f.instances.bare? id = e.instances.bare? id
  attached : (f.behaviors.attached id).map Applied.content =
    (e.behaviors.attached id).map Applied.content

namespace Alike

/-- Likeness goes both ways. -/
theorem symm (h : Alike id e f) : Alike id f e :=
  ⟨h.types.symm, h.behaviors.symm, h.bare.symm, h.attached.symm⟩

/-- What is done to other components in one of the engines keeps likeness. -/
theorem local_right (h : Alike id e f) {f' : Engine} {ids : Set String} (hf : Local ids f f')
    (hid : id ∉ ids) : Alike id e f' where
  types := hf.setup.types.trans h.types
  behaviors := hf.setup.behaviors.trans h.behaviors
  bare := (congrArg (Option.map Instance.bare) (hf.get? hid)).trans h.bare
  attached := by rw [hf.attached_of_not_mem hid, h.attached]

/-- What is done to other components in both engines keeps likeness. -/
theorem frame (h : Alike id e f) {f' : Engine} {ids : Set String} (he : Local ids e e')
    (hf : Local ids f f') (hid : id ∉ ids) : Alike id e' f' :=
  ((h.local_right hf hid).symm.local_right he hid).symm

/-- Whether a component is there is alike. -/
theorem contains (h : Alike id e f) : f.instances.contains id = e.instances.contains id := by
  rw [← Store.isSome_bare?, h.bare, Store.isSome_bare?]

/-- The same write in both engines keeps likeness. -/
theorem of_instances (h : Alike id e f) {s t : Store} {events events' : EventLog}
    (hbare : t.bare? id = s.bare? id) :
    Alike id { e with instances := s, events } { f with instances := t, events := events' } :=
  ⟨h.types, h.behaviors, hbare, h.attached⟩

/-- The same change in both engines keeps likeness. -/
theorem mutate (h : Alike id e f) {change : Instance → Instance}
    (hchange : ∀ i : Instance, (change i).bare = change i.bare) :
    (f.instances.mutate id change).2.bare? id = (e.instances.mutate id change).2.bare? id := by
  rw [Store.bare?_mutate hchange, Store.bare?_mutate hchange, h.bare]

/-- Updates come out alike. -/
theorem updateInstance (h : Alike id e f) (u : InstanceUpdate) :
    Alike id (e.updateInstance id u).2 (f.updateInstance id u).2 := by
  obtain ⟨events, heq⟩ := e.updateInstance_eq id u
  obtain ⟨events', heq'⟩ := f.updateInstance_eq id u
  rw [heq, heq']
  exact h.of_instances (h.mutate fun _ => rfl)

/-- Styles come out alike. -/
theorem setStyle (h : Alike id e f) (property : String) (v : Value) :
    Alike id (View.setStyle e id property v).2 (View.setStyle f id property v).2 :=
  h.of_instances (h.mutate fun _ => rfl)

/-- New instances come out alike, and are made in both engines or in none. -/
theorem createInstance (h : Alike id e f) (kind : Kind) (properties : Dict Value) :
    (f.createInstance kind id properties).1 = (e.createInstance kind id properties).1 ∧
      Alike id (e.createInstance kind id properties).2 (f.createInstance kind id properties).2 := by
  rcases e.createInstance_cases kind id properties with ⟨hd, heq⟩ | ⟨d, events, hd, heq⟩
  · rcases f.createInstance_cases kind id properties with ⟨-, heq'⟩ | ⟨d', -, hd', -⟩
    · rw [heq, heq']
      exact ⟨rfl, h⟩
    · rw [h.types, hd] at hd'
      exact nomatch hd'
  · rcases f.createInstance_cases kind id properties with ⟨hd', -⟩ | ⟨d', events', hd', heq'⟩
    · rw [h.types, hd] at hd'
      exact nomatch hd'
    · rw [h.types, hd] at hd'
      obtain rfl := Option.some.inj hd'
      rw [heq, heq']
      refine ⟨rfl, h.of_instances ?_⟩
      rw [Store.bare?_register, Store.bare?_register, h.bare]

/-- What a hook gives is alike. -/
theorem hooked? (h : Alike id e f) (behavior : String) (options : BehaviorOptions) :
    f.hooked? id behavior options = e.hooked? id behavior options := by
  rw [Engine.hooked?, Engine.hooked?, h.bare, Owner.of_congr h.bare, BehaviorSystem.get?,
    BehaviorSystem.get?, h.behaviors]

/-- Behaviors applied to a component without connections come out alike. -/
theorem applyBehavior (h : Alike id e f) (he : e.Quiet id) (hf : f.Quiet id) (behavior : String)
    (options : BehaviorOptions) :
    Alike id (e.applyBehavior id behavior options).2 (f.applyBehavior id behavior options).2 := by
  have hsame := h.hooked? behavior options
  rcases applyBehavior_of_quiet he behavior options with
    ⟨hnone, heq⟩ | ⟨state, effects, events, hsome, heq⟩
  · rcases applyBehavior_of_quiet hf behavior options with ⟨-, heq'⟩ | ⟨_, _, -, hsome', -⟩
    · rw [heq, heq']
      exact h
    · rw [hsame, hnone] at hsome'
      exact nomatch hsome'
  · rcases applyBehavior_of_quiet hf behavior options with
      ⟨hnone', -⟩ | ⟨state', effects', events', hsome', heq'⟩
    · rw [hsame, hsome] at hnone'
      exact nomatch hnone'
    · rw [hsame, hsome] at hsome'
      obtain ⟨rfl, rfl⟩ := Prod.mk.inj (Option.some.inj hsome')
      rw [heq, heq']
      refine ⟨h.types, h.behaviors, Effect.bare?_foldl_apply effects h.bare, ?_⟩
      simp only [BehaviorSystem.attached, List.filter_append, List.map_append]
      exact congrArg₂ (· ++ ·) h.attached (by simp [Applied.content])

end Alike

end Engine

end WidgetFlow
