import Mathlib.Data.List.Induction
import WidgetFlow.Proofs.Engine.Closed

/-!
# Behaviors and the kinds of their owners

A behavior says to which kinds of components it may be applied, and this is checked when it is
applied. `Engine.Suits` says that it holds of a behavior and a component as the engine stands.

Afterwards the check is not made again, so that it comes down to what can change the kind that
stands under an id. Nearly everything that is done to an engine keeps the kinds of the components
that behaviors stay applied to (`Engine.Retains`): values never change a kind, nor does an update,
and what is removed takes its applications along. The exception is an instance that is created under
the id of a live one. It takes the place of the old instance and inherits what was applied to that,
of whatever kind it is (`Engine.Displaces`).

## Main results

* `explained_perform`: what one operation does to an application.
* `suits_or_displaced`: after every run of operations, a behavior that does not suit its owner was
  applied to another instance, which an operation of the run displaced.
* `unsuited_after_create`: this happens.
-/

namespace WidgetFlow

/-- A behavior is applied only to a component that is there and of a kind that it allows. -/
theorem BehaviorSystem.apply_cases (b : BehaviorSystem) (component behavior : String)
    (options : BehaviorOptions) (s : Store) :
    (∃ err, b.apply component behavior options s = .error err) ∨
    ∃ found i outcome state,
      b.get? behavior = some found ∧ s.get? component = some i ∧
        found.compatibility.allows i.kind = true ∧
        b.apply component behavior options s = .ok (idOf b.next, outcome,
          { b with
            applied := b.applied ++ [⟨idOf b.next, behavior, component, state⟩]
            next := b.next + 1 }) := by
  rw [apply]
  cases hfound : b.get? behavior with
  | none => exact .inl ⟨_, rfl⟩
  | some found =>
      cases hi : s.get? component with
      | none => exact .inl ⟨_, rfl⟩
      | some i =>
          by_cases hallows : found.compatibility.allows i.kind = true
          · simp only [hallows, if_true]
            exact .inr ⟨found, i, _, _, rfl, rfl, hallows, rfl⟩
          · simp only [hallows]
            exact .inl ⟨_, rfl⟩

namespace Engine

variable {e e' e'' : Engine} {op : EngineOp} {a a' : Applied} {behavior component : String}

/-- The kind of a component. -/
def kindAt (e : Engine) (component : String) : Option Kind :=
  (e.instances.get? component).map (·.kind)

/-- Writes move no instance, so they keep every kind. -/
theorem kindAt_of_writes (hw : e.instances.Writes e'.instances) (id : String) :
    e'.kindAt id = e.kindAt id := by
  rw [kindAt, kindAt]
  rcases hi : e.instances.get? id with _ | i
  · have hgone : e'.instances.contains id = false :=
      (hw.contains id).trans (Store.contains_eq_false_iff.mpr hi)
    rw [Store.contains_eq_false_iff.mp hgone]
  · obtain ⟨j, hj, hplace⟩ := hw.get? hi
    rw [hj, Option.map_some, Option.map_some, hplace.kind]

/-- A behavior is known and allows the kind of a component, which is there. -/
def Suits (e : Engine) (behavior component : String) : Prop :=
  ∃ b kind, e.behaviors.get? behavior = some b ∧ e.kindAt component = some kind ∧
    b.compatibility.allows kind = true

/-- Whether a behavior suits a component is up to the behaviors that are known and the kind. -/
theorem Suits.mono (h : e.Suits behavior component)
    (hknown : e'.behaviors.behaviors = e.behaviors.behaviors)
    (hkind : e'.kindAt component = e.kindAt component) : e'.Suits behavior component := by
  obtain ⟨b, kind, hb, hcomponent, hallows⟩ := h
  refine ⟨b, kind, ?_, hkind.trans hcomponent, hallows⟩
  rwa [BehaviorSystem.get?, hknown]

/-- Applications with one label are of the same behavior to the same component. -/
theorem suits_congr (hl : a'.label = a.label) :
    e.Suits a'.behavior a'.component ↔ e.Suits a.behavior a.component := by
  obtain ⟨-, hrest⟩ := Prod.mk.inj hl
  obtain ⟨hbehavior, hcomponent⟩ := Prod.mk.inj hrest
  rw [hbehavior, hcomponent]

/-! ### What keeps the kinds of owners -/

/-- In the second engine the same behaviors are known, nothing is applied anew, and the owners of
the applications that are left have the kinds that they have in the first. -/
structure Retains (e e' : Engine) : Prop where
  known : e'.behaviors.behaviors = e.behaviors.behaviors
  applied : ∀ a ∈ e'.behaviors.applied, ∃ a' ∈ e.behaviors.applied, a'.label = a.label
  kinds : ∀ a ∈ e'.behaviors.applied, e'.kindAt a.component = e.kindAt a.component

namespace Retains

/-- An engine with the same instances and the same behaviors retains all there is. -/
theorem of_eq (hinstances : e'.instances = e.instances) (hbehaviors : e'.behaviors = e.behaviors) :
    e.Retains e' where
  known := by rw [hbehaviors]
  applied a ha := ⟨a, hbehaviors ▸ ha, rfl⟩
  kinds a _ := by rw [kindAt, hinstances, ← kindAt]

/-- What is retained twice is retained. -/
theorem trans (h : e.Retains e') (h' : e'.Retains e'') : e.Retains e'' where
  known := h'.known.trans h.known
  applied a ha := by
    obtain ⟨a', ha', hl'⟩ := h'.applied a ha
    obtain ⟨a'', ha'', hl⟩ := h.applied a' ha'
    exact ⟨a'', ha'', hl.trans hl'⟩
  kinds a ha := by
    obtain ⟨a', ha', hl⟩ := h'.applied a ha
    have hcomponent : a'.component = a.component := congrArg (·.2.2) hl
    rw [h'.kinds a ha, ← hcomponent, h.kinds a' ha']

/-- Values that travel change no kind. -/
theorem of_flows (hf : Flows e e') : e.Retains e' where
  known := hf.behaviors
  applied _ ha := hf.exists_applied ha
  kinds a _ := kindAt_of_writes hf.writes a.component

/-- An update changes no kind, whatever it says. -/
theorem updateInstance (e : Engine) (id : String) (u : InstanceUpdate) :
    e.Retains (e.updateInstance id u).2 := by
  obtain ⟨events, heq⟩ := e.updateInstance_eq id u
  rw [heq]
  refine ⟨rfl, fun a ha => ⟨a, ha, rfl⟩, fun a _ => ?_⟩
  simp only [kindAt, Store.update, Store.get?_mutate]
  split
  · next hid =>
      rw [hid, Option.map_map]
      rfl
  · rfl

/-- An instance that is removed takes what is applied to it along. -/
theorem removeInstance (h : e.Closed) (id : String) : e.Retains (e.removeInstance id).2 where
  known := (SameSetup.removeInstance e id).behaviors
  applied a ha := by
    rw [applied_removeInstance h] at ha
    exact ⟨a, List.mem_of_mem_filter ha, rfl⟩
  kinds a ha := by
    rw [applied_removeInstance h, List.mem_filter] at ha
    have hne : id ≠ a.component := fun heq => by simp [heq] at ha
    rw [kindAt, instances_removeInstance, Store.get?_remove h.indexed.sorted, if_neg hne, ← kindAt]

/-- Connecting leaves instances and behaviors alone. -/
theorem connect (e : Engine) (source target : Endpoint) (transform? : Option Transform) :
    e.Retains (e.connect source target transform?).2 := by
  rcases e.connect_cases source target transform? with heq | ⟨-, -, events, heq⟩
  · exact .of_eq (by rw [heq]) (by rw [heq])
  · exact .of_eq (by rw [heq]) (by rw [heq])

/-- Connecting automatically leaves instances and behaviors alone. -/
theorem autoConnect (e : Engine) (components : List String) :
    e.Retains (e.autoConnect components).2 := by
  rw [autoConnect_snd]
  exact List.foldlRecOn (motive := fun e' => e.Retains e') _ _ (.of_eq rfl rfl)
    fun e' h p _ => h.trans (.connect e' p.source p.target _)

/-- An application that is removed changes no other. -/
theorem removeBehavior (e : Engine) (id : String) : e.Retains (e.removeBehavior id).2 := by
  rcases e.removeBehavior_cases id with heq | ⟨outcome, events, heq⟩
  · exact .of_eq (by rw [heq]) (by rw [heq])
  · rw [heq]
    refine .trans ?_ (.of_flows (applyOutcomeBy_flows emitSilently_flows _ outcome))
    exact ⟨rfl, fun a ha => ⟨a, List.mem_of_mem_filter ha, rfl⟩, fun _ _ => rfl⟩

/-- A behavior still suits the owner of an application that is left. -/
theorem suits (h : e.Retains e') (ha : a ∈ e'.behaviors.applied)
    (hsuits : e.Suits a.behavior a.component) : e'.Suits a.behavior a.component :=
  hsuits.mono h.known (h.kinds a ha)

end Retains

/-! ### One operation -/

/-- An operation creates an instance under the id of the owner of an application. The behavior
suited the owner, and does not suit the new instance. -/
structure Displaces (e : Engine) (op : EngineOp) (a : Applied) : Prop where
  creates : ∃ kind id properties, op = .createInstance kind id properties ∧
    (e.createInstance kind id properties).1 = some a.component
  applied : ∃ a' ∈ e.behaviors.applied, a'.label = a.label
  suited : e.Suits a.behavior a.component
  unsuited : ¬ (e.perform op).Suits a.behavior a.component

/-- What becomes of an application: its behavior suits its owner, or it was there before, and if the
behavior suited the owner then, the operation displaces the owner. -/
def Explained (e : Engine) (op : EngineOp) (a : Applied) : Prop :=
  (e.perform op).Suits a.behavior a.component ∨
    (∃ a' ∈ e.behaviors.applied, a'.label = a.label) ∧
      (e.Suits a.behavior a.component → e.Displaces op a)

/-- What is retained is explained. -/
theorem Retains.explained (h : e.Retains (e.perform op))
    (ha : a ∈ (e.perform op).behaviors.applied) : e.Explained op a := by
  by_cases hsuits : e.Suits a.behavior a.component
  · exact .inl (h.suits ha hsuits)
  · exact .inr ⟨h.applied a ha, fun h => absurd h hsuits⟩

/-- An instance that is created changes the kind under its own id only. -/
theorem explained_createInstance (e : Engine) (kind : Kind) (id : String) (properties : Dict Value)
    (ha : a ∈ (e.createInstance kind id properties).2.behaviors.applied) :
    e.Explained (.createInstance kind id properties) a := by
  rcases e.createInstance_cases kind id properties with ⟨-, heq⟩ | ⟨d, events, -, heq⟩
  · exact (Retains.of_eq (by rw [perform, heq]) (by rw [perform, heq])).explained ha
  · by_cases howner : (d.instantiate id (Dict.union d.defaults properties)).id = a.component
    · rw [heq] at ha
      by_cases hsuits :
          (e.perform (.createInstance kind id properties)).Suits a.behavior a.component
      · exact .inl hsuits
      · refine .inr ⟨⟨a, ha, rfl⟩, fun hbefore => ⟨⟨kind, id, properties, rfl, ?_⟩, ⟨a, ha, rfl⟩,
          hbefore, hsuits⟩⟩
        rw [heq, ← howner]
    · by_cases hsuits : e.Suits a.behavior a.component
      · refine .inl (hsuits.mono ?_ ?_)
        · rw [perform, heq]
        · rw [perform, heq, kindAt, Store.get?_register, if_neg howner, ← kindAt]
      · rw [heq] at ha
        exact .inr ⟨⟨a, ha, rfl⟩, fun h => absurd h hsuits⟩

/-- A behavior that is applied suits its owner, and what it does on being applied changes no
kind. -/
theorem explained_applyBehavior (e : Engine) (component behavior : String)
    (options : BehaviorOptions)
    (ha : a ∈ (e.applyBehavior component behavior options).2.behaviors.applied) :
    e.Explained (.call (.applyBehavior component behavior options)) a := by
  rcases e.behaviors.apply_cases component behavior options e.instances with
    ⟨err, happly⟩ | ⟨found, i, outcome, state, hfound, hi, hallows, happly⟩
  · have heq : (e.applyBehavior component behavior options).2 = e := by rw [applyBehavior, happly]
    exact (Retains.of_eq (congrArg instances heq) (congrArg behaviors heq)).explained ha
  · -- the hook starts from the engine with the new application, and what it does is a flow
    let added : BehaviorSystem := { e.behaviors with
      applied := e.behaviors.applied ++
        [⟨BehaviorSystem.idOf e.behaviors.next, behavior, component, state⟩]
      next := e.behaviors.next + 1 }
    obtain ⟨events, hflow⟩ : ∃ events, Flows { e with behaviors := added, events }
        (e.applyBehavior component behavior options).2 := by
      rw [applyBehavior, happly]
      exact ⟨_, applyOutcomeBy_flows emitSilently_flows _ outcome⟩
    have hretains := Retains.of_flows hflow
    obtain ⟨a', ha', hl⟩ := hretains.applied a ha
    rcases List.mem_append.mp ha' with hold | hnew
    · by_cases hsuits : e.Suits a.behavior a.component
      · exact .inl (hretains.suits ha (hsuits.mono rfl rfl))
      · exact .inr ⟨⟨a', hold, hl⟩, fun h => absurd h hsuits⟩
    · obtain rfl := List.mem_singleton.mp hnew
      have hkind : e.kindAt component = some i.kind := by rw [kindAt, hi, Option.map_some]
      have hsuits : Suits { e with behaviors := added, events } behavior component :=
        ⟨found, i.kind, hfound, hkind, hallows⟩
      exact .inl (hretains.suits ha ((suits_congr hl).mp hsuits))

/-- **One operation.** Unless a behavior is registered anew, every application is explained. -/
theorem explained_perform (h : e.Closed) (op : EngineOp) (hop : ∀ b, op ≠ .registerBehavior b)
    (ha : a ∈ (e.perform op).behaviors.applied) : e.Explained op a := by
  cases op with
  | registerType d =>
      have hretains : e.Retains (e.registerType d) := .of_eq rfl rfl
      exact hretains.explained ha
  | registerBehavior b => exact absurd rfl (hop b)
  | createInstance kind id properties => exact e.explained_createInstance kind id properties ha
  | updateInstance id u => exact (Retains.updateInstance e id u).explained ha
  | removeInstance id => exact (Retains.removeInstance h id).explained ha
  | clear => exact absurd ha List.not_mem_nil
  | connect source target transform? =>
      exact (Retains.connect e source target transform?).explained ha
  | connectNamed source target name? => exact (Retains.connect e source target _).explained ha
  | disconnect id =>
      obtain ⟨events, heq⟩ := e.disconnect_cases id
      have hretains : e.Retains (e.disconnect id).2 := .of_eq (by rw [heq]) (by rw [heq])
      exact hretains.explained ha
  | autoConnect components => exact (Retains.autoConnect e components).explained ha
  | call call =>
      cases call with
      | emit source v => exact (Retains.of_flows (e.emit_flows source v)).explained ha
      | sendInput target v => exact (Retains.of_flows (e.sendInput_flows target v)).explained ha
      | applyEffects component effects =>
          exact (Retains.of_flows (e.applyEffects_flows component effects)).explained ha
      | applyBehavior component behavior options =>
          exact e.explained_applyBehavior component behavior options ha
      | removeBehavior id => exact (Retains.removeBehavior e id).explained ha
  | setProperty id key v =>
      exact (Retains.of_flows ((Flows.refl e).write .of_setProperty)).explained ha
  | setStyle id property v =>
      exact (Retains.of_flows ((Flows.refl e).write .of_present)).explained ha
  | addClass id name => exact (Retains.of_flows ((Flows.refl e).write .of_present)).explained ha
  | removeClass id name => exact (Retains.of_flows ((Flows.refl e).write .of_present)).explained ha
  | setHidden id hidden => exact (Retains.of_flows ((Flows.refl e).write .of_present)).explained ha

/-! ### Runs -/

/-- An owner is displaced for all applications of one label. -/
theorem Displaces.congr (h : e.Displaces op a') (hl : a'.label = a.label) : e.Displaces op a where
  creates := by
    have hcomponent : a'.component = a.component := congrArg (·.2.2) hl
    exact hcomponent ▸ h.creates
  applied := by
    obtain ⟨b, hb, hbl⟩ := h.applied
    exact ⟨b, hb, hbl.trans hl⟩
  suited := (suits_congr hl).mp h.suited
  unsuited := fun hsuits => h.unsuited ((suits_congr hl).mpr hsuits)

/-- **Only a new instance in place of the owner makes a behavior unsuitable.** After every run of
operations on a new engine in which no behavior is registered anew, the behavior of each application
is known, its owner is there, and the behavior allows the kind of the owner; or an operation of the
run created another instance under the id of the owner, to which the behavior was applied before,
and whose kind it had allowed until then. -/
theorem suits_or_displaced (config : Config) (ops : List EngineOp)
    (hops : ∀ b, .registerBehavior b ∉ ops) :
    ∀ a ∈ (ops.foldl perform (Engine.new config)).behaviors.applied,
      (ops.foldl perform (Engine.new config)).Suits a.behavior a.component ∨
        ∃ before op after, ops = before ++ op :: after ∧
          (before.foldl perform (Engine.new config)).Displaces op a := by
  induction ops using List.reverseRecOn with
  | nil => exact fun a ha => absurd ha List.not_mem_nil
  | append_singleton ops op ih =>
      intro a ha
      rw [List.foldl_append, List.foldl_cons, List.foldl_nil] at ha ⊢
      have hclosed := (Closed.new config).run ops
      have hlast : ∀ b, op ≠ .registerBehavior b := fun b heq =>
        hops b (heq ▸ List.mem_append_right ops List.mem_cons_self)
      rcases explained_perform hclosed op hlast ha with hsuits | ⟨⟨a', ha', hl⟩, hdisplaces⟩
      · exact .inl hsuits
      · rcases ih (fun b hb => hops b (List.mem_append_left _ hb)) a' ha' with
          hsuits | ⟨before, op', after, rfl, hearlier⟩
        · exact .inr ⟨ops, op, [], rfl, hdisplaces ((suits_congr hl).mp hsuits)⟩
        · refine .inr ⟨before, op', after ++ [op], ?_, hearlier.congr hl⟩
          rw [List.append_assoc, List.cons_append]

/-- A text with a counter, and then an image under the same id. -/
def retyped : List EngineOp :=
  [.registerType { kind := .text }, .registerType { kind := .image },
    .createInstance .text "x" [], .call (.applyBehavior "x" "counter" {}),
    .createInstance .image "x" []]

/-- The counter stays applied to what is now an image. -/
theorem exists_unsuited_retyped :
    ∃ a ∈ (retyped.foldl perform (Engine.new {})).behaviors.applied,
      ¬ (retyped.foldl perform (Engine.new {})).Suits a.behavior a.component := by
  have hlabels : (retyped.foldl perform (Engine.new {})).behaviors.applied.map Applied.label =
      [("a0", "counter", "x")] := by decide +kernel
  have himage : (retyped.foldl perform (Engine.new {})).kindAt "x" = some .image := by
    decide +kernel
  have hallows : ((retyped.foldl perform (Engine.new {})).behaviors.get? "counter").map
      (·.compatibility.allows .image) = some false := by decide +kernel
  obtain ⟨a, ha, hl⟩ := List.mem_map.mp (hlabels ▸ List.mem_singleton_self ("a0", "counter", "x"))
  have hbehavior : a.behavior = "counter" := congrArg (·.2.1) hl
  have hcomponent : a.component = "x" := congrArg (·.2.2) hl
  refine ⟨a, ha, ?_⟩
  rintro ⟨b, kind, hb, hkind, hsuits⟩
  rw [hcomponent, himage, Option.some.injEq] at hkind
  rw [hbehavior] at hb
  rw [hb, Option.map_some, hkind, hsuits] at hallows
  exact absurd hallows (by decide)

/-- The operation that displaces the text is to blame. -/
theorem suits_or_displaced_retyped :
    (∀ b, EngineOp.registerBehavior b ∉ retyped) ∧
      ∃ a ∈ (retyped.foldl perform (Engine.new {})).behaviors.applied,
        ∃ before op after, retyped = before ++ op :: after ∧
          (before.foldl perform (Engine.new {})).Displaces op a := by
  have hops : ∀ b, EngineOp.registerBehavior b ∉ retyped := by simp [retyped]
  obtain ⟨a, ha, hunsuited⟩ := exists_unsuited_retyped
  exact ⟨hops, a, ha, (suits_or_displaced {} retyped hops a ha).resolve_left hunsuited⟩

/-- **An application can come to an owner that its behavior does not allow.** -/
theorem unsuited_after_create :
    ¬ ∀ (config : Config) (ops : List EngineOp), (∀ b, .registerBehavior b ∉ ops) →
      ∀ a ∈ (ops.foldl perform (Engine.new config)).behaviors.applied,
        (ops.foldl perform (Engine.new config)).Suits a.behavior a.component := by
  intro hall
  obtain ⟨a, ha, hunsuited⟩ := exists_unsuited_retyped
  exact hunsuited (hall {} retyped (by simp [retyped]) a ha)

end Engine

end WidgetFlow
