import WidgetFlow.Proofs.Screen.Materialize
import WidgetFlow.Proofs.Screen.Mount
import WidgetFlow.Proofs.Tree.Links

/-!
# Instances that stand for nodes

An instance stands for a node if it has its id and its kind, and if its links name the nodes that
are above and below it in the tree. This is what making instances is for: when it has come past a
node that is ready, the instance of the node stands for it, whether it was made on this occasion or
was there before.

For that, definitions must not make their instances in a way of their own (`Registry.Plain`), the
statuses must be those that the registry gives (`Arena.Settled`), and an instance that is there must
have the kind of its node (`Screen.Fit`).

## Main results

* `materializeAt_placed`: what is done at a node that is ready.
* `Fit.materializeAt`: what is done at any node keeps an engine fit.
* `materialize_placed`: all nodes that are ready have instances that stand for them in the end.
-/

namespace WidgetFlow

/-- An instance stands for a node: it has its id and its kind, and its parent and its children are
those of the node, by id and in order. -/
structure Instance.StandsFor (i : Instance) (a : Arena) (n : Node) : Prop where
  id : i.id = n.id
  kind : i.kind = n.kind
  parent : Option.Rel a.Has n.parent? i.parent
  children : List.Forall₂ a.Has n.childNodes i.children

namespace Instance.StandsFor

variable {i j : Instance} {a b : Arena} {n : Node}

/-- An instance stands for a node in another tree if those around the node have the same ids. -/
theorem imp (h : i.StandsFor a n)
    (hparent : ∀ {p id}, n.parent? = some p → a.Has p id → b.Has p id)
    (hchildren : ∀ {c id}, c ∈ n.childNodes → a.Has c id → b.Has c id) : i.StandsFor b n :=
  ⟨h.id, h.kind, rel_of_imp h.parent hparent, forall₂_of_imp h.children hchildren⟩

/-- For which node an instance stands does not depend on the status of the node. -/
theorem restate (h : i.StandsFor a n) (status : Status) : i.StandsFor a { n with status } :=
  ⟨h.id, h.kind, h.parent, h.children⟩

/-- An instance at the same place stands for the same node. -/
theorem samePlace (h : i.StandsFor a n) (hij : i.SamePlace j) : j.StandsFor a n where
  id := hij.id.trans h.id
  kind := hij.kind.trans h.kind
  parent := hij.parent ▸ h.parent
  children := hij.children ▸ h.children

end Instance.StandsFor

/-- No definition makes its instances in a way of its own. -/
def Registry.Plain (types : Registry) : Prop :=
  ∀ {kind d}, types.get? kind = some d → d.instantiate? = none

/-- Without a way of its own, a definition makes instances of its kind that have the ids they are
made for. -/
theorem Definition.instantiate_of_plain {d : Definition} (h : d.instantiate? = none) (id : String)
    (properties : Dict Value) : (d.instantiate id properties).id = id ∧
      (d.instantiate id properties).kind = d.kind := by
  rw [instantiate, h]
  exact ⟨rfl, rfl⟩

/-- Definitions without a way of their own keep ids. -/
theorem Registry.Plain.faithful {types : Registry} (h : types.Plain) : types.Faithful :=
  fun hd id properties => (Definition.instantiate_of_plain (h hd) id properties).1

/-- A forest in which every node has the status that a registry gives for its kind. -/
structure Arena.Settled (types : Registry) (a : Arena) : Prop where
  linked : a.Linked []
  keyed : a.Keyed
  status : ∀ {index n}, a.get? index = some n →
    n.status = Screen.answered (types.resolve n.kind)

namespace Screen

open Engine (Local)

variable {types : Registry} {a : Arena} {e : Engine} {n : Node} {d : Definition} {index k : Nat}

/-! ### Statuses -/

/-- A node has the definition that the registry has for its kind. -/
theorem definition?_answered {kind : Kind} :
    (answered (types.resolve kind)).definition? = types.get? kind := by
  rw [Registry.resolve]
  cases types.get? kind with
  | none => rfl
  | some d => rfl

/-- A node is ready if its kind is registered. -/
theorem isReady_answered {kind : Kind} :
    (answered (types.resolve kind)).isReady = types.contains kind := by
  rw [Registry.resolve, Registry.contains]
  cases types.get? kind with
  | none => rfl
  | some d => rfl

/-- A node is ready if it has a definition. -/
theorem isReady_iff {status : Status} :
    status.isReady = true ↔ ∃ d, status.definition? = some d := by
  cases status with
  | ready d => exact ⟨fun _ => ⟨d, rfl⟩, fun _ => rfl⟩
  | unresolved => exact ⟨nofun, nofun⟩
  | loading => exact ⟨nofun, nofun⟩
  | error reason => exact ⟨nofun, nofun⟩

/-! ### One node -/

/-- Whether the instance of a node is there and stands for it. -/
def Placed (a : Arena) (e : Engine) (n : Node) : Prop :=
  ∃ i, e.instances.get? n.id = some i ∧ i.StandsFor a n

/-- Styles and behaviors leave an instance at its place. -/
theorem dress_writes (h : e.Quiet n.id) : e.instances.Writes (dress e n).instances := by
  have hstyles : e.instances.Writes (n.styles.foldl
      (fun e style => (View.setStyle e n.id style.1 style.2).2) e).instances :=
    List.foldlRecOn (motive := fun e' : Engine => e.instances.Writes e'.instances) _ _ (.refl _)
      fun _ h _ _ => h.trans .of_present
  have hquiet : (n.styles.foldl
      (fun e style => (View.setStyle e n.id style.1 style.2).2) e).Quiet n.id :=
    List.foldlRecOn (motive := fun e' : Engine => e'.Quiet n.id) _ _ h fun _ h _ _ => h
  refine (List.foldlRecOn (motive := fun e' : Engine => e'.Quiet n.id ∧
    e.instances.Writes e'.instances) _ _ ⟨hquiet, hstyles⟩ fun e' ⟨hquiet, hwrites⟩ b _ => ?_).2
  refine ⟨(Local.applyBehavior hquiet ..).quiet hquiet, hwrites.trans ?_⟩
  rcases Engine.applyBehavior_of_quiet hquiet b.behavior (.ofValue b.options) with
    ⟨-, heq⟩ | ⟨state, effects, events, -, heq⟩
  · rw [heq]
    exact .refl _
  · rw [heq]
    exact applyEffects_writes n.id effects e'.instances

/-- A node whose kind is registered has an instance of its kind, if one that is there already has
this kind. -/
theorem provide_typed (hplain : e.types.Plain) (he : e.Closed)
    (hd : e.types.get? n.kind = some d)
    (htyped : ∀ {i}, e.instances.get? n.id = some i → i.kind = n.kind) :
    (provide e n d).1 = true ∧
      ∃ i, (provide e n d).2.instances.get? n.id = some i ∧ i.id = n.id ∧ i.kind = n.kind := by
  rw [provide]
  split
  · next hthere =>
      obtain ⟨i, hi⟩ := Store.contains_iff.mp hthere
      exact ⟨rfl, i, hi, he.indexed.id_eq hi, htyped hi⟩
  · next hnone =>
      have hkind : d.kind = n.kind := kind_of_get? hd
      have hmade := Local.createInstance hplain.faithful d.kind n.id n.declared
      rcases e.createInstance_cases d.kind n.id n.declared with
        ⟨hgone, -⟩ | ⟨found, events, hfound, heq⟩
      · rw [hkind, hd] at hgone
        cases hgone
      · obtain ⟨hid, hfoundKind⟩ := Definition.instantiate_of_plain (hplain hfound) n.id
          (Dict.union found.defaults n.declared)
        rw [create_eq]
        dsimp only
        rw [heq] at hmade ⊢
        obtain ⟨i, hi, hplace⟩ := (dress_writes (hmade.quiet (quiet_of_not_contains he hnone))).get?
          (Store.get?_register.trans (if_pos hid))
        exact ⟨rfl, i, hi, hplace.id.trans hid,
          hplace.kind.trans (hfoundKind.trans ((kind_of_get? hfound).trans hkind))⟩

/-- What making the instances of a tree needs, and keeps: every instance of a node has the kind of
the node, and this kind is registered. -/
structure Fit (types : Registry) (a : Arena) (e : Engine) : Prop where
  sane : Sane e
  typed : ∀ {index n i}, a.get? index = some n → e.instances.get? n.id = some i →
    i.kind = n.kind ∧ types.contains n.kind = true
  types : e.types = types

/-- What is done at a node leaves the instances of other nodes alone. -/
theorem get?_materializeAt_of_ne (ha : a.Keyed) (he : Sane e) (hn : a.get? k = some n)
    (hne : k ≠ index) : (materializeAt a e index).instances.get? n.id = e.instances.get? n.id := by
  cases hm : a.get? index with
  | none => rw [materializeAt_eq_self (by rw [hm, Option.bind_none])]
  | some m =>
      exact (materializeAt_local he.types he.closed hm).get? fun hid =>
        hne (ha.unique hn hm hid)

section Materialize

variable (ha : a.Settled types) (hplain : types.Plain) (he : Fit types a e)

include ha hplain he

/-- At a node that is ready, its instance is made to stand for it. -/
theorem materializeAt_placed (hn : a.get? index = some n) (hready : n.status.isReady = true) :
    Placed a (materializeAt a e index) n := by
  obtain ⟨d, hd⟩ := isReady_iff.mp hready
  have hget : e.types.get? n.kind = some d := by
    rw [he.types, ← definition?_answered, ← ha.status hn, hd]
  obtain ⟨hthere, i, hi, hid, hkind⟩ := provide_typed (by rwa [he.types]) he.sane.closed hget
    fun hi => (he.typed hn hi).1
  obtain ⟨events, heq⟩ := (provide e n d).2.updateInstance_eq n.id (place a index)
  have hmoved : ((provide e n d).2.instances.update n.id (place a index)).2.get? n.id = some
      { Store.applyUpdate (place a index) i with
        revision := (provide e n d).2.instances.clock + 1 } := by
    rw [Store.update, Store.get?_mutate, if_pos rfl, hi, Option.map_some]
  rw [materializeAt_eq hn hd, if_pos hthere, heq]
  exact ⟨_, hmoved, hid, hkind, ha.linked.rel_parentId? hn, ha.linked.forall₂_childIds hn⟩

/-- What is done at a node keeps an engine fit. -/
theorem Fit.materializeAt (index : Nat) : Fit types a (Screen.materializeAt a e index) where
  sane := he.sane.materializeAt a index
  types := by
    have hruns : e.Runs false (Screen.materializeAt a e index) := materializeAt_runs a e index
    exact hruns.sameSetup.types.trans he.types
  typed {k n i} hn hi := by
    by_cases hne : k = index
    · subst hne
      cases hready : n.status.isReady with
      | true =>
          obtain ⟨j, hj, hstands⟩ := materializeAt_placed ha hplain he hn hready
          obtain rfl := Option.some.inj (hi.symm.trans hj)
          refine ⟨hstands.kind, ?_⟩
          rw [← isReady_answered, ← ha.status hn]
          exact hready
      | false =>
          have hnone : n.status.definition? = none :=
            Option.eq_none_iff_forall_ne_some.mpr fun d hd =>
              nomatch hready.symm.trans (isReady_iff.mpr ⟨d, hd⟩)
          rw [materializeAt_eq_self (by rw [hn, Option.bind_some, hnone])] at hi
          exact he.typed hn hi
    · exact he.typed hn ((get?_materializeAt_of_ne ha.keyed he.sane hn hne).symm.trans hi)

/-- An instance that stands for a node goes on doing so. -/
theorem Placed.materializeAt (hn : a.get? k = some n) (hready : n.status.isReady = true)
    (h : Placed a e n) (index : Nat) : Placed a (Screen.materializeAt a e index) n := by
  by_cases hne : k = index
  · subst hne
    exact materializeAt_placed ha hplain he hn hready
  · obtain ⟨i, hi, hstands⟩ := h
    exact ⟨i, (get?_materializeAt_of_ne ha.keyed he.sane hn hne).trans hi, hstands⟩

/-! ### All nodes -/

/-- Making instances keeps an engine fit. -/
theorem materialize_fit (indices : List Nat) :
    Fit types a (indices.foldl (Screen.materializeAt a) e) :=
  List.foldlRecOn (motive := Fit types a) indices _ he fun _ h index _ =>
    h.materializeAt ha hplain index

/-- When instances are made, those of all nodes that are ready stand for them afterwards. -/
theorem materialize_placed {indices : List Nat} (hindex : k ∈ indices) (hn : a.get? k = some n)
    (hready : n.status.isReady = true) :
    Placed a (indices.foldl (Screen.materializeAt a) e) n := by
  obtain ⟨before, after, rfl⟩ := List.append_of_mem hindex
  have hbefore := materialize_fit ha hplain he before
  rw [List.foldl_append, List.foldl_cons]
  -- what stands for the node when its turn has come goes on doing so to the end
  refine (List.foldlRecOn (motive := fun e' => Fit types a e' ∧ Placed a e' n) after _
    ⟨hbefore.materializeAt ha hplain k, materializeAt_placed ha hplain hbefore hn hready⟩
    fun e' ⟨he', hplaced⟩ index _ => ?_).2
  exact ⟨he'.materializeAt ha hplain index, hplaced.materializeAt ha hplain he' hn hready index⟩

end Materialize

end Screen

end WidgetFlow
