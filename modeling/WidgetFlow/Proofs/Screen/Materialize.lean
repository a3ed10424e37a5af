import WidgetFlow.Proofs.Engine.Local
import WidgetFlow.Proofs.Screen.Operation
import WidgetFlow.Proofs.Tree.Forest

/-!
# What making instances does

Making the instance of a node is done to the component of this node alone (`materializeAt_local`),
provided that definitions keep the ids they are given. An instance that is there already is only
moved in the tree (`materialize_kept`), and a new one depends on the node, the types and the
behaviors and on nothing else: it comes out alike in all engines that have no such instance yet
(`materialize_alike`).

## Main results

* `materialize_local`: making instances is done to the components of the tree alone.
* `materialize_kept`: instances that are there keep everything but their place.
* `materialize_alike`: new instances depend on the tree, the types and the behaviors alone.
* `contains_materialize`: every node whose kind is registered gets an instance.
-/

namespace WidgetFlow

/-- The second instance is the first one, perhaps at another place in the tree. -/
def Instance.MovedTo (i j : Instance) : Prop :=
  j.bare = { i.bare with parent := j.parent, children := j.children }

namespace Instance.MovedTo

variable {i j k : Instance}

/-- An instance that does not change stays where it is. -/
theorem refl (i : Instance) : i.MovedTo i := rfl

/-- Moving twice is moving. -/
theorem trans (h : i.MovedTo j) (h' : j.MovedTo k) : i.MovedTo k := by
  rw [MovedTo, h', h]

end Instance.MovedTo

/-- The ids of the nodes of an arena. -/
def Arena.names (a : Arena) : Set String := { id | ∃ i n, a.get? i = some n ∧ n.id = id }

namespace Screen

open Engine (Local Alike)

variable {a : Arena} {e f : Engine} {node : Node} {d : Definition} {index : Nat} {id : String}

/-! ### One node -/

/-- An engine in which an instance has the styles of a node and its behaviors. -/
def dress (e : Engine) (node : Node) : Engine :=
  node.behaviors.foldl (fun e b => (e.applyBehavior node.id b.behavior (.ofValue b.options)).2)
    (node.styles.foldl (fun e (property, v) => (View.setStyle e node.id property v).2) e)

/-- A new instance gets its styles and its behaviors. -/
theorem create_eq (e : Engine) (node : Node) (d : Definition) :
    create e node d =
      let made := e.createInstance d.kind node.id node.declared
      (made.1.isSome, if made.1.isSome then dress made.2 node else made.2) := by
  rw [create]
  rcases e.createInstance d.kind node.id node.declared with ⟨_ | _, e'⟩ <;> rfl

/-- Where a node stands. -/
def place (a : Arena) (index : Nat) : InstanceUpdate :=
  { parent := some (a.parentId? index), children := some (a.childIds index) }

/-- Makes the instance of a node, if there is none. -/
def provide (e : Engine) (node : Node) (d : Definition) : Bool × Engine :=
  if e.instances.contains node.id then (true, e) else create e node d

/-- An instance that is there, or made, is told its place. -/
theorem materializeAt_eq (hn : a.get? index = some node)
    (hd : node.status.definition? = some d) :
    materializeAt a e index =
      if (provide e node d).1 then
        ((provide e node d).2.updateInstance node.id (place a index)).2
      else (provide e node d).2 := by
  rw [materializeAt, hn]
  dsimp only
  rw [hd]
  rfl

/-- Without a node, or without its definition, nothing is made. -/
theorem materializeAt_eq_self (h : (a.get? index).bind (·.status.definition?) = none) :
    materializeAt a e index = e := by
  rw [materializeAt]
  cases hn : a.get? index with
  | none => rfl
  | some node =>
      rw [hn] at h
      dsimp only
      rw [show node.status.definition? = none from h]

/-- Styles and behaviors are given to one component alone. -/
theorem dress_local (h : e.Quiet node.id) :
    Local {node.id} e (dress e node) := by
  have hstyles : Local {node.id} e (node.styles.foldl
      (fun e (property, v) => (View.setStyle e node.id property v).2) e) :=
    .foldl fun e' _ style _ => .setStyle e' node.id style.1 style.2
  exact hstyles.trans (.foldl fun e' he' b _ =>
    .applyBehavior ((hstyles.trans he').quiet h) b.behavior (.ofValue b.options))

/-- Styles and behaviors come out alike. -/
theorem dress_alike (h : Alike node.id e f) (he : e.Quiet node.id) (hf : f.Quiet node.id) :
    Alike node.id (dress e node) (dress f node) := by
  rw [dress, dress]
  generalize node.styles = styles
  generalize node.behaviors = behaviors
  induction styles generalizing e f with
  | nil =>
      rw [List.foldl_nil, List.foldl_nil]
      induction behaviors generalizing e f with
      | nil => exact h
      | cons b rest ih =>
          exact ih (h.applyBehavior he hf b.behavior _) ((Local.applyBehavior he ..).quiet he)
            ((Local.applyBehavior hf ..).quiet hf)
  | cons style rest ih =>
      exact ih (h.setStyle style.1 style.2) ((Local.setStyle e ..).quiet he)
        ((Local.setStyle f ..).quiet hf)

/-- Making an instance is done to its component alone. -/
theorem create_local (htypes : e.types.Faithful) (h : e.Quiet node.id) :
    Local {node.id} e (create e node d).2 := by
  rw [create_eq]
  have hmade := Local.createInstance htypes d.kind node.id node.declared
  dsimp only
  split
  · exact hmade.trans (dress_local (hmade.quiet h))
  · exact hmade

/-- Instances come out alike, and are made in both engines or in none. -/
theorem create_alike (h : Alike node.id e f) (hetypes : e.types.Faithful) (he : e.Quiet node.id)
    (hf : f.Quiet node.id) : (create f node d).1 = (create e node d).1 ∧
      Alike node.id (create e node d).2 (create f node d).2 := by
  have hftypes : f.types.Faithful := by
    rw [h.types]
    exact hetypes
  have hemade := Local.createInstance hetypes d.kind node.id node.declared
  have hfmade := Local.createInstance hftypes d.kind node.id node.declared
  obtain ⟨hsame, hmade⟩ := h.createInstance d.kind node.declared
  rw [create_eq, create_eq]
  dsimp only
  rw [hsame]
  refine ⟨rfl, ?_⟩
  split
  · exact dress_alike hmade (hemade.quiet he) (hfmade.quiet hf)
  · exact hmade

/-- If its kind is registered, a node gets an instance. -/
theorem contains_create (htypes : e.types.Faithful) (h : e.Quiet node.id)
    (hd : e.types.contains d.kind = true) : (create e node d).1 = true ∧
      (create e node d).2.instances.contains node.id = true := by
  have hmade := Local.createInstance htypes d.kind node.id node.declared
  rcases e.createInstance_cases d.kind node.id node.declared with
    ⟨hnone, -⟩ | ⟨found, events, hfound, heq⟩
  · rw [Registry.contains, hnone] at hd
    exact nomatch hd
  · rw [create_eq]
    dsimp only
    rw [heq] at hmade ⊢
    refine ⟨rfl, (dress_local (hmade.quiet h)).contains ?_⟩
    refine Store.contains_iff.mpr ⟨_, Store.get?_register.trans (if_pos (htypes hfound _ _))⟩

/-- An instance is made only for a component that no connection touches. -/
theorem quiet_of_not_contains (he : e.Closed) (h : ¬ e.instances.contains id = true) :
    e.Quiet id :=
  he.quiet (Store.contains_eq_false_iff.mp (Bool.eq_false_iff.mpr h))

/-- Making an instance if there is none is done to its component alone. -/
theorem provide_local (htypes : e.types.Faithful) (he : e.Closed) :
    Local {node.id} e (provide e node d).2 := by
  rw [provide]
  split
  · exact .refl e
  · next hnone => exact create_local htypes (quiet_of_not_contains he hnone)

/-- Where there is no instance, new ones come out alike. -/
theorem provide_alike (h : Alike node.id e f) (htypes : e.types.Faithful) (he : e.Closed)
    (hf : f.Closed) : (provide f node d).1 = (provide e node d).1 ∧
      Alike node.id (provide e node d).2 (provide f node d).2 := by
  rw [provide, provide, h.contains]
  split
  · exact ⟨rfl, h⟩
  · next hnone =>
      exact create_alike h htypes (quiet_of_not_contains he hnone)
        (quiet_of_not_contains hf (by rwa [h.contains]))

/-- What happens at a node is done to its component alone. -/
theorem materializeAt_local (htypes : e.types.Faithful) (he : e.Closed)
    (hn : a.get? index = some node) : Local {node.id} e (materializeAt a e index) := by
  cases hd : node.status.definition? with
  | none =>
      rw [materializeAt_eq_self (by rw [hn, Option.bind_some, hd])]
      exact .refl e
  | some d =>
      rw [materializeAt_eq hn hd]
      have hlocal : Local {node.id} e (provide e node d).2 := provide_local htypes he
      split
      · exact hlocal.trans (.updateInstance _ _ _)
      · exact hlocal

/-- What happens at a node is alike. -/
theorem materializeAt_alike (h : Alike id e f) (htypes : e.types.Faithful) (he : e.Closed)
    (hf : f.Closed) : Alike id (materializeAt a e index) (materializeAt a f index) := by
  cases hd : (a.get? index).bind (·.status.definition?) with
  | none => rwa [materializeAt_eq_self hd, materializeAt_eq_self hd]
  | some d =>
      obtain ⟨node, hn, hd⟩ := Option.bind_eq_some_iff.mp hd
      by_cases hid : node.id = id
      · subst hid
        obtain ⟨hsame, halike⟩ := provide_alike (d := d) h htypes he hf
        rw [materializeAt_eq hn hd, materializeAt_eq hn hd, hsame]
        split
        · exact halike.updateInstance _
        · exact halike
      · have hftypes : f.types.Faithful := by
          rw [h.types]
          exact htypes
        exact h.frame (materializeAt_local htypes he hn) (materializeAt_local hftypes hf hn)
          (Ne.symm hid)

/-- If its kind is registered, a node has an instance afterwards. -/
theorem contains_materializeAt (htypes : e.types.Faithful) (he : e.Closed)
    (hn : a.get? index = some node) (hd : node.status.definition? = some d)
    (hkind : e.types.contains d.kind = true) :
    (materializeAt a e index).instances.contains node.id = true := by
  have hprovided : (provide e node d).1 = true ∧
      (provide e node d).2.instances.contains node.id = true := by
    rw [provide]
    split
    · next hsome => exact ⟨rfl, hsome⟩
    · next hnone => exact contains_create htypes (quiet_of_not_contains he hnone) hkind
  rw [materializeAt_eq hn hd, if_pos hprovided.1]
  exact (Local.updateInstance _ _ _).contains hprovided.2

/-- An instance that is there is only moved. -/
theorem materializeAt_kept (a : Arena) (index : Nat) (htypes : e.types.Faithful) (he : e.Closed)
    {i : Instance} (hi : e.instances.get? id = some i) :
    (∃ j, (materializeAt a e index).instances.get? id = some j ∧ i.MovedTo j) ∧
      (materializeAt a e index).behaviors.attached id = e.behaviors.attached id := by
  cases hd : (a.get? index).bind (·.status.definition?) with
  | none =>
      rw [materializeAt_eq_self hd]
      exact ⟨⟨i, hi, .refl i⟩, rfl⟩
  | some d =>
      obtain ⟨node, hn, hd⟩ := Option.bind_eq_some_iff.mp hd
      by_cases hid : node.id = id
      · subst hid
        obtain ⟨events, heq⟩ := e.updateInstance_eq node.id (place a index)
        have hprovided : provide e node d = (true, e) :=
          if_pos (Store.contains_iff.mpr ⟨i, hi⟩)
        have hget : (e.instances.update node.id (place a index)).2.get? node.id = some
            { Store.applyUpdate (place a index) i with revision := e.instances.clock + 1 } := by
          rw [Store.update, Store.get?_mutate, if_pos rfl, hi, Option.map_some]
        rw [materializeAt_eq hn hd, hprovided, if_pos rfl, heq]
        exact ⟨⟨_, hget, rfl⟩, rfl⟩
      · have hlocal := materializeAt_local htypes he hn
        exact ⟨⟨i, (hlocal.get? (Ne.symm hid)).trans hi, .refl i⟩,
          hlocal.attached_of_not_mem (Ne.symm hid)⟩

/-! ### All nodes -/

/-- What making instances needs: definitions that keep ids, and no connection that dangles. -/
structure Sane (e : Engine) : Prop where
  types : e.types.Faithful
  closed : e.Closed

/-- What registers nothing keeps an engine sane. -/
theorem Sane.runs (h : Sane e) (hruns : e.Runs false f) : Sane f := by
  refine ⟨?_, h.closed.runs hruns⟩
  rw [hruns.sameSetup.types]
  exact h.types

/-- Making an instance keeps an engine sane. -/
theorem Sane.materializeAt (h : Sane e) (a : Arena) (index : Nat) :
    Sane (Screen.materializeAt a e index) :=
  h.runs (materializeAt_runs a e index)

/-- Making instances is done to the components of the tree alone. -/
theorem materialize_local (h : Sane e) (indices : List Nat) :
    Local a.names e (indices.foldl (materializeAt a) e) ∧
      Sane (indices.foldl (materializeAt a) e) := by
  refine List.foldlRecOn (motive := fun e' => Local a.names e e' ∧ Sane e') indices _
    ⟨.refl e, h⟩ fun e' ⟨hlocal, hsane⟩ index _ => ⟨hlocal.trans ?_, hsane.materializeAt a index⟩
  cases hn : a.get? index with
  | none =>
      rw [materializeAt_eq_self (by rw [hn, Option.bind_none])]
      exact .refl e'
  | some node =>
      exact (materializeAt_local hsane.types hsane.closed hn).mono fun id hid =>
        ⟨index, node, hn, hid.symm⟩

/-- New instances depend on the tree, the types and the behaviors alone. -/
theorem materialize_alike (h : Alike id e f) (he : Sane e) (hf : Sane f) (indices : List Nat) :
    Alike id (indices.foldl (materializeAt a) e) (indices.foldl (materializeAt a) f) := by
  induction indices generalizing e f with
  | nil => exact h
  | cons index rest ih =>
      exact ih (materializeAt_alike h he.types he.closed hf.closed) (he.materializeAt a index)
        (hf.materializeAt a index)

/-- Every node whose kind is registered has an instance afterwards. -/
theorem contains_materialize (h : Sane e) {indices : List Nat} (hindex : index ∈ indices)
    (hn : a.get? index = some node) (hd : node.status.definition? = some d)
    (hkind : e.types.contains d.kind = true) :
    (indices.foldl (materializeAt a) e).instances.contains node.id = true := by
  obtain ⟨before, after, rfl⟩ := List.append_of_mem hindex
  obtain ⟨hlocal, hsane⟩ := materialize_local (a := a) h before
  rw [List.foldl_append, List.foldl_cons]
  refine (materialize_local (hsane.materializeAt a index) after).1.contains ?_
  refine contains_materializeAt hsane.types hsane.closed hn hd ?_
  rw [hlocal.setup.types, hkind]

/-- Instances that are there keep everything but their place, and what is applied to them. -/
theorem materialize_kept (h : Sane e) {i : Instance} (hi : e.instances.get? id = some i)
    (indices : List Nat) :
    (∃ j, (indices.foldl (materializeAt a) e).instances.get? id = some j ∧ i.MovedTo j) ∧
      (indices.foldl (materializeAt a) e).behaviors.attached id = e.behaviors.attached id := by
  induction indices generalizing e i with
  | nil => exact ⟨⟨i, hi, .refl i⟩, rfl⟩
  | cons index rest ih =>
      obtain ⟨⟨j, hj, hmoved⟩, hattached⟩ :=
        materializeAt_kept a index h.types h.closed hi
      obtain ⟨⟨k, hk, hmoved'⟩, hattached'⟩ := ih (h.materializeAt a index) hj
      exact ⟨⟨k, hk, hmoved.trans hmoved'⟩, hattached'.trans hattached⟩

end Screen

end WidgetFlow
