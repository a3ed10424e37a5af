import Mathlib
import WidgetFlow.Proofs.Screen.Operation

/-!
# Rendering with a layout

A rendering with a layout takes the outputs of the roots one by one, and puts each into the first
region of the planned name, which fills up meanwhile. This module says where the outputs are in the
end.

## Conventions

Regions are told apart by their places in the layout, not by their names: a layout may repeat a
name, and it may call a region `unassigned`, as the one behind all others is called that takes what
is left. `Layout.place?` is the place that a root goes to. What goes to no place is unassigned.

## Main results

* `placeAll_eq`: every place gets its outputs, in their order.
* `perm_outputsAt`: the places share the outputs out.
* `Screen.roots_in_regions`: **every root is rendered in exactly one region**, and the rest of the
  screen is as after a rendering without a layout.
-/

namespace WidgetFlow

namespace Layout

/-- The place of the first region of a planned name; none if no region is planned, or one that the
layout lacks. -/
def place? (l : Layout) (region? : Option String) : Option Nat :=
  region?.bind fun name => l.regions.findIdx? (· = name)

/-- The outputs that go to a place, in their order. -/
def outputsAt (l : Layout) (roots : List (Option String × Output)) (place? : Option Nat) :
    List Output :=
  (roots.filter fun root => l.place? root.1 = place?).map (·.2)

variable {l : Layout} {roots : List (Option String × Output)}

/-- A place is that of a region. -/
theorem lt_of_place?_eq_some {region? : Option String} {i : Nat} (h : l.place? region? = some i) :
    i < l.regions.length := by
  obtain ⟨name, -, hname⟩ := Option.bind_eq_some_iff.mp h
  obtain ⟨hlt, -⟩ := List.findIdx?_eq_some_iff_getElem.mp hname
  exact hlt

/-- One more output goes behind those that are at its place. -/
theorem outputsAt_concat (root : Option String × Output) (place? : Option Nat) :
    l.outputsAt (roots ++ [root]) place? =
      l.outputsAt roots place? ++ if l.place? root.1 = place? then [root.2] else [] := by
  rw [outputsAt, List.filter_append, List.map_append, ← outputsAt]
  by_cases h : l.place? root.1 = place? <;> simp [h]

/-- Something is unassigned if some root has no place. -/
theorem outputsAt_none_ne_nil :
    l.outputsAt roots none ≠ [] ↔ ∃ root ∈ roots, l.place? root.1 = none := by
  simp [outputsAt, List.filter_eq_nil_iff]

/-- The members of a list of one kind, and those of another kind that no member is of as well, are
the members of either kind. -/
theorem perm_filter_append {α : Type} {p q : α → Bool} (h : ∀ a, p a = true → q a = false)
    (items : List α) :
    (items.filter p ++ items.filter q).Perm (items.filter fun a => p a || q a) := by
  have hfirst : ∀ a, (p a && (p a || q a)) = p a := fun a => inf_sup_self
  have hsecond : ∀ a, (!p a && (p a || q a)) = q a := by
    intro a
    cases hp : p a with
    | true => exact (h a hp).symm
    | false => rfl
  have hsplit := List.filter_append_perm p (items.filter fun a => p a || q a)
  simpa only [List.filter_filter, hfirst, hsecond] using hsplit

/-- The outputs at the first places, and those at one that is not one of them. -/
theorem perm_append_outputsAt (l : Layout) (roots : List (Option String × Output)) (n : Nat)
    (place? : Option Nat) (h : place?.any (· < n) = false) :
    ((roots.filter fun root => (l.place? root.1).any (· < n)).map (·.2) ++
      l.outputsAt roots place?).Perm
    ((roots.filter fun root => (l.place? root.1).any (· < n) ||
      decide (l.place? root.1 = place?)).map (·.2)) := by
  have hother : ∀ root : Option String × Output, (l.place? root.1).any (· < n) = true →
      decide (l.place? root.1 = place?) = false := by
    intro root hroot
    refine decide_eq_false fun hplace => ?_
    rw [hplace, h] at hroot
    cases hroot
  rw [outputsAt, ← List.map_append]
  exact (perm_filter_append hother roots).map _

/-- The outputs at the first places are those of the roots that have one of these places. -/
theorem perm_outputsAt_range (n : Nat) :
    ((List.range n).flatMap fun i => l.outputsAt roots (some i)).Perm
      ((roots.filter fun root => (l.place? root.1).any (· < n)).map (·.2)) := by
  induction n with
  | zero => simp
  | succ n ih =>
      have hplaces : ∀ place? : Option Nat,
          (place?.any (· < n) || decide (place? = some n)) = place?.any (· < n + 1) := by
        intro place?
        cases place? with
        | none => rfl
        | some i => grind
      have hnew := l.perm_append_outputsAt roots n (some n) (decide_eq_false n.lt_irrefl)
      simp only [hplaces] at hnew
      rw [List.range_succ, List.flatMap_append, List.flatMap_singleton]
      exact (ih.append_right _).trans hnew

/-- **The places share the outputs out**, together with what is unassigned. -/
theorem perm_outputsAt (l : Layout) (roots : List (Option String × Output)) :
    (((List.range l.regions.length).flatMap fun i => l.outputsAt roots (some i)) ++
      l.outputsAt roots none).Perm (roots.map (·.2)) := by
  have hall : ∀ root : Option String × Output, ((l.place? root.1).any (· < l.regions.length) ||
      decide (l.place? root.1 = none)) = true := by
    intro root
    cases h : l.place? root.1 with
    | none => rfl
    | some i => simp [lt_of_place?_eq_some h]
  have hnone := l.perm_append_outputsAt roots l.regions.length none rfl
  rw [List.filter_eq_self.mpr fun root _ => hall root] at hnone
  exact ((perm_outputsAt_range l.regions.length).append_right _).trans hnone

end Layout

/-- An output goes behind those at the place of the first region of its name. -/
theorem placeIn_mapIdx (name : String) (output : Output) (names : List String)
    (outputs : Nat → List Output) :
    placeIn name output (names.mapIdx fun i region => (region, outputs i)) =
      (names.findIdx? (· = name)).map fun place => names.mapIdx fun i region =>
        (region, outputs i ++ if place = i then [output] else []) := by
  induction names generalizing outputs with
  | nil => rfl
  | cons region rest ih =>
      rw [List.mapIdx_cons, placeIn, List.findIdx?_cons]
      by_cases h : region = name
      · simp [h]
      · simp [h, ih fun i => outputs (i + 1), Function.comp_def]

/-- A root puts its output behind those at its place, if it has one. -/
theorem placeIn_place? (l : Layout) (region? : Option String) (output : Output)
    (outputs : Nat → List Output) :
    (region?.bind fun name =>
        placeIn name output (l.regions.mapIdx fun i region => (region, outputs i))) =
      (l.place? region?).map fun place => l.regions.mapIdx fun i region =>
        (region, outputs i ++ if place = i then [output] else []) := by
  cases region? with
  | none => rfl
  | some name => exact placeIn_mapIdx name output l.regions outputs

/-- Where every output is once all roots are placed. -/
theorem placeAll_eq (l : Layout) (roots : List (Option String × Output)) :
    placeAll roots (l.regions.map fun name => (name, [])) =
      (l.regions.mapIdx fun i name => (name, l.outputsAt roots (some i)),
        l.outputsAt roots none) := by
  induction roots using List.reverseRecOn with
  | nil =>
      refine congrArg (·, []) (List.ext_getElem? fun i => ?_)
      simp [Layout.outputsAt]
  | append_singleton roots root ih =>
      rw [placeAll] at ih ⊢
      rw [List.foldl_append, ih, List.foldl_cons, List.foldl_nil]
      dsimp only
      rw [placeIn_place?]
      simp only [Layout.outputsAt_concat]
      cases l.place? root.1 with
      | none => simp
      | some place => simp

/-- A layout shows its regions in order with the outputs at their places, and behind them what is
unassigned, if some root has no place. -/
theorem Layout.arrange_eq (l : Layout) (roots : List (Option String × Output)) :
    l.arrange roots = .fragment
      ((l.regions.mapIdx fun i name => .region name (l.outputsAt roots (some i))) ++
        if ∃ root ∈ roots, l.place? root.1 = none
        then [.region "unassigned" (l.outputsAt roots none)] else []) := by
  have hregions : ((l.regions.mapIdx fun i name => (name, l.outputsAt roots (some i))).map
      fun region => Output.region region.1 region.2) =
      l.regions.mapIdx fun i name => .region name (l.outputsAt roots (some i)) :=
    List.ext_getElem? fun i => by simp [Function.comp_def]
  rw [Layout.arrange, placeAll_eq]
  simp only [hregions, ← outputsAt_none_ne_nil, List.isEmpty_iff, ite_not]

/-- The regions of a layout hold the outputs of all roots, in another order. -/
theorem Layout.perm_arrange (l : Layout) (roots : List (Option String × Output)) :
    ((l.arrange roots).children.flatMap Output.children).Perm (roots.map (·.2)) := by
  have hregions : ((l.regions.mapIdx fun i name =>
        Output.region name (l.outputsAt roots (some i))).flatMap Output.children) =
      (List.range l.regions.length).flatMap fun i => l.outputsAt roots (some i) := by
    rw [List.flatMap_def, List.flatMap_def]
    refine congrArg List.flatten (List.ext_getElem (by simp) fun i _ _ => ?_)
    simp [Output.children]
  rw [arrange_eq, Output.children, List.flatMap_append, hregions]
  refine List.Perm.trans (List.Perm.of_eq (congrArg _ ?_)) (l.perm_outputsAt roots)
  by_cases h : ∃ root ∈ roots, l.place? root.1 = none
  · rw [if_pos h, List.flatMap_singleton, Output.children]
  · rw [if_neg h, not_ne_iff.mp (mt outputsAt_none_ne_nil.mp h), List.flatMap_nil]

namespace Screen

/-! ### Screens -/

/-- The outputs of the roots in turn, before they are put together. -/
def rootOutputs (s : Screen) : List Output := ((s.arena.roots.mapM s.renderAt).run s.memo).1

/-- The region that is planned for the node of a number. -/
def plannedRegion? (s : Screen) (index : Nat) : Option String :=
  (s.arena.get? index).bind (·.region?)

/-- The outputs of the roots with the regions that are planned for them. -/
def plannedOutputs (s : Screen) : List (Option String × Output) :=
  (s.arena.roots.map s.plannedRegion?).zip s.rootOutputs

/-- Rendering nodes in turn gives an output for each of them. -/
theorem length_mapM_renderAt (s : Screen) (indices : List Nat) (m : RenderMemo) :
    ((indices.mapM s.renderAt).run m).1.length = indices.length := by
  induction indices generalizing m with
  | nil => rfl
  | cons index rest ih =>
      rw [List.mapM_cons]
      exact congrArg (· + 1) (ih _)

/-- Every root has an output. -/
theorem length_rootOutputs (s : Screen) : s.rootOutputs.length = s.arena.roots.length :=
  s.length_mapM_renderAt s.arena.roots s.memo

/-- No output is lost when the regions are looked up. -/
theorem map_snd_plannedOutputs (s : Screen) : s.plannedOutputs.map (·.2) = s.rootOutputs :=
  List.map_snd_zip (by rw [List.length_map, length_rootOutputs])

/-- Something is unassigned if some root has no region, or one that the layout lacks. -/
theorem exists_unassigned_iff (s : Screen) (l : Layout) :
    (∃ root ∈ s.plannedOutputs, l.place? root.1 = none) ↔
      ∃ index ∈ s.arena.roots, l.place? (s.plannedRegion? index) = none := by
  have hregions : s.plannedOutputs.map (·.1) = s.arena.roots.map s.plannedRegion? :=
    List.map_fst_zip (by rw [List.length_map, length_rootOutputs])
  have hexists := congrArg (fun regions => ∃ region? ∈ regions, l.place? region? = none) hregions
  simpa only [List.mem_map, exists_exists_and_eq_and] using iff_of_eq hexists

/-- **Every root is rendered in exactly one region.** On a screen with a layout, the roots are
rendered as they are without one. A region at a place of the layout has the outputs of the roots
that go to this place, in their order, and behind all regions stands what is unassigned, exactly if
some root has no region or one that the layout lacks. So all regions together have the outputs of
the roots, in another order. Nothing else of the screen depends on the layout. -/
theorem roots_in_regions (s : Screen) {l : Layout} (hl : s.layout? = some l) :
    let bare : Screen := { s with layout? := none }
    bare.render.1 = joinOutputs s.rootOutputs ∧
    s.rootOutputs.length = s.arena.roots.length ∧
    s.render.1 = .fragment
      ((l.regions.mapIdx fun i name => .region name (l.outputsAt s.plannedOutputs (some i))) ++
        if ∃ index ∈ s.arena.roots, l.place? (s.plannedRegion? index) = none
        then [.region "unassigned" (l.outputsAt s.plannedOutputs none)] else []) ∧
    (∀ place?, (l.outputsAt s.plannedOutputs place?).Sublist s.rootOutputs) ∧
    (s.render.1.children.flatMap Output.children).Perm s.rootOutputs ∧
    s.render.2 = { bare.render.2 with layout? := some l } := by
  intro bare
  have hrender : s.render.1 = l.arrange s.plannedOutputs := by
    rw [render_eq, arranged, hl]
    rfl
  refine ⟨?bare, s.length_rootOutputs, ?regions, ?order, ?all, ?rest⟩
  case bare =>
    rw [render_eq]
    rfl
  case regions =>
    rw [hrender, Layout.arrange_eq]
    simp only [exists_unassigned_iff]
  case order =>
    intro place?
    rw [← map_snd_plannedOutputs]
    exact List.filter_sublist.map _
  case all =>
    rw [hrender, ← map_snd_plannedOutputs]
    exact l.perm_arrange s.plannedOutputs
  case rest =>
    rw [render_eq, render_eq, ← hl]
    rfl

/-- Three texts that wait for their definitions, on a layout that repeats a name: two of them are
planned for it, and one is not planned for any region. -/
def crowded : Screen where
  engine := .new {}
  arena := {
    slots := [some { id := "a", tag := "text", kind := .text, region? := some "main" },
      some { id := "b", tag := "text", kind := .text },
      some { id := "c", tag := "text", kind := .text, region? := some "main" }]
    byId := [("a", 0), ("b", 1), ("c", 2)]
    roots := [0, 1, 2] }
  layout? := some { regions := ["main", "unassigned", "main"] }

/-- The first region of a repeated name takes all that is planned for the name, and a region of the
layout that is called `unassigned` takes nothing that is. -/
theorem roots_in_regions_crowded :
    crowded.layout? = some { regions := ["main", "unassigned", "main"] } ∧
    crowded.render.1 = .fragment [.region "main" [.loading "a" "text", .loading "c" "text"],
      .region "unassigned" [], .region "main" [], .region "unassigned" [.loading "b" "text"]] := by
  obtain ⟨-, -, hregions, -⟩ := roots_in_regions crowded rfl
  exact ⟨rfl, hregions.trans rfl⟩

end Screen

end WidgetFlow
