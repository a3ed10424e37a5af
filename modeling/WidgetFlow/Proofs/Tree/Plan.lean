import WidgetFlow.Tree.Plan
import WidgetFlow.Proofs.Value.Canonical

/-!
# Plans are written as they are read

A plan can be given in many ways: with named fields or as a list of fields, with fields that are
left out or null or unknown, with code as a text or as a record. This module shows that none of it
matters once the plan is read. Writing the plan gives one value, and reading that value gives the
plan again.

## Conventions

Not every plan reads back. A dictionary that is not sorted, or a theme that is null, is written as
it is and then read as something else. What is needed is that the plan is in canonical form
(`NodePlan.Canonical`, `AppPlan.Canonical`): its dictionaries are sorted, the values in it are in
canonical form, and what may be left out is not null. The children of a node are in canonical form
as a list (`CanonicalBelow`), since a plan reads and writes them as a list.

## Main results

* `NodePlan.canonical_of_ofValue?`, `AppPlan.canonical_of_ofValue?`: what is read is in canonical
  form.
* `NodePlan.ofValue?_toValue`, `AppPlan.ofValue?_toValue`: a plan in canonical form reads back.
* `NodePlan.canonical_toValue`, `AppPlan.canonical_toValue`: and its value is in canonical form.
* `plans_read_back`: **a plan that was read survives being written and read again.**
-/

namespace WidgetFlow

open Value

/-! ### Plans in canonical form -/

/-- What a plan says of one node is in canonical form: its dictionaries are sorted, and the values
in it are in canonical form. -/
structure NodeInfo.Canonical (info : NodeInfo) : Prop where
  properties : (obj info.properties).canonical = obj info.properties
  styles : (obj info.styles).canonical = obj info.styles
  events : Dict.Sorted info.events
  methods : Dict.Sorted info.methods
  behaviors : ∀ b ∈ info.behaviors, b.options.canonical = b.options

/-- Planned children are in canonical form. -/
inductive CanonicalBelow : List ChildPlan → Prop
  | nil : CanonicalBelow []
  | text {content : String} {rest : List ChildPlan} (hrest : CanonicalBelow rest) :
      CanonicalBelow (.text content :: rest)
  | node {info : NodeInfo} {children rest : List ChildPlan} (hinfo : info.Canonical)
      (hchildren : CanonicalBelow children) (hrest : CanonicalBelow rest) :
      CanonicalBelow (.node info children :: rest)

/-- The plan of a tree is in canonical form. -/
def NodePlan.Canonical (p : NodePlan) : Prop := p.info.Canonical ∧ CanonicalBelow p.children

/-- The plan of an application is in canonical form. Where it may leave a value out, the value is
not null. -/
structure AppPlan.Canonical (a : AppPlan) : Prop where
  components : ∀ p ∈ a.components, p.Canonical
  theme : ∀ v, a.theme? = some v → v ≠ .null ∧ v.canonical = v
  functionality : ∀ v, a.functionality? = some v → v ≠ .null ∧ v.canonical = v

/-! ### What is read is in canonical form -/

/-- The options of a behavior that reads are in canonical form. -/
theorem BehaviorPlan.canonical_of_ofValue? {v : Value} {b : BehaviorPlan}
    (h : BehaviorPlan.ofValue? v = some b) : b.options.canonical = b.options := by
  rw [ofValue?] at h
  obtain ⟨given, -, h⟩ := Option.bind_eq_some_iff.mp h
  obtain ⟨behavior, -, h⟩ := Option.bind_eq_some_iff.mp h
  obtain ⟨options, hoptions, h⟩ := Option.bind_eq_some_iff.mp h
  obtain rfl := Option.some.inj h
  refine of_withDefault (p := fun v => v.canonical = v) hoptions rfl fun {v} hv => ?_
  obtain rfl := Option.some.inj hv
  exact canonical_canonical v

/-- What is read of one node is in canonical form. -/
theorem NodeInfo.canonical_of_ofValue? {v : Value} {info : NodeInfo}
    (h : NodeInfo.ofValue? v = some info) : info.Canonical := by
  rw [ofValue?] at h
  obtain ⟨given, -, h⟩ := Option.bind_eq_some_iff.mp h
  obtain ⟨id?, -, h⟩ := Option.bind_eq_some_iff.mp h
  obtain ⟨tag, -, h⟩ := Option.bind_eq_some_iff.mp h
  obtain ⟨properties, hproperties, h⟩ := Option.bind_eq_some_iff.mp h
  obtain ⟨styles, hstyles, h⟩ := Option.bind_eq_some_iff.mp h
  obtain ⟨events, hevents, h⟩ := Option.bind_eq_some_iff.mp h
  obtain ⟨methods, hmethods, h⟩ := Option.bind_eq_some_iff.mp h
  obtain ⟨region?, -, h⟩ := Option.bind_eq_some_iff.mp h
  obtain ⟨behaviors, hbehaviors, h⟩ := Option.bind_eq_some_iff.mp h
  obtain rfl := Option.some.inj h
  refine ⟨?properties, ?styles, ?events, ?methods, ?behaviors⟩
  case properties =>
    exact of_withDefault (p := fun d => (obj d).canonical = obj d) hproperties rfl
      canonical_of_dict?
  case styles =>
    exact of_withDefault (p := fun d => (obj d).canonical = obj d) hstyles rfl canonical_of_dict?
  case events => exact of_withDefault hevents .nil sorted_of_dictOf?
  case methods => exact of_withDefault hmethods .nil sorted_of_dictOf?
  case behaviors =>
    refine of_withDefault (p := fun behaviors => ∀ b ∈ behaviors, b.options.canonical = b.options)
      hbehaviors nofun fun h => of_listOf? h BehaviorPlan.canonical_of_ofValue?

mutual
/-- The children in the value of a node are in canonical form. -/
theorem canonicalBelow_of_childrenOf? : {v : Value} → {children : List ChildPlan} →
    childrenOf? v = some children → CanonicalBelow children
  | .obj fields, _, h => by
      rw [childrenOf?] at h
      exact canonicalBelow_of_childrenInFields? h
  | .arr (_ :: _ :: _ :: v :: _), _, h => by
      rw [childrenOf?] at h
      exact canonicalBelow_of_childList? h
  | .arr [], _, h | .arr [_], _, h | .arr [_, _], _, h | .arr [_, _, _], _, h
  | .null, _, h | .bool _, _, h | .num _, _, h | .str _, _, h => by
      rw [childrenOf?] at h
      · obtain rfl := Option.some.inj h
        exact .nil
      all_goals nofun
/-- The children in the fields of a node are in canonical form. -/
theorem canonicalBelow_of_childrenInFields? : {fields : List (String × Value)} →
    {children : List ChildPlan} → childrenInFields? fields = some children →
      CanonicalBelow children
  | [], _, h => by
      rw [childrenInFields?] at h
      obtain rfl := Option.some.inj h
      exact .nil
  | (name, v) :: rest, _, h => by
      rw [childrenInFields?] at h
      split at h
      · exact canonicalBelow_of_childList? h
      · exact canonicalBelow_of_childrenInFields? h
/-- The children in a list are in canonical form. -/
theorem canonicalBelow_of_childList? : {v : Value} → {children : List ChildPlan} →
    childList? v = some children → CanonicalBelow children
  | .arr items, _, h => by
      rw [childList?] at h
      exact canonicalBelow_of_childPlans? h
  | .null, _, h | .bool _, _, h | .num _, _, h | .str _, _, h | .obj _, _, h => by
      rw [childList?] at h
      · cases h
      · nofun
/-- Children that are read one by one are in canonical form. -/
theorem canonicalBelow_of_childPlans? : {items : List Value} → {children : List ChildPlan} →
    childPlans? items = some children → CanonicalBelow children
  | [], _, h => by
      rw [childPlans?] at h
      obtain rfl := Option.some.inj h
      exact .nil
  | v :: rest, _, h => by
      rw [childPlans?] at h
      obtain ⟨child, hchild, h⟩ := Option.bind_eq_some_iff.mp h
      obtain ⟨others, hrest, h⟩ := Option.bind_eq_some_iff.mp h
      obtain rfl := Option.some.inj h
      exact canonicalBelow_cons hchild (canonicalBelow_of_childPlans? hrest)
/-- A child that is read is in canonical form, in front of others that are. -/
theorem canonicalBelow_cons : {v : Value} → {child : ChildPlan} → {rest : List ChildPlan} →
    childPlan? v = some child → CanonicalBelow rest → CanonicalBelow (child :: rest)
  | .str _, _, _, h, hrest => by
      rw [childPlan?] at h
      obtain rfl := Option.some.inj h
      exact .text hrest
  | .null, _, _, h, hrest | .bool _, _, _, h, hrest | .num _, _, _, h, hrest
  | .arr _, _, _, h, hrest | .obj _, _, _, h, hrest => by
      rw [childPlan?] at h
      · obtain ⟨info, hinfo, h⟩ := Option.bind_eq_some_iff.mp h
        obtain ⟨children, hchildren, h⟩ := Option.bind_eq_some_iff.mp h
        obtain rfl := Option.some.inj h
        exact .node (NodeInfo.canonical_of_ofValue? hinfo)
          (canonicalBelow_of_childrenOf? hchildren) hrest
      · nofun
end

/-- A plan of a tree that reads is in canonical form. -/
theorem NodePlan.canonical_of_ofValue? {v : Value} {p : NodePlan}
    (h : NodePlan.ofValue? v = some p) : p.Canonical := by
  rw [ofValue?] at h
  obtain ⟨info, hinfo, h⟩ := Option.bind_eq_some_iff.mp h
  obtain ⟨children, hchildren, h⟩ := Option.bind_eq_some_iff.mp h
  obtain rfl := Option.some.inj h
  exact ⟨NodeInfo.canonical_of_ofValue? hinfo, canonicalBelow_of_childrenOf? hchildren⟩

/-- A plan of an application that reads is in canonical form. -/
theorem AppPlan.canonical_of_ofValue? {v : Value} {a : AppPlan}
    (h : AppPlan.ofValue? v = some a) : a.Canonical := by
  rw [ofValue?] at h
  obtain ⟨given, -, h⟩ := Option.bind_eq_some_iff.mp h
  obtain ⟨layout, -, h⟩ := Option.bind_eq_some_iff.mp h
  obtain ⟨components, hcomponents, h⟩ := Option.bind_eq_some_iff.mp h
  obtain ⟨theme?, htheme, h⟩ := Option.bind_eq_some_iff.mp h
  obtain ⟨functionality?, hfunctionality, h⟩ := Option.bind_eq_some_iff.mp h
  obtain ⟨wires, -, h⟩ := Option.bind_eq_some_iff.mp h
  obtain rfl := Option.some.inj h
  refine ⟨?components, ?theme, ?functionality⟩
  case components =>
    refine of_withDefault (p := fun components => ∀ p ∈ components, p.Canonical) hcomponents nofun
      fun h => of_listOf? (p := NodePlan.Canonical) h NodePlan.canonical_of_ofValue?
  case theme =>
    rintro v rfl
    exact canonical_of_optional htheme
  case functionality =>
    rintro v rfl
    exact canonical_of_optional hfunctionality

/-! ### What is written reads back -/

/-- Code reads back. -/
theorem CodePlan.ofValue?_toValue (c : CodePlan) : CodePlan.ofValue? c.toValue = some c := by
  cases c with
  | plain code => rfl
  | detailed code affected =>
      have haffected : listOf? text? (.arr (affected.map .str)) = some affected :=
        listOf?_arr fun _ _ => rfl
      rw [toValue, ofValue?, record?_obj (by simp) (by simp)]
      simp [required, withDefault, Dict.get?_cons_self, Dict.get?_cons_of_ne, text?, haffected]

/-- A behavior reads back. -/
theorem BehaviorPlan.ofValue?_toValue {b : BehaviorPlan} (h : b.options.canonical = b.options) :
    BehaviorPlan.ofValue? b.toValue = some b := by
  rw [toValue, ofValue?, record?_obj (by simp [behaviorFields]) (by simp)]
  simp [required, withDefault, Dict.get?_cons_self, Dict.get?_cons_of_ne, text?, h]

/-- What is said of one node reads back, whatever its children are. -/
theorem NodeInfo.ofValue?_toValue {info : NodeInfo} (h : info.Canonical) (children : List Value) :
    NodeInfo.ofValue? (info.toValue children) = some info := by
  obtain ⟨id?, tag, properties, styles, events, methods, region?, behaviors⟩ := info
  have hevents : dictOf? CodePlan.ofValue? (.obj (Dict.mapValues CodePlan.toValue events)) =
      some events :=
    dictOf?_mapValues h.events fun e _ => e.2.ofValue?_toValue
  have hmethods : dictOf? CodePlan.ofValue? (.obj (Dict.mapValues CodePlan.toValue methods)) =
      some methods :=
    dictOf?_mapValues h.methods fun e _ => e.2.ofValue?_toValue
  have hbehaviors : listOf? BehaviorPlan.ofValue? (.arr (behaviors.map BehaviorPlan.toValue)) =
      some behaviors :=
    listOf?_arr fun b hb => BehaviorPlan.ofValue?_toValue (h.behaviors b hb)
  cases id? <;> cases region? <;>
  · rw [toValue, ofValue?, record?_obj (by simp [nodeFields, optionalField])
      (by simp [optionalField])]
    simp [required, withDefault, Value.optional, optionalField, Dict.get?_nil, Dict.get?_cons_self,
      Dict.get?_cons_of_ne, text?, hevents, hmethods, hbehaviors, dict?_obj h.properties,
      dict?_obj h.styles]

/-- The children of a node are the children that its value describes. -/
theorem childrenOf?_toValue (info : NodeInfo) (children : List Value) :
    childrenOf? (info.toValue children) = childPlans? children := by
  rw [NodeInfo.toValue]
  simp [childrenOf?, childrenInFields?, childList?]

/-- A node in front of other children is read as such. -/
theorem childPlan?_toValue {info : NodeInfo} (h : info.Canonical) {children : List ChildPlan}
    {values : List Value} (hchildren : childPlans? values = some children) :
    childPlan? (info.toValue values) = some (.node info children) := by
  have hinfo := NodeInfo.ofValue?_toValue h values
  have hvalues := (childrenOf?_toValue info values).trans hchildren
  rw [childPlan?, hinfo]
  · change (childrenOf? _).bind _ = _
    rw [hvalues]
    rfl
  · rw [NodeInfo.toValue]
    nofun

/-- Children in canonical form read back. -/
theorem CanonicalBelow.childPlans?_childValues {children : List ChildPlan}
    (h : CanonicalBelow children) : childPlans? (childValues children) = some children := by
  induction h with
  | nil => rw [childValues, childPlans?]
  | text _ ih =>
      rw [childValues, childPlans?, childPlan?, ih]
      rfl
  | node hinfo _ _ ihchildren ihrest =>
      rw [childValues, childPlans?, childPlan?_toValue hinfo ihchildren, ihrest]
      rfl

/-- A plan of a tree in canonical form reads back. -/
theorem NodePlan.ofValue?_toValue {p : NodePlan} (h : p.Canonical) :
    NodePlan.ofValue? p.toValue = some p := by
  rw [ofValue?, toValue, NodeInfo.ofValue?_toValue h.1, childrenOf?_toValue,
    h.2.childPlans?_childValues]
  rfl

/-- A layout reads back. -/
theorem Layout.ofValue?_toValue (l : Layout) : Layout.ofValue? l.toValue = some l := by
  have hregions : listOf? text? (.arr (l.regions.map .str)) = some l.regions :=
    listOf?_arr fun _ _ => rfl
  rw [toValue, ofValue?, record?_obj (by simp [layoutFields]) (by simp)]
  simp [withDefault, Dict.get?_cons_self, Dict.get?_cons_of_ne, text?, hregions]

/-- A connection reads back. -/
theorem Wire.ofValue?_toValue (w : Wire) : Wire.ofValue? w.toValue = some w := by
  obtain ⟨sourceId, sourcePoint, targetId, targetPoint, transform?⟩ := w
  cases transform? <;>
  · rw [toValue, ofValue?, record?_obj (by simp [wireFields, optionalField])
      (by simp [optionalField])]
    simp [required, Value.optional, optionalField, Dict.get?_nil, Dict.get?_cons_self,
      Dict.get?_cons_of_ne, text?]

/-- A plan of an application in canonical form reads back. -/
theorem AppPlan.ofValue?_toValue {a : AppPlan} (h : a.Canonical) :
    AppPlan.ofValue? a.toValue = some a := by
  obtain ⟨layout, components, theme?, functionality?, wires⟩ := a
  have hcomponents : listOf? NodePlan.ofValue? (.arr (components.map NodePlan.toValue)) =
      some components :=
    listOf?_arr fun p hp => NodePlan.ofValue?_toValue (h.components p hp)
  have hwires : listOf? Wire.ofValue? (.arr (wires.map Wire.toValue)) = some wires :=
    listOf?_arr fun w _ => w.ofValue?_toValue
  rw [toValue, ofValue?, record?_obj]
  case hdeclared => cases theme? <;> cases functionality? <;> simp [optionalField]
  case hnodup => cases theme? <;> cases functionality? <;> simp [optionalField]
  cases theme? <;> cases functionality? <;>
    simp [withDefault, optionalField, Dict.get?_nil, Dict.get?_cons_self, Dict.get?_cons_of_ne,
      hcomponents, hwires, Layout.ofValue?_toValue, (optional_of_get? · h.theme),
      (optional_of_get? · h.functionality)]

/-! ### What is written is in canonical form -/

/-- A field that may be left out is in canonical form if its value is. -/
theorem canonical_of_mem_optionalField {name : String} {v? : Option Value}
    (h : ∀ v, v? = some v → v.canonical = v) :
    ∀ f ∈ optionalField name v?, f.2.canonical = f.2 := by
  cases v? with
  | none => exact nofun
  | some v => exact List.forall_mem_singleton.mpr (h v rfl)

/-- Code is written in canonical form. -/
theorem CodePlan.canonical_toValue (c : CodePlan) : c.toValue.canonical = c.toValue := by
  cases c with
  | plain code => rfl
  | detailed code affected =>
      have haffected : (arr (affected.map .str)).canonical = arr (affected.map .str) :=
        canonical_arr_map fun _ _ => rfl
      refine canonical_obj_of_sorted ?_ ?_
      · simp [Dict.Sorted, -String.lt_iff_ltb]
      · simp [haffected, canonical_str]

/-- A behavior is written in canonical form. -/
theorem BehaviorPlan.canonical_toValue {b : BehaviorPlan} (h : b.options.canonical = b.options) :
    b.toValue.canonical = b.toValue := by
  refine canonical_obj_of_sorted ?_ ?_
  · simp [Dict.Sorted, -String.lt_iff_ltb]
  · simp [h, canonical_str]

/-- What is said of one node is written in canonical form. -/
theorem NodeInfo.canonical_toValue {info : NodeInfo} (h : info.Canonical) {children : List Value}
    (hchildren : (arr children).canonical = arr children) :
    (info.toValue children).canonical = info.toValue children := by
  have hbehaviors : (arr (info.behaviors.map BehaviorPlan.toValue)).canonical =
      arr (info.behaviors.map BehaviorPlan.toValue) :=
    canonical_arr_map fun b hb => BehaviorPlan.canonical_toValue (h.behaviors b hb)
  refine canonical_obj_of_sorted ?_ ?_
  · cases info.id? <;> cases info.region? <;>
      simp [optionalField, Dict.Sorted, -String.lt_iff_ltb]
  · cases info.id? <;> cases info.region? <;>
      simp [optionalField, hchildren, hbehaviors, h.properties, h.styles, canonical_str,
        canonical_mapValues h.events fun e _ => e.2.canonical_toValue,
        canonical_mapValues h.methods fun e _ => e.2.canonical_toValue]

/-- Children in canonical form are written in canonical form. -/
theorem CanonicalBelow.canonical_childValues {children : List ChildPlan}
    (h : CanonicalBelow children) :
    (arr (childValues children)).canonical = arr (childValues children) := by
  induction h with
  | nil => rw [childValues, canonical, canonicalItems]
  | text _ ih =>
      rw [childValues]
      exact canonical_arr_cons (canonical_str _) ih
  | node hinfo _ _ ihchildren ihrest =>
      rw [childValues]
      exact canonical_arr_cons (NodeInfo.canonical_toValue hinfo ihchildren) ihrest

/-- A plan of a tree in canonical form is written in canonical form. -/
theorem NodePlan.canonical_toValue {p : NodePlan} (h : p.Canonical) :
    p.toValue.canonical = p.toValue :=
  NodeInfo.canonical_toValue h.1 h.2.canonical_childValues

/-- A layout is written in canonical form. -/
theorem Layout.canonical_toValue (l : Layout) : l.toValue.canonical = l.toValue := by
  have hregions : (arr (l.regions.map .str)).canonical = arr (l.regions.map .str) :=
    canonical_arr_map fun _ _ => rfl
  refine canonical_obj_of_sorted ?_ ?_
  · simp [Dict.Sorted, -String.lt_iff_ltb]
  · simp [hregions, canonical_str]

/-- A connection is written in canonical form. -/
theorem Wire.canonical_toValue (w : Wire) : w.toValue.canonical = w.toValue := by
  refine canonical_obj_of_sorted ?_ ?_
  · cases w.transform? <;>
      simp [optionalField, Dict.Sorted, -String.lt_iff_ltb]
  · cases w.transform? <;> simp [optionalField, canonical_str]

/-- A plan of an application in canonical form is written in canonical form. -/
theorem AppPlan.canonical_toValue {a : AppPlan} (h : a.Canonical) :
    a.toValue.canonical = a.toValue := by
  have hcomponents : (arr (a.components.map NodePlan.toValue)).canonical =
      arr (a.components.map NodePlan.toValue) :=
    canonical_arr_map fun p hp => NodePlan.canonical_toValue (h.components p hp)
  have hwires : (arr (a.wires.map Wire.toValue)).canonical = arr (a.wires.map Wire.toValue) :=
    canonical_arr_map fun w _ => w.canonical_toValue
  refine canonical_obj_of_sorted ?_ ?_
  · cases a.theme? <;> cases a.functionality? <;>
      simp [optionalField, Dict.Sorted, -String.lt_iff_ltb]
  · have htheme : ∀ f ∈ optionalField "theme" a.theme?, f.2.canonical = f.2 :=
      canonical_of_mem_optionalField fun v hv => (h.theme v hv).2
    have hfunctionality : ∀ f ∈ optionalField "functionality" a.functionality?,
        f.2.canonical = f.2 :=
      canonical_of_mem_optionalField fun v hv => (h.functionality v hv).2
    simp only [List.forall_mem_append, List.forall_mem_cons]
    exact ⟨⟨⟨⟨hcomponents, hwires, nofun⟩, hfunctionality⟩, a.layout.canonical_toValue, nofun⟩,
      htheme⟩

/-! ### Reading, writing and reading again -/

/-- **A plan that was read survives being written and read again.** Whatever the value was that a
tree or an application was read from, the value that is written is in canonical form and reads as
the same plan, so that writing the plan once more gives the same value. -/
theorem plans_read_back (v : Value) :
    (∀ p, NodePlan.ofValue? v = some p →
      NodePlan.ofValue? p.toValue = some p ∧
        (NodePlan.ofValue? p.toValue).map NodePlan.toValue = some p.toValue ∧
        p.toValue.canonical = p.toValue) ∧
    ∀ a, AppPlan.ofValue? v = some a →
      AppPlan.ofValue? a.toValue = some a ∧
        (AppPlan.ofValue? a.toValue).map AppPlan.toValue = some a.toValue ∧
        a.toValue.canonical = a.toValue := by
  refine ⟨fun p hp => ?tree, fun a ha => ?app⟩
  case tree =>
    have hcanonical := NodePlan.canonical_of_ofValue? hp
    have hread := NodePlan.ofValue?_toValue hcanonical
    exact ⟨hread, congrArg (Option.map _) hread, NodePlan.canonical_toValue hcanonical⟩
  case app =>
    have hcanonical := AppPlan.canonical_of_ofValue? ha
    have hread := AppPlan.ofValue?_toValue hcanonical
    exact ⟨hread, congrArg (Option.map _) hread, AppPlan.canonical_toValue hcanonical⟩

/-- An application whose one tree is given as a list of fields, with a text and a node in it. The
node has a region that is null, a field that is unknown, and code of both kinds. -/
def mixedForms : Value :=
  .obj [("theme", .null),
    ("components", .arr [.arr [.str "card", .str "container", .obj [("b", .null), ("a", .str "x")],
      .arr [.str "hello",
        .obj [("type", .str "button"), ("region", .null), ("note", .bool true),
          ("events", .obj [("onClick", .str "return 1"), ("blur", .obj [("code", .str "return 2"),
            ("affectedComponents", .arr [.str "card"])])])]]]]),
    ("functionality", .obj [("y", .num (.int 1)), ("x", .arr [])])]

/-- The application of mixed forms is read, and survives being written and read again. -/
theorem plans_read_back_mixedForms : ∃ a, AppPlan.ofValue? mixedForms = some a ∧
    a.components.length = 1 ∧ AppPlan.ofValue? a.toValue = some a := by
  have hread : (AppPlan.ofValue? mixedForms).map (·.components.length) = some 1 := by
    simp [mixedForms, AppPlan.ofValue?, NodePlan.ofValue?, NodeInfo.ofValue?, CodePlan.ofValue?,
      childrenOf?, childrenInFields?, childList?, childPlans?, childPlan?, record?, nodeFields,
      required, withDefault, Value.optional, listOf?, dict?, dictOf?, text?, fields?, Dict.get?_nil,
      Dict.get?_cons_self, Dict.get?_cons_of_ne, Dict.ofEntries, Dict.insert, canonical,
      canonicalItems, canonicalFields, -String.lt_iff_ltb]
  obtain ⟨a, ha, hlength⟩ := Option.map_eq_some_iff.mp hread
  exact ⟨a, ha, hlength, ((plans_read_back mixedForms).2 a ha).1⟩

end WidgetFlow
