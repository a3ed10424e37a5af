import Mathlib.Data.String.Basic
import WidgetFlow.Proofs.Dict
import WidgetFlow.Value.Merge

/-!
# Merging is a recursive union

Merging changes a record in place while it goes through the fields of the overlay. This module says
what comes out: a union of the two records in which the overlay wins, and in which records that
stand under one key on both sides are merged in turn.

## Conventions

A record is `Orderly` if it is a dictionary and so are the records within it, however deep they are
nested in each other. What stands in lists does not matter here, since lists are not merged. Every
value in canonical form is orderly, and merging keeps it so. A path is a list of keys, and
`Value.below?` follows it from record to record.

## Main results

* `orderly_canonical`, `Orderly.merge`: the values that are read and merged are orderly.
* `get?_mergeFields`: what a look-up in a merged record gives.
* `below?_mergeFields`: where two records are merged, so are the records below them along the paths
  that lead to records on both sides.
* `merge_self`, `merge_merge`: merging an overlay into itself, or a second time, changes nothing.
* `merge_overlays`: **merging is a recursive union in which the overlay wins.**
-/

namespace WidgetFlow

namespace Value

variable {b o b' o' : Dict Value} {v old : Value} {key : String}

/-! ### Records of records -/

/-- A value is no record, or a dictionary of such values. -/
inductive Orderly : Value → Prop
  | leaf {v : Value} (h : v.fields? = none) : Orderly v
  | record {fields : Dict Value} (sorted : Dict.Sorted fields)
      (below : ∀ {key v}, Dict.get? fields key = some v → Orderly v) : Orderly (.obj fields)

/-- An orderly record is a dictionary. -/
theorem Orderly.sorted (h : (Value.obj b).Orderly) : Dict.Sorted b := by
  cases h with
  | leaf h => exact nomatch h
  | record hsorted _ => exact hsorted

/-- The fields of an orderly record are orderly. -/
theorem Orderly.of_get? (h : (Value.obj b).Orderly) (hv : Dict.get? b key = some v) :
    v.Orderly := by
  cases h with
  | leaf h => exact nomatch h
  | record _ hbelow => exact hbelow hv

mutual
/-- A value in canonical form is orderly. -/
theorem orderly_canonical : (v : Value) → v.canonical.Orderly
  | .obj fields => by
      rw [canonical]
      refine .record (Dict.Sorted.union .nil _) fun {key w} hw => ?_
      have hmem : (key, w) ∈ canonicalFields fields :=
        (Dict.mem_union (Dict.mem_of_get? hw)).resolve_left List.not_mem_nil
      exact orderly_canonicalFields fields hmem
  | .arr items => by
      rw [canonical]
      exact .leaf rfl
  | .null | .bool _ | .num _ | .str _ => .leaf rfl
/-- The fields of a record in canonical form are orderly. -/
theorem orderly_canonicalFields : (fields : List (String × Value)) → {key : String} → {w : Value} →
    (key, w) ∈ canonicalFields fields → w.Orderly
  | [], _, _, h => absurd h List.not_mem_nil
  | (k, v) :: rest, key, w, h => by
      rw [canonicalFields] at h
      rcases List.mem_cons.mp h with heq | h
      · obtain ⟨rfl, rfl⟩ := Prod.mk.inj heq
        exact orderly_canonical v
      · exact orderly_canonicalFields rest h
end

/-- The value at the end of a path of keys that leads from record to record. -/
def below? : List String → Value → Option Value
  | [], v => some v
  | key :: rest, v => (v.field? key).bind (below? rest)

/-- A path goes on where another one ends. -/
theorem below?_append (path rest : List String) (v : Value) :
    below? (path ++ rest) v = (below? path v).bind (below? rest) := by
  induction path generalizing v with
  | nil => rfl
  | cons key path ih =>
      rw [List.cons_append, below?, below?]
      cases v.field? key with
      | none => rfl
      | some w => exact ih w

/-- What is below an orderly value is orderly. -/
theorem Orderly.below? {path : List String} (h : v.Orderly) (hw : below? path v = some old) :
    old.Orderly := by
  induction path generalizing v with
  | nil => exact Option.some.inj hw ▸ h
  | cons key rest ih =>
      obtain ⟨w, hfield, hrest⟩ := Option.bind_eq_some_iff.mp hw
      cases v with
      | obj fields => exact ih (h.of_get? hfield) hrest
      | _ => exact nomatch hfield

/-! ### Look-ups -/

/-- Merging two records merges their fields. -/
theorem merge_obj : merge (.obj b) (.obj o) = .obj (mergeFields b o) := by rw [merge]

/-- Unless both are records, the overlay wins. -/
theorem merge_of_leaf (h : old.fields? = none ∨ v.fields? = none) : merge old v = v := by
  cases v with
  | obj overlay =>
      cases old with
      | obj fields => exact (h.elim nofun nofun : False).elim
      | _ => rw [merge]; exact nofun
  | _ => rw [merge]; exact nofun

/-- The first field of an overlay is merged into the field of its key, if there is one. -/
theorem mergeFields_cons (b rest : Dict Value) (key : String) (v : Value) :
    mergeFields b ((key, v) :: rest) =
      mergeFields (Dict.insert b key (((Dict.get? b key).map (merge · v)).getD v)) rest := by
  rw [mergeFields]
  cases Dict.get? b key <;> rfl

/-- **A look-up in a merged record**: a key of the overlay gives its value there, merged into the
one that was there before if there is one, and any other key gives what it gave before. -/
theorem get?_mergeFields (ho : Dict.Sorted o) :
    Dict.get? (mergeFields b o) key =
      ((Dict.get? o key).map fun v => ((Dict.get? b key).map (merge · v)).getD v).or
        (Dict.get? b key) := by
  induction o generalizing b with
  | nil => rw [mergeFields]; rfl
  | cons first rest ih =>
      obtain ⟨k, v⟩ := first
      obtain ⟨hhead, hrest⟩ := List.pairwise_cons.mp ho
      rw [mergeFields_cons, ih hrest, Dict.get?_cons]
      split
      · next hk =>
          subst hk
          -- the key does not come again
          have hnone : Dict.get? rest k = none := by
            rw [Option.eq_none_iff_forall_ne_some]
            exact fun w hw => lt_irrefl k (hhead (k, w) (Dict.mem_of_get? hw))
          rw [hnone, Dict.get?_insert_self]
          rfl
      · next hk => rw [Dict.get?_insert_of_ne hk]

/-- Merging keeps a record a dictionary. -/
theorem sorted_mergeFields (hb : Dict.Sorted b) (o : Dict Value) :
    Dict.Sorted (mergeFields b o) := by
  induction o generalizing b with
  | nil => rwa [mergeFields]
  | cons first rest ih =>
      rw [mergeFields_cons]
      exact ih hb.insert

/-- A key that only the first record has keeps its value. -/
theorem get?_mergeFields_of_none (ho : Dict.Sorted o) (h : Dict.get? o key = none) :
    Dict.get? (mergeFields b o) key = Dict.get? b key := by
  rw [get?_mergeFields ho, h]
  rfl

/-- A key of both records gets the value of the second, merged into that of the first. -/
theorem get?_mergeFields_of_both (ho : Dict.Sorted o) (hb : Dict.get? b key = some old)
    (hv : Dict.get? o key = some v) :
    Dict.get? (mergeFields b o) key = some (merge old v) := by
  rw [get?_mergeFields ho, hb, hv]
  rfl

/-- A key that only the second record has gets its value. -/
theorem get?_mergeFields_of_new (ho : Dict.Sorted o) (hb : Dict.get? b key = none)
    (hv : Dict.get? o key = some v) : Dict.get? (mergeFields b o) key = some v := by
  rw [get?_mergeFields ho, hb, hv]
  rfl

/-- A merged record has the keys of both. -/
theorem contains_mergeFields (ho : Dict.Sorted o) :
    Dict.contains (mergeFields b o) key = (Dict.contains b key || Dict.contains o key) := by
  rw [Dict.contains, get?_mergeFields ho, Dict.contains, Dict.contains]
  cases Dict.get? o key <;> simp

/-- Merging keeps a value orderly. -/
theorem Orderly.merge (hold : old.Orderly) (hv : v.Orderly) : (merge old v).Orderly := by
  induction hv generalizing old with
  | leaf h =>
      rw [merge_of_leaf (.inr h)]
      exact .leaf h
  | @record overlay hsorted hbelow ih =>
      cases hold with
      | leaf h =>
          rw [merge_of_leaf (.inl h)]
          exact .record hsorted hbelow
      | @record fields hfields hold =>
          rw [merge_obj]
          refine .record (sorted_mergeFields hfields overlay) fun {key w} hw => ?_
          cases hv : Dict.get? overlay key with
          | none => exact hold (get?_mergeFields_of_none hsorted hv ▸ hw)
          | some v =>
              cases hb : Dict.get? fields key with
              | none =>
                  obtain rfl := Option.some.inj (get?_mergeFields_of_new hsorted hb hv ▸ hw)
                  exact hbelow hv
              | some old =>
                  obtain rfl := Option.some.inj (get?_mergeFields_of_both hsorted hb hv ▸ hw)
                  exact ih hv (hold hb)

/-! ### Records at the end of a path -/

/-- Where two records are merged, so are the records below them along a path that leads to records
on both sides. -/
theorem below?_mergeFields (ho : (Value.obj o).Orderly) {path : List String}
    (hb' : (Value.obj b).below? path = some (.obj b'))
    (ho' : (Value.obj o).below? path = some (.obj o')) :
    (Value.obj (mergeFields b o)).below? path = some (.obj (mergeFields b' o')) := by
  induction path generalizing b o with
  | nil =>
      cases hb'
      cases ho'
      rfl
  | cons key rest ih =>
      obtain ⟨old, hold, hb'⟩ := Option.bind_eq_some_iff.mp hb'
      obtain ⟨v, hv, ho'⟩ := Option.bind_eq_some_iff.mp ho'
      have hmerged : (Value.obj (mergeFields b o)).field? key = some (merge old v) :=
        get?_mergeFields_of_both ho.sorted hold hv
      rw [below?, hmerged, Option.bind_some]
      -- a value without fields ends the path, and then it is no record on this side
      cases rest with
      | nil =>
          cases hb'
          cases ho'
          rw [merge_obj]
          rfl
      | cons key' rest =>
          cases old with
          | obj fields =>
              cases v with
              | obj overlay =>
                  rw [merge_obj]
                  exact ih (ho.of_get? hv) hb' ho'
              | _ => exact nomatch ho'
          | _ => exact nomatch hb'

/-! ### Merging the same overlay -/

/-- Merging an orderly value into itself changes nothing. -/
theorem merge_self (h : v.Orderly) : merge v v = v := by
  induction h with
  | leaf h => exact merge_of_leaf (.inl h)
  | @record fields hsorted _ ih =>
      rw [merge_obj]
      refine congrArg _ ((sorted_mergeFields hsorted _).ext hsorted fun key => ?_)
      cases hv : Dict.get? fields key with
      | none => rw [get?_mergeFields_of_none hsorted hv, hv]
      | some v => rw [get?_mergeFields_of_both hsorted hv hv, ih hv]

/-- Merging an overlay a second time changes nothing. -/
theorem merge_merge (hold : old.Orderly) (hv : v.Orderly) :
    merge (merge old v) v = merge old v := by
  induction hv generalizing old with
  | leaf h => rw [merge_of_leaf (.inr h), merge_of_leaf (.inr h)]
  | @record overlay hsorted hbelow ih =>
      cases hold with
      | leaf h => rw [merge_of_leaf (.inl h), merge_self (.record hsorted hbelow)]
      | @record fields hfields hold =>
          have hmerged := sorted_mergeFields hfields overlay
          rw [merge_obj, merge_obj]
          refine congrArg _ ((sorted_mergeFields hmerged overlay).ext hmerged fun key => ?_)
          cases hv : Dict.get? overlay key with
          | none => rw [get?_mergeFields_of_none hsorted hv]
          | some v =>
              cases hb : Dict.get? fields key with
              | none =>
                  have hnew := get?_mergeFields_of_new hsorted hb hv
                  rw [get?_mergeFields_of_both hsorted hnew hv, hnew, merge_self (hbelow hv)]
              | some w =>
                  have hboth := get?_mergeFields_of_both hsorted hb hv
                  rw [get?_mergeFields_of_both hsorted hboth hv, hboth, ih hv (hold hb)]

/-- Merging an overlay into the empty record gives the overlay. -/
theorem mergeFields_nil (ho : Dict.Sorted o) : mergeFields [] o = o := by
  refine (sorted_mergeFields .nil o).ext ho fun key => ?_
  cases hv : Dict.get? o key with
  | none => exact get?_mergeFields_of_none ho hv
  | some v => exact get?_mergeFields_of_new ho rfl hv

/-! ### Unions -/

/-- A record is the union of two records, in which the second one wins and records that stand under
one key on both sides are merged. -/
structure Overlays (b o m : Dict Value) : Prop where
  sorted : Dict.Sorted m
  keys : ∀ {key}, key ∈ Dict.keys m ↔ key ∈ Dict.keys b ∨ key ∈ Dict.keys o
  kept : ∀ {key}, key ∉ Dict.keys o → Dict.get? m key = Dict.get? b key
  taken : ∀ {key v}, Dict.get? o key = some v →
    v.fields? = none ∨ (Dict.get? b key).bind fields? = none → Dict.get? m key = some v
  merged : ∀ {key b' o'}, Dict.get? b key = some (.obj b') → Dict.get? o key = some (.obj o') →
    Dict.get? m key = some (.obj (mergeFields b' o'))

/-- A merged record is the union of the two. -/
theorem overlays_mergeFields (hb : Dict.Sorted b) (ho : Dict.Sorted o) :
    Overlays b o (mergeFields b o) where
  sorted := sorted_mergeFields hb o
  keys := by
    intro key
    rw [Dict.mem_keys_iff, Dict.mem_keys_iff, Dict.mem_keys_iff, contains_mergeFields ho,
      Bool.or_eq_true]
  kept hkey := get?_mergeFields_of_none ho (Dict.get?_eq_none_of_not_mem hkey)
  taken {key v} hv hleaf := by
    cases hold : Dict.get? b key with
    | none => exact get?_mergeFields_of_new ho hold hv
    | some old =>
        rw [hold, or_comm] at hleaf
        rw [get?_mergeFields_of_both ho hold hv, merge_of_leaf hleaf]
  merged hb' ho' := by rw [get?_mergeFields_of_both ho hb' ho', merge_obj]

/-- **Merging is a recursive union in which the overlay wins.** Take two records whose records are
dictionaries, however deep they are nested.

* Along every path of keys that leads to records on both sides there is in the merged record the
  union of these two, merged in the same way. So a key that only the first record has there keeps
  its value.
* Merging an empty overlay changes nothing, and merging into an empty record gives the overlay.
* Merging a record into itself changes nothing, and so does merging an overlay a second time. -/
theorem merge_overlays (hb : (Value.obj b).Orderly) (ho : (Value.obj o).Orderly) :
    (∀ path b' o', (Value.obj b).below? path = some (.obj b') →
      (Value.obj o).below? path = some (.obj o') →
      ∃ m', (merge (.obj b) (.obj o)).below? path = some (.obj m') ∧
        m' = mergeFields b' o' ∧ Overlays b' o' m' ∧
        ∀ key, key ∉ Dict.keys o' →
          (merge (.obj b) (.obj o)).below? (path ++ [key]) =
            (Value.obj b).below? (path ++ [key])) ∧
    merge (.obj b) (.obj []) = .obj b ∧
    merge (.obj []) (.obj o) = .obj o ∧
    merge (.obj o) (.obj o) = .obj o ∧
    merge (merge (.obj b) (.obj o)) (.obj o) = merge (.obj b) (.obj o) := by
  refine ⟨fun path b' o' hb' ho' => ?_, ?_, ?_, merge_self ho, merge_merge hb ho⟩
  · have hmerged := below?_mergeFields ho hb' ho'
    have hunion := overlays_mergeFields (hb.below? hb').sorted (ho.below? ho').sorted
    refine ⟨mergeFields b' o', merge_obj ▸ hmerged, rfl, hunion, fun key hkey => ?_⟩
    rw [merge_obj, below?_append, below?_append, hmerged, hb', Option.bind_some, Option.bind_some,
      below?, below?]
    exact congrArg (·.bind (below? [])) (hunion.kept hkey)
  · rw [merge_obj, mergeFields]
  · rw [merge_obj, mergeFields_nil ho.sorted]

/-- A nested record keeps the field that its overlay does not have, and the overlay's record takes
the place of a number there. -/
theorem merge_overlays_position :
    let panel : Dict Value :=
      [("label", .str "a"), ("pos", .obj [("x", .ofInt 1), ("y", .ofInt 2)])]
    let overlay : Dict Value :=
      [("label", .obj []), ("pos", .obj [("y", .obj [("z", .null)])])]
    (Value.obj panel).Orderly ∧ (Value.obj overlay).Orderly ∧
      (∃ m, (merge (.obj panel) (.obj overlay)).below? ["pos"] = some (.obj m) ∧
        Dict.get? m "x" = some (.ofInt 1) ∧ Dict.get? m "y" = some (.obj [("z", .null)])) ∧
      merge (.obj overlay) (.obj overlay) = .obj overlay := by
  intro panel overlay
  have hpanel : (Value.obj panel).Orderly := orderly_canonical (.obj panel)
  have hoverlay : (Value.obj overlay).Orderly := orderly_canonical (.obj overlay)
  obtain ⟨hmerged, -, -, hself, -⟩ := merge_overlays hpanel hoverlay
  obtain ⟨m, hm, -, hunion, -⟩ := hmerged ["pos"] _ _ rfl rfl
  have hkept : Dict.get? m "x" = some (.ofInt 1) := hunion.kept (by decide)
  have htaken : Dict.get? m "y" = some (.obj [("z", .null)]) := hunion.taken rfl (.inr rfl)
  exact ⟨hpanel, hoverlay, ⟨m, hm, hkept, htaken⟩, hself⟩

end Value

end WidgetFlow
