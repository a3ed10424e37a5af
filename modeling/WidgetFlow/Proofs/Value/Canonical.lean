import WidgetFlow.Value.Record
import WidgetFlow.Proofs.Dict

/-!
# Canonical form, and reading what was written

Values that are kept for later are put in canonical form when they are read, so that reading them a
second time changes nothing (`canonical_canonical`). The readers of records, lists and dictionaries
give back what was written, field by field: `record?_obj` finds the fields again, and
`listOf?_arr` and `dictOf?_mapValues` read the items, if each of them reads back.
-/

namespace WidgetFlow

/-- A sorted list of entries is the dictionary of its entries. -/
theorem Dict.Sorted.ofEntries {α : Type u} {d : Dict α} (h : Dict.Sorted d) :
    Dict.ofEntries d = d := by
  refine (Dict.Sorted.union .nil d).ext h fun key => ?_
  rw [h.get?_union]
  cases Dict.get? d key <;> rfl

/-- A dictionary of entries is sorted. -/
theorem Dict.sorted_ofEntries {α : Type u} (entries : List (String × α)) :
    Dict.Sorted (Dict.ofEntries entries) :=
  .union .nil entries

namespace Value

variable {α : Type} {v : Value} {fields : List (String × Value)}

/-! ### Canonical form -/

/-- Fields are put in canonical form one by one. -/
theorem canonicalFields_eq_map (fields : List (String × Value)) :
    canonicalFields fields = fields.map fun f => (f.1, f.2.canonical) := by
  induction fields with
  | nil => rw [canonicalFields, List.map_nil]
  | cons f rest ih => rw [canonicalFields, List.map_cons, ih]

/-- A dictionary of values in canonical form is in canonical form. -/
theorem canonical_obj_of_sorted (h : Dict.Sorted fields)
    (hvalues : ∀ f ∈ fields, f.2.canonical = f.2) : (obj fields).canonical = obj fields := by
  have hfields : canonicalFields fields = fields := by
    rw [canonicalFields_eq_map]
    refine (List.map_congr_left fun f hf => ?_).trans (List.map_id fields)
    rw [hvalues f hf]
    rfl
  rw [canonical, hfields, h.ofEntries]

/-- A text is in canonical form. -/
theorem canonical_str (s : String) : (str s).canonical = str s := rfl

/-- A list in canonical form stays so with one more value in canonical form in front. -/
theorem canonical_arr_cons {items : List Value} (hv : v.canonical = v)
    (hitems : (arr items).canonical = arr items) :
    (arr (v :: items)).canonical = arr (v :: items) := by
  rw [canonical] at hitems
  rw [canonical, canonicalItems, hv, arr.inj hitems]

/-- A list that is written item by item is in canonical form if its items are. -/
theorem canonical_arr_map {write : α → Value} {items : List α}
    (h : ∀ a ∈ items, (write a).canonical = write a) :
    (arr (items.map write)).canonical = arr (items.map write) := by
  induction items with
  | nil => rfl
  | cons a rest ih =>
      obtain ⟨hfirst, hrest⟩ := List.forall_mem_cons.mp h
      exact canonical_arr_cons hfirst (ih hrest)

/-- A dictionary that is written value by value is in canonical form if its values are. -/
theorem canonical_mapValues {write : α → Value} {d : Dict α} (hd : Dict.Sorted d)
    (h : ∀ e ∈ d, (write e.2).canonical = write e.2) :
    (obj (Dict.mapValues write d)).canonical = obj (Dict.mapValues write d) := by
  refine canonical_obj_of_sorted (List.pairwise_map.mpr hd) fun f hf => ?_
  obtain ⟨e, he, rfl⟩ := List.mem_map.mp hf
  exact h e he

mutual
/-- **Putting a value in canonical form twice changes nothing more.** -/
theorem canonical_canonical : (v : Value) → v.canonical.canonical = v.canonical
  | .arr items => by
      rw [canonical, canonical]
      exact congrArg arr (canonicalItems_canonicalItems items)
  | .obj fields => by
      rw [canonical]
      refine canonical_obj_of_sorted (Dict.sorted_ofEntries _) fun f hf => ?_
      exact canonical_of_mem_canonicalFields fields
        ((Dict.mem_union hf).resolve_left List.not_mem_nil)
  | .null | .bool _ | .num _ | .str _ => rfl
/-- Items in canonical form stay as they are. -/
theorem canonicalItems_canonicalItems : (items : List Value) →
    canonicalItems (canonicalItems items) = canonicalItems items
  | [] => rfl
  | v :: rest => by
      rw [canonicalItems, canonicalItems, canonical_canonical v, canonicalItems_canonicalItems rest]
/-- Fields in canonical form stay as they are. -/
theorem canonical_of_mem_canonicalFields : (fields : List (String × Value)) →
    {f : String × Value} → f ∈ canonicalFields fields → f.2.canonical = f.2
  | [], _, h => absurd h List.not_mem_nil
  | (k, v) :: rest, f, h => by
      rw [canonicalFields] at h
      rcases List.mem_cons.mp h with rfl | h
      · exact canonical_canonical v
      · exact canonical_of_mem_canonicalFields rest h
end

/-! ### Reading what was written -/

/-- The fields of a record are found again, if they are declared and differ in their names. -/
theorem record?_obj {names : List String} (hdeclared : ∀ f ∈ fields, f.1 ∈ names)
    (hnodup : (fields.map (·.1)).Nodup) : (obj fields).record? names = some fields := by
  have hgiven : fields.filter (fun f => names.contains f.1) = fields :=
    List.filter_eq_self.mpr fun f hf => List.contains_iff_mem.mpr (hdeclared f hf)
  rw [record?, hgiven]
  exact if_pos hnodup

/-- Items that read back are read back as a list. -/
theorem mapM_map_write {β : Type} {read : β → Option α} {write : α → β} {items : List α}
    (h : ∀ a ∈ items, read (write a) = some a) : (items.map write).mapM read = some items := by
  induction items with
  | nil => rfl
  | cons a rest ih =>
      obtain ⟨hfirst, hrest⟩ := List.forall_mem_cons.mp h
      rw [List.map_cons, List.mapM_cons, hfirst, ih hrest]
      rfl

/-- A list reads back if its items do. -/
theorem listOf?_arr {read : Value → Option α} {write : α → Value} {items : List α}
    (h : ∀ a ∈ items, read (write a) = some a) :
    listOf? read (.arr (items.map write)) = some items :=
  mapM_map_write h

/-- A dictionary reads back if its values do. -/
theorem dictOf?_mapValues {read : Value → Option α} {write : α → Value} {d : Dict α}
    (hd : Dict.Sorted d) (h : ∀ e ∈ d, read (write e.2) = some e.2) :
    dictOf? read (.obj (Dict.mapValues write d)) = some d := by
  have hentries : ((d.map fun e => (e.1, write e.2)).mapM fun f =>
      (read f.2).map fun a => (f.1, a)) = some d := by
    refine mapM_map_write fun e he => ?_
    rw [h e he]
    rfl
  rw [dictOf?, Dict.mapValues, hentries, Option.map_some, hd.ofEntries]

/-- A dictionary in canonical form reads back. -/
theorem dict?_obj (h : (obj fields).canonical = obj fields) :
    dict? (.obj fields) = some fields := by
  rw [dict?, h]
  rfl

/-- A value in canonical form that is not null reads back from a field that may be left out. -/
theorem optional_of_get? {given : List (String × Value)} {name : String} {v? : Option Value}
    (hgiven : Dict.get? given name = v?) (h : ∀ v, v? = some v → v ≠ .null ∧ v.canonical = v) :
    optional given name (fun v => some v.canonical) = some v? := by
  rw [optional, hgiven]
  cases v? with
  | none => rfl
  | some v =>
      obtain ⟨hv, hcanonical⟩ := h v rfl
      cases v with
      | null => exact absurd rfl hv
      | _ => exact congrArg (fun v => some (some v)) hcanonical

/-! ### What is read -/

/-- What holds of everything that reads, holds of all items of a list that reads. -/
theorem of_listOf? {read : Value → Option α} {p : α → Prop} {items : List α}
    (h : listOf? read v = some items) (hread : ∀ {v a}, read v = some a → p a) :
    ∀ a ∈ items, p a := by
  cases v with
  | arr values =>
      rw [listOf?] at h
      induction values generalizing items with
      | nil =>
          obtain rfl := Option.some.inj h
          exact nofun
      | cons v rest ih =>
          rw [List.mapM_cons] at h
          obtain ⟨a, ha, h⟩ := Option.bind_eq_some_iff.mp h
          obtain ⟨others, hrest, h⟩ := Option.bind_eq_some_iff.mp h
          obtain rfl := Option.some.inj h
          exact List.forall_mem_cons.mpr ⟨hread ha, ih hrest⟩
  | _ => cases h

/-- A dictionary that reads is sorted. -/
theorem sorted_of_dictOf? {read : Value → Option α} {d : Dict α}
    (h : dictOf? read v = some d) : Dict.Sorted d := by
  cases v with
  | obj fields =>
      obtain ⟨entries, -, rfl⟩ := Option.map_eq_some_iff.mp h
      exact Dict.sorted_ofEntries entries
  | _ => cases h

/-- A record that is read as a dictionary is in canonical form. -/
theorem canonical_of_dict? {d : Dict Value} (h : dict? v = some d) :
    (obj d).canonical = obj d := by
  cases v with
  | obj fields =>
      rw [dict?, canonical] at h
      have hd : (obj fields).canonical = obj d := by
        rw [canonical]
        exact congrArg obj (Option.some.inj h)
      rw [← hd, canonical_canonical]
  | _ => cases h

/-- What holds of the default and of everything that reads, holds of a field with a default. -/
theorem of_withDefault {given : List (String × Value)} {name : String} {default a : α}
    {read : Value → Option α} {p : α → Prop}
    (h : withDefault given name default read = some a) (hdefault : p default)
    (hread : ∀ {v}, read v = some a → p a) : p a := by
  rw [withDefault] at h
  split at h
  · exact Option.some.inj h ▸ hdefault
  · exact hread h

/-- A field that may be null, and is read as it is, is in canonical form and not null. -/
theorem canonical_of_optional {given : List (String × Value)} {name : String} {a : Value}
    (h : optional given name (fun v => some v.canonical) = some (some a)) :
    a ≠ .null ∧ a.canonical = a := by
  rw [optional] at h
  split at h
  · cases h
  · cases h
  · next v hv _ =>
      obtain rfl := Option.some.inj (Option.some.inj h)
      refine ⟨fun hnull => ?_, canonical_canonical v⟩
      cases v <;> cases hnull
      exact hv rfl

end Value

end WidgetFlow
