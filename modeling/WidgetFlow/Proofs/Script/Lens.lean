import WidgetFlow.Proofs.Dict
import WidgetFlow.Proofs.Decimal.Count
import WidgetFlow.Script.Path

/-!
# Writing along a path

A write goes down a path and makes what is missing on its way, in place and step by step. It and the
reads of the handler language find the entries of a container in different ways: a write looks for a
place to put something, while a read takes null for whatever is not there.

`Spot` names an entry of a container, and `route path d` the spots that a path leads through in `d`.
`Overwrites path new d d'` says what a write does in these terms: the path reads back, whatever is
not on the route stays, and on the route containers only open up as far as they must.

## Main results

* `Opens.of_openSpot`: what is done to a container to make room for an entry.
* `write_of_error`: a write that fails has not changed anything.
* `write_lens`: **writes and reads along a path agree**.
-/

namespace WidgetFlow.Script

/-! ### Entries -/

section Entries

variable {d v : Value} {spot other : Spot}

/-- An entry that is set is there. -/
theorem entryAt?_setEntry_self {old : Value} (h : entryAt? d spot = some old) :
    entryAt? (setEntry d spot v) spot = some v := by
  cases d with
  | obj fields =>
      cases spot with
      | field k =>
          have hold : Dict.get? fields k = some old := h
          exact Dict.get?_modify_self.trans (by rw [hold]; rfl)
      | item k => cases h
  | arr items =>
      cases spot with
      | field k => cases h
      | item k => exact List.getElem?_set_self (List.getElem?_eq_some_iff.mp h).1
  | _ => cases h

/-- Setting an entry leaves the others. -/
theorem entryAt?_setEntry_of_ne (h : spot ≠ other) :
    entryAt? (setEntry d spot v) other = entryAt? d other := by
  cases d with
  | obj fields =>
      cases spot with
      | field k =>
          cases other with
          | field k' => exact Dict.get?_modify_of_ne fun hk => h (congrArg Spot.field hk)
          | item _ => rfl
      | item _ => rfl
  | arr items =>
      cases spot with
      | field _ => rfl
      | item k =>
          cases other with
          | field _ => rfl
          | item k' => exact List.getElem?_set_ne fun hk => h (congrArg Spot.item hk)
  | _ => rfl

/-- Setting an entry of a list leaves a list of the same length. -/
theorem setEntry_eq_arr {items : List Value} (h : setEntry d spot v = .arr items) :
    ∃ before, d = .arr before ∧ before.length = items.length := by
  cases d with
  | arr before =>
      cases spot with
      | field _ => exact ⟨before, rfl, congrArg List.length (Value.arr.inj h)⟩
      | item k => exact ⟨before, rfl, by rw [← Value.arr.inj h, List.length_set]⟩
  | obj _ => cases spot <;> exact nomatch h
  | _ => exact nomatch h

/-- Setting an entry of a record leaves a record. -/
theorem setEntry_eq_obj {fields : Dict Value} (h : setEntry d spot v = .obj fields) :
    ∃ before, d = .obj before := by
  cases d with
  | obj before => exact ⟨before, rfl⟩
  | arr _ => cases spot <;> exact nomatch h
  | _ => exact nomatch h

/-- Setting an entry to what it is changes nothing. -/
theorem setEntry_eq_self (h : entryAt? d spot = some v) : setEntry d spot v = d := by
  cases d with
  | obj fields =>
      cases spot with
      | field k =>
          exact congrArg Value.obj
            (Dict.modify_eq_self fun w hw => Option.some.inj (h.symm.trans hw))
      | item _ => rfl
  | arr items =>
      cases spot with
      | field _ => rfl
      | item k =>
          obtain ⟨hk, rfl⟩ := List.getElem?_eq_some_iff.mp h
          exact congrArg Value.arr (List.set_getElem_self hk)
  | _ => rfl

end Entries

/-! ### Making room -/

/-- The spot that a step goes to in a container. -/
def PathStep.spot : PathStep → Value → Spot
  | .key k, _ => .field k
  | .index i, .arr _ => .item (Decimal.toIndex i.toNumber)
  | .index i, _ => .field i.toText

/-- What a step reads. -/
def PathStep.read : PathStep → Value → Value
  | .key k, d => member (.value d) k
  | .index i, d => indexValue (.value d) i

/-- Another spot is in the gap that opens when a list gets an item at a spot past its end. -/
def InGap : Value → Spot → Spot → Prop
  | .arr items, .item k, .item j => items.length ≤ j ∧ j < k
  | _, _, _ => False

/-- A container opens up for an entry at the spot that a step goes to: if there is none, it is made
with null, and so is each entry of the gap in front of it. -/
structure Opens (step : PathStep) (d : Value) (spot : Spot) (opened : Value) : Prop where
  spot_eq : spot = step.spot d
  there : entryAt? opened spot = some ((entryAt? d spot).getD .null)
  same : (entryAt? d spot).isSome = true → opened = d
  outside : ∀ other, other ≠ spot → ¬ InGap d spot other → entryAt? opened other = entryAt? d other
  gap : ∀ other, InGap d spot other → entryAt? opened other = some .null ∧ entryAt? d other = none
  read : ∀ v, step.read (setEntry opened spot v) = v
  records : ∀ fields, opened = .obj fields → ∃ fields, d = .obj fields
  lists : ∀ items, opened = .arr items → ∃ before, d = .arr before ∧ before.length ≤ items.length ∧
    (before.length + maxIndexGap < 2 ^ 53 → items.length ≤ before.length + maxIndexGap + 1)

/-- A record with room for a key. -/
theorem get?_withField (fields : Dict Value) (k key : String) :
    Dict.get? (withField fields k) key =
      if k = key then some ((Dict.get? fields k).getD .null) else Dict.get? fields key := by
  rw [withField]
  split
  · next h =>
      obtain ⟨v, hv⟩ := Dict.contains_iff.mp h
      split
      · next hk => rw [← hk, hv, Option.getD_some]
      · rfl
  · next h =>
      rw [Dict.get?_insert, Dict.contains_eq_false_iff.mp (Bool.eq_false_iff.mpr h)]
      rfl

/-- A list with room for an item. -/
theorem getElem?_withItem (items : List Value) (k j : Nat) :
    (withItem items k)[j]? = if j < items.length then items[j]? else
      if j ≤ k then some .null else none := by
  rw [withItem]
  split
  · next h => rw [List.getElem?_append_left h]
  · next h =>
      rw [List.getElem?_append_right (by omega), List.getElem?_replicate]
      split
      · rw [if_pos (by omega)]
      · rw [if_neg (by omega)]

/-- Making room in a record. -/
theorem opens_record {step : PathStep} {fields : Dict Value} {k : String}
    (hspot : step.spot (.obj fields) = .field k)
    (hread : ∀ fields', step.read (.obj fields') = (Dict.get? fields' k).getD .null) :
    Opens step (.obj fields) (.field k) (.obj (withField fields k)) where
  spot_eq := hspot.symm
  there := (get?_withField fields k k).trans (if_pos rfl)
  same h := by
    have hk : Dict.contains fields k = true := h
    rw [withField, if_pos hk]
  outside other hne _ := by
    cases other with
    | field key =>
        have hkey : k ≠ key := fun h => hne (congrArg Spot.field h.symm)
        exact (get?_withField fields k key).trans (if_neg hkey)
    | item _ => rfl
  gap other h := by cases other <;> cases h
  read v := by
    rw [setEntry, hread, Dict.get?_modify_self, get?_withField, if_pos rfl]
    rfl
  records _ _ := ⟨fields, rfl⟩
  lists _ h := nomatch h

/-- Making room in a list. -/
theorem opens_list {i : Value} {items : List Value}
    (hwhole : (Decimal.isWhole i.toNumber && 0.0 ≤ i.toNumber) = true)
    (hnear : ¬ Float.ofNat (items.length + maxIndexGap) < i.toNumber) :
    Opens (.index i) (.arr items) (.item (Decimal.toIndex i.toNumber))
      (.arr (withItem items (Decimal.toIndex i.toNumber))) where
  spot_eq := rfl
  there := by
    change (withItem items _)[_]? = some (items[_]?.getD Value.null)
    rw [getElem?_withItem]
    split
    · next h => rw [List.getElem?_eq_getElem h, Option.getD_some]
    · next h =>
        rw [if_pos (Nat.le_refl _), List.getElem?_eq_none (Nat.le_of_not_lt h)]
        rfl
  same h := by
    have hlt : Decimal.toIndex i.toNumber < items.length := by
      obtain ⟨v, hv⟩ := Option.isSome_iff_exists.mp h
      exact (List.getElem?_eq_some_iff.mp hv).1
    rw [withItem, Nat.sub_eq_zero_of_le hlt, List.replicate_zero, List.append_nil]
  outside other hne hgap := by
    cases other with
    | field _ => rfl
    | item j =>
        change (withItem items _)[j]? = items[j]?
        rw [getElem?_withItem]
        split
        · rfl
        · next hj =>
            have hpast : ¬ j ≤ Decimal.toIndex i.toNumber := fun hle => by
              have hne' : j ≠ Decimal.toIndex i.toNumber := fun h => hne (h ▸ rfl)
              exact hgap ⟨Nat.le_of_not_lt hj, by omega⟩
            rw [if_neg hpast, List.getElem?_eq_none (Nat.le_of_not_lt hj)]
  gap other h := by
    cases other with
    | field _ => cases h
    | item j =>
        obtain ⟨hle, hlt⟩ := h
        refine ⟨?_, List.getElem?_eq_none hle⟩
        change (withItem items _)[j]? = some .null
        rw [getElem?_withItem, if_neg (Nat.not_lt.mpr hle), if_pos (Nat.le_of_lt hlt)]
  read v := by
    have hlt : Decimal.toIndex i.toNumber <
        (withItem items (Decimal.toIndex i.toNumber)).length := by
      rw [withItem, List.length_append, List.length_replicate]
      omega
    rw [setEntry, PathStep.read, indexValue]
    rw [itemAt?, position?, if_pos hwhole, Option.bind_some, List.getElem?_set_self hlt]
    rfl
  records _ h := nomatch h
  lists _ h := by
    obtain rfl := Value.arr.inj h
    refine ⟨items, rfl, ?_, fun hlt => ?_⟩
    · rw [withItem, List.length_append]
      omega
    · rw [Bool.and_eq_true, Decimal.isWhole, Bool.and_eq_true, decide_eq_true_eq] at hwhole
      have hindex := Decimal.toIndex_le_of_not_lt (Nat.ne_of_gt (Nat.lt_of_lt_of_le (by decide)
        (Nat.le_add_left maxIndexGap items.length))) hlt hwhole.1.1 hwhole.2 hnear
      rw [withItem, List.length_append, List.length_replicate]
      omega

/-- What is done to a container to make room for an entry. -/
theorem Opens.of_openSpot {step : PathStep} {d opened : Value} {spot : Spot}
    (h : openSpot step d = .ok (spot, opened)) : Opens step d spot opened := by
  cases step with
  | key k =>
      cases d with
      | obj fields =>
          obtain ⟨rfl, rfl⟩ := Prod.mk.inj (Except.ok.inj h)
          exact opens_record rfl fun _ => rfl
      | _ => exact nomatch h
  | index i =>
      cases d with
      | obj fields =>
          obtain ⟨rfl, rfl⟩ := Prod.mk.inj (Except.ok.inj h)
          exact opens_record rfl fun _ => rfl
      | arr items =>
          rw [openSpot] at h
          split at h
          · exact nomatch h
          · next hwhole =>
              split at h
              · exact nomatch h
              · next hnear =>
                  obtain ⟨rfl, rfl⟩ := Prod.mk.inj (Except.ok.inj h)
                  exact opens_list (by simpa using hwhole) hnear
      | _ => exact nomatch h

/-- Why there may be no room for an entry. -/
theorem error_of_openSpot {step : PathStep} {d : Value} {e : RunError}
    (h : openSpot step d = .error e) :
    e = .invalidTarget ∨ ∃ n length, e = .indexOutOfRange n length := by
  cases step with
  | key k =>
      cases d with
      | obj fields => exact nomatch h
      | _ => exact .inl (Except.error.inj h).symm
  | index i =>
      cases d with
      | obj fields => exact nomatch h
      | arr items =>
          rw [openSpot] at h
          split at h
          · exact .inl (Except.error.inj h).symm
          · split at h
            · exact .inr ⟨_, _, (Except.error.inj h).symm⟩
            · exact nomatch h
      | _ => exact .inl (Except.error.inj h).symm

/-! ### Writes that fail -/

/-- A write, step by step. -/
theorem write_cons (new : Value) (step : PathStep) (rest : List PathStep) (d : Value) :
    (∃ e, openSpot step d = .error e ∧ write new (step :: rest) d = (.error e, d)) ∨
    ∃ spot opened, Opens step d spot opened ∧
      write new (step :: rest) d =
        ((write new rest (slotFor rest ((entryAt? d spot).getD .null))).1,
          setEntry opened spot
            (write new rest (slotFor rest ((entryAt? d spot).getD .null))).2) := by
  cases hopen : openSpot step d with
  | error e => exact .inl ⟨e, rfl, by rw [write, hopen]⟩
  | ok found =>
      obtain ⟨spot, opened⟩ := found
      have h := Opens.of_openSpot hopen
      refine .inr ⟨spot, opened, h, ?_⟩
      rw [write, hopen]
      dsimp only
      rw [h.there, Option.getD_some]

/-- A write into an empty record cannot fail. -/
theorem write_empty (new : Value) (path : List PathStep) :
    (write new path (.obj [])).1 = .ok () := by
  induction path with
  | nil => rfl
  | cons step rest ih =>
      have hslot : slotFor rest .null = if rest.isEmpty then .null else .obj [] := by
        rw [slotFor]
        cases rest <;> rfl
      rcases write_cons new step rest (.obj []) with ⟨e, hopen, -⟩ | ⟨spot, opened, h, hwrite⟩
      · cases step <;> exact nomatch hopen
      · have hnone : entryAt? (.obj []) spot = none := by cases spot <;> rfl
        rw [hwrite, hnone, Option.getD_none, hslot]
        cases rest with
        | nil => rfl
        | cons _ _ => exact ih

/-- A write from null on cannot fail below. -/
theorem write_slotFor_null (new : Value) (rest : List PathStep) :
    (write new rest (slotFor rest .null)).1 = .ok () := by
  cases rest with
  | nil => rfl
  | cons step rest => exact write_empty new (step :: rest)

/-- A write that fails has changed nothing on its way. It fails only for a container that does not
have such entries, or for an index past the end of a list by too much. -/
theorem write_of_error {new : Value} {path : List PathStep} {d : Value} {e : RunError}
    (h : (write new path d).1 = .error e) :
    (write new path d).2 = d ∧
      (e = .invalidTarget ∨ ∃ n length, e = .indexOutOfRange n length) := by
  induction path generalizing d with
  | nil => exact nomatch h
  | cons step rest ih =>
      rcases write_cons new step rest d with ⟨e', hopen, hwrite⟩ | ⟨spot, opened, hopens, hwrite⟩
      · rw [hwrite] at h ⊢
        obtain rfl := Except.error.inj h
        exact ⟨rfl, error_of_openSpot hopen⟩
      · rw [hwrite] at h ⊢
        obtain ⟨hkept, he⟩ := ih h
        refine ⟨?_, he⟩
        dsimp only
        rw [hkept]
        -- null is never in the way of a write, so the entry was there and is no null
        cases hentry : entryAt? d spot with
        | none =>
            rw [hentry, Option.getD_none, write_slotFor_null] at h
            exact nomatch h
        | some old =>
            rw [hentry, Option.getD_some] at h
            have hslot : slotFor rest old = old := by
              rw [slotFor]
              split
              · next hnull =>
                  cases old with
                  | null => exact nomatch h.symm.trans (write_slotFor_null new rest)
                  | _ => simp [Value.isNull] at hnull
              · rfl
            rw [hopens.same (by rw [hentry]; rfl), Option.getD_some, hslot]
            exact setEntry_eq_self hentry

/-! ### Writes that succeed -/

/-- The entry behind spots that are gone through one after the other. -/
def entryBelow? : List Spot → Value → Option Value
  | [], d => some d
  | spot :: rest, d => (entryAt? d spot).bind (entryBelow? rest)

/-- Reads along a path: members by their name, items by a value. -/
def follow : List PathStep → Value → Value
  | [], d => d
  | step :: rest, d => follow rest (step.read d)

/-- The spots that a path goes through, in a value that makes room for it. -/
def route : List PathStep → Value → List Spot
  | [], _ => []
  | step :: rest, d =>
    step.spot d :: route rest (slotFor rest ((entryAt? d (step.spot d)).getD .null))

/-- The spots lead into the gap that opens up when a route goes past the end of a list. -/
def InGapOf (d : Value) (route spots : List Spot) : Prop :=
  ∃ above spot below other c, route = above ++ spot :: below ∧ spots = above ++ [other] ∧
    entryBelow? above d = some c ∧ InGap c spot other

/-- A record, or what gives way to one: null or nothing. -/
def RecordOrLess (entry : Option Value) : Prop :=
  (∃ fields, entry = some (.obj fields)) ∨ entry = some .null ∨ entry = none

/-- What a write along a path does to a value. -/
structure Overwrites (path : List PathStep) (new d d' : Value) : Prop where
  /-- Reading along the path gives what was written. -/
  read : follow path d' = new
  /-- It stands at the end of the route. -/
  written : entryBelow? (route path d) d' = some new
  /-- Off the route all entries are as before. -/
  unchanged : ∀ spots, ¬ spots <+: route path d → ¬ route path d <+: spots →
    ¬ InGapOf d (route path d) spots → entryBelow? spots d' = entryBelow? spots d
  /-- A gap in front of an item past the end of a list is filled with null. -/
  padded : ∀ spots, InGapOf d (route path d) spots →
    entryBelow? spots d = none ∧ entryBelow? spots d' = some .null
  /-- On the route lists stand where lists stood, and grow by as much as an index may go past the
  end. From `2 ^ 53` items on, more than any memory holds, the end itself is no longer a double, and
  what an index is compared with is rounded. -/
  lists : ∀ above, above <+: route path d → above ≠ route path d → ∀ items,
    entryBelow? above d' = some (.arr items) →
      ∃ before, entryBelow? above d = some (.arr before) ∧ before.length ≤ items.length ∧
        (before.length + maxIndexGap < 2 ^ 53 → items.length ≤ before.length + maxIndexGap + 1)
  /-- On the route records stand where records, null or nothing stood. -/
  records : ∀ above, above <+: route path d → above ≠ route path d → ∀ fields,
    entryBelow? above d' = some (.obj fields) → RecordOrLess (entryBelow? above d)

section Steps

variable {d old : Value} {spot : Spot} {rest : List PathStep} {below more : List Spot}

/-- Only null gives way to an empty record. -/
theorem slotFor_cases (rest : List PathStep) (old : Value) :
    slotFor rest old = old ∨ old = .null ∧ slotFor rest old = .obj [] := by
  rw [slotFor]
  split
  · next h =>
      cases old with
      | null => exact .inr ⟨rfl, rfl⟩
      | _ => simp [Value.isNull] at h
  · exact .inl rfl

/-- There is nothing below null and below an empty record. -/
theorem entryBelow?_slotFor (rest : List PathStep) (hmore : more ≠ []) :
    entryBelow? more (slotFor rest ((entryAt? d spot).getD .null)) =
      entryBelow? (spot :: more) d := by
  obtain ⟨first, last, rfl⟩ := List.exists_cons_of_ne_nil hmore
  have hempty : entryBelow? (first :: last) (.obj []) = none := by cases first <;> rfl
  change _ = (entryAt? d spot).bind (entryBelow? (first :: last))
  cases entryAt? d spot with
  | none =>
      rw [Option.getD_none, Option.bind_none]
      rcases slotFor_cases rest .null with h | ⟨-, h⟩
      · rw [h]
        rfl
      · rw [h, hempty]
  | some old =>
      rw [Option.getD_some, Option.bind_some]
      rcases slotFor_cases rest old with h | ⟨rfl, h⟩
      · rw [h]
      · rw [h, hempty]
        rfl

/-- A list stands where nothing was made. -/
theorem entryBelow?_slotFor_arr {items : List Value} :
    entryBelow? more (slotFor rest ((entryAt? d spot).getD .null)) = some (.arr items) ↔
      entryBelow? (spot :: more) d = some (.arr items) := by
  cases more with
  | cons first last => rw [entryBelow?_slotFor rest (List.cons_ne_nil first last)]
  | nil =>
      change some (slotFor rest _) = _ ↔ (entryAt? d spot).bind some = _
      rw [Option.bind_fun_some]
      cases entryAt? d spot with
      | none => rcases slotFor_cases rest .null with h | ⟨-, h⟩ <;> simp [h]
      | some old =>
          rcases slotFor_cases rest old with h | ⟨rfl, h⟩
          · rw [Option.getD_some, h]
          · simp [h]

/-- A record stands where nothing else was than a record or what gives way to one. -/
theorem recordOrLess_slotFor
    (h : RecordOrLess (entryBelow? more (slotFor rest ((entryAt? d spot).getD .null)))) :
    RecordOrLess (entryBelow? (spot :: more) d) := by
  cases more with
  | cons first last => rwa [entryBelow?_slotFor rest (List.cons_ne_nil first last)] at h
  | nil =>
      change RecordOrLess ((entryAt? d spot).bind some)
      change RecordOrLess (some (slotFor rest _)) at h
      rw [Option.bind_fun_some]
      cases hentry : entryAt? d spot with
      | none => exact .inr (.inr rfl)
      | some old =>
          rw [hentry, Option.getD_some] at h
          rcases slotFor_cases rest old with hslot | ⟨rfl, -⟩
          · rwa [hslot] at h
          · exact .inr (.inl rfl)

/-- A gap is in a list. -/
theorem InGap.list {other : Spot} (h : InGap d spot other) : ∃ items, d = .arr items := by
  cases d with
  | arr items => exact ⟨items, rfl⟩
  | _ => cases h

/-- A spot is not in the gap in front of it. -/
theorem InGap.ne {other : Spot} (h : InGap d spot other) : other ≠ spot := by
  obtain ⟨items, rfl⟩ := h.list
  rintro rfl
  cases other with
  | field _ => cases h
  | item j => exact Nat.lt_irrefl j h.2

/-- A gap on a route is at its first spot or below it. -/
theorem inGapOf_cons (rest : List PathStep) {first : Spot} :
    InGapOf d (spot :: below) (first :: more) ↔ more = [] ∧ InGap d spot first ∨
      first = spot ∧ InGapOf (slotFor rest ((entryAt? d spot).getD .null)) below more := by
  constructor
  · rintro ⟨above, last, under, other, c, hroute, hspots, hc, hgap⟩
    cases above with
    | nil =>
        obtain ⟨rfl, -⟩ := List.cons.inj hroute
        obtain ⟨rfl, rfl⟩ := List.cons.inj hspots
        obtain rfl := Option.some.inj hc
        exact .inl ⟨rfl, hgap⟩
    | cons head above =>
        obtain ⟨rfl, rfl⟩ := List.cons.inj hroute
        obtain ⟨rfl, rfl⟩ := List.cons.inj hspots
        obtain ⟨items, rfl⟩ := hgap.list
        exact .inr ⟨rfl, above, last, under, other, _, rfl, rfl,
          entryBelow?_slotFor_arr.mpr hc, hgap⟩
  · rintro (⟨rfl, hgap⟩ | ⟨rfl, above, last, under, other, c, rfl, rfl, hc, hgap⟩)
    · exact ⟨[], spot, below, first, d, rfl, rfl, rfl, hgap⟩
    · obtain ⟨items, rfl⟩ := hgap.list
      exact ⟨first :: above, last, under, other, _, rfl, rfl,
        entryBelow?_slotFor_arr.mp hc, hgap⟩

/-- Nothing is overwritten but the value itself where a path ends. -/
theorem Overwrites.nil (new d : Value) : Overwrites [] new d new where
  read := rfl
  written := rfl
  unchanged _ _ h _ := absurd List.nil_prefix h
  padded _ h := by
    obtain ⟨above, spot, below, other, c, hroute, -⟩ := h
    simp [route] at hroute
  lists _ h hne := absurd (List.prefix_nil.mp h) hne
  records _ h hne := absurd (List.prefix_nil.mp h) hne

/-- What stands in a container after a step, at the spot of the step and below it. -/
theorem Opens.entryBelow?_self {step : PathStep} {opened slot : Value}
    (hopens : Opens step d spot opened) (more : List Spot) :
    entryBelow? (spot :: more) (setEntry opened spot slot) = entryBelow? more slot := by
  change (entryAt? _ spot).bind _ = _
  rw [entryAt?_setEntry_self hopens.there, Option.bind_some]

/-- What stands in a container after a step, beside the spot of the step. -/
theorem Opens.entryBelow?_of_ne {step : PathStep} {opened slot : Value} {first : Spot}
    (hopens : Opens step d spot opened) (hne : first ≠ spot)
    (hgap : ¬ (more = [] ∧ InGap d spot first)) :
    entryBelow? (first :: more) (setEntry opened spot slot) = entryBelow? (first :: more) d := by
  change (entryAt? _ first).bind _ = (entryAt? d first).bind _
  rw [entryAt?_setEntry_of_ne hne.symm]
  by_cases hin : InGap d spot first
  · -- what fills the gap has no entries
    obtain ⟨hafter, hbefore⟩ := hopens.gap first hin
    obtain ⟨next, last, rfl⟩ := List.exists_cons_of_ne_nil fun h => hgap ⟨h, hin⟩
    rw [hafter, hbefore]
    rfl
  · rw [hopens.outside first hne hin]

/-- A step down a path: a container makes room, and the entry is overwritten along the rest. -/
theorem Overwrites.step {step : PathStep} {new opened slot : Value}
    (hopens : Opens step d spot opened)
    (h : Overwrites rest new (slotFor rest ((entryAt? d spot).getD .null)) slot) :
    Overwrites (step :: rest) new d (setEntry opened spot slot) := by
  have hroute : route (step :: rest) d =
      spot :: route rest (slotFor rest ((entryAt? d spot).getD .null)) := by
    rw [route, ← hopens.spot_eq]
  constructor
  case read =>
    rw [follow, hopens.read]
    exact h.read
  case written =>
    rw [hroute, hopens.entryBelow?_self]
    exact h.written
  case unchanged =>
    intro spots habove hbelow hgap
    rw [hroute] at habove hbelow hgap
    cases spots with
    | nil => exact absurd List.nil_prefix habove
    | cons first more =>
        rw [inGapOf_cons rest, not_or] at hgap
        by_cases hfirst : first = spot
        · subst hfirst
          rw [List.prefix_cons_inj] at habove hbelow
          have hmore : more ≠ [] := fun h => habove (h ▸ List.nil_prefix)
          rw [hopens.entryBelow?_self, h.unchanged more habove hbelow fun h => hgap.2 ⟨rfl, h⟩,
            entryBelow?_slotFor rest hmore]
        · exact hopens.entryBelow?_of_ne hfirst hgap.1
  case padded =>
    intro spots hgap
    rw [hroute] at hgap
    cases spots with
    | nil =>
        obtain ⟨above, -, -, other, -, -, hspots, -⟩ := hgap
        simp at hspots
    | cons first more =>
        rcases (inGapOf_cons rest).mp hgap with ⟨rfl, hfirst⟩ | ⟨rfl, hbelow⟩
        · obtain ⟨hafter, hbefore⟩ := hopens.gap first hfirst
          change (entryAt? d first).bind _ = _ ∧ (entryAt? _ first).bind _ = _
          rw [entryAt?_setEntry_of_ne hfirst.ne.symm, hafter, hbefore]
          exact ⟨rfl, rfl⟩
        · have hmore : more ≠ [] := by
            obtain ⟨above, -, -, other, -, -, rfl, -⟩ := hbelow
            simp
          rw [hopens.entryBelow?_self, ← entryBelow?_slotFor rest hmore]
          exact h.padded more hbelow
  case lists =>
    intro above hprefix hne items hitems
    rw [hroute] at hprefix hne
    cases above with
    | nil =>
        have hset : setEntry opened spot slot = .arr items := Option.some.inj hitems
        obtain ⟨items', hopened, hlength⟩ := setEntry_eq_arr hset
        obtain ⟨before, rfl, hle⟩ := hopens.lists items' hopened
        exact ⟨before, rfl, hlength ▸ hle⟩
    | cons first above =>
        obtain ⟨rfl, hprefix⟩ := List.cons_prefix_cons.mp hprefix
        rw [hopens.entryBelow?_self] at hitems
        obtain ⟨before, hbefore, hle⟩ :=
          h.lists above hprefix (fun h => hne (congrArg (first :: ·) h)) items hitems
        exact ⟨before, entryBelow?_slotFor_arr.mp hbefore, hle⟩
  case records =>
    intro above hprefix hne fields hfields
    rw [hroute] at hprefix hne
    cases above with
    | nil =>
        have hset : setEntry opened spot slot = .obj fields := Option.some.inj hfields
        obtain ⟨fields', hopened⟩ := setEntry_eq_obj hset
        obtain ⟨before, rfl⟩ := hopens.records fields' hopened
        exact .inl ⟨before, rfl⟩
    | cons first above =>
        obtain ⟨rfl, hprefix⟩ := List.cons_prefix_cons.mp hprefix
        rw [hopens.entryBelow?_self] at hfields
        exact recordOrLess_slotFor
          (h.records above hprefix (fun h => hne (congrArg (first :: ·) h)) fields hfields)

end Steps

/-- A write that succeeds overwrites what its path leads to. -/
theorem overwrites_of_ok {new : Value} {path : List PathStep} {d : Value}
    (h : (write new path d).1 = .ok ()) : Overwrites path new d (write new path d).2 := by
  induction path generalizing d with
  | nil => exact .nil new d
  | cons step rest ih =>
      rcases write_cons new step rest d with ⟨e, -, hwrite⟩ | ⟨spot, opened, hopens, hwrite⟩
      · rw [hwrite] at h
        exact nomatch h
      · rw [hwrite] at h ⊢
        exact .step hopens (ih h)

/-- **Writes and reads along a path agree.** A write that succeeds overwrites what the path leads
to, so that reading along the path gives what was written, and a write that fails, for want of a
container or for an index too far past the end of a list, changes nothing. -/
theorem write_lens (new : Value) (path : List PathStep) (d : Value) :
    match write new path d with
    | (.ok (), d') => Overwrites path new d d'
    | (.error e, d') =>
      d' = d ∧ (e = .invalidTarget ∨ ∃ n length, e = .indexOutOfRange n length) := by
  cases hdone : (write new path d).1 with
  | error e =>
      obtain ⟨hkept, he⟩ := write_of_error hdone
      rw [← Prod.mk.eta (p := write new path d), hdone]
      exact ⟨hkept, he⟩
  | ok u =>
      rw [← Prod.mk.eta (p := write new path d), hdone]
      exact overwrites_of_ok hdone

end WidgetFlow.Script
