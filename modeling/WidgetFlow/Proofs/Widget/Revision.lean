import WidgetFlow.Proofs.Widget.Store

/-!
# Equal revisions stand for equal records

A revision is a tick of the clock of a store, and a tick belongs to one change of one instance. So
two instances with the same revision are the same, wherever and whenever in a run they are found,
even if instances were removed and put back under the same id in between, or everything was cleared.

`StoreOp` lists what can be done to a store from outside. All of it is seen through two relations:
`Store.Rewrites s t id` says what a write that finds its instance does, and `Store.Advances s t id`
what any operation may do. A write can take more than one tick, so neither says how far the clock
moves, only that the revision of what was written is where it has got to. The clock is a natural
number and never wraps; a clock of fixed width shows the same ticks as long as they fit.

## Main results

* `write_cases`: a write changes nothing, or rewrites its instance and no other.
* `Advances.revised`, `Advances.later`: a step keeps revisions apart and uses none again.
* `chronicled`: **equal revision means equal record**.
-/

namespace WidgetFlow

/-- A write to one instance. A view of a store writes styles, classes and visibility in the same way
as the store itself, and properties in a way of its own, which is `give`. -/
inductive StoreWrite where
  | update (u : InstanceUpdate)
  | setProperty (key : String) (v : Value)
  | give (key : String) (v : Value)
  | setStateValue (key : String) (v : Value)
  | removeStateValue (key : String)
  | setStyle (property : String) (v : Value)
  | addClass (name : String)
  | removeClass (name : String)
  | setHidden (hidden : Bool)

/-- An operation on a store. -/
inductive StoreOp where
  | register (i : Instance)
  | write (id : String) (w : StoreWrite)
  | remove (id : String)
  | clear

namespace StoreOp

/-- The id whose instance an operation puts into the store or writes to. -/
def target? : StoreOp → Option String
  | .register i => some i.id
  | .write id _ => some id
  | .remove _ => none
  | .clear => none

/-- Whether an operation ends the life of an instance, or puts another one in its place. -/
def replaces (id : String) : StoreOp → Bool
  | .register i => i.id = id
  | .write _ _ => false
  | .remove id' => id' = id
  | .clear => true

end StoreOp

namespace Store

variable {s t u : Store} {id id' key : String} {i j : Instance}

/-- Writes to the instance of an id; tells whether anything was written. -/
def write (s : Store) (id : String) : StoreWrite → Bool × Store
  | .update u => s.update id u
  | .setProperty key v => s.setProperty id key v
  | .give key v => View.setProperty s id key v
  | .setStateValue key v => s.setStateValue id key v
  | .removeStateValue key =>
    ((s.removeStateValue id key).1.isSome, (s.removeStateValue id key).2)
  | .setStyle property v => s.setStyle id property v
  | .addClass name => s.addClass id name
  | .removeClass name => s.removeClass id name
  | .setHidden hidden => s.setHidden id hidden

/-- Performs an operation, and tells whether it succeeds. -/
def perform (s : Store) : StoreOp → Bool × Store
  | .register i => (true, s.register i)
  | .write id w => s.write id w
  | .remove id => ((s.remove id).1.isSome, (s.remove id).2)
  | .clear => (true, s.clear)

/-- The store after operations. -/
def run (s : Store) (ops : List StoreOp) : Store := ops.foldl (fun s op => (s.perform op).2) s

/-! ### Writes -/

/-- The instance of an id is there and was changed, apart from its id and its kind; its revision is
where the clock has got to. Every other instance is as it was. -/
structure Rewrites (s t : Store) (id : String) : Prop where
  clock : s.clock < t.clock
  written : ∃ i j, s.get? id = some i ∧ t.get? id = some j ∧ j.id = i.id ∧ j.kind = i.kind ∧
    j.revision = t.clock
  others : ∀ {key}, key ≠ id → t.get? key = s.get? key
  indexed : s.Indexed → t.Indexed

/-- What is rewritten once and once more is rewritten. -/
theorem Rewrites.trans (h : s.Rewrites t id) (h' : t.Rewrites u id) : s.Rewrites u id where
  clock := Nat.lt_trans h.clock h'.clock
  written := by
    obtain ⟨i, j, hi, hj, hid, hkind, -⟩ := h.written
    obtain ⟨j', k, hj', hk, hid', hkind', hrevision⟩ := h'.written
    obtain rfl := Option.some.inj (hj.symm.trans hj')
    exact ⟨i, k, hi, hk, hid'.trans hid, hkind'.trans hkind, hrevision⟩
  others hkey := (h'.others hkey).trans (h.others hkey)
  indexed hs := h'.indexed (h.indexed hs)

/-- A change that keeps id and kind finds no instance and changes nothing, or rewrites the one it
finds. -/
theorem mutate_cases (s : Store) (id : String) (change : Instance → Instance)
    (hid : ∀ i, (change i).id = i.id) (hkind : ∀ i, (change i).kind = i.kind) :
    s.mutate id change = (false, s) ∨
      (s.mutate id change).1 = true ∧ s.Rewrites (s.mutate id change).2 id := by
  cases hi : s.get? id with
  | none => exact .inl (mutate_of_get?_eq_none hi)
  | some i =>
      have hclock : (s.mutate id change).2.clock = s.clock + 1 := by
        rw [mutate, hi]
      refine .inr ⟨mutate_fst.trans (contains_iff.mpr ⟨i, hi⟩), ?_, ?_, ?_, ?_⟩
      · rw [hclock]
        exact Nat.lt_succ_self _
      · refine ⟨i, { change i with revision := s.clock + 1 }, hi, ?_, hid i, hkind i, hclock.symm⟩
        rw [get?_mutate, if_pos rfl, hi, Option.map_some]
      · exact fun hkey => get?_mutate_of_ne (Ne.symm hkey)
      · exact fun hs => hs.mutate hid

/-- Removing the state under a key finds none and changes nothing, or rewrites the instance. -/
theorem removeStateValue_cases (s : Store) (id key : String) :
    s.removeStateValue id key = (none, s) ∨
      (s.removeStateValue id key).1.isSome = true ∧
        s.Rewrites (s.removeStateValue id key).2 id := by
  rw [removeStateValue]
  cases hv : s.stateValue id key with
  | none => exact .inl rfl
  | some v =>
      obtain ⟨i, hi, -⟩ := Option.bind_eq_some_iff.mp hv
      obtain heq | ⟨-, hrewrites⟩ := s.mutate_cases id
        (fun i => { i with state := Dict.erase i.state key }) (fun _ => rfl) fun _ => rfl
      · rw [mutate, hi] at heq
        cases heq
      · exact .inr ⟨rfl, hrewrites⟩

/-- A write finds nothing to change and changes nothing, or rewrites the instance of its id. -/
theorem write_cases (s : Store) (id : String) (w : StoreWrite) :
    s.write id w = (false, s) ∨ (s.write id w).1 = true ∧ s.Rewrites (s.write id w).2 id := by
  cases w with
  | update u => exact s.mutate_cases id _ (fun _ => rfl) fun _ => rfl
  | setProperty key v => exact s.mutate_cases id _ (fun _ => rfl) fun _ => rfl
  | give key v =>
      rw [write, view_setProperty]
      have hset := s.mutate_cases id (fun i =>
        { i with properties := Dict.insert i.properties key v }) (fun _ => rfl) fun _ => rfl
      obtain heq | ⟨hfound, hset⟩ := hset
      · have hnone : s.get? id = none := by
          rw [← contains_eq_false_iff, ← mutate_fst, heq]
        have hstate : s.stateValue id key = none := by rw [stateValue, hnone, Option.bind_none]
        left
        rw [setProperty, heq, contains_eq_false_iff.mpr hnone, removeStateValue, hstate]
      · right
        refine ⟨mutate_fst.symm.trans hfound, ?_⟩
        obtain heq | ⟨-, hremove⟩ := (s.setProperty id key v).2.removeStateValue_cases id key
        · rw [heq]
          exact hset
        · exact hset.trans hremove
  | setStateValue key v => exact s.mutate_cases id _ (fun _ => rfl) fun _ => rfl
  | removeStateValue key =>
      obtain heq | hrewrites := s.removeStateValue_cases id key
      · rw [write, heq]
        exact .inl rfl
      · exact .inr hrewrites
  | setStyle property v => exact s.mutate_cases id _ (fun _ => rfl) fun _ => rfl
  | addClass name => exact s.mutate_cases id _ (fun _ => rfl) fun _ => rfl
  | removeClass name => exact s.mutate_cases id _ (fun _ => rfl) fun _ => rfl
  | setHidden hidden => exact s.mutate_cases id _ (fun _ => rfl) fun _ => rfl

/-! ### Revisions -/

/-- Instances stand under their own ids, no revision is ahead of the clock, and no revision belongs
to two ids. -/
structure Revised (s : Store) : Prop where
  indexed : s.Indexed
  past : ∀ {id i}, s.get? id = some i → i.revision ≤ s.clock
  apart : ∀ {id id' i j}, s.get? id = some i → s.get? id' = some j → i.revision = j.revision →
    id = id'

/-- Whatever is in the second store was in the first one, or stands under one id with a revision
that the first store has not seen. -/
structure Advances (s t : Store) (id : String) : Prop where
  clock : s.clock ≤ t.clock
  entry : ∀ {key j}, t.get? key = some j →
    s.get? key = some j ∨ key = id ∧ s.clock < j.revision ∧ j.revision ≤ t.clock
  indexed : s.Indexed → t.Indexed

/-- The empty store has no revisions. -/
theorem Revised.empty : ({} : Store).Revised where
  indexed := .empty
  past h := nomatch h
  apart h := nomatch h

namespace Advances

/-- Nothing changes. -/
theorem refl (s : Store) (id : String) : s.Advances s id := ⟨Nat.le_refl _, .inl, fun hs => hs⟩

/-- Rewriting an instance takes a revision that was not seen. -/
theorem of_rewrites (h : s.Rewrites t id) : s.Advances t id where
  clock := Nat.le_of_lt h.clock
  entry {key j} hj := by
    by_cases hkey : key = id
    · obtain ⟨-, k, -, hk, -, -, hrevision⟩ := h.written
      obtain rfl := Option.some.inj ((hkey ▸ hj).symm.trans hk)
      exact .inr ⟨hkey, hrevision ▸ h.clock, Nat.le_of_eq hrevision⟩
    · exact .inl ((h.others hkey).symm.trans hj)
  indexed := h.indexed

/-- Putting an instance into the store takes a revision that was not seen. -/
theorem register (s : Store) (i : Instance) : s.Advances (s.register i) i.id where
  clock := Nat.le_succ _
  entry {key j} hj := by
    rw [get?_register] at hj
    split at hj
    · next hkey =>
        obtain rfl := Option.some.inj hj
        exact .inr ⟨hkey.symm, Nat.lt_succ_self _, Nat.le_refl _⟩
    · exact .inl hj
  indexed hs := hs.register i

/-- A removal takes no revision. -/
theorem remove (hs : s.Indexed) (id : String) : s.Advances (s.remove id).2 id where
  clock := Nat.le_of_eq clock_remove.symm
  entry {key j} hj := by
    rw [get?_remove hs.sorted] at hj
    split at hj
    · exact nomatch hj
    · exact .inl hj
  indexed hs := hs.remove

/-- Clearing the store takes no revision, and the clock stays. -/
theorem clear (s : Store) (id : String) : s.Advances s.clear id where
  clock := Nat.le_refl _
  entry h := nomatch h
  indexed _ := ⟨Dict.Sorted.nil, fun _ h => absurd h List.not_mem_nil⟩

/-- Revisions stay apart: the new one is greater than those that were there. -/
theorem revised (h : s.Advances t id) (hs : s.Revised) : t.Revised where
  indexed := h.indexed hs.indexed
  past hi := by
    obtain hold | ⟨-, -, hle⟩ := h.entry hi
    · exact Nat.le_trans (hs.past hold) h.clock
    · exact hle
  apart hi hj heq := by
    obtain hold | ⟨rfl, hnew, -⟩ := h.entry hi <;> obtain hold' | ⟨rfl, hnew', -⟩ := h.entry hj
    · exact hs.apart hold hold' heq
    · have hle := hs.past hold
      omega
    · have hle := hs.past hold'
      omega
    · rfl

/-- No revision that was seen is used again. -/
theorem later (h : s.Advances t id) : s.Later t where
  clock := h.clock
  kept hi hrevision := by
    obtain hold | ⟨-, hnew, -⟩ := h.entry hi
    · exact hold
    · omega

end Advances

/-- Every operation changes one instance, or none. -/
theorem exists_advances (hs : s.Indexed) (op : StoreOp) : ∃ id, s.Advances (s.perform op).2 id := by
  cases op with
  | register i => exact ⟨i.id, .register s i⟩
  | write id w =>
      refine ⟨id, ?_⟩
      obtain heq | ⟨-, hrewrites⟩ := s.write_cases id w
      · rw [perform, heq]
        exact .refl s id
      · exact .of_rewrites hrewrites
  | remove id => exact ⟨id, .remove hs id⟩
  | clear => exact ⟨"", .clear s ""⟩

/-- Revisions stay apart in every run, and none is used again. -/
theorem revised_run (hs : s.Revised) (ops : List StoreOp) :
    (s.run ops).Revised ∧ s.Later (s.run ops) := by
  induction ops generalizing s with
  | nil => exact ⟨hs, .refl s⟩
  | cons op rest ih =>
      obtain ⟨id, hadvances⟩ := exists_advances hs.indexed op
      obtain ⟨hrevised, hlater⟩ := ih (hadvances.revised hs)
      exact ⟨hrevised, hadvances.later.trans hlater⟩

/-- Instances of two moments with the same revision are the same. The later one has a revision that
the earlier store has seen, so the earlier store has it as well. -/
theorem Later.eq_of_revision (h : s.Later t) (hs : s.Revised) (hi : s.get? id = some i)
    (hj : t.get? id' = some j) (heq : i.revision = j.revision) : id = id' ∧ i = j := by
  have hj' : s.get? id' = some j := h.kept hj (heq ▸ hs.past hi)
  obtain rfl := hs.apart hi hj' heq
  exact ⟨rfl, Option.some.inj (hi.symm.trans hj')⟩

/-! ### Id and kind -/

/-- An operation that does not replace an instance keeps it, with its id and its kind. -/
theorem exists_perform (hs : s.Indexed) {op : StoreOp} (hop : op.replaces id = false)
    (hi : s.get? id = some i) :
    ∃ j, (s.perform op).2.get? id = some j ∧ j.id = i.id ∧ j.kind = i.kind := by
  cases op with
  | register k =>
      have hne : k.id ≠ id := of_decide_eq_false hop
      refine ⟨i, ?_, rfl, rfl⟩
      rw [perform, get?_register, if_neg hne, hi]
  | write key w =>
      obtain heq | ⟨-, hrewrites⟩ := s.write_cases key w
      · rw [perform, heq]
        exact ⟨i, hi, rfl, rfl⟩
      · by_cases hkey : id = key
        · obtain ⟨i', j, hi', hj, hid, hkind, -⟩ := hrewrites.written
          obtain rfl := Option.some.inj (hi.symm.trans (hkey ▸ hi'))
          exact ⟨j, hkey ▸ hj, hid, hkind⟩
        · exact ⟨i, (hrewrites.others hkey).trans hi, rfl, rfl⟩
  | remove key =>
      have hne : key ≠ id := of_decide_eq_false hop
      refine ⟨i, ?_, rfl, rfl⟩
      rw [perform, get?_remove hs.sorted, if_neg hne, hi]
  | clear => exact nomatch hop

/-- Operations that do not replace an instance keep it, with its id and its kind. -/
theorem exists_run (hs : s.Revised) {ops : List StoreOp} (hops : ∀ op ∈ ops, op.replaces id = false)
    (hi : s.get? id = some i) :
    ∃ j, (s.run ops).get? id = some j ∧ j.id = i.id ∧ j.kind = i.kind := by
  induction ops generalizing s i with
  | nil => exact ⟨i, hi, rfl, rfl⟩
  | cons op rest ih =>
      obtain ⟨hop, hrest⟩ := List.forall_mem_cons.mp hops
      obtain ⟨j, hj, hid, hkind⟩ := exists_perform hs.indexed hop hi
      obtain ⟨key, hadvances⟩ := exists_advances hs.indexed op
      obtain ⟨k, hk, hid', hkind'⟩ := ih (hadvances.revised hs) hrest hj
      exact ⟨k, hk, hid'.trans hid, hkind'.trans hkind⟩

/-- A write that succeeds gives the instance of its id a revision that was not seen before, and
leaves every other instance as it is. -/
theorem exists_written {op : StoreOp} (hop : op.target? = some id)
    (hdone : (s.perform op).1 = true) :
    (∃ j, (s.perform op).2.get? id = some j ∧ s.clock < j.revision) ∧
      ∀ key, key ≠ id → (s.perform op).2.get? key = s.get? key := by
  cases op with
  | register i =>
      obtain rfl := Option.some.inj hop
      refine ⟨⟨{ i with revision := s.clock + 1 }, ?_, Nat.lt_succ_self _⟩, fun key hkey => ?_⟩
      · rw [perform, get?_register, if_pos rfl]
      · rw [perform, get?_register, if_neg (Ne.symm hkey)]
  | write key w =>
      obtain rfl := Option.some.inj hop
      obtain heq | ⟨-, hrewrites⟩ := s.write_cases key w
      · rw [perform, heq] at hdone
        exact nomatch hdone
      · obtain ⟨-, j, -, hj, -, -, hrevision⟩ := hrewrites.written
        exact ⟨⟨j, hj, hrevision ▸ hrewrites.clock⟩, fun key hkey => hrewrites.others hkey⟩
  | remove id => exact nomatch hop
  | clear => exact nomatch hop

/-! ### Moments of a run -/

/-- The store after the first operations of a run from the empty store. -/
def moment (ops : List StoreOp) (n : Nat) : Store := ({} : Store).run (ops.take n)

/-- From one moment of a run to the next one operation is performed. -/
theorem moment_succ {ops : List StoreOp} {n : Nat} {op : StoreOp} (h : ops[n]? = some op) :
    moment ops (n + 1) = ((moment ops n).perform op).2 := by
  obtain ⟨hn, rfl⟩ := List.getElem?_eq_some_iff.mp h
  rw [moment, moment, run, run, List.take_succ_eq_append_getElem hn, List.foldl_concat]

/-- From one moment of a run to a later one the operations in between are performed. -/
theorem moment_of_le {m n : Nat} (h : m ≤ n) (ops : List StoreOp) :
    moment ops n = (moment ops m).run ((ops.take n).drop m) := by
  have hsplit : ops.take n = ops.take m ++ (ops.take n).drop m := by
    conv_lhs => rw [← List.take_append_drop m (ops.take n), List.take_take, Nat.min_eq_left h]
  rw [moment, moment, run, run, run, ← List.foldl_append, ← hsplit]

/-- At every moment of a run revisions are apart. -/
theorem revised_moment (ops : List StoreOp) (n : Nat) : (moment ops n).Revised :=
  (revised_run .empty _).1

/-- A later moment of a run is later. -/
theorem later_moment {m n : Nat} (h : m ≤ n) (ops : List StoreOp) :
    (moment ops m).Later (moment ops n) := by
  rw [moment_of_le h]
  exact (revised_run (revised_moment ops m) _).2

/-- What the revisions of a run of operations tell.

* `equal`: if at two moments two ids have instances with the same revision, it is the same id and
  the same instance.
* `written`: a write that succeeds gives its instance a revision above all that there were until
  then, and leaves every other instance as it is.
* `kept`: from one moment on, until an instance is removed or another one is put in its place, it is
  there with the same id and the same kind. -/
structure Chronicled (ops : List StoreOp) : Prop where
  equal : ∀ {m n id id' i j}, (moment ops m).get? id = some i → (moment ops n).get? id' = some j →
    i.revision = j.revision → id = id' ∧ i = j
  written : ∀ {n op id}, ops[n]? = some op → op.target? = some id →
    ((moment ops n).perform op).1 = true →
      (∃ j, (moment ops (n + 1)).get? id = some j ∧
        ∀ {m id' i}, m ≤ n → (moment ops m).get? id' = some i → i.revision < j.revision) ∧
      ∀ {id'}, id' ≠ id → (moment ops (n + 1)).get? id' = (moment ops n).get? id'
  kept : ∀ {m n id i}, m ≤ n → (moment ops m).get? id = some i →
    (∀ op ∈ (ops.take n).drop m, op.replaces id = false) →
      ∃ j, (moment ops n).get? id = some j ∧ j.id = i.id ∧ j.kind = i.kind

/-- **Equal revision means equal record.** The revisions of every run of operations tell which
instances are the same. -/
theorem chronicled (ops : List StoreOp) : Chronicled ops where
  equal {m n id id' i j} hi hj heq := by
    obtain hle | hle := Nat.le_total m n
    · exact (later_moment hle ops).eq_of_revision (revised_moment ops m) hi hj heq
    · obtain ⟨hid, hij⟩ :=
        (later_moment hle ops).eq_of_revision (revised_moment ops n) hj hi heq.symm
      exact ⟨hid.symm, hij.symm⟩
  written {n op id} hop htarget hdone := by
    obtain ⟨⟨j, hj, hnew⟩, hothers⟩ := exists_written htarget hdone
    rw [moment_succ hop]
    refine ⟨⟨j, hj, fun {m id' i} hle hi => ?_⟩, fun hid => hothers _ hid⟩
    have hpast : i.revision ≤ (moment ops m).clock := (revised_moment ops m).past hi
    have hclock : (moment ops m).clock ≤ (moment ops n).clock := (later_moment hle ops).clock
    omega
  kept {m n id i} hle hi hops := by
    rw [moment_of_le hle]
    exact exists_run (revised_moment ops m) hops hi

/-- Two texts, one of which is changed, and the other one removed and put back. -/
def revisited : List StoreOp :=
  [.register { id := "t", kind := .text, properties := [] },
   .register { id := "u", kind := .text, properties := [] },
   .write "u" (.addClass "marked"), .remove "t",
   .register { id := "t", kind := .text, properties := [] }]

/-- A text is the same while another one is changed, and has a greater revision when it is put
back. -/
theorem chronicled_revisited :
    ∃ i j, (moment revisited 1).get? "t" = some i ∧ (moment revisited 3).get? "t" = some i ∧
      (moment revisited 5).get? "t" = some j ∧ i.revision < j.revision := by
  have hfirst : (moment revisited 1).get? "t" =
      some { id := "t", kind := .text, properties := [], revision := 1 } := rfl
  obtain ⟨i, hi⟩ : ∃ i, (moment revisited 3).get? "t" = some i := ⟨_, rfl⟩
  have hrevision : i.revision = 1 := by
    obtain rfl := Option.some.inj hi
    rfl
  obtain ⟨-, rfl⟩ := (chronicled revisited).equal hfirst hi hrevision.symm
  have hput : revisited[4]? = some (.register { id := "t", kind := .text, properties := [] }) := rfl
  obtain ⟨⟨j, hj, hnew⟩, -⟩ := (chronicled revisited).written hput rfl rfl
  exact ⟨_, j, hfirst, hi, hj, hnew (by decide) hfirst⟩

end Store

end WidgetFlow
