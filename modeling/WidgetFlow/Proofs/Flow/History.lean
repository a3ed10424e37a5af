import Mathlib.Data.List.DropRight
import Mathlib.Data.List.Nodup
import WidgetFlow.Flow.Event

/-!
# What a log of events keeps and passes on

A log has two outputs, and operations come in any order: the history, from which the oldest event
goes when there is no room, and the calls of observers, which come and go. This module says what
both are after every run of operations, in terms of the operations alone.

## Conventions

`LogOp` lists what can be done to a log. The capacity is at least 1, whatever is asked for. The
numbers of subscriptions are handed out from 0 on, so the order of the numbers is that of the
subscriptions.

## Main results

* `history_run`: the history is the end of what was recorded since the log was cleared.
* `seenBy_run`: an observer sees what it wants until it is unsubscribed.
* `perm_issued`: a number that was handed out has been given back or is still in use.
* `exact_run`: **the history is an exact suffix, and the observers see exactly what they want.**
-/

namespace WidgetFlow

/-- An operation on a log. -/
inductive LogOp where
  | record (e : Event)
  | subscribe (kinds : List EventKind)
  | unsubscribe (id : Nat)
  | clear

namespace LogOp

/-- The event that an operation records. -/
def event? : LogOp → Option Event
  | .record e => some e
  | _ => none

/-- Whether an operation forgets the history. -/
def clears : LogOp → Bool
  | .clear => true
  | _ => false

/-- Whether an operation ends the subscription of a number. -/
def ends (id : Nat) : LogOp → Bool
  | .unsubscribe id' => id' == id
  | _ => false

end LogOp

/-- The events that are recorded by the operations after the last one that clears the log. -/
def sinceClear (ops : List LogOp) : List Event :=
  (ops.rtakeWhile fun op => !op.clears).filterMap (·.event?)

/-- The events that an observer of some kinds is there for if these operations follow its
subscription: those recorded until it is unsubscribed whose kind it wants. -/
def wanted (id : Nat) (kinds : List EventKind) (ops : List LogOp) : List Event :=
  ((ops.takeWhile fun op => !op.ends id).filterMap (·.event?)).filter
    fun e => (Subscription.mk id kinds).wants e.kind

namespace EventLog

variable {log : EventLog} {ops rest : List LogOp} {op : LogOp} {id : Nat}
  {kinds : List EventKind}

/-- The log after an operation. -/
def perform (log : EventLog) : LogOp → EventLog
  | .record e => log.record e
  | .subscribe kinds => (log.subscribe kinds).2
  | .unsubscribe id => (log.unsubscribe id).2
  | .clear => log.clear

/-- The log after operations. -/
def run (log : EventLog) (ops : List LogOp) : EventLog := ops.foldl perform log

/-- The number that an operation hands out. -/
def issues (log : EventLog) : LogOp → List Nat
  | .subscribe kinds => [(log.subscribe kinds).1]
  | _ => []

/-- The number of the subscription that an operation ends. -/
def retires (log : EventLog) : LogOp → List Nat
  | .unsubscribe id => if (log.unsubscribe id).1 then [id] else []
  | _ => []

/-- The numbers that operations hand out, in order. -/
def issued (log : EventLog) : List LogOp → List Nat
  | [] => []
  | op :: rest => log.issues op ++ (log.perform op).issued rest

/-- The numbers whose subscriptions operations end, in order: those that unsubscribing answers with
success. -/
def retired (log : EventLog) : List LogOp → List Nat
  | [] => []
  | op :: rest => log.retires op ++ (log.perform op).retired rest

/-- The events that an observer has been called with, in order. -/
def seenBy (log : EventLog) (id : Nat) : List Event := (log.calls.filter (·.1 = id)).map (·.2)

/-! ### Runs -/

/-- Operations after operations. -/
theorem run_append (log : EventLog) (ops rest : List LogOp) :
    log.run (ops ++ rest) = (log.run ops).run rest := List.foldl_append

/-- One operation after others. -/
theorem run_concat (log : EventLog) (ops : List LogOp) (op : LogOp) :
    log.run (ops ++ [op]) = (log.run ops).perform op := log.run_append ops [op]

/-- Operations after operations hand out their numbers after theirs. -/
theorem issued_append (log : EventLog) (ops rest : List LogOp) :
    log.issued (ops ++ rest) = log.issued ops ++ (log.run ops).issued rest := by
  induction ops generalizing log with
  | nil => rfl
  | cons op ops ih => rw [List.cons_append, issued, ih, issued, List.append_assoc]; rfl

/-- Operations after operations end their subscriptions after theirs. -/
theorem retired_append (log : EventLog) (ops rest : List LogOp) :
    log.retired (ops ++ rest) = log.retired ops ++ (log.run ops).retired rest := by
  induction ops generalizing log with
  | nil => rfl
  | cons op ops ih => rw [List.cons_append, retired, ih, retired, List.append_assoc]; rfl

/-! ### History -/

/-- No operation changes the capacity. -/
theorem capacity_run (log : EventLog) (ops : List LogOp) : (log.run ops).capacity = log.capacity :=
  List.foldlRecOn (motive := fun log' : EventLog => log'.capacity = log.capacity) ops _ rfl
    fun log' h op _ => by cases op <;> exact h

/-- What is left of the end of a list when the oldest entry has to go for want of room is the end
that has room for one more. -/
theorem tail_rtake {α : Type} (l : List α) (n : Nat) :
    (if n + 1 ≤ (l.rtake (n + 1)).length then (l.rtake (n + 1)).tail else l.rtake (n + 1)) =
      l.rtake n := by
  rw [List.rtake, List.rtake, List.length_drop, List.tail_drop]
  split
  · next hfull => rw [show l.length - (n + 1) + 1 = l.length - n by omega]
  · next hroom => rw [show l.length - (n + 1) = l.length - n by omega]

/-- One more operation forgets what was recorded, or adds its event if it has one. -/
theorem sinceClear_concat (ops : List LogOp) (op : LogOp) :
    sinceClear (ops ++ [op]) =
      if op.clears then [] else sinceClear ops ++ op.event?.toList := by
  rw [sinceClear, List.rtakeWhile_concat]
  cases op.clears with
  | true => rfl
  | false =>
      rw [Bool.not_false, if_pos rfl, List.filterMap_append]
      cases hevent : op.event? <;> simp [sinceClear, hevent]

/-- **The history is the end of what was recorded since the log was cleared**, as much of it as
there is room for. -/
theorem history_run (capacity : Nat) (ops : List LogOp) :
    ((empty capacity).run ops).history = (sinceClear ops).rtake (max capacity 1) := by
  obtain ⟨room, hroom⟩ : ∃ room, max capacity 1 = room + 1 :=
    ⟨max capacity 1 - 1, by omega⟩
  have hcapacity (ops : List LogOp) : ((empty capacity).run ops).capacity = room + 1 :=
    (capacity_run _ ops).trans hroom
  rw [hroom]
  induction ops using List.reverseRecOn with
  | nil => rw [sinceClear, List.rtakeWhile_nil, List.filterMap_nil, List.rtake_nil]; rfl
  | append_singleton ops op ih =>
      rw [run_concat, sinceClear_concat]
      cases op with
      | record e =>
          change _ = (sinceClear ops ++ [e]).rtake (room + 1)
          rw [List.rtake_concat_succ, perform, record, hcapacity, ih, tail_rtake]
      | clear => exact (List.rtake_nil (room + 1)).symm
      | subscribe kinds => exact ih.trans (congrArg (List.rtake · _) (List.append_nil _).symm)
      | unsubscribe id => exact ih.trans (congrArg (List.rtake · _) (List.append_nil _).symm)

/-! ### Observers -/

/-- There is one observer of a number, it wants these kinds, and the number is not handed out
again. -/
structure Serves (log : EventLog) (id : Nat) (kinds : List EventKind) : Prop where
  observer : log.subscriptions.filter (·.id = id) = [⟨id, kinds⟩]
  past : id < log.nextSubscription

/-- There is no observer of a number, and the number is not handed out again. -/
structure Dropped (log : EventLog) (id : Nat) : Prop where
  observer : log.subscriptions.filter (·.id = id) = []
  past : id < log.nextSubscription

/-- Numbers from here on have not been handed out. -/
structure Unissued (log : EventLog) : Prop where
  subscriptions : ∀ s ∈ log.subscriptions, s.id < log.nextSubscription
  calls : ∀ call ∈ log.calls, call.1 < log.nextSubscription

/-- What an observer has seen after one more event is recorded. -/
theorem seenBy_record (log : EventLog) (e : Event) (id : Nat) :
    (log.record e).seenBy id = log.seenBy id ++
      ((log.subscriptions.filter (·.id = id)).filter (·.wants e.kind)).map fun _ => e := by
  rw [seenBy, record, List.filter_append, List.map_append, List.filter_map, List.map_map,
    List.filter_comm]
  rfl

/-- An observer goes on unless it is unsubscribed, and sees the event that is recorded if it wants
it. -/
theorem Serves.perform (h : log.Serves id kinds) (hop : op.ends id = false) :
    (log.perform op).Serves id kinds ∧
      (log.perform op).seenBy id = log.seenBy id ++
        op.event?.toList.filter fun e => (Subscription.mk id kinds).wants e.kind := by
  cases op with
  | record e =>
      refine ⟨⟨h.observer, h.past⟩, ?_⟩
      rw [EventLog.perform, seenBy_record, h.observer]
      cases hwants : (Subscription.mk id kinds).wants e.kind <;> simp [LogOp.event?, hwants]
  | subscribe kinds' =>
      refine ⟨⟨?_, Nat.lt_succ_of_lt h.past⟩, (List.append_nil _).symm⟩
      rw [EventLog.perform, subscribe, List.filter_append, h.observer]
      simp [Nat.ne_of_gt h.past]
  | unsubscribe id' =>
      refine ⟨⟨?_, h.past⟩, (List.append_nil _).symm⟩
      have hne : id' ≠ id := ne_of_beq_false hop
      rw [EventLog.perform, unsubscribe, List.filter_comm, h.observer]
      simp [Ne.symm hne]
  | clear => exact ⟨⟨h.observer, h.past⟩, (List.append_nil _).symm⟩

/-- Unsubscribing drops an observer. -/
theorem Serves.unsubscribe (h : log.Serves id kinds) : (log.unsubscribe id).2.Dropped id := by
  refine ⟨?_, h.past⟩
  rw [EventLog.unsubscribe, List.filter_filter]
  simp

/-- An observer that was dropped sees no more. -/
theorem Dropped.perform (h : log.Dropped id) (op : LogOp) :
    (log.perform op).Dropped id ∧ (log.perform op).seenBy id = log.seenBy id := by
  cases op with
  | record e =>
      refine ⟨⟨h.observer, h.past⟩, ?_⟩
      rw [EventLog.perform, seenBy_record, h.observer]
      exact List.append_nil _
  | subscribe kinds' =>
      refine ⟨⟨?_, Nat.lt_succ_of_lt h.past⟩, rfl⟩
      rw [EventLog.perform, subscribe, List.filter_append, h.observer]
      simp [Nat.ne_of_gt h.past]
  | unsubscribe id' =>
      refine ⟨⟨?_, h.past⟩, rfl⟩
      rw [EventLog.perform, EventLog.unsubscribe, List.filter_comm, h.observer]
      rfl
  | clear => exact ⟨⟨h.observer, h.past⟩, rfl⟩

/-- An observer that was dropped sees nothing in any run. -/
theorem Dropped.run (h : log.Dropped id) (ops : List LogOp) :
    (log.run ops).seenBy id = log.seenBy id := by
  induction ops generalizing log with
  | nil => rfl
  | cons op rest ih =>
      obtain ⟨hdropped, hseen⟩ := h.perform op
      exact (ih hdropped).trans hseen

/-- An observer is there for the event of the first operation and for those that come later, unless
this operation ends its subscription. -/
theorem wanted_cons (id : Nat) (kinds : List EventKind) (op : LogOp) (rest : List LogOp) :
    wanted id kinds (op :: rest) =
      if op.ends id then []
      else (op.event?.toList.filter fun e => (Subscription.mk id kinds).wants e.kind) ++
        wanted id kinds rest := by
  have hevent (ops : List LogOp) :
      (op :: ops).filterMap (·.event?) = op.event?.toList ++ ops.filterMap (·.event?) := by
    rw [List.filterMap_cons]
    cases op.event? <;> rfl
  rw [wanted, List.takeWhile_cons]
  cases op.ends id with
  | true => rfl
  | false =>
      rw [Bool.not_false, if_pos rfl, hevent, List.filter_append]
      rfl

/-- **An observer sees what it wants until it is unsubscribed.** -/
theorem Serves.run (h : log.Serves id kinds) (ops : List LogOp) :
    (log.run ops).seenBy id = log.seenBy id ++ wanted id kinds ops := by
  induction ops generalizing log with
  | nil => exact (List.append_nil _).symm
  | cons op rest ih =>
      rw [wanted_cons]
      cases hop : op.ends id with
      | false =>
          obtain ⟨hserves, hseen⟩ := h.perform hop
          rw [if_neg Bool.false_ne_true, ← List.append_assoc, ← hseen]
          exact ih hserves
      | true =>
          -- the observer is dropped here, and sees no more
          cases op with
          | unsubscribe id' =>
              obtain rfl : id' = id := eq_of_beq hop
              rw [if_pos rfl, List.append_nil]
              exact h.unsubscribe.run rest
          | _ => exact nomatch hop

/-- Numbers that have not been handed out are still to be handed out after any operation. -/
theorem Unissued.perform (h : log.Unissued) (op : LogOp) : (log.perform op).Unissued := by
  cases op with
  | record e =>
      refine ⟨h.subscriptions, fun call hcall => ?_⟩
      obtain hcall | hcall := List.mem_append.mp hcall
      · exact h.calls call hcall
      · obtain ⟨s, hs, rfl⟩ := List.mem_map.mp hcall
        exact h.subscriptions s (List.mem_of_mem_filter hs)
  | subscribe kinds =>
      refine ⟨fun s hs => ?_, fun call hcall => Nat.lt_succ_of_lt (h.calls call hcall)⟩
      obtain hs | hs := List.mem_append.mp hs
      · exact Nat.lt_succ_of_lt (h.subscriptions s hs)
      · obtain rfl := List.mem_singleton.mp hs
        exact Nat.lt_succ_self _
  | unsubscribe id =>
      exact ⟨fun s hs => h.subscriptions s (List.mem_of_mem_filter hs), h.calls⟩
  | clear => exact ⟨h.subscriptions, h.calls⟩

/-- In every run of a new log, numbers from some point on have not been handed out. -/
theorem unissued_run (capacity : Nat) (ops : List LogOp) : ((empty capacity).run ops).Unissued :=
  List.foldlRecOn (motive := Unissued) ops _
    ⟨fun _ h => absurd h List.not_mem_nil, fun _ h => absurd h List.not_mem_nil⟩
    fun _ h op _ => h.perform op

/-- A new observer is served, and has seen nothing. -/
theorem Unissued.subscribe (h : log.Unissued) (kinds : List EventKind) :
    (log.subscribe kinds).2.Serves (log.subscribe kinds).1 kinds ∧
      (log.subscribe kinds).2.seenBy (log.subscribe kinds).1 = [] := by
  have hnone : log.subscriptions.filter (·.id = log.nextSubscription) = [] :=
    List.filter_eq_nil_iff.mpr fun s hs => by simpa using Nat.ne_of_lt (h.subscriptions s hs)
  have hcalls : log.calls.filter (·.1 = log.nextSubscription) = [] :=
    List.filter_eq_nil_iff.mpr fun call hcall => by simpa using Nat.ne_of_lt (h.calls call hcall)
  refine ⟨⟨?_, Nat.lt_succ_self _⟩, congrArg (List.map _) hcalls⟩
  rw [EventLog.subscribe, List.filter_append, hnone]
  simp

/-! ### Numbers -/

/-- The numbers that are handed out from a new log count up from 0. -/
theorem issued_eq_range (capacity : Nat) (ops : List LogOp) :
    (empty capacity).issued ops = List.range ((empty capacity).run ops).nextSubscription := by
  induction ops using List.reverseRecOn with
  | nil => rfl
  | append_singleton ops op ih =>
      rw [issued_append, ih, run_concat]
      cases op with
      | subscribe kinds => exact List.range_succ.symm
      | _ => exact List.append_nil _

/-- Unsubscribing succeeds if there is an observer of the number. -/
theorem unsubscribe_fst (log : EventLog) (id : Nat) :
    (log.unsubscribe id).1 = true ↔ id ∈ log.subscriptions.map (·.id) := by
  rw [unsubscribe, bne_iff_ne, ne_eq, List.length_filter_eq_length_iff]
  simp

/-- A subscription that is ended takes its number with it, and the others stay. -/
theorem perm_unsubscribe (log : EventLog) (id : Nat)
    (hnodup : (log.subscriptions.map (·.id)).Nodup) :
    (log.retires (.unsubscribe id) ++ (log.unsubscribe id).2.subscriptions.map (·.id)).Perm
      (log.subscriptions.map (·.id)) := by
  have hrest : (log.unsubscribe id).2.subscriptions.map (·.id) =
      (log.subscriptions.map (·.id)).erase id := by
    rw [hnodup.erase_eq_filter, List.filter_map]
    rfl
  rw [hrest, retires]
  by_cases hid : id ∈ log.subscriptions.map (·.id)
  · rw [if_pos ((log.unsubscribe_fst id).mpr hid)]
    exact (List.perm_cons_erase hid).symm
  · rw [if_neg (mt (log.unsubscribe_fst id).mp hid), List.erase_of_not_mem hid]
    exact .refl _

/-- **A number that was handed out has been given back or is still in use**, and none is both. -/
theorem perm_issued (capacity : Nat) (ops : List LogOp) :
    ((empty capacity).retired ops ++
      ((empty capacity).run ops).subscriptions.map (·.id)).Perm ((empty capacity).issued ops) := by
  induction ops using List.reverseRecOn with
  | nil => exact .refl _
  | append_singleton ops op ih =>
      have hnodup := ih.nodup_iff.mpr (issued_eq_range capacity ops ▸ List.nodup_range)
      rw [issued_append, retired_append, run_concat, issued, issued, retired, retired,
        List.append_nil, List.append_nil, List.append_assoc]
      cases op with
      | subscribe kinds =>
          change List.Perm (_ ++ List.map _ (_ ++ [_])) (_ ++ [_])
          rw [List.map_append, ← List.append_assoc]
          exact ih.append_right _
      | unsubscribe id =>
          have hended := perm_unsubscribe _ id hnodup.of_append_right
          exact ((hended.append_left _).trans ih).trans (.of_eq (List.append_nil _).symm)
      | record e => exact ih.trans (.of_eq (List.append_nil _).symm)
      | clear => exact ih.trans (.of_eq (List.append_nil _).symm)

/-- The numbers that are handed out from a new log strictly increase. -/
theorem pairwise_issued (capacity : Nat) (ops : List LogOp) :
    ((empty capacity).issued ops).Pairwise (· < ·) :=
  issued_eq_range capacity ops ▸ List.pairwise_lt_range

/-- No number that is handed out from a new log is given back twice, or is in use after that. -/
theorem nodup_retired (capacity : Nat) (ops : List LogOp) :
    ((empty capacity).retired ops ++
      ((empty capacity).run ops).subscriptions.map (·.id)).Nodup :=
  (perm_issued capacity ops).nodup_iff.mpr ((pairwise_issued capacity ops).imp Nat.ne_of_lt)

/-- A subscription is there if its number was handed out and has not been given back. -/
theorem mem_subscriptions_iff (capacity : Nat) (ops : List LogOp) (id : Nat) :
    id ∈ ((empty capacity).run ops).subscriptions.map (·.id) ↔
      id ∈ (empty capacity).issued ops ∧ id ∉ (empty capacity).retired ops := by
  have hdisjoint := List.disjoint_of_nodup_append (nodup_retired capacity ops)
  rw [← (perm_issued capacity ops).mem_iff, List.mem_append]
  exact ⟨fun h => ⟨.inr h, fun hended => hdisjoint hended h⟩, fun h => h.1.resolve_left h.2⟩

/-- A number is given back if it is unsubscribed after it was handed out. -/
theorem mem_retired_iff (capacity : Nat) (ops : List LogOp) (id : Nat) :
    id ∈ (empty capacity).retired ops ↔
      ∃ before after, ops = before ++ .unsubscribe id :: after ∧
        id ∈ (empty capacity).issued before := by
  constructor
  · induction ops using List.reverseRecOn with
    | nil => exact fun h => absurd h List.not_mem_nil
    | append_singleton ops op ih =>
        rw [retired_append, List.mem_append]
        rintro (h | h)
        · obtain ⟨before, after, rfl, hissued⟩ := ih h
          exact ⟨before, after ++ [op], by rw [List.append_assoc, List.cons_append], hissued⟩
        · rw [retired, retired, List.append_nil] at h
          cases op with
          | unsubscribe id' =>
              rw [retires] at h
              split at h
              · next hanswer =>
                  obtain rfl := List.mem_singleton.mp h
                  rw [unsubscribe_fst, mem_subscriptions_iff] at hanswer
                  exact ⟨ops, [], rfl, hanswer.1⟩
              · exact absurd h List.not_mem_nil
          | _ => exact absurd h List.not_mem_nil
  · rintro ⟨before, after, rfl, hissued⟩
    rw [retired_append, retired, List.mem_append, List.mem_append]
    by_cases hbefore : id ∈ (empty capacity).retired before
    · exact .inl hbefore
    · have hthere := (mem_subscriptions_iff capacity before id).mpr ⟨hissued, hbefore⟩
      rw [retires, if_pos ((unsubscribe_fst _ id).mpr hthere)]
      exact .inr (.inl List.mem_cons_self)

/-- Observers are called in the order of their subscriptions. -/
theorem sublist_issued (capacity : Nat) (ops : List LogOp) :
    (((empty capacity).run ops).subscriptions.map (·.id)).Sublist
      ((empty capacity).issued ops) := by
  induction ops using List.reverseRecOn with
  | nil => exact .refl _
  | append_singleton ops op ih =>
      rw [issued_append, run_concat, issued, issued, List.append_nil]
      cases op with
      | subscribe kinds =>
          rw [perform, subscribe, List.map_append]
          exact ih.append (.refl _)
      | unsubscribe id =>
          have hrest := (List.filter_sublist (p := (·.id != id))
            (l := ((empty capacity).run ops).subscriptions)).map (·.id)
          exact (hrest.trans ih).trans (List.sublist_append_left _ _)
      | record e => exact ih.trans (List.sublist_append_left _ _)
      | clear => exact ih.trans (List.sublist_append_left _ _)

/-- What the history and the calls of a new log are in every run of operations.

* `history`, `bounded`: the history is the end of what was recorded since the log was cleared, in
  order, and as much of it as the capacity allows.
* `seen`: an observer has been called with the events that were recorded between its subscription
  and its end and whose kind it wants, once each and in order.
* `called`: one event is passed on in the order of the subscriptions.
* `fresh`: no number is handed out twice.
* `answered`, `once`, `ended`: unsubscribing succeeds if the number was handed out and has not been
  given back, so it does so once for each number that was handed out and then unsubscribed. -/
structure Exact (capacity : Nat) (ops : List LogOp) : Prop where
  history : ((empty capacity).run ops).history = (sinceClear ops).rtake (max capacity 1)
  bounded : ((empty capacity).run ops).history.length = min (max capacity 1) (sinceClear ops).length
  seen : ∀ {before kinds after}, ops = before ++ .subscribe kinds :: after →
    ∀ {id log}, ((empty capacity).run before).subscribe kinds = (id, log) →
      ((empty capacity).run ops).seenBy id = wanted id kinds after
  called : ∀ {before e after}, ops = before ++ .record e :: after →
    ∃ called : List Nat, called.Sublist ((empty capacity).issued before) ∧
      ((empty capacity).run (before ++ [.record e])).calls =
        ((empty capacity).run before).calls ++ called.map fun id => (id, e)
  fresh : ((empty capacity).issued ops).Pairwise (· < ·)
  answered : ∀ {before id after}, ops = before ++ .unsubscribe id :: after →
    ((((empty capacity).run before).unsubscribe id).1 = true ↔
      id ∈ (empty capacity).issued before ∧ id ∉ (empty capacity).retired before)
  once : ((empty capacity).retired ops).Nodup
  ended : ∀ {id}, id ∈ (empty capacity).retired ops ↔
    ∃ before after, ops = before ++ .unsubscribe id :: after ∧ id ∈ (empty capacity).issued before

/-- **The history is an exact suffix, and the observers see exactly what they want**, for every
capacity and every run of operations. -/
theorem exact_run (capacity : Nat) (ops : List LogOp) : Exact capacity ops where
  history := history_run capacity ops
  bounded := by
    rw [history_run, List.rtake, List.length_drop]
    omega
  seen {before kinds after} hops {id log} hid := by
    obtain ⟨hserves, hnone⟩ := (unissued_run capacity before).subscribe kinds
    rw [hid] at hserves hnone
    have hrun : (empty capacity).run ops = log.run after := by
      rw [hops, run_append, run, List.foldl_cons, perform, hid, ← run]
    rw [hrun, hserves.run, hnone, List.nil_append]
  called {before e after} _ := by
    refine ⟨(((empty capacity).run before).subscriptions.filter (·.wants e.kind)).map (·.id),
      (List.filter_sublist.map _).trans (sublist_issued capacity before), ?_⟩
    rw [run_concat, perform, record, List.map_map]
    rfl
  fresh := pairwise_issued capacity ops
  answered {before id after} _ := by rw [unsubscribe_fst, mem_subscriptions_iff]
  once := (nodup_retired capacity ops).of_append_left
  ended := mem_retired_iff capacity ops _

end EventLog

end WidgetFlow
