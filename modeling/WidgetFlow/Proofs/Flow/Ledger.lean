import Mathlib.Data.List.Perm.Basic
import WidgetFlow.Proofs.Flow.Graph
import WidgetFlow.Flow.Event

/-!
# What a log of events tells

A ledger lists what is live: the instances, the connections, and which behavior is applied to whom.
Whoever has seen all events can keep one. Something is live as long as the event by which it began
stands, that is, no event that ends it came later (`Stands`). `Ledger.Tells l events` says that
exactly the entries of the ledger stand in this sense.

The events tell also of the values that go over connections. `Traffic events` says that each of them
names a connection that stands at this point, and that what is sent is received next.

An observer that wants every kind of events from the start sees the `journal` of the log.
`EventLog.Keeps log l` says that this journal is faithful to a ledger. A new log keeps the empty
ledger, and recording an event keeps whatever ledger the event leads to.

## Main results

* `stands_snoc`: how one more event changes what stands.
* `Ledger.Tells.created`, `.removed`, `.connected`, `.disconnected`, `.applied`, `.unapplied`:
  events that change the ledger.
* `Ledger.Tells.aside`: all the others.
* `Traffic.delivered`: a delivery is two events, and nothing comes between them.
* `EventLog.journal_record`: the observer sees every event.
* `EventLog.Keeps.record`, `EventLog.Keeps.delivered`, `EventLog.Keeps.disconnectAll`: the journal
  stays faithful.
-/

namespace WidgetFlow

/-! ### What the events are about -/

namespace Event

/-- The event tells that an instance was created. -/
def Creates (id : String) (e : Event) : Prop := e.kind = .instanceCreated ∧ e.component = id

/-- The event tells that an instance was removed. -/
def Removes (id : String) (e : Event) : Prop := e.kind = .instanceRemoved ∧ e.component = id

/-- The event tells that a connection was made. -/
def Connects (id : String) (e : Event) : Prop :=
  e.kind = .connectionCreated ∧ e.connection? = some id

/-- The event tells that a connection was removed. -/
def Disconnects (id : String) (e : Event) : Prop :=
  e.kind = .connectionRemoved ∧ e.connection? = some id

/-- The event tells that a behavior was applied to a component under the id of the application. -/
def Applies (id behavior owner : String) (e : Event) : Prop :=
  e.kind = .behaviorApplied ∧ e.component = owner ∧
    e.payload = .obj [("appliedId", .str id), ("behavior", .str behavior)]

/-- The event tells that an application was removed. -/
def Unapplies (id : String) (e : Event) : Prop :=
  e.kind = .behaviorRemoved ∧ e.payload = .obj [("appliedId", .str id)]

end Event

/-- Whether events of a kind tell that something begins or ends. -/
def EventKind.changes : EventKind → Bool
  | .instanceCreated | .instanceRemoved | .connectionCreated | .connectionRemoved
  | .behaviorApplied | .behaviorRemoved => true
  | _ => false

/-- Whether an event tells of a value that goes over a connection. -/
def Event.isTraffic (e : Event) : Bool :=
  match e.kind with
  | .connectionDataSent => true
  | .connectionDataReceived => e.connection?.isSome
  | _ => false

/-! ### What stands -/

/-- Among the events one starts something, and none that ends it comes later. -/
def Stands (starts ends : Event → Prop) (events : List Event) : Prop :=
  ∃ before event after, events = before ++ event :: after ∧ starts event ∧ ∀ e ∈ after, ¬ ends e

variable {starts ends : Event → Prop} {events before after : List Event} {e event : Event}

/-- An event of a list with one more event at the end is that event or one of the list. -/
theorem split_snoc (h : events ++ [e] = before ++ event :: after) :
    before = events ∧ event = e ∧ after = [] ∨
      ∃ rest, after = rest ++ [e] ∧ events = before ++ event :: rest := by
  rcases List.eq_nil_or_concat after with rfl | ⟨rest, last, rfl⟩
  · obtain ⟨hbefore, hlast⟩ := List.append_inj' h rfl
    exact Or.inl ⟨hbefore.symm, (List.cons.inj hlast).1.symm, rfl⟩
  · rw [List.concat_eq_append, ← List.cons_append, ← List.append_assoc] at h
    obtain ⟨hevents, hlast⟩ := List.append_inj' h rfl
    rw [(List.cons.inj hlast).1]
    exact Or.inr ⟨rest, List.concat_eq_append, hevents⟩

/-- After one more event what it starts stands, and what stood before and it does not end. -/
theorem stands_snoc :
    Stands starts ends (events ++ [e]) ↔ starts e ∨ Stands starts ends events ∧ ¬ ends e := by
  constructor
  · rintro ⟨before, event, after, h, hstarts, hends⟩
    rcases split_snoc h with ⟨-, rfl, -⟩ | ⟨rest, rfl, hevents⟩
    · exact Or.inl hstarts
    · exact Or.inr ⟨⟨before, event, rest, hevents, hstarts, fun x hx =>
        hends x (List.mem_append_left _ hx)⟩, hends e (List.mem_append_right _ List.mem_cons_self)⟩
  · rintro (hstarts | ⟨⟨before, event, after, rfl, hstarts, hends⟩, he⟩)
    · exact ⟨events, e, [], rfl, hstarts, fun x hx => absurd hx List.not_mem_nil⟩
    · refine ⟨before, event, after ++ [e], by simp, hstarts, fun x hx => ?_⟩
      rcases List.mem_append.mp hx with hx | hx
      · exact hends x hx
      · rwa [List.mem_singleton.mp hx]

/-- Nothing stands before the first event. -/
theorem not_stands_nil : ¬ Stands starts ends [] := by
  rintro ⟨before, event, after, h, -, -⟩
  exact List.append_ne_nil_of_right_ne_nil before (List.cons_ne_nil event after) h.symm

/-! ### Ids that were given -/

/-- The ids are distinct, and each belongs to a number that was used up. -/
def Issued (made : Nat) (ids : List String) : Prop :=
  ids.Nodup ∧ ∀ id ∈ ids, ∃ n < made, id = Graph.idOf n

/-- Only the ids count, not their order. -/
theorem Issued.perm {made : Nat} {ids ids' : List String} (h : Issued made ids)
    (hperm : ids.Perm ids') : Issued made ids' :=
  ⟨hperm.nodup_iff.mp h.1, fun id hid => h.2 id (hperm.mem_iff.mpr hid)⟩

/-- The id of the next number is new. -/
theorem Issued.next {made : Nat} {ids : List String} (h : Issued made ids) :
    Issued (made + 1) (Graph.idOf made :: ids) := by
  refine ⟨List.nodup_cons.mpr ⟨fun hmem => ?_, h.1⟩, fun id hid => ?_⟩
  · obtain ⟨n, hn, heq⟩ := h.2 _ hmem
    exact Nat.ne_of_gt hn (Graph.idOf_injective heq)
  · rcases List.mem_cons.mp hid with rfl | hid
    · exact ⟨made, Nat.lt_succ_self _, rfl⟩
    · obtain ⟨n, hn, heq⟩ := h.2 id hid
      exact ⟨n, Nat.lt_succ_of_lt hn, heq⟩

/-- The ids of the connections that events tell to be removed. -/
def disconnected (events : List Event) : List String :=
  events.filterMap fun e => if e.kind = .connectionRemoved then e.connection? else none

/-! ### Ledgers -/

/-- What is live: the instances, the ids of the connections, how many connections were made, and the
applications, each with its id, its behavior and its owner. -/
structure Ledger where
  instances : String → Bool
  connections : List String
  made : Nat
  applications : List (String × String × String)

namespace Ledger

/-- The ledger of a start: nothing is live. -/
def empty : Ledger := ⟨fun _ => false, [], 0, []⟩

/-- The ledger with an instance created. -/
def create (l : Ledger) (id : String) : Ledger :=
  { l with instances := fun key => decide (id = key) || l.instances key }

/-- The ledger with an instance removed, and with it what is applied to it. -/
def remove (l : Ledger) (id : String) : Ledger :=
  { l with instances := fun key => decide (id ≠ key) && l.instances key
           applications := l.applications.filter (·.2.2 != id) }

/-- The ledger with the next connection made. -/
def connect (l : Ledger) : Ledger :=
  { l with connections := l.connections ++ [Graph.idOf l.made], made := l.made + 1 }

/-- The ledger with the given connections left. -/
def disconnect (l : Ledger) (kept : List String) : Ledger := { l with connections := kept }

/-- The ledger with one more application. -/
def apply (l : Ledger) (id behavior owner : String) : Ledger :=
  { l with applications := l.applications ++ [(id, behavior, owner)] }

/-- The ledger with an application removed. -/
def unapply (l : Ledger) (id : String) : Ledger :=
  { l with applications := l.applications.filter (·.1 != id) }

variable {l l' : Ledger} {id : String} {payload : Value}

/-- What stands by the events is what is live by the ledger, and no connection is removed twice. -/
structure Tells (l : Ledger) (events : List Event) : Prop where
  instances : ∀ id, l.instances id = true ↔ Stands (Event.Creates id) (Event.Removes id) events
  connections : ∀ id,
    id ∈ l.connections ↔ Stands (Event.Connects id) (Event.Disconnects id) events
  applications : ∀ id behavior owner, (id, behavior, owner) ∈ l.applications ↔
    Stands (Event.Applies id behavior owner) (fun e => e.Unapplies id ∨ e.Removes owner) events
  issued : Issued l.made (l.connections ++ disconnected events)

/-- Without events nothing is live. -/
theorem Tells.nil : Ledger.empty.Tells [] where
  instances _ := iff_of_false (fun h => nomatch h) not_stands_nil
  connections _ := iff_of_false (fun h => nomatch h) not_stands_nil
  applications _ _ _ := iff_of_false (fun h => nomatch h) not_stands_nil
  issued := ⟨List.nodup_nil, fun _ h => absurd h List.not_mem_nil⟩

/-- A ledger with one more event tells what it told before, changed by the event. -/
theorem Tells.snoc (h : l.Tells events)
    (hinstances : ∀ id,
      l'.instances id = true ↔ e.Creates id ∨ l.instances id = true ∧ ¬ e.Removes id)
    (hconnections : ∀ id,
      id ∈ l'.connections ↔ e.Connects id ∨ id ∈ l.connections ∧ ¬ e.Disconnects id)
    (happlications : ∀ id behavior owner, (id, behavior, owner) ∈ l'.applications ↔
      e.Applies id behavior owner ∨
        (id, behavior, owner) ∈ l.applications ∧ ¬ (e.Unapplies id ∨ e.Removes owner))
    (hissued : Issued l'.made (l'.connections ++ disconnected (events ++ [e]))) :
    l'.Tells (events ++ [e]) where
  instances id := by rw [hinstances, h.instances, stands_snoc]
  connections id := by rw [hconnections, h.connections, stands_snoc]
  applications id behavior owner := by rw [happlications, h.applications, stands_snoc]
  issued := hissued

/-- The order of the connections does not count. -/
theorem Tells.perm (h : l.Tells events) {kept : List String} (hperm : l.connections.Perm kept) :
    (l.disconnect kept).Tells events where
  instances := h.instances
  connections id := hperm.mem_iff.symm.trans (h.connections id)
  applications := h.applications
  issued := h.issued.perm (hperm.append_right _)

/-- An event of a kind that changes nothing. -/
theorem Tells.aside (h : l.Tells events) (hkind : e.kind.changes = false) :
    l.Tells (events ++ [e]) := by
  have hne (kind : EventKind) (hchanges : kind.changes = true) : e.kind ≠ kind := by
    rintro rfl
    rw [hchanges] at hkind
    cases hkind
  refine h.snoc (fun key => ?_) (fun key => ?_) (fun key behavior owner => ?_) ?_
  · simp [Event.Creates, Event.Removes, hne .instanceCreated rfl, hne .instanceRemoved rfl]
  · simp [Event.Connects, Event.Disconnects, hne .connectionCreated rfl,
      hne .connectionRemoved rfl]
  · simp [Event.Applies, Event.Unapplies, Event.Removes, hne .behaviorApplied rfl,
      hne .behaviorRemoved rfl, hne .instanceRemoved rfl]
  · simpa [WidgetFlow.disconnected, hne .connectionRemoved rfl] using h.issued

/-- An instance is created, perhaps in place of an earlier one. -/
theorem Tells.created (h : l.Tells events) (id : String) (payload : Value) :
    (l.create id).Tells (events ++ [{ kind := .instanceCreated, component := id, payload }]) := by
  refine h.snoc (fun key => ?_) (fun key => ?_) (fun key behavior owner => ?_) ?_
  · simp [create, Event.Creates, Event.Removes]
  · simp [create, Event.Connects, Event.Disconnects]
  · simp [create, Event.Applies, Event.Unapplies, Event.Removes]
  · simpa [create, disconnected] using h.issued

/-- An instance is removed with what is applied to it. -/
theorem Tells.removed (h : l.Tells events) (id : String) (payload : Value) :
    (l.remove id).Tells (events ++ [{ kind := .instanceRemoved, component := id, payload }]) := by
  refine h.snoc (fun key => ?_) (fun key => ?_) (fun key behavior owner => ?_) ?_
  · simp [remove, Event.Creates, Event.Removes, and_comm]
  · simp [remove, Event.Connects, Event.Disconnects]
  · simp [remove, Event.Applies, Event.Unapplies, Event.Removes, @eq_comm _ id owner]
  · simpa [remove, disconnected] using h.issued

/-- A connection is made. -/
theorem Tells.connected (h : l.Tells events) (component : String) (payload : Value) :
    l.connect.Tells (events ++ [{ kind := .connectionCreated, component
                                  connection? := some (Graph.idOf l.made), payload }]) := by
  refine h.snoc (fun key => ?_) (fun key => ?_) (fun key behavior owner => ?_) ?_
  · simp [connect, Event.Creates, Event.Removes]
  · simp [connect, Event.Connects, Event.Disconnects, or_comm, @eq_comm _ key]
  · simp [connect, Event.Applies, Event.Unapplies, Event.Removes]
  · refine h.issued.next.perm ?_
    simp [connect, disconnected, List.perm_middle.symm]

/-- A connection is removed. -/
theorem Tells.disconnected (h : l.Tells events) {kept : List String}
    (hperm : l.connections.Perm (id :: kept)) (component : String) (payload : Value) :
    (l.disconnect kept).Tells
      (events ++ [{ kind := .connectionRemoved, component, connection? := some id, payload }]) := by
  -- the id was listed once, so that it does not stand for another connection that is left
  have hgone : id ∉ kept :=
    (List.nodup_cons.mp (hperm.nodup_iff.mp (List.nodup_append.mp h.issued.1).1)).1
  refine h.snoc (fun key => ?_) (fun key => ?_) (fun key behavior owner => ?_) ?_
  · simp [disconnect, Event.Creates, Event.Removes]
  · rw [hperm.mem_iff, List.mem_cons]
    simp only [disconnect, Event.Connects, Event.Disconnects, Option.some.injEq, true_and]
    constructor
    · exact fun hkey => Or.inr ⟨Or.inr hkey, fun heq => hgone (heq ▸ hkey)⟩
    · rintro (⟨hkind, -⟩ | ⟨rfl | hkey, hne⟩)
      · cases hkind
      · exact absurd rfl hne
      · exact hkey
  · simp [disconnect, Event.Applies, Event.Unapplies, Event.Removes]
  · have hids : WidgetFlow.disconnected
        (events ++ [{ kind := .connectionRemoved, component, connection? := some id, payload }]) =
          WidgetFlow.disconnected events ++ [id] := by
      simp [WidgetFlow.disconnected]
    rw [hids, ← List.append_assoc]
    exact h.issued.perm ((hperm.append_right _).trans (List.perm_append_singleton id _).symm)

/-- A behavior is applied. -/
theorem Tells.applied (h : l.Tells events) (id behavior owner : String) :
    (l.apply id behavior owner).Tells
      (events ++ [{ kind := .behaviorApplied, component := owner
                    payload := .obj [("appliedId", .str id), ("behavior", .str behavior)] }]) := by
  refine h.snoc (fun key => ?_) (fun key => ?_) (fun key name component => ?_) ?_
  · simp [apply, Event.Creates, Event.Removes]
  · simp [apply, Event.Connects, Event.Disconnects]
  · have hnew : (key, name, component) = (id, behavior, owner) ↔
        owner = component ∧ id = key ∧ behavior = name := by grind
    simp only [apply, List.mem_append, List.mem_singleton, hnew]
    simp [Event.Applies, Event.Unapplies, Event.Removes, or_comm]
  · simpa [apply, WidgetFlow.disconnected] using h.issued

/-- An application is removed. -/
theorem Tells.unapplied (h : l.Tells events) (id component : String) :
    (l.unapply id).Tells
      (events ++ [{ kind := .behaviorRemoved, component
                    payload := .obj [("appliedId", .str id)] }]) := by
  refine h.snoc (fun key => ?_) (fun key => ?_) (fun key behavior owner => ?_) ?_
  · simp [unapply, Event.Creates, Event.Removes]
  · simp [unapply, Event.Connects, Event.Disconnects]
  · simp [unapply, Event.Applies, Event.Unapplies, Event.Removes, @eq_comm _ id key]
  · simpa [unapply, WidgetFlow.disconnected] using h.issued

end Ledger

/-! ### Values on their way -/

/-- What goes over a connection goes over one that stands, and what is sent is received next. -/
def Carried (before : List Event) (e : Event) (after : List Event) : Prop :=
  (e.kind = .connectionDataSent ∨ e.kind = .connectionDataReceived → ∀ id,
    e.connection? = some id → Stands (Event.Connects id) (Event.Disconnects id) before) ∧
  (e.kind = .connectionDataSent → ∃ id received rest, after = received :: rest ∧
    e.connection? = some id ∧
    received.kind = .connectionDataReceived ∧ received.connection? = some id)

/-- Later events take nothing away from this. -/
theorem Carried.append (h : Carried before e after) (later : List Event) :
    Carried before e (after ++ later) := by
  refine ⟨h.1, fun hsent => ?_⟩
  obtain ⟨id, received, rest, rfl, hreceived⟩ := h.2 hsent
  exact ⟨id, received, rest ++ later, rfl, hreceived⟩

/-- All that goes over connections goes over such as stand and is received. -/
def Traffic (events : List Event) : Prop :=
  ∀ before e after, events = before ++ e :: after → Carried before e after

/-- Without events nothing goes over a connection. -/
theorem Traffic.nil : Traffic [] := fun before e after h =>
  absurd h.symm (List.append_ne_nil_of_right_ne_nil before (List.cons_ne_nil e after))

/-- An event that tells of no value on its way. -/
theorem Traffic.aside (h : Traffic events) (hquiet : e.isTraffic = false) :
    Traffic (events ++ [e]) := by
  have hsent : e.kind ≠ .connectionDataSent := fun hkind => by
    rw [Event.isTraffic, hkind] at hquiet
    cases hquiet
  intro before event after hsplit
  rcases split_snoc hsplit with ⟨-, rfl, -⟩ | ⟨rest, rfl, hevents⟩
  · refine ⟨fun hkind id hid => ?_, fun hkind => absurd hkind hsent⟩
    rw [Event.isTraffic, hkind.resolve_left hsent, hid] at hquiet
    cases hquiet
  · exact (h before event rest hevents).append [e]

/-- A value goes over a connection that stands. -/
theorem Traffic.delivered (h : Traffic events) {id : String}
    (hstands : Stands (Event.Connects id) (Event.Disconnects id) events)
    (source target : String) (sent received : Value) :
    Traffic (events ++ [{ kind := .connectionDataSent, component := source
                          connection? := some id, payload := sent }] ++
      [{ kind := .connectionDataReceived, component := target
         connection? := some id, payload := received }]) := by
  intro before event after hsplit
  rcases split_snoc hsplit with ⟨rfl, rfl, -⟩ | ⟨rest, rfl, hevents⟩
  · refine ⟨fun _ key hkey => ?_, fun hkind => by cases hkind⟩
    obtain rfl := Option.some.inj hkey
    exact stands_snoc.mpr (Or.inr ⟨hstands, fun hends => by cases hends.1⟩)
  · rcases split_snoc hevents with ⟨rfl, rfl, rfl⟩ | ⟨rest', rfl, hevents'⟩
    · refine ⟨fun _ key hkey => ?_, fun _ => ⟨id, _, [], rfl, rfl, rfl, rfl⟩⟩
      obtain rfl := Option.some.inj hkey
      exact hstands
    · rw [List.append_assoc]
      exact (h before event rest' hevents').append _

/-! ### The log -/

namespace EventLog

variable {log : EventLog} {l : Ledger}

/-- The events that the observer with the number 0 has seen. -/
def journal (log : EventLog) : List Event := (log.calls.filter (·.1 = 0)).map (·.2)

/-- There is one observer with the number 0, and it wants every kind of events. -/
def Watched (log : EventLog) : Prop := log.subscriptions.filter (·.id = 0) = [⟨0, []⟩]

/-- Recording leaves the observers alone. -/
theorem Watched.record (h : log.Watched) (e : Event) : (log.record e).Watched := h

/-- The observer sees every event. -/
theorem journal_record (h : log.Watched) (e : Event) :
    (log.record e).journal = log.journal ++ [e] := by
  have hwanting : (log.subscriptions.filter (·.wants e.kind)).filter (·.id = 0) = [⟨0, []⟩] := by
    rw [List.filter_comm, h]
    rfl
  have hcalls : ((log.subscriptions.filter (·.wants e.kind)).map fun s => (s.id, e)).filter
      (·.1 = 0) = [(0, e)] := by
    rw [List.filter_map]
    exact congrArg (List.map _) hwanting
  rw [journal, record, List.filter_append, List.map_append, hcalls]
  rfl

/-- Others may subscribe as well. -/
theorem Watched.subscribe (h : log.Watched) (hnext : log.nextSubscription ≠ 0)
    (kinds : List EventKind) : (log.subscribe kinds).2.Watched := by
  rw [Watched, EventLog.subscribe, List.filter_append, h]
  simp [hnext]

/-- The observer sees every event, and what it has seen is faithful to a ledger. -/
structure Keeps (log : EventLog) (l : Ledger) : Prop where
  watched : log.Watched
  tells : l.Tells log.journal
  traffic : Traffic log.journal

/-- An event that is no part of a delivery leads to the ledger that tells it. -/
theorem Keeps.record {l' : Ledger} (h : log.Keeps l) {e : Event}
    (htells : l'.Tells (log.journal ++ [e])) (hquiet : e.isTraffic = false) :
    (log.record e).Keeps l' where
  watched := h.watched.record e
  tells := by rwa [journal_record h.watched]
  traffic := by
    rw [journal_record h.watched]
    exact h.traffic.aside hquiet

/-- A delivery over a connection that is live. -/
theorem Keeps.delivered (h : log.Keeps l) {id : String} (hid : id ∈ l.connections)
    (source target : String) (sent received : Value) :
    ((log.record { kind := .connectionDataSent, component := source
                   connection? := some id, payload := sent }).record
      { kind := .connectionDataReceived, component := target
        connection? := some id, payload := received }).Keeps l where
  watched := (h.watched.record _).record _
  tells := by
    rw [journal_record (h.watched.record _), journal_record h.watched]
    exact (h.tells.aside rfl).aside rfl
  traffic := by
    rw [journal_record (h.watched.record _), journal_record h.watched]
    exact h.traffic.delivered ((h.tells.connections id).mp hid) source target sent received

/-- Connections that are removed in turn are told in turn. -/
theorem Keeps.disconnectAll (h : log.Keeps l) (component : String) {gone kept : List String}
    (hperm : l.connections.Perm (gone ++ kept)) :
    (gone.foldl (fun log id => log.record
      { kind := .connectionRemoved, component, connection? := some id }) log).Keeps
        (l.disconnect kept) := by
  induction gone generalizing log l with
  | nil => exact ⟨h.watched, h.tells.perm hperm, h.traffic⟩
  | cons id rest ih =>
      have hrest := ih (h.record (h.tells.disconnected hperm component .null) rfl) (.refl _)
      exact hrest

/-- Others may subscribe as well. -/
theorem Keeps.subscribe (h : log.Keeps l) (hnext : log.nextSubscription ≠ 0)
    (kinds : List EventKind) : (log.subscribe kinds).2.Keeps l :=
  ⟨h.watched.subscribe hnext kinds, h.tells, h.traffic⟩

/-- A new log with an observer that wants every kind of events, and then others. -/
def observed (capacity : Nat) (others : List (List EventKind)) : EventLog :=
  others.foldl (fun log kinds => (log.subscribe kinds).2) ((empty capacity).subscribe []).2

/-- The journal of a new log is faithful to the empty ledger. -/
theorem keeps_observed (capacity : Nat) (others : List (List EventKind)) :
    (observed capacity others).Keeps .empty := by
  have hstart : ((empty capacity).subscribe []).2.Keeps .empty := ⟨rfl, .nil, .nil⟩
  exact (List.foldlRecOn
    (motive := fun log : EventLog => log.nextSubscription ≠ 0 ∧ log.Keeps .empty) others _
    ⟨Nat.succ_ne_zero 0, hstart⟩ fun log h kinds _ =>
      ⟨Nat.succ_ne_zero _, h.2.subscribe h.1 kinds⟩).2

end EventLog

end WidgetFlow
