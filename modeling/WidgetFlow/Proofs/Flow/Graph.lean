import Mathlib.Data.List.Nodup
import WidgetFlow.Proofs.Dict
import WidgetFlow.Proofs.Text.Digits
import WidgetFlow.Flow.Graph

/-!
# The connections of a graph

What each change of a graph does to its connections. A connection has a number, which is never used
again, and the id that belongs to the number; the index leads from the id back to it.
`Graph.Named` says so, and every change keeps it.

## Main results

* `Graph.idOf_injective`: the id of a connection tells its number.
* `Graph.Named.connect`, `.disconnect`, `.removeFor`, `.clear`: changes keep a graph named.
* `Graph.Named.disconnect_perm`, `Graph.removeFor_perm`: the connections before are those that are
  left and those that were removed.
* `Graph.connectionId_mem_ids`: what is delivered came over a connection of the graph.
-/

namespace WidgetFlow.Graph

variable {g : Graph} {id : String} {c : Connection}

/-! ### Ids -/

/-- The id of a connection tells its number. -/
theorem idOf_injective {m n : Nat} (h : idOf m = idOf n) : m = n := by
  have hlist := congrArg String.toList h
  exact toDigits_injective (by simpa [idOf, toString] using hlist)

/-- The ids of the connections in the order in which they were made. -/
def ids (g : Graph) : List String := g.all.map (·.id)

/-- The ids are read off the numbered connections. -/
theorem ids_eq : g.ids = g.connections.map (·.2.id) := by
  rw [ids, all, List.map_map]
  rfl

/-- An id of a graph is that of a connection. -/
theorem mem_ids : id ∈ g.ids ↔ ∃ c ∈ g.all, c.id = id := List.mem_map

/-! ### Changes -/

/-- A new connection stands behind the others. -/
theorem all_connect (source target : Endpoint) (transform? : Option Transform) :
    (g.connect source target transform?).2.all =
      g.all ++ [⟨idOf g.next, source, target, transform?⟩] := by
  simp only [connect, all, List.map_append, List.map_cons, List.map_nil]

/-- The id of a new connection stands behind the others. -/
theorem ids_connect (source target : Endpoint) (transform? : Option Transform) :
    (g.connect source target transform?).2.ids = g.ids ++ [idOf g.next] := by
  rw [ids, all_connect, List.map_append]
  rfl

/-- Disconnecting makes no connection. -/
theorem mem_of_mem_disconnect (h : c ∈ (g.disconnect id).2.all) : c ∈ g.all := by
  rw [disconnect] at h
  split at h
  · exact h
  · exact (List.filter_sublist.map _).subset h

/-- Disconnecting uses up no number. -/
theorem next_disconnect : (g.disconnect id).2.next = g.next := by
  rw [disconnect]
  split <;> rfl

/-- What is left when the connections of a component are removed. -/
theorem all_removeFor (component : String) :
    (g.removeFor component).2.all = g.all.filter fun c => !c.touches component := by
  simp only [removeFor, all]
  rw [List.filter_map]
  rfl

/-- The connections before a removal are those that touch the component and those that are left. -/
theorem removeFor_perm (g : Graph) (component : String) :
    g.ids.Perm ((g.all.filter (·.touches component)).map (·.id) ++
      (g.removeFor component).2.ids) := by
  rw [ids, ids, all_removeFor, ← List.map_append]
  exact (List.filter_append_perm (·.touches component) g.all).symm.map _

/-- A connection that is found was listed under the number that the index gives. -/
theorem exists_of_get? (h : g.get? id = some c) :
    ∃ n, Dict.get? g.index id = some n ∧ (n, c) ∈ g.connections := by
  rw [get?, Option.bind_eq_some_iff] at h
  obtain ⟨n, hn, hfound⟩ := h
  obtain ⟨entry, hentry, rfl⟩ := Option.map_eq_some_iff.mp hfound
  have hnumber : entry.1 = n := by simpa using List.find?_some hentry
  exact ⟨n, hn, hnumber ▸ List.mem_of_find?_eq_some hentry⟩

/-- Disconnecting what is not found leaves the connections alone. -/
theorem ids_disconnect_of_none (h : g.get? id = none) : (g.disconnect id).2.ids = g.ids := by
  rw [disconnect]
  split
  · rfl
  · next n hn =>
      rw [get?, hn, Option.bind_some, Option.map_eq_none_iff, List.find?_eq_none] at h
      have hall : g.connections.filter (·.1 != n) = g.connections := by
        refine List.filter_eq_self.mpr fun entry hentry => ?_
        have hne := h entry hentry
        simpa using hne
      rw [ids_eq, ids_eq, hall]

/-! ### Names -/

/-- Every connection has a number of its own that was used up, and the id of this number; so has
every entry of the index. -/
structure Named (g : Graph) : Prop where
  ids : ∀ entry ∈ g.connections, entry.2.id = idOf entry.1
  numbers : (g.connections.map (·.1)).Nodup
  used : ∀ entry ∈ g.connections, entry.1 < g.next
  index : ∀ entry ∈ g.index, entry.1 = idOf entry.2

/-- A graph without connections is named. -/
theorem Named.clear (g : Graph) : g.clear.Named where
  ids _ h := absurd h List.not_mem_nil
  numbers := List.nodup_nil
  used _ h := absurd h List.not_mem_nil
  index _ h := absurd h List.not_mem_nil

/-- A graph stays named when connections and entries of the index go. -/
theorem Named.sublist {g' : Graph} (h : g.Named) (hnext : g'.next = g.next)
    (hconnections : g'.connections.Sublist g.connections)
    (hindex : ∀ entry ∈ g'.index, entry ∈ g.index) : g'.Named where
  ids entry hentry := h.ids entry (hconnections.subset hentry)
  numbers := h.numbers.sublist (hconnections.map _)
  used entry hentry := hnext ▸ h.used entry (hconnections.subset hentry)
  index entry hentry := h.index entry (hindex entry hentry)

/-- Connecting keeps a graph named: a new connection takes the next number. -/
theorem Named.connect (h : g.Named) (source target : Endpoint) (transform? : Option Transform) :
    (g.connect source target transform?).2.Named where
  ids entry hentry := by
    rcases List.mem_append.mp hentry with hentry | hentry
    · exact h.ids entry hentry
    · obtain rfl := List.mem_singleton.mp hentry
      rfl
  numbers := by
    rw [Graph.connect, List.map_append, List.map_singleton]
    refine List.nodup_append.mpr ⟨h.numbers, List.nodup_singleton _, fun m hm k hk => ?_⟩
    obtain ⟨entry, hentry, rfl⟩ := List.mem_map.mp hm
    rw [List.mem_singleton.mp hk]
    exact Nat.ne_of_lt (h.used entry hentry)
  used entry hentry := by
    rcases List.mem_append.mp hentry with hentry | hentry
    · exact Nat.lt_succ_of_lt (h.used entry hentry)
    · obtain rfl := List.mem_singleton.mp hentry
      exact Nat.lt_succ_self _
  index entry hentry := by
    rcases Dict.mem_insert hentry with rfl | hentry
    · rfl
    · exact h.index entry hentry

/-- Disconnecting keeps a graph named. -/
theorem Named.disconnect (h : g.Named) (id : String) : (g.disconnect id).2.Named := by
  rw [Graph.disconnect]
  split
  · exact h
  · exact h.sublist rfl List.filter_sublist fun entry hentry => Dict.mem_erase hentry

/-- Removing the connections of a component keeps a graph named. -/
theorem Named.removeFor (h : g.Named) (component : String) : (g.removeFor component).2.Named := by
  refine h.sublist rfl List.filter_sublist fun entry hentry => ?_
  exact List.foldlRecOn (motive := fun index : Dict Nat => entry ∈ index → entry ∈ g.index)
    _ _ id (fun index ih c _ he => ih (Dict.mem_erase he)) hentry

/-- The connections before a disconnection are the one removed and those that are left. -/
theorem Named.disconnect_perm (h : g.Named) (hc : g.get? id = some c) :
    (g.disconnect id).1 = true ∧ g.ids.Perm (id :: (g.disconnect id).2.ids) := by
  obtain ⟨n, hn, hmem⟩ := exists_of_get? hc
  have hid : c.id = id := (h.ids _ hmem).trans (h.index (id, n) (Dict.mem_of_get? hn)).symm
  obtain ⟨before, after, hsplit⟩ := List.append_of_mem hmem
  have hother : ∀ entry ∈ before ++ after, entry.1 ≠ n := by
    have hnumbers := h.numbers
    rw [hsplit, List.map_append, List.map_cons, List.nodup_middle, ← List.map_append] at hnumbers
    exact fun entry hentry heq =>
      (List.nodup_cons.mp hnumbers).1 (List.mem_map.mpr ⟨entry, hentry, heq⟩)
  have hkept : g.connections.filter (·.1 != n) = before ++ after := by
    rw [hsplit, List.filter_append, List.filter_cons_of_neg (by simp), ← List.filter_append]
    exact List.filter_eq_self.mpr fun entry hentry => by simpa using hother entry hentry
  rw [Graph.disconnect, hn]
  refine ⟨rfl, ?_⟩
  simp only [ids_eq, hkept]
  rw [hsplit, ← hid, List.map_append, List.map_cons, List.map_append]
  exact List.perm_middle

/-! ### Deliveries -/

/-- Carries a value over one connection of a propagation. -/
def carryOver (v : Value) (r : List Delivery × Store × List String) (c : Connection) :
    List Delivery × Store × List String :=
  if r.2.1.contains c.target.component then
    (r.1 ++ [⟨c.id, c.target, (c.carry v).1⟩],
      (r.2.1.setStateValue c.target.component c.target.point (c.carry v).1).2,
      r.2.2 ++ (c.carry v).2)
  else r

/-- A propagation takes the connections one after the other. -/
theorem propagate_eq (g : Graph) (source : Endpoint) (v : Value) (s : Store) :
    g.propagate source v s =
      (g.outgoing source.component (some source.point)).foldl (carryOver v) ([], s, []) := rfl

/-- What is delivered came over a connection of the graph. -/
theorem connectionId_mem_ids {source : Endpoint} {v : Value} {s : Store} {d : Delivery}
    (h : d ∈ (g.propagate source v s).1) : d.connectionId ∈ g.ids := by
  have hall : ∀ d ∈ (g.propagate source v s).1, d.connectionId ∈ g.ids := by
    rw [propagate_eq]
    refine List.foldlRecOn (motive := fun r : List Delivery × Store × List String =>
      ∀ d ∈ r.1, d.connectionId ∈ g.ids) _ _ (fun d hd => absurd hd List.not_mem_nil)
      fun r hr c hc d hd => ?_
    rw [carryOver] at hd
    split at hd
    · rcases List.mem_append.mp hd with hd | hd
      · exact hr d hd
      · obtain rfl := List.mem_singleton.mp hd
        exact mem_ids.mpr ⟨c, List.mem_of_mem_filter hc, rfl⟩
    · exact hr d hd
  exact hall d h

end WidgetFlow.Graph
