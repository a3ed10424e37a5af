import Mathlib.Data.List.Find
import WidgetFlow.Proofs.Flow.Graph

/-!
# A graph as the list of its connections

A graph keeps its connections under numbers, and an index from their ids to the numbers; a change
writes the two one after the other. This module says that they amount to a plain list: the live
connections in the order in which they were made.

`Edges.change` says what each change does to the list, and mentions neither numbers nor an index.
`Graph.Lists` relates a graph to the list. It holds of the empty graph, every change keeps it, and
from it follows that whatever a graph is asked, it answers as the list does (`Graph.Answers`).

## Main results

* `Graph.Lists.change`: a change of the graph is the change of the list.
* `Graph.Lists.answers`: what a graph answers is read off the list.
* `Graph.refines_list`: **after all changes a graph is the list of its connections.**
-/

namespace WidgetFlow

/-! ### Changes of a list -/

/-- A change of the connections. -/
inductive GraphChange where
  | connect (source target : Endpoint) (transform? : Option Transform)
  | disconnect (id : String)
  | removeFor (component : String)
  | clear

/-- A graph after a change. -/
def Graph.change (g : Graph) : GraphChange → Graph
  | .connect source target transform? => (g.connect source target transform?).2
  | .disconnect id => (g.disconnect id).2
  | .removeFor component => (g.removeFor component).2
  | .clear => g.clear

/-- The live connections in the order in which they were made, and how many were ever made. -/
structure Edges where
  live : List Connection := []
  made : Nat := 0

/-- A list of connections after a change. A new connection has an id that none had before. -/
def Edges.change (edges : Edges) : GraphChange → Edges
  | .connect source target transform? =>
    { live := edges.live ++ [⟨Graph.idOf edges.made, source, target, transform?⟩]
      made := edges.made + 1 }
  | .disconnect id => { edges with live := edges.live.filter (·.id != id) }
  | .removeFor component =>
    { edges with live := edges.live.filter fun c =>
        c.source.component ≠ component ∧ c.target.component ≠ component }
  | .clear => { edges with live := [] }

namespace Graph

variable {g : Graph} {edges : Edges} {id : String} {n : Nat} {c : Connection}

/-- A connection touches a component if it starts or ends there. -/
theorem not_touches_eq (component : String) : (fun c : Connection => !c.touches component) =
    fun c => decide (c.source.component ≠ component ∧ c.target.component ≠ component) := by
  funext c
  simp [Connection.touches]

/-! ### Graphs and lists -/

/-- The graph holds the connections of a list: under numbers that increase and were used up, and
with an index that leads from exactly their ids to their numbers. -/
structure Lists (g : Graph) (edges : Edges) : Prop extends g.Named where
  all : g.all = edges.live
  next : g.next = edges.made
  increasing : (g.connections.map (·.1)).Pairwise (· < ·)
  sorted : Dict.Sorted g.index
  inverse : ∀ id n, Dict.get? g.index id = some n ↔ ∃ c, (n, c) ∈ g.connections ∧ c.id = id

/-- The empty graph holds the empty list. -/
theorem Lists.empty : Lists {} {} where
  toNamed := Named.clear {}
  all := rfl
  next := rfl
  increasing := List.Pairwise.nil
  sorted := Dict.Sorted.nil
  inverse _ _ := ⟨nofun, fun ⟨_, hmem, _⟩ => absurd hmem List.not_mem_nil⟩

/-- An id is in the index if a connection of the list has it. -/
theorem Lists.get?_eq_none_iff (h : g.Lists edges) :
    Dict.get? g.index id = none ↔ ∀ c ∈ edges.live, c.id ≠ id := by
  rw [← h.all, Option.eq_none_iff_forall_ne_some]
  constructor
  · rintro hnone c hc rfl
    obtain ⟨entry, hentry, rfl⟩ := List.mem_map.mp hc
    exact hnone entry.1 ((h.inverse _ _).mpr ⟨entry.2, hentry, rfl⟩)
  · rintro hnone n hn
    obtain ⟨c, hc, hid⟩ := (h.inverse id n).mp hn
    exact hnone c (List.mem_map.mpr ⟨_, hc, rfl⟩) hid

/-- The connection under a number is the one of the id that the index leads from. -/
theorem Named.number_eq_iff (h : g.Named) (hn : Dict.get? g.index id = some n)
    {entry : Nat × Connection} (hentry : entry ∈ g.connections) :
    entry.1 = n ↔ entry.2.id = id := by
  have hid : id = idOf n := h.index (id, n) (Dict.mem_of_get? hn)
  rw [h.ids entry hentry, hid]
  exact ⟨congrArg idOf, idOf_injective⟩

/-- No two connections have one id. -/
theorem Named.nodup_ids (h : g.Named) : g.ids.Nodup := by
  have hids : g.ids = (g.connections.map (·.1)).map idOf := by
    rw [ids_eq, List.map_map]
    exact List.map_congr_left h.ids
  rw [hids]
  exact h.numbers.map fun _ _ => idOf_injective

/-! ### One change -/

/-- A new connection has the next number, and its id leads to it. -/
theorem Lists.connect (h : g.Lists edges) (source target : Endpoint)
    (transform? : Option Transform) :
    (g.connect source target transform?).2.Lists
      (edges.change (.connect source target transform?)) where
  toNamed := h.toNamed.connect source target transform?
  all := by rw [all_connect, h.all, h.next]; rfl
  next := congrArg (· + 1) h.next
  increasing := by
    rw [Graph.connect, List.map_append, List.pairwise_append]
    refine ⟨h.increasing, List.pairwise_singleton _ _, fun m hm k hk => ?_⟩
    obtain ⟨entry, hentry, rfl⟩ := List.mem_map.mp hm
    rw [List.mem_singleton.mp hk]
    exact h.used entry hentry
  sorted := h.sorted.insert
  inverse id n := by
    simp only [Graph.connect, List.mem_append, List.mem_singleton, Prod.mk.injEq]
    rw [Dict.get?_insert]
    split
    · next hnew =>
        -- no older connection has the new id: its number was not used before
        have hfresh : ∀ c, (n, c) ∈ g.connections → c.id ≠ id := fun c hc hid => by
          have hnumber := idOf_injective ((h.ids _ hc).symm.trans (hid.trans hnew.symm))
          exact Nat.ne_of_lt (h.used _ hc) hnumber
        constructor
        · rintro ⟨⟩
          exact ⟨_, .inr ⟨rfl, rfl⟩, hnew⟩
        · rintro ⟨c, hc | ⟨rfl, -⟩, hid⟩
          · exact absurd hid (hfresh c hc)
          · rfl
    · next hold =>
        rw [h.inverse]
        refine exists_congr fun c => and_congr_left fun hid => (or_iff_left ?_).symm
        rintro ⟨-, rfl⟩
        exact hold hid

/-- Disconnecting removes the connection of the id from the list, and nothing else. -/
theorem Lists.disconnect (h : g.Lists edges) (id : String) :
    (g.disconnect id).2.Lists (edges.change (.disconnect id)) := by
  have hnamed := h.toNamed.disconnect id
  rw [Graph.disconnect] at hnamed ⊢
  cases hn : Dict.get? g.index id with
  | none =>
      have hall : edges.live.filter (·.id != id) = edges.live :=
        List.filter_eq_self.mpr fun c hc => bne_iff_ne.mpr (h.get?_eq_none_iff.mp hn c hc)
      rw [Edges.change, hall]
      exact h
  | some n =>
      rw [hn] at hnamed
      -- the number and the id pick out the same entry
      have hsame : g.connections.filter (·.1 != n) = g.connections.filter (·.2.id != id) :=
        List.filter_congr fun entry hentry =>
          Bool.eq_iff_iff.mpr (by simpa using (h.number_eq_iff hn hentry).not)
      refine ⟨hnamed, ?_, h.next, h.increasing.sublist (List.filter_sublist.map _),
        h.sorted.erase, fun id' m => ?_⟩
      · change (g.connections.filter (·.1 != n)).map (·.2) = edges.live.filter (·.id != id)
        rw [hsame, ← h.all, Graph.all, List.filter_map]
        rfl
      · simp only [hsame, List.mem_filter, bne_iff_ne]
        rw [h.sorted.get?_erase]
        split
        · next heq =>
            refine iff_of_false (Option.some_ne_none _).symm ?_
            rintro ⟨c, ⟨-, hne⟩, hid⟩
            exact hne (hid.trans heq.symm)
        · next hne =>
            rw [h.inverse]
            refine exists_congr fun c => and_congr_left fun hid => (and_iff_left ?_).symm
            exact fun hc => hne (hc.symm.trans hid)

/-- Removing the connections of a component removes from the list those that touch it. -/
theorem Lists.removeFor (h : g.Lists edges) (component : String) :
    (g.removeFor component).2.Lists (edges.change (.removeFor component)) where
  toNamed := h.toNamed.removeFor component
  all := by rw [all_removeFor, h.all, not_touches_eq]; rfl
  next := h.next
  increasing := h.increasing.sublist (List.filter_sublist.map _)
  sorted := h.sorted.foldl_erase _
  inverse id n := by
    simp only [Graph.removeFor, List.mem_filter]
    rw [h.sorted.get?_foldl_erase]
    split
    · next hdoomed =>
        obtain ⟨entry, hentry, hid⟩ := List.mem_map.mp hdoomed
        obtain ⟨hmem, htouches⟩ := List.mem_filter.mp hentry
        refine iff_of_false (Option.some_ne_none _).symm ?_
        -- one number has one connection, and that of the id is gone
        rintro ⟨c, ⟨hc, hkept⟩, hid'⟩
        have hn := (h.inverse _ _).mpr ⟨c, hc, hid'⟩
        have hnumber := (h.number_eq_iff hn hmem).mpr hid
        have hsame : entry = (n, c) := List.inj_on_of_nodup_map h.numbers hmem hc hnumber
        rw [hsame] at htouches
        simp [htouches] at hkept
    · next hkept =>
        rw [h.inverse]
        refine exists_congr fun c => and_congr_left fun hid => ?_
        refine (and_iff_left_of_imp fun hc => ?_).symm
        by_contra htouches
        rw [Bool.not_eq_true', Bool.not_eq_false] at htouches
        exact hkept (List.mem_map.mpr ⟨_, List.mem_filter.mpr ⟨hc, htouches⟩, hid⟩)

/-- Removing all connections leaves the empty list; numbers that were used stay used. -/
theorem Lists.clear (h : g.Lists edges) : g.clear.Lists (edges.change .clear) :=
  { Lists.empty with toNamed := Named.clear g, next := h.next }

/-- **A change of the graph is the change of the list.** -/
theorem Lists.change (h : g.Lists edges) (change : GraphChange) :
    (g.change change).Lists (edges.change change) := by
  cases change with
  | connect source target transform? => exact h.connect source target transform?
  | disconnect id => exact h.disconnect id
  | removeFor component => exact h.removeFor component
  | clear => exact h.clear

/-- Changes of the graph, one after the other, are the changes of the list. -/
theorem Lists.run (h : g.Lists edges) (changes : List GraphChange) :
    (changes.foldl Graph.change g).Lists (changes.foldl Edges.change edges) := by
  induction changes generalizing g edges with
  | nil => exact h
  | cons change rest ih => exact ih (h.change change)

/-! ### Answers -/

/-- What a graph answers and how it changes, read off a list of connections. -/
structure Answers (g : Graph) (live : List Connection) : Prop where
  all : g.all = live
  size : g.size = live.length
  get? : ∀ id, g.get? id = live.find? (·.id = id)
  exists? : ∀ source target,
    g.exists? source target = true ↔ ∃ c ∈ live, c.source = source ∧ c.target = target
  outgoing : ∀ component point?, g.outgoing component point? = live.filter fun c =>
    c.source.component = component ∧ ∀ point ∈ point?, c.source.point = point
  incoming : ∀ component point?, g.incoming component point? = live.filter fun c =>
    c.target.component = component ∧ ∀ point ∈ point?, c.target.point = point
  connect : ∀ source target transform?, ∃ id, (∀ c ∈ live, c.id ≠ id) ∧
    (g.connect source target transform?).1 = id ∧
    (g.connect source target transform?).2.all = live ++ [⟨id, source, target, transform?⟩]
  disconnect : ∀ id, ((g.disconnect id).1 = true ↔ ∃ c ∈ live, c.id = id) ∧
    (g.disconnect id).2.all = live.filter (·.id != id)
  removeFor : ∀ component,
    (g.removeFor component).1 = (live.filter fun c =>
      c.source.component = component ∨ c.target.component = component).length ∧
    (g.removeFor component).2.all = live.filter fun c =>
      c.source.component ≠ component ∧ c.target.component ≠ component
  clear : g.clear.all = []

/-- The connection of an id is the one in the list. -/
theorem Lists.get?_eq (h : g.Lists edges) (id : String) :
    g.get? id = edges.live.find? (·.id = id) := by
  rw [Graph.get?]
  cases hn : Dict.get? g.index id with
  | none =>
      refine (List.find?_eq_none.mpr fun c hc => ?_).symm
      simpa using h.get?_eq_none_iff.mp hn c hc
  | some n =>
      have hsame : g.connections.find? (·.1 = n) = g.connections.find? (·.2.id = id) :=
        List.find?_congr fun entry hentry => by simp only [h.number_eq_iff hn hentry]
      rw [Option.bind_some, hsame, ← h.all, Graph.all, List.find?_map]
      rfl

/-- The id of a new connection is that of no other. -/
theorem Lists.fresh (h : g.Lists edges) : ∀ c ∈ edges.live, c.id ≠ idOf g.next := by
  rw [← h.all]
  rintro c hc hid
  obtain ⟨entry, hentry, rfl⟩ := List.mem_map.mp hc
  exact Nat.ne_of_lt (h.used entry hentry) (idOf_injective ((h.ids entry hentry).symm.trans hid))

/-- **What a graph answers is read off the list.** -/
theorem Lists.answers (h : g.Lists edges) : g.Answers edges.live where
  all := h.all
  size := by rw [← h.all, Graph.all, List.length_map]; rfl
  get? := h.get?_eq
  exists? source target := by
    rw [Graph.exists?, h.all, List.any_eq_true]
    simp only [Bool.and_eq_true, decide_eq_true_eq]
  outgoing component point? := by
    rw [Graph.outgoing, h.all]
    cases point? <;> simp
  incoming component point? := by
    rw [Graph.incoming, h.all]
    cases point? <;> simp
  connect source target transform? :=
    ⟨idOf g.next, h.fresh, rfl, by rw [all_connect, h.all]⟩
  disconnect id := by
    refine ⟨?_, (h.disconnect id).all⟩
    have hnone : Dict.get? g.index id = none ↔ ∀ c ∈ edges.live, c.id ≠ id :=
      h.get?_eq_none_iff
    rw [Graph.disconnect]
    cases hn : Dict.get? g.index id with
    | none => simpa using hnone.mp hn
    | some n => simpa [hn] using hnone
  removeFor component := by
    refine ⟨?_, (h.removeFor component).all⟩
    rw [← h.all, Graph.all, List.filter_map, List.length_map]
    simp only [Graph.removeFor, Connection.touches]
    congr 2
    funext entry
    simp
  clear := rfl

/-- **After all changes a graph is the list of its connections.** The numbers of the live
connections increase in the order in which they were made and stay below the next number; the index
leads from exactly their ids to their numbers; no two have one id; and every question is answered,
and every change made, as on the list. -/
theorem refines_list (changes : List GraphChange) :
    let g := changes.foldl Graph.change {}
    let live := (changes.foldl Edges.change {}).live
    (g.connections.map (·.1)).Pairwise (· < ·) ∧ (∀ entry ∈ g.connections, entry.1 < g.next) ∧
    (∀ id n, Dict.get? g.index id = some n ↔ ∃ c, (n, c) ∈ g.connections ∧ c.id = id) ∧
    (live.map (·.id)).Nodup ∧ g.Answers live := by
  intro g live
  have h : g.Lists (changes.foldl Edges.change {}) := Lists.empty.run changes
  have hids := h.nodup_ids
  rw [ids, h.all] at hids
  exact ⟨h.increasing, h.used, h.inverse, hids, h.answers⟩

/-- A connection from a component to itself is removed, and counted, once. -/
example : let loop : GraphChange := .connect ⟨"a", "out"⟩ ⟨"a", "in"⟩ none
    (([loop].foldl Graph.change {}).removeFor "a").1 = 1 := by decide

end Graph

end WidgetFlow
