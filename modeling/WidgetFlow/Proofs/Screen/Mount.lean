import WidgetFlow.Proofs.Tree.Later
import WidgetFlow.Proofs.Tree.Roots
import WidgetFlow.Proofs.Screen.Operation

/-!
# What mounting and resolving do to the tree of a screen

Mounting plants the planned nodes and lets them wait; resolving gives every waiting node its status
at once, by what the resolver answers for its kind, and changes nothing else of the tree.

## Main results

* `restated_queue`, `restated_resolve`: mounting and resolving change statuses.
* `LookedUp.planted`, `LookedUp.resolve`: a node that does not wait has the status of its kind.
* `mount_cases`, `mountApp_cases`, `replaceTree_cases`, `replaceApp_cases`: the trees that are
  planted.
* `runs_perform`: what an operation does to the engine is a run of the engine.
-/

namespace WidgetFlow

namespace Arena

variable {a b c : Arena} {status : Nat → Node → Status}

/-! ### Statuses -/

/-- The second arena is the first one with other statuses. -/
structure Restated (a b : Arena) (status : Nat → Node → Status) : Prop where
  length : b.slots.length = a.slots.length
  byId : b.byId = a.byId
  roots : b.roots = a.roots
  get? : ∀ i, b.get? i = (a.get? i).map fun n => { n with status := status i n }

namespace Restated

/-- Other statuses leave a forest. -/
theorem linked (h : a.Restated b status) (ha : a.Linked []) : b.Linked [] := by
  refine ha.of_same (fun k => ?_) h.roots
  rw [h.get?, Option.map_map]
  rfl

/-- Other statuses leave the ids where they are. -/
theorem keyed (h : a.Restated b status) (ha : a.Keyed) : b.Keyed := by
  refine ha.of_same h.byId fun k => ?_
  rw [h.get?, Option.map_map]
  rfl

/-- Under every id stands the same node, apart from its status. -/
theorem map_find? (h : a.Restated b status) {α : Type} {f : Node → α}
    (hf : ∀ n status, f { n with status } = f n) {id : String} :
    (b.find? id).map f = (a.find? id).map f := by
  rw [find?, find?, indexOf?, indexOf?, h.byId]
  cases Dict.get? a.byId id with
  | none => rfl
  | some i =>
      rw [Option.bind_some, Option.bind_some, h.get?, Option.map_map]
      cases a.get? i with
      | none => rfl
      | some n => exact congrArg some (hf n _)

/-- Other statuses of nodes that wait lead to a later state. -/
theorem later (h : a.Restated b status) (hstatus : ∀ i n, a.get? i = some n →
    n.status.isWaiting = false → status i n = n.status) : a.Later b :=
  later_of_map h.length.symm h.get? fun i n hn => ⟨rfl, rfl, rfl, hstatus i n hn, .refl _⟩

end Restated

end Arena

namespace Screen

variable {s : Screen} {i : Nat}

/-! ### Waiting -/

/-- The status of a node that has been asked for, if it was not yet. -/
def awaited : Status → Status
  | .unresolved => .loading
  | status => status

/-- A node that was asked for is not asked for again. -/
theorem awaited_of_ne {status : Status} (h : status ≠ .unresolved) : awaited status = status := by
  cases status with
  | unresolved => exact absurd rfl h
  | _ => rfl

/-- To wait is not to be ready. -/
theorem isReady_awaited {status : Status} : (awaited status).isReady = status.isReady := by
  cases status <;> rfl

/-- All nodes that were not looked up yet wait afterwards. -/
theorem restated_queue (s : Screen) :
    s.arena.Restated (queue s).arena fun _ node => awaited node.status where
  length := List.length_map ..
  byId := rfl
  roots := rfl
  get? i := by
    change ((s.arena.slots.map _)[i]?).join = ((s.arena.slots[i]?).join).map _
    rw [List.getElem?_map]
    rcases s.arena.slots[i]? with _ | _ | ⟨_, _, _, _, _, _, _, _, _, status, _, _⟩
    · rfl
    · rfl
    · cases status <;> rfl

/-- Waiting is a later state of the tree. -/
theorem later_queue (s : Screen) : s.arena.Later (queue s).arena :=
  (restated_queue s).later fun _ n _ hn => awaited_of_ne fun hstatus => by
    rw [hstatus] at hn
    exact nomatch hn

/-! ### Resolving -/

/-- The status that an answer of the resolver gives. -/
def answered : Except ResolveError Definition → Status
  | .ok d => .ready d
  | .error e => .error e.message

/-- What has been answered is not asked for again. -/
theorem awaited_answered {answer : Except ResolveError Definition} :
    awaited (answered answer) = answered answer := by
  cases answer <;> rfl

/-- A node that has its answer does not wait. -/
theorem answered_ne_loading {answer : Except ResolveError Definition} :
    answered answer ≠ .loading := by
  cases answer <;> exact nofun

/-- The status of a node after it has been looked up, if it waits for that. -/
def settled (s : Screen) (node : Node) : Status :=
  match node.status with
  | .loading => answered (s.resolver s.engine.types node.kind)
  | status => status

/-- A node that does not wait for that keeps its status. -/
theorem settled_eq_status {node : Node} (h : node.status ≠ .loading) :
    s.settled node = node.status := by
  rw [settled]
  split
  · next hstatus => exact absurd hstatus h
  · rfl

/-- Giving a node its status changes this node of the tree. -/
theorem arena_settle (s : Screen) (index : Nat) (result : Except ResolveError Definition) :
    (s.settle index result).arena =
      s.arena.modify index fun node => { node with status := answered result } := by
  cases result with
  | error e => rfl
  | ok d => rfl

/-- Giving nodes their statuses changes the engine and the tree only. -/
theorem foldl_settle_rest (results : List (Nat × Except ResolveError Definition)) (s : Screen) :
    ∃ engine arena, results.foldl (fun s r => s.settle r.1 r.2) s = { s with engine, arena } := by
  induction results generalizing s with
  | nil => exact ⟨s.engine, s.arena, rfl⟩
  | cons r rest ih =>
      obtain ⟨engine, arena, heq⟩ := ih (s.settle r.1 r.2)
      refine ⟨engine, arena, heq.trans ?_⟩
      rcases r with ⟨index, e | d⟩ <;> rfl

/-- Resolving gives the nodes their statuses and then changes the engine, and what is still to be
connected. -/
theorem resolve_rest (s : Screen) :
    ∃ engine wires autoConnectPending, s.resolve.2 =
      { s with
        engine, wires, autoConnectPending
        arena := (s.lookups.foldl (fun s r => s.settle r.1 r.2) s).arena } := by
  rw [resolve]
  obtain ⟨engine, arena, heq⟩ := foldl_settle_rest s.lookups s
  simp only [heq]
  rw [connectAutomatically]
  split
  · exact ⟨_, _, _, rfl⟩
  · exact ⟨_, _, _, rfl⟩

/-- A node gets the status that was looked up for it, and other nodes stay as they are. -/
theorem get?_foldl_settle (results : List (Nat × Except ResolveError Definition)) (s : Screen)
    (hnodup : (results.map (·.1)).Nodup) :
    (∀ r ∈ results, (results.foldl (fun s r => s.settle r.1 r.2) s).arena.get? r.1 =
      (s.arena.get? r.1).map fun node => { node with status := answered r.2 }) ∧
    ∀ i, i ∉ results.map (·.1) →
      (results.foldl (fun s r => s.settle r.1 r.2) s).arena.get? i = s.arena.get? i := by
  induction results generalizing s with
  | nil => exact ⟨fun r hr => (nomatch hr), fun _ _ => rfl⟩
  | cons r rest ih =>
      obtain ⟨hnew, hrest⟩ := List.nodup_cons.mp hnodup
      obtain ⟨hin, hout⟩ := ih (s.settle r.1 r.2) hrest
      refine ⟨fun r' hr' => ?_, fun i hi => ?_⟩
      · obtain rfl | hr' := List.mem_cons.mp hr'
        · rw [List.foldl_cons, hout _ hnew, arena_settle, Arena.get?_modify, if_pos rfl]
        · have hne : r.1 ≠ r'.1 := fun heq => hnew (by
            rw [show (fun r : Nat × Except ResolveError Definition => r.1) r = r'.1 from heq]
            exact List.mem_map_of_mem hr')
          rw [List.foldl_cons, hin r' hr', arena_settle, Arena.get?_modify_of_ne hne]
      · rw [List.map_cons, List.mem_cons, not_or] at hi
        rw [List.foldl_cons, hout i hi.2, arena_settle, Arena.get?_modify_of_ne (Ne.symm hi.1)]

/-- What is looked up: the answers for the nodes that wait. -/
theorem mem_lookups {r : Nat × Except ResolveError Definition} : r ∈ s.lookups ↔
    ∃ node, s.arena.get? r.1 = some node ∧ node.status = .loading ∧
      r.2 = s.resolver s.engine.types node.kind := by
  rw [lookups, List.mem_filterMap]
  constructor
  · rintro ⟨⟨index, node⟩, hlive, heq⟩
    dsimp only at heq
    cases hstatus : node.status with
    | loading =>
        rw [hstatus] at heq
        obtain rfl := Option.some.inj heq
        exact ⟨node, Arena.mem_live.mp hlive, hstatus, rfl⟩
    | unresolved =>
        rw [hstatus] at heq
        exact nomatch heq
    | ready d =>
        rw [hstatus] at heq
        exact nomatch heq
    | error reason =>
        rw [hstatus] at heq
        exact nomatch heq
  · rintro ⟨node, hnode, hstatus, hr⟩
    refine ⟨(r.1, node), Arena.mem_live.mpr hnode, ?_⟩
    dsimp only
    rw [hstatus, ← hr]

/-- No node is looked up twice. -/
theorem nodup_lookups (s : Screen) : (s.lookups.map (·.1)).Nodup := by
  refine (map_filterMap_sublist (fun x y hxy => ?_) s.arena.live).nodup s.arena.nodup_live
  dsimp only at hxy
  split at hxy
  · exact (Option.some.inj hxy) ▸ rfl
  · exact nomatch hxy

/-- Giving statuses to nodes, to each at most once, changes nothing else of the tree. -/
theorem restated_foldl_settle {results : List (Nat × Except ResolveError Definition)}
    (hnodup : (results.map (·.1)).Nodup) {status : Nat → Node → Status}
    (hin : ∀ r ∈ results, ∀ node, s.arena.get? r.1 = some node → status r.1 node = answered r.2)
    (hout : ∀ i node, s.arena.get? i = some node → i ∉ results.map (·.1) →
      status i node = node.status) :
    s.arena.Restated (results.foldl (fun s r => s.settle r.1 r.2) s).arena status := by
  obtain ⟨hsettled, hothers⟩ := get?_foldl_settle results s hnodup
  have hrest : (results.foldl (fun s r => s.settle r.1 r.2) s).arena.slots.length =
        s.arena.slots.length ∧
      (results.foldl (fun s r => s.settle r.1 r.2) s).arena.byId = s.arena.byId ∧
      (results.foldl (fun s r => s.settle r.1 r.2) s).arena.roots = s.arena.roots := by
    refine List.foldlRecOn (motive := fun t : Screen => t.arena.slots.length =
        s.arena.slots.length ∧ t.arena.byId = s.arena.byId ∧ t.arena.roots = s.arena.roots)
      _ _ ⟨rfl, rfl, rfl⟩ fun t ⟨hlength, hbyId, hroots⟩ r _ => ?_
    rw [arena_settle]
    exact ⟨Arena.length_modify.trans hlength, hbyId, hroots⟩
  refine ⟨hrest.1, hrest.2.1, hrest.2.2, fun i => ?_⟩
  by_cases hi : i ∈ results.map (·.1)
  · obtain ⟨r, hr, rfl⟩ := List.mem_map.mp hi
    rw [hsettled r hr]
    refine Option.map_congr fun node hnode => ?_
    rw [hin r hr node hnode]
  · rw [hothers i hi]
    cases hnode : s.arena.get? i with
    | none => rfl
    | some node => rw [Option.map_some, hout i node hnode hi]

/-- Resolving gives every waiting node the status that was looked up for its kind. -/
theorem restated_resolve (s : Screen) :
    s.arena.Restated s.resolve.2.arena fun _ node => s.settled node := by
  obtain ⟨engine, wires, autoConnectPending, heq⟩ := s.resolve_rest
  rw [heq]
  refine restated_foldl_settle s.nodup_lookups (fun r hr node hnode => ?_)
    fun i node hnode hi => settled_eq_status fun hstatus => hi ?_
  · obtain ⟨node', hnode', hstatus, hanswer⟩ := mem_lookups.mp hr
    obtain rfl := Option.some.inj (hnode.symm.trans hnode')
    rw [settled, hstatus, hanswer]
  · exact List.mem_map_of_mem (f := (·.1)) (a := (i, s.resolver s.engine.types node.kind))
      (mem_lookups.mpr ⟨node, hnode, hstatus, rfl⟩)

/-- Resolving is a later state of the tree. -/
theorem later_resolve (s : Screen) : s.arena.Later s.resolve.2.arena :=
  s.restated_resolve.later fun _ n _ hn => settled_eq_status fun hstatus => by
    rw [hstatus] at hn
    exact nomatch hn

/-- The tree after resolving depends on the tree before and on what the resolver answers. -/
theorem arena_resolve_congr {t : Screen} (harena : s.arena = t.arena)
    (hresolver : s.resolver s.engine.types = t.resolver t.engine.types) :
    s.resolve.2.arena = t.resolve.2.arena := by
  have hfoldl : ∀ (results : List (Nat × Except ResolveError Definition)) (u : Screen),
      (results.foldl (fun s r => s.settle r.1 r.2) u).arena = results.foldl (fun a r =>
        a.modify r.1 fun node => { node with status := answered r.2 }) u.arena := by
    intro results
    induction results with
    | nil => exact fun u => rfl
    | cons r rest ih =>
        intro u
        rw [List.foldl_cons, List.foldl_cons, ih, arena_settle]
  have hresolve : ∀ u : Screen, u.resolve.2.arena =
      (u.lookups.foldl (fun s r => s.settle r.1 r.2) u).arena := fun u => by
    obtain ⟨engine, wires, autoConnectPending, heq⟩ := u.resolve_rest
    rw [heq]
  rw [hresolve, hresolve, hfoldl, hfoldl, lookups, lookups, harena, hresolver]

/-! ### Definitions -/

/-- The definition that a registry finds for a kind is of this kind. -/
theorem kind_of_get? {types : Registry} {kind : Kind} {d : Definition}
    (h : types.get? kind = some d) : d.kind = kind := by
  have hkind := List.find?_some (show types.definitions.find? (·.kind = kind) = _ from h)
  exact of_decide_eq_true hkind

/-- The definition that a registry gives for a kind is of this kind. -/
theorem kind_of_resolve {types : Registry} {kind : Kind} {d : Definition}
    (h : types.resolve kind = .ok d) : d.kind = kind ∧ types.get? kind = some d := by
  rw [Registry.resolve] at h
  split at h
  · next found hfound =>
      obtain rfl := Except.ok.inj h
      exact ⟨kind_of_get? hfound, hfound⟩
  · exact nomatch h

/-- What a registry answers is known. -/
theorem contains_of_mem_lookups (h : s.resolver = Registry.resolve)
    {r : Nat × Except ResolveError Definition} (hr : r ∈ s.lookups) {d : Definition}
    (hd : r.2 = .ok d) : s.engine.types.contains d.kind = true := by
  obtain ⟨node, -, -, heq⟩ := mem_lookups.mp hr
  rw [hd, h] at heq
  obtain ⟨hkind, hget⟩ := kind_of_resolve heq.symm
  rw [Registry.contains, hkind, hget]
  rfl

/-- Giving statuses leaves the engine alone if all definitions are known. -/
theorem engine_foldl_settle (results : List (Nat × Except ResolveError Definition)) (s : Screen)
    (hknown : ∀ r ∈ results, ∀ d, r.2 = .ok d → s.engine.types.contains d.kind = true) :
    (results.foldl (fun s r => s.settle r.1 r.2) s).engine = s.engine := by
  induction results generalizing s with
  | nil => rfl
  | cons r rest ih =>
      have hengine : (s.settle r.1 r.2).engine = s.engine := by
        cases hr : r.2 with
        | error e => rfl
        | ok d =>
            change (if s.engine.types.contains d.kind then s.engine
              else s.engine.registerType d) = s.engine
            rw [if_pos (hknown r List.mem_cons_self d hr)]
      rw [List.foldl_cons, ih _ fun r' hr' d hd => ?_, hengine]
      rw [hengine]
      exact hknown r' (List.mem_cons_of_mem r hr') d hd

/-- Resolving brings the engine in step after the nodes have their statuses. -/
theorem engine_resolve (s : Screen) : s.resolve.2.engine =
    (s.lookups.foldl (fun s r => s.settle r.1 r.2)
      s).materialize.connectWires.connectAutomatically.engine := rfl

/-- Resolving is a run of the engine. -/
theorem resolve_runs {free : Bool} (s : Screen)
    (hfree : free = true ∨ s.resolver = Registry.resolve) :
    s.engine.Runs free s.resolve.2.engine := by
  have hsettle : s.engine.Runs free (s.lookups.foldl (fun s r => s.settle r.1 r.2) s).engine := by
    obtain hfree | hresolver := hfree
    · exact List.foldlRecOn (motive := fun t : Screen => s.engine.Runs free t.engine) _ _ (.refl _)
        fun t h r _ => h.trans (t.settle_runs r.1 r.2 fun _ _ _ => hfree)
    · rw [engine_foldl_settle _ _ fun r hr d hd => contains_of_mem_lookups hresolver hr hd]
      exact .refl _
  have hmaterialize : ∀ t : Screen, t.engine.Runs free t.materialize.engine := fun t =>
    .foldl (materializeAt_runs t.arena) _ _
  have hwires : ∀ t : Screen, t.engine.Runs free t.connectWires.engine := fun t =>
    .foldl wire_runs _ _
  rw [engine_resolve]
  exact ((hsettle.trans (hmaterialize _)).trans (hwires _)).trans (connectAutomatically_runs _)

/-! ### Ids -/

/-- No id is found twice if none is taken and none repeats. -/
theorem duplicate?_eq_none {isTaken : String → Bool} {seen ids : List String} :
    duplicate? isTaken seen ids = none ↔
      ids.Nodup ∧ ∀ id ∈ ids, isTaken id = false ∧ id ∉ seen := by
  induction ids generalizing seen with
  | nil => simp [duplicate?]
  | cons id rest ih =>
      by_cases hid : (isTaken id || seen.contains id) = true
      · rw [duplicate?, if_pos hid]
        simp only [reduceCtorEq, false_iff, not_and]
        intro _ hfree
        obtain ⟨htaken, hseen⟩ := hfree id List.mem_cons_self
        simp [htaken, hseen] at hid
      · rw [duplicate?, if_neg hid, ih, List.nodup_cons]
        simp only [Bool.or_eq_true, not_or, Bool.not_eq_true, List.contains_iff_mem] at hid
        constructor
        · rintro ⟨hnodup, hfree⟩
          refine ⟨⟨fun hmem => (hfree id hmem).2 List.mem_cons_self, hnodup⟩, fun x hx => ?_⟩
          obtain rfl | hx := List.mem_cons.mp hx
          · exact hid
          · exact ⟨(hfree x hx).1, fun hmem => (hfree x hx).2 (List.mem_cons_of_mem _ hmem)⟩
        · rintro ⟨⟨hnew, hnodup⟩, hfree⟩
          refine ⟨hnodup, fun x hx => ?_⟩
          obtain ⟨htaken, hseen⟩ := hfree x (List.mem_cons_of_mem _ hx)
          refine ⟨htaken, fun hmem => ?_⟩
          obtain rfl | hmem := List.mem_cons.mp hmem
          · exact hnew hx
          · exact hseen hmem

/-- The ids that are collected below a node are those of the nodes below it. -/
theorem collectEach_some (parentId : String) :
    ∀ (position : Nat) (plans : List ChildPlan) (ids : List String),
      collectEach (some parentId) position plans ids =
        ids ++ (entriesBelow parentId position plans).map (·.1)
  | position, [], ids => by
      rw [collectEach, entriesBelow, List.map_nil, List.append_nil]
  | position, .text content :: rest, ids => by
      rw [collectEach, collectIds, entriesBelow]
      exact collectEach_some parentId (position + 1) rest ids
  | position, .node info children :: rest, ids => by
      rw [collectEach, collectIds, entriesBelow, collectEach_some _ 0 children ids,
        collectEach_some parentId (position + 1) rest]
      simp

/-- The ids that are collected of planned trees are those of their nodes. -/
theorem collectEach_none (position : Nat) (plans : List NodePlan) (ids : List String) :
    collectEach none position (plans.map NodePlan.asChild) ids =
      ids ++ (planEntries position plans).map (·.1) := by
  induction plans generalizing position ids with
  | nil =>
      rw [List.map_nil, collectEach, planEntries, List.map_nil, List.append_nil]
  | cons plan rest ih =>
      rw [List.map_cons, NodePlan.asChild, collectEach, collectIds, planEntries, NodePlan.entries,
        collectEach_some, ih]
      simp

/-- The ids of planned trees pass the check if none repeats and none is taken. -/
theorem checkIds_eq_ok {isTaken : String → Bool} {position : Nat} {plans : List NodePlan} :
    checkIds isTaken position plans = .ok () ↔ ((planEntries position plans).map (·.1)).Nodup ∧
      ∀ id ∈ (planEntries position plans).map (·.1), isTaken id = false := by
  have hnone : checkIds isTaken position plans = .ok () ↔
      duplicate? isTaken [] ((planEntries position plans).map (·.1)) = none := by
    rw [checkIds, collectEach_none, List.nil_append]
    cases duplicate? isTaken [] ((planEntries position plans).map (·.1)) with
    | none => exact ⟨fun _ => rfl, fun _ => rfl⟩
    | some id => exact ⟨nofun, nofun⟩
  rw [hnone, duplicate?_eq_none]
  exact and_congr_right fun _ => forall₂_congr fun _ _ => and_iff_left List.not_mem_nil

/-! ### Mounting -/

/-- A screen whose tree is another one, in which planned trees are mounted and wait. -/
def planted (s : Screen) (a : Arena) (position : Nat) (plans : List NodePlan) : Arena :=
  (queue { s with arena := (a.plantAll s.engine.kindOf position plans).2 }).arena

/-- Mounting leaves a forest. -/
theorem linked_planted {a : Arena} (h : a.Linked []) (position : Nat) (plans : List NodePlan) :
    (s.planted a position plans).Linked [] :=
  (restated_queue _).linked (h.plantAll position plans)

/-- Mounting adds the planned ids. -/
theorem containsId_planted {a : Arena} {position : Nat} {plans : List NodePlan} {id : String} :
    (s.planted a position plans).containsId id = true ↔
      a.containsId id = true ∨ id ∈ (planEntries position plans).map (·.1) :=
  (Arena.plantAll_grown position plans a).ids

/-- Mounting checked trees leads every id to its node. -/
theorem keyed_planted {a : Arena} (ha : a.Keyed) {position : Nat} {plans : List NodePlan}
    (h : checkIds a.containsId position plans = .ok ()) : (s.planted a position plans).Keyed := by
  obtain ⟨hnodup, hfree⟩ := checkIds_eq_ok.mp h
  exact (restated_queue _).keyed ((Arena.plantAll_grown position plans a).keyed ha hnodup
    fun e he => hfree e.1 (List.mem_map_of_mem he))

/-- The nodes that were there stay, and wait if they were not looked up yet. -/
theorem get?_planted_of_lt {a : Arena} {position : Nat} {plans : List NodePlan}
    (hi : i < a.slots.length) : (s.planted a position plans).get? i =
      (a.get? i).map fun n => { n with status := awaited n.status } := by
  rw [planted, (restated_queue _).get?]
  exact congrArg _ ((Arena.plantAll_grown position plans a).old hi nofun)

/-- The nodes that are new have planned ids and wait. -/
theorem of_get?_planted {a : Arena} {position : Nat} {plans : List NodePlan} {n : Node}
    (hi : a.slots.length ≤ i) (hn : (s.planted a position plans).get? i = some n) :
    n.id ∈ (planEntries position plans).map (·.1) ∧ n.status = .loading := by
  rw [planted, (restated_queue _).get?] at hn
  obtain ⟨m, hm, rfl⟩ := Option.map_eq_some_iff.mp hn
  obtain ⟨info, hinfo, hdescribes⟩ := (Arena.plantAll_grown position plans a).source hi hm
  have hstatus : m.status = .unresolved := congrArg Node.status hdescribes
  refine ⟨List.mem_map_of_mem hinfo, ?_⟩
  dsimp only
  rw [hstatus]
  rfl

/-- Mounting is a later state of the tree. -/
theorem later_planted (s : Screen) (a : Arena) (position : Nat) (plans : List NodePlan) :
    a.Later (s.planted a position plans) :=
  (Arena.plantAll_grown position plans a).later.trans
    (later_queue { s with arena := (a.plantAll s.engine.kindOf position plans).2 })

/-! ### Looking up -/

/-- Every node waits or has the status that the registry gives for its kind. -/
def LookedUp (types : Registry) (a : Arena) : Prop := ∀ i n, a.get? i = some n →
  n.status = .loading ∨ n.status = answered (types.resolve n.kind)

/-- New nodes wait, and the others stay looked up. -/
theorem LookedUp.planted {types : Registry} {a : Arena} (h : LookedUp types a) (s : Screen)
    (position : Nat) (plans : List NodePlan) : LookedUp types (s.planted a position plans) := by
  intro i n hn
  rcases Nat.lt_or_ge i a.slots.length with hlt | hge
  · rw [get?_planted_of_lt hlt] at hn
    obtain ⟨m, hm, rfl⟩ := Option.map_eq_some_iff.mp hn
    exact (h i m hm).imp (fun heq => by rw [heq]; rfl) fun heq => by rw [heq, awaited_answered]
  · exact .inl (of_get?_planted hge hn).2

/-- A node that waits gets the status that the registry gives. -/
theorem LookedUp.resolve {types : Registry} {n : Node} (h : LookedUp types s.arena)
    (hresolver : s.resolver = Registry.resolve) (htypes : s.engine.types = types)
    (hn : s.resolve.2.arena.get? i = some n) : n.status = answered (types.resolve n.kind) := by
  rw [s.restated_resolve.get?] at hn
  obtain ⟨m, hm, rfl⟩ := Option.map_eq_some_iff.mp hn
  dsimp only
  rcases h i m hm with hstatus | hstatus
  · rw [settled, hstatus, hresolver, htypes]
  · rw [settled_eq_status, hstatus]
    rw [hstatus]
    exact answered_ne_loading

/-! ### Trees and applications -/

/-- If its ids pass the check, a tree is planted behind those that are mounted. -/
theorem mount_of_ok {plan : NodePlan}
    (h : checkIds s.arena.containsId s.arena.roots.length [plan] = .ok ()) :
    ∃ index, s.mount plan =
      (.ok index, { s with arena := s.planted s.arena s.arena.roots.length [plan] }) := by
  rw [mount]
  dsimp only
  rw [h]
  exact ⟨_, rfl⟩

/-- Mounting either fails and changes nothing, or plants the tree behind those that are mounted. -/
theorem mount_cases (s : Screen) (plan : NodePlan) : (s.mount plan).2 = s ∨
    checkIds s.arena.containsId s.arena.roots.length [plan] = .ok () ∧
      (s.mount plan).2 = { s with arena := s.planted s.arena s.arena.roots.length [plan] } := by
  rw [mount]
  dsimp only
  split
  · exact .inl rfl
  · next h => exact .inr ⟨h, rfl⟩

/-- If its ids pass the check, the trees of an application are planted behind those that are
mounted, and its layout, its theme and its wires are noted. -/
theorem mountApp_of_ok {app : AppPlan}
    (h : checkIds s.arena.containsId s.arena.roots.length app.components = .ok ()) :
    ∃ layout? theme?, (s.mountApp app).2 =
      { s with
        layout?, theme?
        wires := s.wires ++ app.wires
        autoConnectPending := s.autoConnectPending || s.engine.config.autoConnect.enabled
        arena := s.planted s.arena s.arena.roots.length app.components } := by
  rw [mountApp]
  dsimp only
  rw [h]
  exact ⟨_, _, rfl⟩

/-- An application of one component, mounted alone. -/
theorem mountApp_leaf (info : NodeInfo) (wires : List Wire) {kind : Kind} (harena : s.arena = {})
    (hkind : s.engine.kindOf info.tag = kind) :
    (s.mountApp { components := [⟨info, []⟩], wires }).2 = queue { s with
      layout? := none
      wires := s.wires ++ wires
      autoConnectPending := s.autoConnectPending || s.engine.config.autoConnect.enabled
      arena := (({} : Arena).insert (info.toNode (info.idAt none 0) kind none)).2 } := by
  have hnames : (planEntries 0 [(⟨info, []⟩ : NodePlan)]).map (·.1) = [info.idAt none 0] := by
    simp [planEntries, NodePlan.entries, entriesBelow]
  have hids : checkIds s.arena.containsId s.arena.roots.length [⟨info, []⟩] = .ok () := by
    rw [harena, checkIds_eq_ok]
    refine ⟨?_, fun _ _ => rfl⟩
    rw [show ({} : Arena).roots.length = 0 from rfl, hnames]
    exact List.nodup_singleton _
  obtain ⟨engine, resolver, arena⟩ := s
  obtain rfl : arena = {} := harena
  rw [mountApp]
  dsimp only at hids ⊢
  rw [hids, ← hkind]
  simp only [mountAll, Arena.plantAll, Arena.plant, Arena.plantBelow]
  rfl

/-- Mounting an application either fails and changes nothing, or its ids pass the check. -/
theorem mountApp_cases (s : Screen) (app : AppPlan) : (s.mountApp app).2 = s ∨
    checkIds s.arena.containsId s.arena.roots.length app.components = .ok () := by
  rw [mountApp]
  dsimp only
  split
  · exact .inl rfl
  · next h => exact .inr h

/-- If its ids pass the check, a tree is planted alone after the engine was brought in line. -/
theorem replaceTree_of_ok {plan : NodePlan} (h : checkIds (fun _ => false) 0 [plan] = .ok ()) :
    ∃ index, s.replaceTree plan = (.ok index,
      { (s.reconcile [plan]).reset with arena := (s.reconcile [plan]).planted {} 0 [plan] }) := by
  rw [replaceTree]
  rw [h]
  exact ⟨_, rfl⟩

/-- Replacing the tree either fails and changes nothing, or brings the engine in line with the new
tree, which is planted alone. -/
theorem replaceTree_cases (s : Screen) (plan : NodePlan) : (s.replaceTree plan).2 = s ∨
    checkIds (fun _ => false) 0 [plan] = .ok () ∧
      (s.replaceTree plan).2 =
        { (s.reconcile [plan]).reset with
          arena := (s.reconcile [plan]).planted {} 0 [plan] } := by
  rw [replaceTree]
  split
  · exact .inl rfl
  · next h => exact .inr ⟨h, rfl⟩

/-- Replacing the application either fails and changes nothing, or brings the engine in line with
the new one, which is mounted alone. -/
theorem replaceApp_cases (s : Screen) (app : AppPlan) : (s.replaceApp app).2 = s ∨
    checkIds (fun _ => false) 0 app.components = .ok () ∧
      ∃ layout? theme?, (s.replaceApp app).2 =
        { (s.reconcile app.components).reset with
          layout?, theme?
          wires := app.wires
          autoConnectPending := s.autoConnectPending ||
            (s.reconcile app.components).engine.config.autoConnect.enabled
          arena := (s.reconcile app.components).planted {} 0 app.components } := by
  rw [replaceApp]
  split
  · exact .inl rfl
  · next h =>
      -- the tree was forgotten, so mounting checks the same ids again and cannot fail
      obtain ⟨layout?, theme?, heq⟩ := mountApp_of_ok
        (s := { (s.reconcile app.components).reset with layout? := none, wires := [] }) h
      exact .inr ⟨h, layout?, theme?, heq⟩

/-- Removing a node either finds none and changes nothing, or removes what is below it from the
tree, and forgets what was rendered of it. -/
theorem removeNode_cases (s : Screen) (id : String) : (s.removeNode id).2 = s ∨
    ∃ index engine memo, s.arena.indexOf? id = some index ∧
      memo.kept = s.memo.kept.filter (fun r => ((s.arena.removeSubtree index).2.get? r.1).isSome) ∧
      (s.removeNode id).2 =
        { s with engine, memo, arena := (s.arena.removeSubtree index).2 } := by
  rw [removeNode]
  split
  · exact .inl rfl
  · next index h =>
      exact .inr ⟨index, _, _, h, rfl, rfl⟩

/-! ### All operations -/

/-- What an operation does to the engine is a run of the engine, which registers nothing if the
definitions are looked up in the registry. -/
theorem runs_perform {free : Bool} (s : Screen) (op : ScreenOp)
    (hfree : free = true ∨ s.resolver = Registry.resolve) :
    s.engine.Runs free (s.perform op).engine := by
  cases op with
  | mount plan =>
      rw [perform, engine_mount]
      exact .refl _
  | mountApp app =>
      rw [perform, engine_mountApp]
      exact .refl _
  | replaceTree plan =>
      rcases s.replaceTree_cases plan with heq | ⟨-, heq⟩
      · rw [perform, heq]
        exact .refl _
      · rw [perform, heq]
        exact s.reconcile_runs [plan]
  | replaceApp app =>
      rcases s.replaceApp_cases app with heq | ⟨-, layout?, theme?, heq⟩
      · rw [perform, heq]
        exact .refl _
      · rw [perform, heq]
        exact s.reconcile_runs app.components
  | resolve => exact s.resolve_runs hfree
  | render =>
      rw [perform, render_eq]
      exact .refl _
  | renderId id =>
      rw [perform, renderId_rest]
      exact .refl _
  | refresh ids => exact .refl _
  | dispatch id event payload =>
      exact (Engine.Runs.refl _).flow (s.dispatch_reacts id event payload).flows
  | invoke id method args =>
      exact (Engine.Runs.refl _).flow (s.invoke_reacts id method args).flows
  | removeNode id => exact s.removeNode_runs id
  | unmount => exact removeInstances_runs _ _

end Screen

end WidgetFlow
