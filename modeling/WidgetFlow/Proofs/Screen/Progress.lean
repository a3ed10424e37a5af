import WidgetFlow.Proofs.Screen.Numbers
import WidgetFlow.Proofs.Screen.Anonymous
import Mathlib.Logic.Relation

/-!
# Statuses only move forward

A node is asked for when it is mounted, and has its definition or an error for good when it was
answered (`Status.Advances`). What the answers are does not matter, nor that they come from what is
registered: `Screen.resolveBy` resolves with any answer for each node, and `resolve` is the case
where the resolver gives them (`resolve_eq_resolveBy`). So a run of `ScreenTurn`s resolves with new
answers each time.

Mounting is the only other thing that gives statuses, and it gives them to new nodes. Between turns
no node is left unasked (`Arena.Asked`), so a mounted node has nothing to catch up with when more is
mounted.

## Main results

* `status_turn`: a turn changes the status of a node that stays only if it resolves, and only if the
  node waits.
* `resolves_resolveBy`: what resolving does to the statuses.
* `statuses_advance`: **statuses only move forward**.
-/

namespace WidgetFlow

namespace Status

/-- The steps of a node on the way to a definition. -/
inductive Advances : Status → Status → Prop
  | asked : Advances .unresolved .loading
  | found (d : Definition) : Advances .loading (.ready d)
  | failed (reason : String) : Advances .loading (.error reason)

/-- A node that is ready stays so, with the same definition. -/
theorem eq_of_ready {status : Status} {d : Definition}
    (h : Relation.ReflTransGen Advances (.ready d) status) : status = .ready d := by
  rcases h.cases_head with heq | ⟨_, hstep, -⟩
  · exact heq.symm
  · cases hstep

/-- A node that has failed stays so, for the same reason. -/
theorem eq_of_error {status : Status} {reason : String}
    (h : Relation.ReflTransGen Advances (.error reason) status) : status = .error reason := by
  rcases h.cases_head with heq | ⟨_, hstep, -⟩
  · exact heq.symm
  · cases hstep

end Status

namespace Arena

/-- Every node was asked for. -/
def Asked (a : Arena) : Prop := ∀ {i n}, a.get? i = some n → n.status ≠ .unresolved

/-- Whether the node of a number is there and ready. -/
def isReadyAt (a : Arena) (i : Nat) : Bool := ((a.get? i).map (·.status.isReady)).getD false

end Arena

/-- What may happen to a screen: a move, or answers for all nodes that wait. -/
inductive ScreenTurn where
  | move (m : ScreenMove)
  | answer (answers : Nat → Except ResolveError Definition)

/-- Whether a turn resolves. -/
def ScreenTurn.resolves : ScreenTurn → Bool
  | .move (.operate .resolve) => true
  | .move _ => false
  | .answer _ => true

namespace Screen

variable {s : Screen} {given : Nat → Except ResolveError Definition} {i : Nat} {n m : Node}
  {t : ScreenTurn}

/-! ### Answers -/

/-- Resolves with an answer for each node that is looked up; gives how many became ready. -/
def resolveBy (s : Screen) (given : Nat → Except ResolveError Definition) : Nat × Screen :=
  let results := s.lookups.map fun r => (r.1, given r.1)
  let ready := results.countP fun r => r.2.isOk
  let s := results.foldl (fun s r => s.settle r.1 r.2) s
  (ready, s.materialize.connectWires.connectAutomatically)

/-- What the resolver answers for each node. -/
def answers (s : Screen) (i : Nat) : Except ResolveError Definition :=
  match s.arena.get? i with
  | some node => s.resolver s.engine.types node.kind
  | none => .error (.failed "" "")

/-- Resolving is resolving with the answers of the resolver. -/
theorem resolve_eq_resolveBy (s : Screen) : s.resolve = s.resolveBy s.answers := by
  have hsame : s.lookups.map (fun r => (r.1, s.answers r.1)) = s.lookups := by
    refine (List.map_congr_left fun r hr => ?_).trans (List.map_id _)
    obtain ⟨node, hnode, -, hanswer⟩ := mem_lookups.mp hr
    rw [answers, hnode]
    exact Prod.ext rfl hanswer.symm
  rw [resolve, resolveBy, hsame]

/-- The status of a node after an answer, if it waits for one. -/
def settledBy (given : Nat → Except ResolveError Definition) (i : Nat) (node : Node) : Status :=
  match node.status with
  | .loading => answered (given i)
  | status => status

/-- A node that does not wait for an answer keeps its status. -/
theorem settledBy_of_ne (h : n.status ≠ .loading) : settledBy given i n = n.status := by
  rw [settledBy]
  split
  · next hstatus => exact absurd hstatus h
  · rfl

/-- A node that waits gets its answer. -/
theorem settledBy_of_loading (h : n.status = .loading) :
    settledBy given i n = answered (given i) := by
  rw [settledBy, h]

/-- Making instances and connections leaves the tree alone. -/
theorem arena_connected (s : Screen) :
    s.materialize.connectWires.connectAutomatically.arena = s.arena := by
  rw [connectAutomatically]
  split <;> rfl

/-- Resolving gives every node that waits its answer, and changes nothing else of the tree. -/
theorem restated_resolveBy (s : Screen) (given : Nat → Except ResolveError Definition) :
    s.arena.Restated (s.resolveBy given).2.arena (settledBy given) := by
  have hnumbers : (s.lookups.map fun r => (r.1, given r.1)).map (·.1) = s.lookups.map (·.1) :=
    List.map_map
  rw [resolveBy, arena_connected]
  refine restated_foldl_settle (hnumbers ▸ s.nodup_lookups) (fun r' hr' node hnode => ?_)
    fun i node hnode hi => settledBy_of_ne fun hstatus => hi ?_
  · obtain ⟨r, hr, rfl⟩ := List.mem_map.mp hr'
    obtain ⟨node', hnode', hstatus, -⟩ := mem_lookups.mp hr
    obtain rfl := Option.some.inj (hnode.symm.trans hnode')
    exact settledBy_of_loading hstatus
  · rw [hnumbers]
    exact List.mem_map_of_mem (f := (·.1)) (a := (i, s.resolver s.engine.types node.kind))
      (mem_lookups.mpr ⟨node, hnode, hstatus, rfl⟩)

/-- What resolving does to the statuses: every node that waits gets its answer, the others keep
their status, no node waits afterwards, and the number that resolving gives is that of the nodes
that became ready. -/
structure Resolves (s : Screen) (given : Nat → Except ResolveError Definition)
    (result : Nat × Screen) : Prop where
  answer : ∀ {i n}, s.arena.get? i = some n → n.status = .loading →
    ∃ m, result.2.arena.get? i = some m ∧ m.status = answered (given i)
  kept : ∀ {i n}, s.arena.get? i = some n → n.status ≠ .loading →
    ∃ m, result.2.arena.get? i = some m ∧ m.status = n.status
  settled : ∀ {i m}, result.2.arena.get? i = some m → m.status.isWaiting = false
  count : result.1 =
    s.arena.live.countP fun (i, n) => !n.status.isReady && result.2.arena.isReadyAt i

/-- A node with an answer does not wait. -/
theorem isWaiting_answered {answer : Except ResolveError Definition} :
    (answered answer).isWaiting = false := by
  cases answer <;> rfl

/-- A node becomes ready by being given a definition. -/
theorem isReady_eq_isOk {answer : Except ResolveError Definition} :
    (answered answer).isReady = answer.isOk := by
  cases answer <;> rfl

/-- What resolving does to the statuses when every node was asked for. -/
theorem resolves_resolveBy (h : s.arena.Asked) (given : Nat → Except ResolveError Definition) :
    s.Resolves given (s.resolveBy given) := by
  have hget := (s.restated_resolveBy given).get?
  have hafter : ∀ {i n}, s.arena.get? i = some n →
      (s.resolveBy given).2.arena.get? i = some { n with status := settledBy given i n } :=
    fun {i n} hn => by rw [hget, hn, Option.map_some]
  refine ⟨fun hn hstatus => ⟨_, hafter hn, settledBy_of_loading hstatus⟩,
    fun hn hstatus => ⟨_, hafter hn, settledBy_of_ne hstatus⟩, fun {i m} hm => ?_, ?_⟩
  · rw [hget, Option.map_eq_some_iff] at hm
    obtain ⟨n, hn, rfl⟩ := hm
    dsimp only
    cases hstatus : n.status with
    | unresolved => exact absurd hstatus (h hn)
    | loading => rw [settledBy_of_loading hstatus, isWaiting_answered]
    | ready d => rw [settledBy_of_ne (by simp [hstatus]), hstatus]; rfl
    | error reason => rw [settledBy_of_ne (by simp [hstatus]), hstatus]; rfl
  · change (s.lookups.map fun r => (r.1, given r.1)).countP (fun r => r.2.isOk) = _
    rw [List.countP_map, lookups, List.countP_filterMap]
    refine List.countP_congr fun r hlive => ?_
    obtain ⟨i, n⟩ := r
    dsimp only
    rw [Arena.isReadyAt, hafter (Arena.mem_live.mp hlive), Option.map_some, Option.getD_some]
    cases hstatus : n.status with
    | loading =>
        rw [settledBy_of_loading hstatus, isReady_eq_isOk]
        rfl
    | unresolved =>
        rw [settledBy_of_ne (by simp [hstatus]), hstatus]
        rfl
    | ready d =>
        rw [settledBy_of_ne (by simp [hstatus]), hstatus]
        rfl
    | error reason =>
        rw [settledBy_of_ne (by simp [hstatus]), hstatus]
        rfl

/-! ### Turns -/

/-- The screen after a turn. -/
def turn (s : Screen) : ScreenTurn → Screen
  | .move m => s.move m
  | .answer given => (s.resolveBy given).2

/-- Whether a turn forgets the tree. -/
def forgets (s : Screen) : ScreenTurn → Bool
  | .move m => s.resets m
  | .answer _ => false

/-- No turn of a run forgets the tree. -/
def Remembers (s : Screen) : List ScreenTurn → Prop
  | [] => True
  | t :: rest => s.forgets t = false ∧ (s.turn t).Remembers rest

/-- What resolves resolves with some answers. -/
theorem exists_answers (h : t.resolves = true) : ∃ given, s.turn t = (s.resolveBy given).2 := by
  cases t with
  | answer given => exact ⟨given, rfl⟩
  | move m =>
      cases m with
      | write op => cases h
      | operate op =>
          cases op with
          | resolve => exact ⟨s.answers, congrArg Prod.snd s.resolve_eq_resolveBy⟩
          | _ => cases h

/-- After every turn the tree is a forest. -/
theorem linked_turn (h : s.arena.Linked []) (t : ScreenTurn) : (s.turn t).arena.Linked [] := by
  cases t with
  | move m => exact linked_run h [m]
  | answer given => exact (s.restated_resolveBy given).linked h

/-- A turn that does not forget the tree reuses no number. -/
theorem continues_turn (h : s.arena.Linked []) (ht : s.forgets t = false) :
    s.arena.Continues (s.turn t).arena := by
  cases t with
  | move m => exact continues_move h ht
  | answer given => exact (s.restated_resolveBy given).continues

/-- A run of turns that do not forget the tree reuses no number. -/
theorem continues_turns (h : s.arena.Linked []) {later : List ScreenTurn}
    (hlater : s.Remembers later) : s.arena.Continues (later.foldl turn s).arena := by
  induction later generalizing s with
  | nil => exact .refl _
  | cons t rest ih =>
      obtain ⟨ht, hrest⟩ := hlater
      exact (continues_turn h ht).trans (ih (linked_turn h t) hrest)

/-- A turn changes the status of a node that stays only if it resolves and the node waits, and then
the node gets an answer. -/
theorem status_turn (hlinked : s.arena.Linked []) (hasked : s.arena.Asked)
    (ht : s.forgets t = false) (hn : s.arena.get? i = some n)
    (hm : (s.turn t).arena.get? i = some m) :
    m.status = n.status ∨
      t.resolves = true ∧ n.status = .loading ∧ ∃ answer, m.status = answered answer := by
  cases hresolves : t.resolves with
  | true =>
      obtain ⟨given, heq⟩ := exists_answers (s := s) hresolves
      rw [heq, (s.restated_resolveBy given).get?, hn, Option.map_some] at hm
      obtain rfl := Option.some.inj hm
      by_cases hstatus : n.status = .loading
      · exact .inr ⟨rfl, hstatus, given i, settledBy_of_loading hstatus⟩
      · exact .inl (settledBy_of_ne hstatus)
  | false =>
      left
      cases t with
      | answer given => cases hresolves
      | move mv =>
          rcases arena_move_of_not_resets ht with heq | ⟨plans, heq⟩ | rfl | ⟨index, heq⟩
          · rw [turn, heq, hn] at hm
            exact congrArg Node.status (Option.some.inj hm).symm
          · rw [turn, heq, get?_planted_of_lt (Arena.lt_of_get? hn), hn, Option.map_some] at hm
            obtain rfl := Option.some.inj hm
            exact awaited_of_ne (hasked hn)
          · cases hresolves
          · rw [turn, heq] at hm
            obtain ⟨-, n', hn', rfl⟩ := hlinked.of_get?_removeSubtree hm
            obtain rfl := Option.some.inj (hn.symm.trans hn')
            rfl

/-- A node that a turn mounts waits. -/
theorem status_turn_of_new (hlinked : s.arena.Linked [])
    (hnew : s.forgets t = true ∨ s.arena.get? i = none)
    (hm : (s.turn t).arena.get? i = some m) : m.status = .loading := by
  have hwas : ∀ {a : Arena} {status : Nat → Node → Status}, s.arena.Restated a status →
      a.get? i = some m → s.arena.get? i ≠ none := fun hrestated hm hnone => by
    rw [hrestated.get?, hnone] at hm
    cases hm
  cases t with
  | answer given =>
      exact absurd (hnew.resolve_left Bool.false_ne_true) (hwas (s.restated_resolveBy given) hm)
  | move mv =>
      cases hforgets : s.resets mv with
      | true =>
          obtain ⟨u, plans, heq⟩ := arena_move_of_resets hforgets
          rw [turn, heq] at hm
          exact (of_get?_planted (Nat.zero_le i) hm).2
      | false =>
          have hnone : s.arena.get? i = none :=
            hnew.resolve_left fun htrue => Bool.false_ne_true (hforgets.symm.trans htrue)
          rcases arena_move_of_not_resets hforgets with heq | ⟨plans, heq⟩ | rfl | ⟨index, heq⟩
          · rw [turn, heq, hnone] at hm
            cases hm
          · rw [turn, heq] at hm
            obtain hlt | hge := Nat.lt_or_ge i s.arena.slots.length
            · rw [get?_planted_of_lt hlt, hnone] at hm
              cases hm
            · exact (of_get?_planted hge hm).2
          · exact absurd hnone (hwas s.restated_resolve hm)
          · rw [turn, heq] at hm
            obtain ⟨-, n, hn, -⟩ := hlinked.of_get?_removeSubtree hm
            exact nomatch hnone.symm.trans hn

/-- After every turn every node was asked for. -/
theorem asked_turn (hlinked : s.arena.Linked []) (hasked : s.arena.Asked) (t : ScreenTurn) :
    (s.turn t).arena.Asked := by
  intro i m hm
  cases hforgets : s.forgets t with
  | true =>
      rw [status_turn_of_new hlinked (.inl hforgets) hm]
      exact nofun
  | false =>
      cases hn : s.arena.get? i with
      | none =>
          rw [status_turn_of_new hlinked (.inr hn) hm]
          exact nofun
      | some n =>
          rcases status_turn hlinked hasked hforgets hn hm with heq | ⟨-, -, answer, heq⟩
          · rw [heq]
            exact hasked hn
          · rw [heq]
            cases answer <;> exact nofun

/-- A turn lets the status of a node that stays move forward. -/
theorem advances_turn (hlinked : s.arena.Linked []) (hasked : s.arena.Asked)
    (ht : s.forgets t = false) (hn : s.arena.get? i = some n)
    (hm : (s.turn t).arena.get? i = some m) :
    Relation.ReflTransGen Status.Advances n.status m.status := by
  rcases status_turn hlinked hasked ht hn hm with heq | ⟨-, hloading, answer, heq⟩
  · rw [heq]
  · rw [heq, hloading]
    cases answer with
    | ok d => exact .single (.found d)
    | error e => exact .single (.failed e.message)

/-- A run that does not forget the tree lets the status of a node that stays move forward. -/
theorem advances_run (hlinked : s.arena.Linked []) (hasked : s.arena.Asked)
    {later : List ScreenTurn} (hlater : s.Remembers later) (hn : s.arena.get? i = some n)
    (hm : (later.foldl turn s).arena.get? i = some m) :
    Relation.ReflTransGen Status.Advances n.status m.status := by
  induction later generalizing s n with
  | nil =>
      obtain rfl := Option.some.inj (hn.symm.trans hm)
      exact .refl
  | cons t rest ih =>
      obtain ⟨ht, hrest⟩ := hlater
      have hlinked' : (s.turn t).arena.Linked [] := linked_turn hlinked t
      have hlt : i < (s.turn t).arena.slots.length :=
        Nat.lt_of_lt_of_le (Arena.lt_of_get? hn) (continues_turn hlinked ht).length
      obtain ⟨n', hn', -⟩ := (continues_turns hlinked' hrest).kept hlt hm
      exact (advances_turn hlinked hasked ht hn hn').trans
        (ih hlinked' (asked_turn hlinked hasked t) hrest hn' hm)

/-- **Statuses only move forward.** Take any run of turns on a screen over any engine: operations on
the screen, writes to its engine past it, and resolving with any answers.

* As long as no turn forgets the tree, the status of the node of a number moves on from unresolved to
  loading to ready or failed. So a node that is ready stays ready with the same definition, and one
  that has failed stays failed.
* A node that is there after a turn was mounted by it and waits, or was there before; then its
  status is the same unless the turn resolves.
* Resolving gives every node that waits its answer, and gives the number of those that became ready;
  afterwards no node waits. -/
theorem statuses_advance (engine : Engine) (resolver : Resolver) (turns : List ScreenTurn) :
    let s := turns.foldl turn { engine, resolver }
    (∀ later, s.Remembers later → ∀ {i n m}, s.arena.get? i = some n →
      (later.foldl turn s).arena.get? i = some m →
        Relation.ReflTransGen Status.Advances n.status m.status ∧
        (∀ d, n.status = .ready d → m.status = .ready d) ∧
        ∀ reason, n.status = .error reason → m.status = .error reason) ∧
    (∀ t {i m}, (s.turn t).arena.get? i = some m →
      (s.forgets t = true ∨ s.arena.get? i = none) ∧ m.status = .loading ∨
        s.forgets t = false ∧ ∃ n, s.arena.get? i = some n ∧
          (t.resolves = false → m.status = n.status)) ∧
    (∀ given, s.Resolves given (s.resolveBy given)) ∧
    s.Resolves s.answers s.resolve := by
  intro s
  obtain ⟨hlinked, hasked⟩ : s.arena.Linked [] ∧ s.arena.Asked :=
    List.foldlRecOn (motive := fun s : Screen => s.arena.Linked [] ∧ s.arena.Asked) turns turn
      ⟨.empty, fun hn => nomatch Arena.get?_empty.symm.trans hn⟩
      fun s h t _ => ⟨linked_turn h.1 t, asked_turn h.1 h.2 t⟩
  refine ⟨fun later hlater i n m hn hm => ?_, fun t i m hm => ?_, resolves_resolveBy hasked, ?_⟩
  · have hadvances := advances_run hlinked hasked hlater hn hm
    exact ⟨hadvances, fun d hready => Status.eq_of_ready (hready ▸ hadvances),
      fun reason herror => Status.eq_of_error (herror ▸ hadvances)⟩
  · by_cases hnew : s.forgets t = true ∨ s.arena.get? i = none
    · exact .inl ⟨hnew, status_turn_of_new hlinked hnew hm⟩
    · obtain ⟨hforgets, hthere⟩ := not_or.mp hnew
      have hforgets : s.forgets t = false := Bool.eq_false_iff.mpr hforgets
      obtain ⟨n, hn⟩ := Option.ne_none_iff_exists'.mp hthere
      refine .inr ⟨hforgets, n, hn, fun hresolves => ?_⟩
      rcases status_turn hlinked hasked hforgets hn hm with heq | ⟨htrue, -, -⟩
      · exact heq
      · exact nomatch hresolves.symm.trans htrue
  · rw [resolve_eq_resolveBy]
    exact resolves_resolveBy hasked s.answers

/-- A caption whose kind could not be looked up stays failed, also when the kind is registered and
everything is resolved again. -/
theorem statuses_advance_caption :
    let turns := [ScreenTurn.move (.operate (.mount caption)),
      .answer fun _ => .error (.notRegistered "text")]
    let later := [ScreenTurn.move (.write (.registerType Catalog.text)), .move (.operate .resolve)]
    let s := turns.foldl turn { engine := Engine.new {} }
    ∃ n m, s.arena.get? 0 = some n ∧ (later.foldl turn s).arena.get? 0 = some m ∧
      n.status = .error "No component registered for type 'text'" ∧
      m.status = .error "No component registered for type 'text'" := by
  intro turns later s
  obtain ⟨k, hk, hloading⟩ : ∃ k,
      (mount { engine := Engine.new {} } caption).2.arena.get? 0 = some k ∧ k.status = .loading := by
    rw [caption, mount_leaf]
    exact ⟨_, rfl, rfl⟩
  have hn : s.arena.get? 0 = _ :=
    ((restated_resolveBy _ _).get? 0).trans (congrArg (Option.map _) hk)
  have hfailed : settledBy (fun _ => .error (.notRegistered "text")) 0 k =
      .error "No component registered for type 'text'" := settledBy_of_loading hloading
  have hm : (later.foldl turn s).arena.get? 0 = _ :=
    ((restated_resolve _).get? 0).trans (congrArg (Option.map _) hn)
  obtain ⟨hforward, -⟩ := statuses_advance (Engine.new {}) Registry.resolve turns
  obtain ⟨-, -, hstays⟩ := hforward later ⟨rfl, rfl, trivial⟩ hn hm
  exact ⟨_, _, hn, hm, hfailed, hstays _ hfailed⟩

end Screen

end WidgetFlow
