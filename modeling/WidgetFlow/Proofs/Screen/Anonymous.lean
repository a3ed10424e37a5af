import WidgetFlow.Proofs.Tree.Named
import WidgetFlow.Proofs.Screen.Atomic

/-!
# Mounting trees without ids of their own

On a screen on which only such trees were mounted, automatic ids are handed out. They never repeat
within a tree. A tree is mounted at the position behind the last root, and another root that still
stands has that position if one in front of it was removed: the positions of the roots are not
closed up, but the next one is counted from how many are left. Then, and only then, the automatic
id of the new root is taken, and the tree is refused.

## Main results

* `mount_anonymous`: automatic ids differ within a tree; the tree is refused exactly if the id of
  its root is taken; and this never happens as long as no root is removed.
* `mount_behind_removed`: after the first of two roots is removed it happens.
-/

namespace WidgetFlow

/-- Other statuses keep the names. -/
theorem Arena.Restated.autoNamed {a b : Arena} {status : Nat → Node → Status} {bound : Nat}
    (h : a.Restated b status) (ha : a.AutoNamed bound) : b.AutoNamed bound := by
  refine ha.of_same fun k => ?_
  rw [h.get?, Option.map_map]
  rfl

namespace Screen

variable {s : Screen} {op : ScreenOp} {a : Arena} {bound : Nat}

/-- Whether an operation may remove a root that is named by its place. -/
def RemovesPlace (op : ScreenOp) : Prop := ∃ k tag, op = .removeNode (placeId none k tag)

/-- Planted trees are named by their places. -/
theorem autoNamed_planted (h : a.AutoNamed bound) {position : Nat} {plans : List NodePlan}
    (hplans : ∀ plan ∈ plans, plan.isAnonymous = true) (hbound : position + plans.length ≤ bound) :
    (s.planted a position plans).AutoNamed bound :=
  (restated_queue _).autoNamed (h.plantAll hplans hbound)

/-- Planted trees are roots. -/
theorem length_roots_planted (a : Arena) (position : Nat) (plans : List NodePlan) :
    (s.planted a position plans).roots.length = a.roots.length + plans.length := by
  rw [planted, (restated_queue _).roots]
  exact Arena.length_roots_plantAll position plans a

/-- Operations that plan no ids keep the nodes named by their places, and as long as no root is
removed the positions stay below the number of roots. -/
theorem Reshapes.autoNamed (h : s.Reshapes op a) (hlinked : s.arena.Linked [])
    (hkeyed : s.arena.Keyed) (hplans : ∀ plan ∈ op.plans, plan.isAnonymous = true)
    (hs : s.arena.AutoNamed bound) : ∃ bound', a.AutoNamed bound' ∧
      (¬ RemovesPlace op → bound ≤ s.arena.roots.length → bound' ≤ a.roots.length) := by
  cases h with
  | planted _ =>
      refine ⟨max bound (s.arena.roots.length + op.plans.length),
        autoNamed_planted (hs.mono (Nat.le_max_left _ _)) hplans (Nat.le_max_right _ _),
        fun _ hbound => ?_⟩
      rw [length_roots_planted]
      omega
  | replaced t _ =>
      refine ⟨op.plans.length, autoNamed_planted (.empty _) hplans (by omega), fun _ _ => ?_⟩
      rw [length_roots_planted]
      omega
  | restated h =>
      refine ⟨bound, h.autoNamed hs, fun _ hbound => ?_⟩
      rwa [h.roots]
  | @removed id index hop hindex =>
      refine ⟨bound, hs.removeSubtree hlinked index, fun hkeeps hbound => ?_⟩
      have hroot : index ∉ s.arena.roots := fun hmem => by
        obtain ⟨n, hn, hp⟩ := hlinked.root.mp hmem
        obtain ⟨k, tag, -, -, hid⟩ := hs.root hn hp
        obtain ⟨n', hn', rfl⟩ := hkeyed.found.mp hindex
        obtain rfl := Option.some.inj (hn.symm.trans hn')
        exact hkeeps ⟨k, tag, by rw [hop, hid]⟩
      rwa [Arena.roots_removeSubtree, List.filter_eq_self.mpr fun i hi => ?_]
      exact bne_iff_ne.mpr fun heq => hroot (heq ▸ hi)
  | cleared => exact ⟨0, .empty 0, fun _ _ => Nat.zero_le _⟩

/-- After operations that plan no ids the nodes are named by their places, and if no root was
removed the positions are below the number of roots. -/
theorem autoNamed_run (engine : Engine) (resolver : Resolver) (ops : List ScreenOp)
    (hops : ∀ op ∈ ops, ∀ plan ∈ op.plans, plan.isAnonymous = true) :
    let s := ops.foldl perform { engine, resolver }
    s.arena.Linked [] ∧ s.arena.Keyed ∧ ∃ bound, s.arena.AutoNamed bound ∧
      ((∀ op ∈ ops, ¬ RemovesPlace op) → bound ≤ s.arena.roots.length) := by
  refine List.foldlRecOn (motive := fun s : Screen => s.arena.Linked [] ∧ s.arena.Keyed ∧
    ∃ bound, s.arena.AutoNamed bound ∧
      ((∀ op ∈ ops, ¬ RemovesPlace op) → bound ≤ s.arena.roots.length)) ops perform
    ⟨.empty, .empty, 0, .empty 0, fun _ => Nat.zero_le _⟩ ?_
  rintro s ⟨hlinked, hkeyed, bound, hs, hbound⟩ op hop
  have hreshapes := s.reshapes_perform op
  obtain ⟨bound', hs', hbound'⟩ := hreshapes.autoNamed hlinked hkeyed (hops op hop) hs
  exact ⟨hreshapes.linked hlinked, hreshapes.keyed hkeyed, bound', hs',
    fun hkeeps => hbound' (hkeeps op hop) (hbound hkeeps)⟩

/-- The ids of a tree that is planned alone. -/
theorem mountedIds_singleton (kindOf : String → Kind) (position : Nat) (plan : NodePlan) :
    (mountedIds kindOf position [plan]).Perm ((plan.entries position).map (·.1)) := by
  have hperm := mountedIds_perm kindOf position [plan]
  rwa [planEntries, planEntries, List.append_nil] at hperm

/-- A tree of one node is mounted if its id is free. -/
theorem mount_leaf (s : Screen) (info : NodeInfo) : s.mount ⟨info, []⟩ =
    let id := info.idAt none s.arena.roots.length
    bif s.arena.containsId id then (.error (.duplicateId id), s)
    else (.ok s.arena.slots.length,
      queue { s with
        arena := (s.arena.insert (info.toNode id (s.engine.kindOf info.tag) none)).2 }) := by
  rw [mount, checkIds, collectEach_none, planEntries, planEntries, NodePlan.entries, entriesBelow]
  simp only [Arena.plant, Arena.plantBelow, List.nil_append, List.append_nil, List.map_cons,
    List.map_nil, duplicate?, List.contains_nil, Bool.or_false]
  cases s.arena.containsId (info.idAt none s.arena.roots.length) <;> rfl

/-- A text without an id of its own. -/
def caption : NodePlan where
  info := { tag := "text" }
  children := []

/-- A text is anonymous. -/
theorem isAnonymous_caption : caption.isAnonymous = true := by
  rw [NodePlan.isAnonymous, caption, anonymousBelow]
  rfl

/-- **Automatic ids.** On a screen on which only trees without ids of their own were mounted, with
tags without slash, such a tree gets ids that differ from each other. It is refused exactly if the
automatic id of its root is the id of a node that is still mounted, which does not happen as long as
no root is removed. -/
theorem mount_anonymous (engine : Engine) (resolver : Resolver) (ops : List ScreenOp)
    (plan : NodePlan) (hops : ∀ op ∈ ops, ∀ plan ∈ op.plans, plan.isAnonymous = true)
    (hplan : plan.isAnonymous = true) :
    let s := ops.foldl perform { engine, resolver }
    let position := s.arena.roots.length
    (mountedIds s.engine.kindOf position [plan]).Nodup ∧
    ((∃ id, (s.mount plan).1 = .error (.duplicateId id)) ↔
      placeId none position plan.info.tag ∈ s.arena.ids) ∧
    ((∀ op ∈ ops, ¬ RemovesPlace op) → placeId none position plan.info.tag ∉ s.arena.ids) := by
  intro s position
  obtain ⟨hlinked, hkeyed, bound, hs, hbound⟩ := autoNamed_run engine resolver ops hops
  obtain ⟨hwithin, hnodup⟩ := entries_anonymous hplan position
  have hperm := mountedIds_singleton s.engine.kindOf position plan
  rw [NodePlan.isAnonymous, Bool.and_eq_true] at hplan
  obtain ⟨hid, htag⟩ := plan.info.idAt_of_isAnonymous hplan.1 none position
  have hnodup := hperm.nodup_iff.mpr hnodup
  -- a node with an id within that of the new root stands below a root with the same id
  have hroot : ∀ {i m}, s.arena.get? i = some m →
      Within (placeId none position plan.info.tag) m.id → position < bound ∧
        placeId none position plan.info.tag ∈ s.arena.ids := by
    intro i m hm hm'
    obtain ⟨j, r, hr, hparent, hbelow⟩ := hs.within_root hlinked hm
    obtain ⟨k, tag, hk, htag', hrid⟩ := hs.root hr hparent
    rw [hrid] at hbelow
    obtain ⟨rfl, rfl⟩ := placeId_unique htag htag' hm' hbelow
    exact ⟨hk, Arena.mem_ids.mpr ⟨j, r, hr, hrid⟩⟩
  refine ⟨hnodup, ?_, fun hkeeps hmem => ?_⟩
  · rw [eq_duplicateId_iff (s.map_mount plan), isOk_checkIds s.engine.kindOf]
    constructor
    · intro hrefused
      by_contra hfree
      refine hrefused ⟨hnodup, fun id hmem => Bool.eq_false_iff.mpr fun htaken => hfree ?_⟩
      obtain ⟨i, m, hm, rfl⟩ := hkeyed.containsId_iff.mp htaken
      exact (hroot hm (hwithin _ (hperm.mem_iff.mp hmem))).2
    · rintro hmem ⟨-, hfree⟩
      have hplanned : placeId none position plan.info.tag ∈
          mountedIds s.engine.kindOf position [plan] := by
        rw [hperm.mem_iff, NodePlan.entries, hid, List.map_append]
        exact List.mem_append_right _ List.mem_cons_self
      have htaken := hkeyed.containsId_iff.mpr (Arena.mem_ids.mp hmem)
      exact Bool.noConfusion ((hfree _ hplanned).symm.trans htaken)
  · obtain ⟨i, m, hm, hmid⟩ := Arena.mem_ids.mp hmem
    exact Nat.lt_irrefl _ (Nat.lt_of_lt_of_le (hroot hm (.inl hmid)).1 (hbound hkeeps))

/-- Behind a text that was mounted and resolved another one is mounted. -/
theorem mount_anonymous_caption :
    let s := [.mount caption, .resolve].foldl perform (.new {})
    ¬ ∃ id, (s.mount caption).1 = .error (.duplicateId id) := by
  have hops : ∀ op ∈ [.mount caption, .resolve], ∀ plan ∈ ScreenOp.plans op,
      plan.isAnonymous = true := by
    intro op hop plan hplan
    simp only [List.mem_cons, List.not_mem_nil, or_false] at hop
    rcases hop with rfl | rfl
    · exact List.mem_singleton.mp hplan ▸ isAnonymous_caption
    · exact nomatch hplan
  have hkeeps : ∀ op ∈ [.mount caption, .resolve], ¬ RemovesPlace op := by
    rintro op hop ⟨k, tag, rfl⟩
    simp at hop
  obtain ⟨-, hrefused, hfree⟩ := mount_anonymous (Screen.new {}).engine Registry.resolve
    [.mount caption, .resolve] caption hops isAnonymous_caption
  exact fun h => hfree hkeeps (hrefused.mp h)

/-- When the first of two texts was removed, a third one is refused: its position is that of the
second one, which still stands. -/
theorem mount_behind_removed :
    let s := [.mount caption, .mount caption, .removeNode "root/text-0"].foldl perform (.new {})
    caption.isAnonymous = true ∧ (s.mount caption).1 = .error (.duplicateId "root/text-1") := by
  refine ⟨isAnonymous_caption, ?_⟩
  rw [caption, mount_leaf, List.foldl_cons, List.foldl_cons, perform, perform, mount_leaf,
    mount_leaf]
  rfl

end Screen

end WidgetFlow
