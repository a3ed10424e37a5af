import WidgetFlow.Proofs.Tree.Entries
import WidgetFlow.Proofs.Tree.Forest

/-!
# What mounting a plan does to an arena

The nodes of a plan are inserted one by one, each below its parent. `Arena.Grown` says what such an
insertion does as a whole: the nodes that were there stay, except that a parent gets more children,
and the new nodes are those of the plan, under the ids that the plan gives them.

## Main results

* `Keyed.insert`, `Keyed.of_same`, `Keyed.removeSubtree`: ids lead to the nodes that have them.
* `plantBelow_grown`, `plant_grown`, `plantAll_grown`: a plan is mounted as a whole.
-/

namespace WidgetFlow

namespace Arena

variable {a b c : Arena} {node n m : Node} {i j k : Nat} {id : String}

/-! ### Ids -/

/-- Every id leads to the one node that has it. -/
structure Keyed (a : Arena) : Prop where
  sorted : Dict.Sorted a.byId
  found : ∀ {id i}, a.indexOf? id = some i ↔ ∃ n, a.get? i = some n ∧ n.id = id

namespace Keyed

/-- An empty arena has no ids. -/
theorem empty : ({} : Arena).Keyed where
  sorted := Dict.Sorted.nil
  found {id i} := by
    constructor
    · exact fun h => nomatch h
    · rintro ⟨n, h, -⟩
      exact nomatch get?_empty.symm.trans h

/-- An id that is taken is the id of a node. -/
theorem containsId_iff (h : a.Keyed) :
    a.containsId id = true ↔ ∃ i n, a.get? i = some n ∧ n.id = id := by
  rw [containsId, Dict.contains_iff]
  exact exists_congr fun i => h.found

/-- The node of an id is found under its number. -/
theorem find?_iff (h : a.Keyed) : a.find? id = some n ↔ ∃ i, a.get? i = some n ∧ n.id = id := by
  rw [find?, Option.bind_eq_some_iff]
  constructor
  · rintro ⟨i, hi, hn⟩
    obtain ⟨m, hm, hid⟩ := h.found.mp hi
    obtain rfl := Option.some.inj (hn.symm.trans hm)
    exact ⟨i, hn, hid⟩
  · rintro ⟨i, hn, hid⟩
    exact ⟨i, h.found.mpr ⟨n, hn, hid⟩, hn⟩

/-- Nodes with the same id have the same number. -/
theorem unique (h : a.Keyed) (hi : a.get? i = some n) (hj : a.get? j = some m) (hid : n.id = m.id) :
    i = j := by
  have hi' := h.found.mpr ⟨n, hi, rfl⟩
  have hj' := h.found.mpr ⟨m, hj, rfl⟩
  rw [hid] at hi'
  exact Option.some.inj (hi'.symm.trans hj')

/-- A node with a new id is inserted. -/
theorem insert (h : a.Keyed) (hid : a.containsId node.id = false) : (a.insert node).2.Keyed where
  sorted := h.sorted.insert
  found {id i} := by
    change Dict.get? (Dict.insert a.byId node.id a.slots.length) id = some i ↔ _
    rw [Dict.get?_insert, get?_insert]
    by_cases hnode : node.id = id
    · rw [if_pos hnode]
      constructor
      · intro hi
        obtain rfl := Option.some.inj hi
        exact ⟨node, if_pos rfl, hnode⟩
      · rintro ⟨n, hn, hnid⟩
        split at hn
        · next heq => exact congrArg some heq.symm
        · have hfalse := h.containsId_iff.mpr ⟨i, n, hn, hnid⟩
          rw [← hnode, hid] at hfalse
          exact nomatch hfalse
    · rw [if_neg hnode]
      refine h.found.trans ⟨?_, ?_⟩
      · rintro ⟨n, hn, hnid⟩
        exact ⟨n, by rw [if_neg (Nat.ne_of_lt (lt_of_get? hn)), hn], hnid⟩
      · rintro ⟨n, hn, hnid⟩
        split at hn
        · exact absurd (Option.some.inj hn ▸ hnid) hnode
        · exact ⟨n, hn, hnid⟩

/-- Changes that keep the id of every node keep where the ids lead. -/
theorem of_same (h : a.Keyed) (hbyId : b.byId = a.byId)
    (hid : ∀ k, (b.get? k).map (·.id) = (a.get? k).map (·.id)) : b.Keyed where
  sorted := hbyId ▸ h.sorted
  found {id i} := by
    have hiff : ∀ c : Arena, (∃ n, c.get? i = some n ∧ n.id = id) ↔
        (c.get? i).map (·.id) = some id := fun c => Option.map_eq_some_iff.symm
    rw [hiff, hid, ← hiff, indexOf?, hbyId]
    exact h.found

/-- A change of a node that keeps its id keeps where the ids lead. -/
theorem modify (h : a.Keyed) {change : Node → Node} (hchange : ∀ n, (change n).id = n.id) :
    (a.modify i change).Keyed := by
  refine h.of_same rfl fun k => ?_
  rw [get?_modify]
  split
  · cases a.get? k with
    | none =>
        rfl
    | some n =>
        exact congrArg some (hchange n)
  · rfl

/-- Emptying a slot frees the id of its node. -/
theorem drop (h : a.Keyed) (i : Nat) : (a.drop i).Keyed := by
  rw [Arena.drop]
  split
  · exact h
  · next node hnode =>
      have hget : ∀ k, ({ a with slots := a.slots.set i none, byId := Dict.erase a.byId node.id } :
          Arena).get? k = if i = k then none else a.get? k := fun k => by
        have hdrop := get?_drop (a := a) (i := i) (j := k)
        rwa [Arena.drop, hnode] at hdrop
      refine ⟨h.sorted.erase, fun {id k} => ?_⟩
      change Dict.get? (Dict.erase a.byId node.id) id = some k ↔ _
      rw [h.sorted.get?_erase, hget]
      by_cases hid : node.id = id
      · rw [if_pos hid]
        constructor
        · exact fun hk => by cases hk
        rintro ⟨n, hn, hnid⟩
        split at hn
        · cases hn
        · next hne => exact absurd (h.unique hnode hn (hid.trans hnid.symm)) hne
      · rw [if_neg hid]
        refine h.found.trans ⟨?_, ?_⟩
        · rintro ⟨n, hn, hnid⟩
          refine ⟨n, ?_, hnid⟩
          rw [if_neg, hn]
          rintro rfl
          obtain rfl := Option.some.inj (hnode.symm.trans hn)
          exact hid hnid
        · rintro ⟨n, hn, hnid⟩
          split at hn
          · cases hn
          · exact ⟨n, hn, hnid⟩

/-- A removal frees the ids of what is removed. -/
theorem removeSubtree (h : a.Keyed) (i : Nat) : (a.removeSubtree i).2.Keyed := by
  have hdetach : (a.detach i).Keyed := by
    refine h.of_same ?_ fun k => ?_
    · rw [detach]
      cases (a.get? i).bind (·.parent?) <;> rfl
    · rw [get?_detach]
      split
      · cases a.get? k <;> rfl
      · rfl
  exact List.foldlRecOn _ Arena.drop hdetach fun b hb k _ => hb.drop k

end Keyed

end Arena

/-! ### Mounting -/

/-- A node is what a plan asks for: apart from its children it is the planned node, not yet looked
up. -/
def NodeInfo.Describes (kindOf : String → Kind) (info : NodeInfo) (m : Node) : Prop :=
  m = { info.toNode m.id (kindOf info.tag) m.parent? with children := m.children }

namespace Arena

variable {a b c : Arena} {n m : Node} {k p : Nat} {parent? : Option Nat} {kindOf : String → Kind}
  {entries entries' : List (String × NodeInfo)}

/-- Between two arenas the planned nodes of `entries` were mounted below a parent, or as trees of
their own if there is none. -/
structure Grown (kindOf : String → Kind) (a b : Arena) (parent? : Option Nat)
    (entries : List (String × NodeInfo)) : Prop where
  length : a.slots.length ≤ b.slots.length
  old : ∀ {k}, k < a.slots.length → parent? ≠ some k → b.get? k = a.get? k
  grown : ∀ {p n}, parent? = some p → a.get? p = some n →
    ∃ more, b.get? p = some { n with children := n.children ++ more }
  planted : ∀ {e}, e ∈ entries → ∃ k m, a.slots.length ≤ k ∧ b.get? k = some m ∧ m.id = e.1 ∧
    e.2.Describes kindOf m
  source : ∀ {k m}, a.slots.length ≤ k → b.get? k = some m →
    ∃ info, (m.id, info) ∈ entries ∧ info.Describes kindOf m
  ids : ∀ {id}, b.containsId id = true ↔ a.containsId id = true ∨ id ∈ entries.map (·.1)
  keyed : a.Keyed → (entries.map (·.1)).Nodup → (∀ e ∈ entries, a.containsId e.1 = false) → b.Keyed

namespace Grown

/-- Nothing was mounted. -/
theorem refl (a : Arena) : Grown kindOf a a parent? [] where
  length := Nat.le_refl _
  old _ _ := rfl
  grown {p n} _ hn := ⟨[], by rw [List.append_nil, hn]⟩
  planted h := nomatch h
  source hk hm := absurd (lt_of_get? hm) (Nat.not_lt.mpr hk)
  ids := ⟨.inl, fun h => h.resolve_right List.not_mem_nil⟩
  keyed h _ _ := h

/-- One thing after the other was mounted at the same place. -/
theorem trans (h : Grown kindOf a b parent? entries) (h' : Grown kindOf b c parent? entries')
    (hp : ∀ p, parent? = some p → p < a.slots.length) :
    Grown kindOf a c parent? (entries ++ entries') where
  length := Nat.le_trans h.length h'.length
  old {k} hk hne := (h'.old (Nat.lt_of_lt_of_le hk h.length) hne).trans (h.old hk hne)
  grown {p n} hpar hn := by
    obtain ⟨more, hb⟩ := h.grown hpar hn
    obtain ⟨more', hc⟩ := h'.grown hpar hb
    exact ⟨more ++ more', by rw [hc, List.append_assoc]⟩
  planted {e} he := by
    obtain he | he := List.mem_append.mp he
    · obtain ⟨k, m, hk, hm, hid, hdesc⟩ := h.planted he
      refine ⟨k, m, hk, ?_, hid, hdesc⟩
      rw [h'.old (lt_of_get? hm) fun hpar => Nat.not_lt.mpr hk (hp k hpar), hm]
    · obtain ⟨k, m, hk, hm, hid, hdesc⟩ := h'.planted he
      exact ⟨k, m, Nat.le_trans h.length hk, hm, hid, hdesc⟩
  source {k m} hk hm := by
    by_cases hlt : k < b.slots.length
    · rw [h'.old hlt fun hpar => Nat.not_lt.mpr hk (hp k hpar)] at hm
      obtain ⟨info, hmem, hdesc⟩ := h.source hk hm
      exact ⟨info, List.mem_append_left _ hmem, hdesc⟩
    · obtain ⟨info, hmem, hdesc⟩ := h'.source (Nat.not_lt.mp hlt) hm
      exact ⟨info, List.mem_append_right _ hmem, hdesc⟩
  ids {id} := by
    rw [h'.ids, h.ids, List.map_append, List.mem_append, or_assoc]
  keyed ha hnodup hfresh := by
    rw [List.map_append, List.nodup_append] at hnodup
    obtain ⟨hleft, hright, hdisjoint⟩ := hnodup
    have hb := h.keyed ha hleft fun e he => hfresh e (List.mem_append_left _ he)
    refine h'.keyed hb hright fun e he => ?_
    refine Bool.eq_false_iff.mpr fun hcon => ?_
    obtain hold | hnew := h.ids.mp hcon
    · exact nomatch (hfresh e (List.mem_append_right _ he)).symm.trans hold
    · exact hdisjoint e.1 hnew e.1 (List.mem_map_of_mem he) rfl

/-- Trees of their own leave every node alone, so also a parent. -/
theorem below (h : Grown kindOf a b none entries) : Grown kindOf a b (some p) entries where
  length := h.length
  old hk _ := h.old hk nofun
  grown {q n} _ hn := ⟨[], by rw [h.old (lt_of_get? hn) nofun, hn, List.append_nil]⟩
  planted := h.planted
  source := h.source
  ids := h.ids
  keyed := h.keyed

/-- A node gets one more child, a text or a node that is there already. -/
theorem addChild (child : Child) : Grown kindOf a (a.addChild p child) (some p) [] where
  length := Nat.le_of_eq length_modify.symm
  old {k} _ hne := get?_modify_of_ne fun heq => hne (congrArg some heq)
  grown {q n} hq hn := by
    obtain rfl := Option.some.inj hq
    refine ⟨[child], ?_⟩
    rw [Arena.addChild, get?_modify, if_pos rfl, hn]
    rfl
  planted h := nomatch h
  source {k m} hk hm := by
    have hlt := lt_of_get? hm
    rw [Arena.addChild, length_modify] at hlt
    omega
  ids := ⟨.inl, fun h => h.resolve_right List.not_mem_nil⟩
  keyed h _ _ := h.modify fun _ => rfl

/-- A node is inserted, and then what is planned below it is mounted there. -/
theorem sprout {info : NodeInfo} {id : String}
    (h : Grown kindOf (a.insert (info.toNode id (kindOf info.tag) parent?)).2 b
      (some a.slots.length) entries) :
    Grown kindOf a b none (entries ++ [(id, info)]) := by
  have hself : ∃ more, b.get? a.slots.length = some
      { info.toNode id (kindOf info.tag) parent? with children := more } := by
    obtain ⟨more, hmore⟩ := h.grown rfl get?_insert_self
    exact ⟨more, hmore⟩
  have hlength : a.slots.length + 1 ≤ b.slots.length := length_insert ▸ h.length
  have hids : ∀ {x}, (a.insert (info.toNode id (kindOf info.tag) parent?)).2.containsId x = true ↔
      id = x ∨ a.containsId x = true := fun {x} => by
    change Dict.contains (Dict.insert a.byId id a.slots.length) x = true ↔ _
    rw [Dict.contains_insert, Bool.or_eq_true, decide_eq_true_iff]
    rfl
  constructor
  · omega
  · intro k hk _
    rw [h.old (by rw [length_insert]; omega) (by simp; omega), get?_insert_of_lt hk]
  · exact fun hp => nomatch hp
  · intro e he
    obtain he | he := List.mem_append.mp he
    · obtain ⟨k, m, hk, hm⟩ := h.planted he
      exact ⟨k, m, by rw [length_insert] at hk; omega, hm⟩
    · obtain rfl := List.mem_singleton.mp he
      obtain ⟨more, hmore⟩ := hself
      exact ⟨a.slots.length, _, Nat.le_refl _, hmore, rfl, rfl⟩
  · intro k m hk hm
    obtain rfl | hlt := Nat.eq_or_lt_of_le hk
    · obtain ⟨more, hmore⟩ := hself
      obtain rfl := Option.some.inj (hmore.symm.trans hm)
      exact ⟨info, List.mem_append_right _ List.mem_cons_self, rfl⟩
    · obtain ⟨info', hmem, hdesc⟩ := h.source (by rw [length_insert]; omega) hm
      exact ⟨info', List.mem_append_left _ hmem, hdesc⟩
  · intro x
    rw [h.ids, hids, List.map_append, List.mem_append, List.map_singleton, List.mem_singleton]
    constructor
    · rintro ((rfl | hx) | hx)
      · exact .inr (.inr rfl)
      · exact .inl hx
      · exact .inr (.inl hx)
    · rintro (hx | hx | rfl)
      · exact .inl (.inr hx)
      · exact .inr hx
      · exact .inl (.inl rfl)
  · intro ha hnodup hfresh
    rw [List.map_append, List.nodup_append] at hnodup
    obtain ⟨hleft, -, hdisjoint⟩ := hnodup
    have hid := hfresh (id, info) (List.mem_append_right _ List.mem_cons_self)
    refine h.keyed (ha.insert hid) hleft fun e he => ?_
    refine Bool.eq_false_iff.mpr fun hcon => ?_
    obtain heq | hold := hids.mp hcon
    · exact hdisjoint e.1 (List.mem_map_of_mem he) id List.mem_cons_self heq.symm
    · exact nomatch (hfresh e (List.mem_append_left _ he)).symm.trans hold

end Grown

/-- The planned children of a node are mounted below it. -/
theorem plantBelow_grown (parent : Nat) (parentId : String) :
    ∀ (position : Nat) (plans : List ChildPlan) (a : Arena), parent < a.slots.length →
      Grown kindOf a (a.plantBelow kindOf parent parentId position plans) (some parent)
        (entriesBelow parentId position plans)
  | position, [], a, _ => by
      rw [plantBelow, entriesBelow]
      exact .refl a
  | position, .text content :: rest, a, h => by
      rw [plantBelow, entriesBelow]
      have hrest := plantBelow_grown parent parentId (position + 1) rest
        (a.addChild parent (.text content)) (by rwa [addChild, length_modify])
      exact (Grown.addChild _).trans hrest fun p hp => Option.some.inj hp ▸ h
  | position, .node info children :: rest, a, h => by
      rw [plantBelow, entriesBelow]
      let id := info.idAt (some parentId) position
      let inserted := (a.insert (info.toNode id (kindOf info.tag) (some parent))).2
      let b := inserted.plantBelow kindOf a.slots.length id 0 children
      have hbelow : Grown kindOf inserted b (some a.slots.length) (entriesBelow id 0 children) :=
        plantBelow_grown a.slots.length id 0 children inserted (by
          rw [length_insert]
          exact Nat.lt_succ_self _)
      have hp : ∀ p, some parent = some p → p < a.slots.length :=
        fun p hp => Option.some.inj hp ▸ h
      have hchild := (hbelow.sprout.below (p := parent)).trans
        (.addChild (.node a.slots.length)) hp
      have hrest := plantBelow_grown parent parentId (position + 1) rest
        (b.addChild parent (.node a.slots.length)) (Nat.lt_of_lt_of_le h hchild.length)
      have hall := hchild.trans hrest hp
      rw [List.append_nil, List.append_assoc] at hall
      exact hall

/-- The planned children of a node leave a forest. -/
theorem plantBelow_linked (parent : Nat) (parentId : String) :
    ∀ (position : Nat) (plans : List ChildPlan) (a : Arena) (loose : List Nat), a.Linked loose →
      (∃ n, a.get? parent = some n) → (∀ k ∈ loose, k < a.slots.length) →
      (a.plantBelow kindOf parent parentId position plans).Linked loose
  | position, [], a, loose, h, _, _ => by
      rw [plantBelow]
      exact h
  | position, .text content :: rest, a, loose, h, ⟨n, hn⟩, hloose => by
      rw [plantBelow]
      have htext : Grown kindOf a (a.addChild parent (.text content)) (some parent) [] :=
        .addChild (.text content)
      obtain ⟨more, hmore⟩ := htext.grown rfl hn
      exact plantBelow_linked parent parentId (position + 1) rest _ loose (h.addText content)
        ⟨_, hmore⟩ fun k hk => Nat.lt_of_lt_of_le (hloose k hk) htext.length
  | position, .node info children :: rest, a, loose, h, ⟨n, hn⟩, hloose => by
      rw [plantBelow]
      let index := a.slots.length
      let id := info.idAt (some parentId) position
      let inserted := (a.insert (info.toNode id (kindOf info.tag) (some parent))).2
      let b := inserted.plantBelow kindOf index id 0 children
      have hlength : inserted.slots.length = index + 1 := length_insert
      have hindex : inserted.get? index = some (info.toNode id (kindOf info.tag) (some parent)) :=
        get?_insert_self
      have hparent : parent < index := lt_of_get? hn
      have hinserted : inserted.Linked (index :: loose) := by
        refine h.insert rfl (fun p hp => ?_) fun k hk => ?_
        · obtain rfl := Option.some.inj hp
          exact ⟨⟨n, hn⟩, List.mem_cons_self⟩
        · exact ⟨fun hmem => (List.mem_cons.mp hmem).resolve_left (Nat.ne_of_lt hk),
            List.mem_cons_of_mem index⟩
      have hb : b.Linked (index :: loose) := by
        refine plantBelow_linked index id 0 children inserted _ hinserted ⟨_, hindex⟩ fun k hk => ?_
        obtain rfl | hk := List.mem_cons.mp hk
        · omega
        · have := hloose k hk
          omega
      have hgrown : Grown kindOf inserted b (some index) (entriesBelow id 0 children) :=
        plantBelow_grown index id 0 children inserted (by omega)
      obtain ⟨more, hself⟩ := hgrown.grown rfl hindex
      have hattached : (b.addChild parent (.node index)).Linked loose :=
        hb.attach (fun hmem => Nat.lt_irrefl _ (hloose index hmem)) hself rfl hparent
      have hthere : b.get? parent = some n := by
        rw [hgrown.old (by omega) fun heq => Nat.ne_of_gt hparent (Option.some.inj heq),
          get?_insert_of_lt hparent, hn]
      have hnode : Grown kindOf b (b.addChild parent (.node index)) (some parent) [] :=
        .addChild (.node index)
      obtain ⟨more', hmore'⟩ := hnode.grown rfl hthere
      refine plantBelow_linked parent parentId (position + 1) rest _ loose hattached ⟨_, hmore'⟩
        fun k hk => ?_
      have hk := hloose k hk
      have hle := hgrown.length
      change k < (b.addChild parent (.node index)).slots.length
      rw [addChild, length_modify]
      omega

/-- A tree is mounted. -/
theorem plant_grown (a : Arena) (plan : NodePlan) (position : Nat) :
    Grown kindOf a (a.plant kindOf plan position).2 none (plan.entries position) :=
  (plantBelow_grown a.slots.length _ 0 plan.children _ (by
    rw [length_insert]
    exact Nat.lt_succ_self _)).sprout

/-- A mounted tree leaves a forest. -/
theorem Linked.plant (h : a.Linked []) (plan : NodePlan) (position : Nat) :
    (a.plant kindOf plan position).2.Linked [] :=
  plantBelow_linked a.slots.length _ 0 plan.children _ []
    (h.insert rfl (fun _ hp => nomatch hp) fun _ _ => Iff.rfl)
    ⟨_, get?_insert_self⟩ fun _ hk => nomatch hk

/-- Trees are mounted in turn. -/
theorem plantAll_grown (position : Nat) (plans : List NodePlan) (a : Arena) :
    Grown kindOf a (a.plantAll kindOf position plans).2 none (planEntries position plans) := by
  induction plans generalizing position a with
  | nil =>
      exact .refl a
  | cons plan rest ih =>
      exact (plant_grown a plan position).trans (ih (position + 1) _) fun _ hp => nomatch hp

/-- Trees mounted in turn leave a forest. -/
theorem Linked.plantAll (h : a.Linked []) (position : Nat) (plans : List NodePlan) :
    (a.plantAll kindOf position plans).2.Linked [] := by
  induction plans generalizing position a with
  | nil =>
      exact h
  | cons plan rest ih =>
      exact ih (h.plant plan position) (position + 1)

end Arena

end WidgetFlow
