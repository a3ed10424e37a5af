import Mathlib.Data.List.Forall2
import Mathlib.Data.List.Nodup
import WidgetFlow.Proofs.Tree.Planting

/-!
# Planned nodes and mounted nodes, path by path

A path leads from a list of children to a node: a position in the list, then a position among the
children of the node found there, and so on. Texts count as positions, but no path ends at one. The
same path can be followed in a plan (`plannedAt?`) and in an arena (`Arena.nodeAt?`), so it says
which node belongs to which plan, whatever the ids are.

`Arena.Realizes` says that children in an arena are what was planned, node by node, and lists the
nodes with their numbers, each behind those below it. It is about the listed nodes only, so it stays
true while others are inserted (`Realizes.of_same`).

## Main results

* `mem_nodePaths`, `nodup_nodePaths`: the paths that lead to a planned node, each of them once.
* `plantAll_raised`: trees that are mounted in turn are what was planned, and nothing else is new.
* `Realizes.rel_nodeAt?`, `Realizes.forall₂_numberAt?`: the node at a path is the one that is
  planned there, and the listed nodes are those at the paths.
-/

namespace WidgetFlow

/-! ### Paths through a plan -/

/-- The path that goes through the next child instead. -/
def nextPath (path : List Nat) : List Nat := path.modifyHead (· + 1)

/-- The paths to all planned nodes among children, each behind those to the nodes below it. -/
def nodePaths : List ChildPlan → List (List Nat)
  | [] => []
  | .text _ :: rest => (nodePaths rest).map nextPath
  | .node _ children :: rest =>
    (nodePaths children).map (0 :: ·) ++ [0] :: (nodePaths rest).map nextPath

/-- What is planned for the node at the end of a path, with the id that it gets if the children are
mounted below a parent from a position on. -/
def plannedAt? : Option String → Nat → List ChildPlan → List Nat → Option (String × NodeInfo)
  | _, _, _, [] => none
  | parentId?, position, plans, k :: path =>
    match plans[k]? with
    | some (.node info children) =>
      let id := info.idAt parentId? (position + k)
      if path = [] then some (id, info) else plannedAt? (some id) 0 children path
    | _ => none

variable {plans rest : List ChildPlan} {parentId? : Option String} {position : Nat}
  {path : List Nat} {paths : List (List Nat)} {k : Nat}

/-- Behind the first child a path goes on among the others. -/
theorem plannedAt?_succ (parentId? : Option String) (position : Nat) (plan : ChildPlan)
    (rest : List ChildPlan) (k : Nat) (path : List Nat) :
    plannedAt? parentId? position (plan :: rest) ((k + 1) :: path) =
      plannedAt? parentId? (position + 1) rest (k :: path) := by
  rw [plannedAt?, plannedAt?, List.getElem?_cons_succ, Nat.add_right_comm, Nat.add_assoc]

/-- Going through the next child loses nothing. -/
theorem nextPath_injective : Function.Injective nextPath := by
  rintro (_ | ⟨k, path⟩) (_ | ⟨l, path'⟩) h
  · rfl
  · exact nomatch h
  · exact nomatch h
  · obtain ⟨hk, rfl⟩ := List.cons.inj h
    obtain rfl := Nat.succ.inj hk
    rfl

/-- No path through a next child goes through the first one. -/
theorem zero_cons_not_mem : 0 :: path ∉ paths.map nextPath := by
  rw [List.mem_map]
  rintro ⟨_ | ⟨k, path'⟩, -, heq⟩
  · exact nomatch heq
  · exact absurd (List.cons.inj heq).1 (Nat.succ_ne_zero k)

/-- The paths through a next child. -/
theorem succ_cons_mem_iff : (k + 1) :: path ∈ paths.map nextPath ↔ k :: path ∈ paths :=
  List.mem_map_of_injective nextPath_injective (a := k :: path)

/-- The empty path goes through no child, so it stays as it is. -/
theorem nil_mem_iff : [] ∈ paths.map nextPath ↔ [] ∈ paths :=
  List.mem_map_of_injective nextPath_injective (a := [])

/-- A path that leads to a node goes through some child. -/
theorem nil_not_mem_nodePaths (plans : List ChildPlan) : [] ∉ nodePaths plans := by
  induction plans with
  | nil =>
      rw [nodePaths]
      exact List.not_mem_nil
  | cons plan rest ih =>
      cases plan with
      | text content =>
          rw [nodePaths, nil_mem_iff]
          exact ih
      | node info children =>
          rw [nodePaths, List.mem_append, List.mem_cons, nil_mem_iff]
          simpa using ih

/-- The paths that are listed are those that lead to a planned node. -/
theorem mem_nodePaths : ∀ (parentId? : Option String) (position : Nat) (plans : List ChildPlan)
    (path : List Nat),
    path ∈ nodePaths plans ↔ (plannedAt? parentId? position plans path).isSome
  | parentId?, position, plans, [] => by
      simp [nil_not_mem_nodePaths, plannedAt?]
  | parentId?, position, [], k :: path => by
      simp [nodePaths, plannedAt?]
  | parentId?, position, .text content :: rest, 0 :: path => by
      rw [nodePaths]
      simp [zero_cons_not_mem, plannedAt?]
  | parentId?, position, .text content :: rest, (k + 1) :: path => by
      rw [nodePaths, succ_cons_mem_iff, plannedAt?_succ]
      exact mem_nodePaths parentId? (position + 1) rest (k :: path)
  | parentId?, position, .node info children :: rest, [0] => by
      simp [nodePaths, plannedAt?]
  | parentId?, position, .node info children :: rest, 0 :: k :: path => by
      have hbelow := mem_nodePaths (some (info.idAt parentId? position)) 0 children (k :: path)
      rw [nodePaths, plannedAt?]
      simpa [zero_cons_not_mem] using hbelow
  | parentId?, position, .node info children :: rest, (k + 1) :: path => by
      rw [nodePaths, List.mem_append, List.mem_cons, succ_cons_mem_iff, plannedAt?_succ,
        ← mem_nodePaths parentId? (position + 1) rest (k :: path)]
      simp

/-- No path is listed twice. -/
theorem nodup_nodePaths : ∀ plans : List ChildPlan, (nodePaths plans).Nodup
  | [] => by
      rw [nodePaths]
      exact List.nodup_nil
  | .text content :: rest => by
      rw [nodePaths]
      exact (nodup_nodePaths rest).map nextPath_injective
  | .node info children :: rest => by
      rw [nodePaths, List.nodup_append, List.nodup_cons]
      refine ⟨(nodup_nodePaths children).map List.cons_injective,
        ⟨zero_cons_not_mem, (nodup_nodePaths rest).map nextPath_injective⟩, ?_⟩
      rintro _ hbelow path hpath rfl
      obtain ⟨path', hpath', rfl⟩ := List.mem_map.mp hbelow
      obtain heq | hpath := List.mem_cons.mp hpath
      · rw [(List.cons.inj heq).2] at hpath'
        exact nil_not_mem_nodePaths children hpath'
      · exact zero_cons_not_mem hpath

namespace Arena

/-! ### Paths through an arena -/

variable {a b c : Arena} {kindOf : String → Kind} {children : List Child} {n m : Node} {i : Nat}
  {info : NodeInfo} {planted under behind : List (Nat × Node)}

/-- The number of the node at the end of a path. -/
def numberAt? (a : Arena) : List Child → List Nat → Option Nat
  | _, [] => none
  | children, k :: path =>
    match children[k]? with
    | some (.node i) =>
      if path = [] then some i
      else (a.get? i).bind fun n => a.numberAt? n.children path
    | _ => none

/-- The node at the end of a path. -/
def nodeAt? (a : Arena) (children : List Child) (path : List Nat) : Option Node :=
  (a.numberAt? children path).bind a.get?

/-- Behind the first child a path goes on among the others. -/
theorem numberAt?_next (a : Arena) (child : Child) (children : List Child) (path : List Nat) :
    a.numberAt? (child :: children) (nextPath path) = a.numberAt? children path := by
  cases path <;> rfl

/-- A path through the first child that does not end there goes on below it. -/
theorem numberAt?_zero (hn : a.get? i = some n) (hpath : path ≠ []) :
    a.numberAt? (.node i :: children) (0 :: path) = a.numberAt? n.children path := by
  rw [numberAt?, List.getElem?_cons_zero]
  simp only [if_neg hpath, hn, Option.bind_some]

/-! ### What was planned -/

/-- Children in an arena are what was planned below a parent from a position on, and the nodes among
and below them are the listed ones, each behind those below it. -/
inductive Realizes (kindOf : String → Kind) (b : Arena) :
    Option String → Nat → List ChildPlan → List Child → List (Nat × Node) → Prop
  | nil {parentId? : Option String} {position : Nat} : Realizes kindOf b parentId? position [] [] []
  | text {parentId? : Option String} {position : Nat} {content : String} {rest : List ChildPlan}
      {children : List Child} {planted : List (Nat × Node)}
      (hrest : Realizes kindOf b parentId? (position + 1) rest children planted) :
      Realizes kindOf b parentId? position (.text content :: rest) (.text content :: children)
        planted
  | node {parentId? : Option String} {position i : Nat} {info : NodeInfo}
      {plans rest : List ChildPlan} {n : Node} {children : List Child}
      {under behind : List (Nat × Node)}
      (hn : b.get? i = some n) (hid : n.id = info.idAt parentId? position)
      (hdesc : info.Describes kindOf n)
      (hunder : Realizes kindOf b (some n.id) 0 plans n.children under)
      (hrest : Realizes kindOf b parentId? (position + 1) rest children behind) :
      Realizes kindOf b parentId? position (.node info plans :: rest) (.node i :: children)
        (under ++ (i, n) :: behind)

namespace Realizes

/-- Children stay what was planned as long as the listed nodes stay as they are. -/
theorem of_same (h : b.Realizes kindOf parentId? position plans children planted)
    (hsame : ∀ e ∈ planted, c.get? e.1 = b.get? e.1) :
    c.Realizes kindOf parentId? position plans children planted := by
  induction h with
  | nil => exact .nil
  | text _ ih => exact .text (ih hsame)
  | node hn hid hdesc _ _ ihunder ihrest =>
      rw [List.forall_mem_append, List.forall_mem_cons] at hsame
      obtain ⟨hunder, hself, hrest⟩ := hsame
      exact .node (hself.trans hn) hid hdesc (ihunder hunder) (ihrest hrest)

/-- The node at a path is the one that is planned there, with the id that it gets there. -/
theorem rel_nodeAt? (h : b.Realizes kindOf parentId? position plans children planted)
    (path : List Nat) :
    Option.Rel (fun entry n => n.id = entry.1 ∧ entry.2.Describes kindOf n)
      (plannedAt? parentId? position plans path) (b.nodeAt? children path) := by
  induction h generalizing path with
  | nil =>
      cases path with
      | nil => exact .none
      | cons k path => exact .none
  | text hrest ih =>
      match path with
      | [] => exact .none
      | 0 :: path => exact .none
      | (k + 1) :: path =>
          rw [plannedAt?_succ]
          exact ih (k :: path)
  | @node parentId? position i info plans rest n children _ _ hn hid hdesc _ _ ihunder ihrest =>
      match path with
      | [] => exact .none
      | [0] =>
          have hhere : b.nodeAt? (.node i :: children) [0] = some n := hn
          rw [hhere]
          exact .some ⟨hid, hdesc⟩
      | 0 :: k :: path =>
          have hbelow := ihunder (k :: path)
          rw [hid] at hbelow
          rw [nodeAt?, numberAt?_zero hn (List.cons_ne_nil k path)]
          exact hbelow
      | (k + 1) :: path =>
          rw [plannedAt?_succ]
          exact ihrest (k :: path)

/-- The listed nodes are those at the paths, in the same order. -/
theorem forall₂_numberAt? (h : b.Realizes kindOf parentId? position plans children planted) :
    List.Forall₂ (fun path e => b.numberAt? children path = some e.1 ∧ b.get? e.1 = some e.2)
      (nodePaths plans) planted := by
  induction h with
  | nil =>
      rw [nodePaths]
      exact .nil
  | @text _ _ content _ children _ _ ih =>
      rw [nodePaths, List.forall₂_map_left_iff]
      exact ih.imp fun path _ hpath =>
        ⟨(numberAt?_next b (.text content) children path).trans hpath.1, hpath.2⟩
  | @node _ _ i _ _ _ n children _ _ hn _ _ _ _ ihunder ihrest =>
      rw [nodePaths]
      refine List.rel_append ?_ (.cons ⟨rfl, hn⟩ ?_)
      · rw [List.forall₂_map_left_iff]
        refine ihunder.imp fun path e hpath => ?_
        have hne : path ≠ [] := by
          rintro rfl
          exact nomatch hpath.1
        exact ⟨(numberAt?_zero hn hne).trans hpath.1, hpath.2⟩
      · rw [List.forall₂_map_left_iff]
        exact ihrest.imp fun path _ hpath =>
          ⟨(numberAt?_next b (.node i) children path).trans hpath.1, hpath.2⟩

end Realizes

/-! ### Mounting -/

/-- Between two arenas children were mounted below a parent from a position on: they are what was
planned, and the listed nodes are exactly those with a new number. -/
structure Raised (kindOf : String → Kind) (a b : Arena) (parentId? : Option String) (position : Nat)
    (plans : List ChildPlan) (children : List Child) (planted : List (Nat × Node)) : Prop where
  realizes : b.Realizes kindOf parentId? position plans children planted
  length : b.slots.length = a.slots.length + planted.length
  numbers : (planted.map (·.1)).Perm (List.range' a.slots.length planted.length)

namespace Raised

/-- Nothing was mounted. -/
theorem nil (a : Arena) : a.Raised kindOf a parentId? position [] [] [] where
  realizes := .nil
  length := rfl
  numbers := .nil

/-- The listed nodes have new numbers. -/
theorem lt_of_mem (h : a.Raised kindOf b parentId? position plans children planted)
    {e : Nat × Node} (he : e ∈ planted) : a.slots.length ≤ e.1 ∧ e.1 < b.slots.length := by
  have hmem := h.numbers.mem_iff.mp (List.mem_map_of_mem he)
  rw [List.mem_range'_1] at hmem
  rw [h.length]
  exact hmem

/-- A node was inserted with what is planned below it, and then the rest was mounted behind it,
which left the new nodes alone. -/
theorem cons {b' : Arena} {plans rest : List ChildPlan}
    (hm : b.get? a.slots.length = some m) (hid : m.id = info.idAt parentId? position)
    (hdesc : info.Describes kindOf m)
    (hunder : (a.insert n).2.Raised kindOf b (some m.id) 0 plans m.children under)
    (hlength : b'.slots.length = b.slots.length)
    (hrest : b'.Raised kindOf c parentId? (position + 1) rest children behind)
    (hsame : ∀ k, a.slots.length ≤ k → k < b.slots.length → c.get? k = b.get? k) :
    a.Raised kindOf c parentId? position (.node info plans :: rest)
      (.node a.slots.length :: children) (under ++ (a.slots.length, m) :: behind) := by
  have hinserted : (a.insert n).2.slots.length = a.slots.length + 1 := length_insert
  constructor
  · refine .node ?_ hid hdesc (hunder.realizes.of_same fun e he => ?_) hrest.realizes
    · rw [hsame _ (Nat.le_refl _) (lt_of_get? hm), hm]
    · obtain ⟨hle, hlt⟩ := hunder.lt_of_mem he
      exact hsame e.1 (by omega) hlt
  · have hbelow := hunder.length
    have hbehind := hrest.length
    rw [List.length_append, List.length_cons]
    omega
  · have hnumbers := hrest.numbers
    rw [hlength, hunder.length] at hnumbers
    calc ((under ++ (a.slots.length, m) :: behind).map (·.1)).Perm
          (a.slots.length :: (under.map (·.1) ++ behind.map (·.1))) := by
          rw [List.map_append, List.map_cons]
          exact List.perm_middle
      List.Perm _ (a.slots.length :: (List.range' (a.slots.length + 1) under.length ++
          List.range' (a.slots.length + 1 + under.length) behind.length)) := by
          rw [hinserted] at hnumbers
          exact ((hinserted ▸ hunder.numbers).append hnumbers).cons _
      _ = List.range' a.slots.length (under ++ (a.slots.length, m) :: behind).length := by
          rw [List.range'_append_1, ← List.range'_succ, List.length_append, List.length_cons]
          rfl

end Raised

/-- A node has a new child behind those it had. -/
theorem get?_addChild_self (child : Child) (hn : a.get? i = some n) :
    (a.addChild i child).get? i = some { n with children := n.children ++ [child] } := by
  rw [addChild, get?_modify, if_pos rfl, hn]
  rfl

/-- The planned children of a node are mounted below it. -/
theorem plantBelow_raised (parent : Nat) (parentId : String) :
    ∀ (position : Nat) (plans : List ChildPlan) (a : Arena) {n : Node}, a.get? parent = some n →
      ∃ more planted, (a.plantBelow kindOf parent parentId position plans).get? parent =
          some { n with children := n.children ++ more } ∧
        a.Raised kindOf (a.plantBelow kindOf parent parentId position plans) (some parentId)
          position plans more planted
  | position, [], a, n, hn => by
      rw [plantBelow]
      exact ⟨[], [], by rw [hn, List.append_nil], .nil a⟩
  | position, .text content :: rest, a, n, hn => by
      rw [plantBelow]
      obtain ⟨more, planted, hmore, hraised⟩ := plantBelow_raised parent parentId (position + 1)
        rest _ (get?_addChild_self (.text content) hn)
      have hlength : (a.addChild parent (.text content)).slots.length = a.slots.length :=
        length_modify
      refine ⟨.text content :: more, planted, ?_, .text hraised.realizes, ?_, ?_⟩
      · rw [hmore, List.append_assoc]
        rfl
      · rw [hraised.length, hlength]
      · rw [← hlength]
        exact hraised.numbers
  | position, .node info children :: rest, a, n, hn => by
      rw [plantBelow]
      let id := info.idAt (some parentId) position
      let inserted := (a.insert (info.toNode id (kindOf info.tag) (some parent))).2
      let b := inserted.plantBelow kindOf a.slots.length id 0 children
      have hparent : parent < a.slots.length := lt_of_get? hn
      have hinserted : inserted.slots.length = a.slots.length + 1 := length_insert
      obtain ⟨below, under, hm, hunder⟩ :=
        plantBelow_raised a.slots.length id 0 children inserted get?_insert_self
      -- the parent is not among the new nodes, and only gets the new child
      have hgrown : Grown kindOf inserted b (some a.slots.length) (entriesBelow id 0 children) :=
        plantBelow_grown a.slots.length id 0 children inserted (by omega)
      have hthere : b.get? parent = some n :=
        (hgrown.sprout.old hparent (Option.some_ne_none parent).symm).trans hn
      have hlength : (b.addChild parent (.node a.slots.length)).slots.length = b.slots.length :=
        length_modify
      obtain ⟨more, behind, hmore, hrest⟩ := plantBelow_raised parent parentId (position + 1) rest
        _ (get?_addChild_self (.node a.slots.length) hthere)
      have hlater : Grown kindOf (b.addChild parent (.node a.slots.length)) _ (some parent) _ :=
        plantBelow_grown parent parentId (position + 1) rest _ (by have := hgrown.length; omega)
      refine ⟨.node a.slots.length :: more, _, ?_,
        .cons hm rfl rfl hunder hlength hrest fun k hle hlt => ?_⟩
      · refine hmore.trans ?_
        rw [List.append_assoc]
        rfl
      · have hne : parent ≠ k := by omega
        have hold := hlater.old (Nat.lt_of_lt_of_eq hlt hlength.symm) fun heq =>
          hne (Option.some.inj heq)
        exact hold.trans (get?_modify_of_ne hne)

/-- Trees that are mounted in turn are what was planned, and nothing else is new. -/
theorem plantAll_raised (position : Nat) (plans : List NodePlan) (a : Arena) :
    ∃ planted, a.Raised kindOf (a.plantAll kindOf position plans).2 none position
      (plans.map NodePlan.asChild) ((a.plantAll kindOf position plans).1.map Child.node)
      planted := by
  induction plans generalizing position a with
  | nil => exact ⟨[], .nil a⟩
  | cons plan rest ih =>
      let id := plan.info.idAt none position
      let root := plan.info.toNode id (kindOf plan.info.tag) none
      have hroot : (a.insert root).2.get? a.slots.length = some root := get?_insert_self
      obtain ⟨below, under, hm, hunder⟩ :=
        plantBelow_raised a.slots.length id 0 plan.children _ hroot
      obtain ⟨behind, hrest⟩ := ih (position + 1) (a.plant kindOf plan position).2
      have hlater : Grown kindOf (a.plant kindOf plan position).2 _ none _ :=
        plantAll_grown (position + 1) rest _
      exact ⟨_, .cons hm rfl rfl hunder rfl hrest fun k _ hlt => hlater.old hlt nofun⟩

end Arena

end WidgetFlow
