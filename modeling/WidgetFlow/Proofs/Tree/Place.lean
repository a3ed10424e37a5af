import Mathlib.Data.List.Nodup
import WidgetFlow.Proofs.Tree.Entries
import WidgetFlow.Proofs.Text.Digits

/-!
# Automatic ids

A node without an id of its own is named by its place: the id of its parent, a slash, its tag and
its position (`placeId`). If no tag has a slash, the slashes of such an id separate the steps of the
path that leads to the node, and the last `-` of a step separates the tag from the position. So two
children of one parent, and whatever is named below them, never get the same id.

## Main results

* `placeId_unique`: at most one place below a parent leads to an id.
* `entries_anonymous`: the automatic ids of a planned tree differ from each other.
-/

namespace WidgetFlow

/-! ### Plans -/

/-- Whether a planned node has no id of its own and a tag without slash. -/
def NodeInfo.isAnonymous (info : NodeInfo) : Bool :=
  info.id?.isNone && !info.tag.toList.contains '/'

/-- Whether no planned child declares an id, however deep, and no tag has a slash. -/
def anonymousBelow : List ChildPlan → Bool
  | [] => true
  | .text _ :: rest => anonymousBelow rest
  | .node info children :: rest =>
    info.isAnonymous && anonymousBelow children && anonymousBelow rest

/-- Whether no node of a planned tree declares an id, and no tag has a slash. -/
def NodePlan.isAnonymous (p : NodePlan) : Bool := p.info.isAnonymous && anonymousBelow p.children

/-- A node that declares no id is named by its place. -/
theorem NodeInfo.idAt_of_isAnonymous {info : NodeInfo} (h : info.isAnonymous = true)
    (parentId? : Option String) (position : Nat) :
    info.idAt parentId? position = placeId parentId? position info.tag ∧
      '/' ∉ info.tag.toList := by
  rw [isAnonymous, Bool.and_eq_true, Option.isNone_iff_eq_none, Bool.not_eq_true'] at h
  obtain ⟨hid, htag⟩ := h
  rw [idAt, hid]
  exact ⟨rfl, fun hmem => by rw [List.contains_iff_mem.mpr hmem] at htag; exact nomatch htag⟩

/-! ### Steps of a path -/

/-- What an id adds to the id of the parent, behind the slash. -/
def step (position : Nat) (tag : String) : List Char :=
  tag.toList ++ '-' :: Nat.toDigits 10 position

/-- An automatic id goes one step on from the id of the parent. -/
theorem toList_placeId (parentId? : Option String) (position : Nat) (tag : String) :
    (placeId parentId? position tag).toList =
      (parentId?.getD "root").toList ++ '/' :: step position tag := by
  simp [placeId, step, toString]

/-- What stands before the first mark is found again. -/
theorem eq_of_append_cons {c : Char} {x x' z z' : List Char} (hx : c ∉ x) (hx' : c ∉ x')
    (h : x ++ c :: z = x' ++ c :: z') : x = x' ∧ z = z' := by
  induction x generalizing x' with
  | nil =>
      cases x' with
      | nil => exact ⟨rfl, (List.cons.inj h).2⟩
      | cons d rest => exact absurd ((List.cons.inj h).1 ▸ List.mem_cons_self) hx'
  | cons b before ih =>
      cases x' with
      | nil => exact absurd ((List.cons.inj h).1 ▸ List.mem_cons_self) hx
      | cons d rest =>
          obtain ⟨rfl, hrest⟩ := List.cons.inj h
          obtain ⟨rfl, rfl⟩ := ih (fun hmem => hx (List.mem_cons_of_mem b hmem))
            (fun hmem => hx' (List.mem_cons_of_mem b hmem)) hrest
          exact ⟨rfl, rfl⟩

/-- A step tells the position and the tag: its last `-` stands between the two. -/
theorem step_injective {m n : Nat} {tag tag' : String} (h : step m tag = step n tag') :
    m = n ∧ tag = tag' := by
  have hreverse := congrArg List.reverse h
  rw [step, step, List.reverse_append, List.reverse_cons, List.append_assoc, List.reverse_append,
    List.reverse_cons, List.append_assoc, List.singleton_append, List.singleton_append] at hreverse
  obtain ⟨hdigits, htag⟩ := eq_of_append_cons
    (fun hmem => (ne_of_mem_toDigits (List.mem_reverse.mp hmem)).1 rfl)
    (fun hmem => (ne_of_mem_toDigits (List.mem_reverse.mp hmem)).1 rfl) hreverse
  exact ⟨toDigits_injective (List.reverse_injective hdigits),
    String.toList_injective (List.reverse_injective htag)⟩

/-- A step of a tag without slash has no slash. -/
theorem slash_not_mem_step {position : Nat} {tag : String} (h : '/' ∉ tag.toList) :
    '/' ∉ step position tag := by
  rw [step, List.mem_append, List.mem_cons, not_or, not_or]
  exact ⟨h, by decide, fun hmem => (ne_of_mem_toDigits hmem).2 rfl⟩

/-! ### Below an id -/

/-- The second id is the first one followed by a slash and more. -/
def Below (id below : String) : Prop := ∃ rest, below.toList = id.toList ++ '/' :: rest

/-- The second id is the first one, or one below it. -/
def Within (id within : String) : Prop := within = id ∨ Below id within

variable {id id' x parentId : String} {parentId? : Option String} {m n position : Nat}
  {tag tag' : String}

/-- A child is named below its parent. -/
theorem below_placeId (id : String) (position : Nat) (tag : String) :
    Below id (placeId (some id) position tag) := ⟨_, toList_placeId (some id) position tag⟩

/-- What is below something below an id is below this id. -/
theorem Below.within (h : Below id id') (hx : Within id' x) : Below id x := by
  obtain rfl | ⟨rest', hx⟩ := hx
  · exact h
  · obtain ⟨rest, hid'⟩ := h
    exact ⟨rest ++ '/' :: rest', by rw [hx, hid', List.append_assoc, List.cons_append]⟩

/-- What is within something below an id is within this id. -/
theorem Within.trans (h : Within id id') (hx : Within id' x) : Within id x := by
  obtain rfl | h := h
  · exact hx
  · exact .inr (h.within hx)

/-- An id is not below itself. -/
theorem Below.ne (h : Below id x) : x ≠ id := by
  rintro rfl
  obtain ⟨rest, heq⟩ := h
  have hlength := congrArg List.length heq
  rw [List.length_append, List.length_cons] at hlength
  omega

/-- What is within an automatic id goes on from the id of the parent with the step, which ends there
or at a slash. -/
theorem Within.exists_rest (h : Within (placeId parentId? position tag) x) :
    ∃ rest, x.toList ++ ['/'] =
      (parentId?.getD "root").toList ++ '/' :: (step position tag ++ '/' :: rest) := by
  obtain rfl | ⟨rest, heq⟩ := h
  · exact ⟨[], by rw [toList_placeId, List.append_assoc, List.cons_append]⟩
  · refine ⟨rest ++ ['/'], ?_⟩
    rw [heq, toList_placeId]
    simp only [List.append_assoc, List.cons_append]

/-- At most one place below a parent leads to an id. -/
theorem placeId_unique (htag : '/' ∉ tag.toList) (htag' : '/' ∉ tag'.toList)
    (hx : Within (placeId parentId? m tag) x) (hx' : Within (placeId parentId? n tag') x) :
    m = n ∧ tag = tag' := by
  obtain ⟨rest, heq⟩ := hx.exists_rest
  obtain ⟨rest', heq'⟩ := hx'.exists_rest
  have hsame := List.append_cancel_left (heq.symm.trans heq')
  exact step_injective (eq_of_append_cons (slash_not_mem_step htag) (slash_not_mem_step htag')
    (List.cons.inj hsame).2).1

/-! ### Planned trees -/

/-- The id is within the id of an unnamed node at the position or behind it. -/
def FromPlace (parentId? : Option String) (position : Nat) (x : String) : Prop :=
  ∃ k tag, position ≤ k ∧ '/' ∉ tag.toList ∧ Within (placeId parentId? k tag) x

/-- What comes from a place further on comes from one behind the first. -/
theorem FromPlace.succ (h : FromPlace parentId? (position + 1) x) :
    FromPlace parentId? position x := by
  obtain ⟨k, tag, hk, htag, hx⟩ := h
  exact ⟨k, tag, Nat.le_of_succ_le hk, htag, hx⟩

/-- What is within the id of a place does not come from a place further on. -/
theorem FromPlace.not_within (h : FromPlace parentId? (position + 1) x)
    (htag : '/' ∉ tag.toList) : ¬ Within (placeId parentId? position tag) x := by
  intro hx
  obtain ⟨k, tag', hk, htag', hx'⟩ := h
  obtain ⟨rfl, -⟩ := placeId_unique htag htag' hx hx'
  omega

/-- If the ids of the children of a node come from their places and differ from each other, then
they are within the id of the node and differ from it as well. -/
theorem branch_anonymous {ids : List String} (h : ∀ x ∈ ids, FromPlace (some id) 0 x)
    (hnodup : ids.Nodup) : (∀ x ∈ ids ++ [id], Within id x) ∧ (ids ++ [id]).Nodup := by
  have hbelow : ∀ x ∈ ids, Below id x := fun x hx => by
    obtain ⟨k, tag, -, -, hwithin⟩ := h x hx
    exact (below_placeId id k tag).within hwithin
  constructor
  · intro x hx
    obtain hx | hx := List.mem_append.mp hx
    · exact .inr (hbelow x hx)
    · exact .inl (List.mem_singleton.mp hx)
  · refine List.nodup_append.mpr ⟨hnodup, List.nodup_singleton id, ?_⟩
    rintro x hx y hy rfl
    exact (hbelow x hx).ne (List.mem_singleton.mp hy)

/-- The automatic ids of planned children come from their places, and differ from each other. -/
theorem entriesBelow_anonymous (parentId : String) :
    ∀ (position : Nat) (plans : List ChildPlan), anonymousBelow plans = true →
      (∀ x ∈ (entriesBelow parentId position plans).map (·.1),
        FromPlace (some parentId) position x) ∧
      ((entriesBelow parentId position plans).map (·.1)).Nodup
  | position, [], _ => by
      rw [entriesBelow]
      exact ⟨fun x hx => absurd hx List.not_mem_nil, List.nodup_nil⟩
  | position, .text content :: rest, h => by
      rw [entriesBelow]
      rw [anonymousBelow] at h
      obtain ⟨hplace, hnodup⟩ := entriesBelow_anonymous parentId (position + 1) rest h
      exact ⟨fun x hx => (hplace x hx).succ, hnodup⟩
  | position, .node info children :: rest, h => by
      rw [anonymousBelow, Bool.and_eq_true, Bool.and_eq_true] at h
      obtain ⟨⟨hinfo, hchildren⟩, hrest⟩ := h
      obtain ⟨hid, htag⟩ := info.idAt_of_isAnonymous hinfo (some parentId) position
      let id := placeId (some parentId) position info.tag
      obtain ⟨hbelow, hnodupBelow⟩ := entriesBelow_anonymous id 0 children hchildren
      obtain ⟨hwithin, hnodup⟩ := branch_anonymous hbelow hnodupBelow
      obtain ⟨hbehind, hnodupBehind⟩ := entriesBelow_anonymous parentId (position + 1) rest hrest
      rw [entriesBelow, hid, List.map_append, List.map_cons, List.append_cons]
      constructor
      · intro x hx
        obtain hx | hx := List.mem_append.mp hx
        · exact ⟨position, info.tag, Nat.le_refl _, htag, hwithin x hx⟩
        · exact (hbehind x hx).succ
      · refine List.nodup_append.mpr ⟨hnodup, hnodupBehind, ?_⟩
        rintro x hx y hy rfl
        exact (hbehind x hy).not_within htag (hwithin x hx)

/-- The automatic ids of a planned tree are within the id of its root, and differ from each
other. -/
theorem entries_anonymous {plan : NodePlan} (h : plan.isAnonymous = true) (position : Nat) :
    (∀ x ∈ (plan.entries position).map (·.1),
      Within (placeId none position plan.info.tag) x) ∧
    ((plan.entries position).map (·.1)).Nodup := by
  rw [NodePlan.isAnonymous, Bool.and_eq_true] at h
  obtain ⟨hid, -⟩ := plan.info.idAt_of_isAnonymous h.1 none position
  obtain ⟨hbelow, hnodup⟩ := entriesBelow_anonymous (placeId none position plan.info.tag) 0
    plan.children h.2
  rw [NodePlan.entries, hid, List.map_append, List.map_singleton]
  exact branch_anonymous hbelow hnodup

end WidgetFlow
