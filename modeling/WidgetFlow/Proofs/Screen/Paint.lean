import WidgetFlow.Proofs.Tree.Later
import WidgetFlow.Proofs.Widget.Store
import WidgetFlow.Screen.Render

/-!
# What a tree looks like

`Painted a s children outputs parts` says what the children of a node look like in an arena over a
store, and which parts they add to the stamp of their parent, without any cache: by what the
definitions of the nodes make of the instances. It is a relation without a bound on the depth, and
it is single-valued (`Painted.unique`).

Stamps are built from what a painting depends on. If the stamp of a node is the same in a later
state, then so is its painting (`Painted.stable`): this is what makes it sound to keep a painting
with its stamp.

## Main results

* `Painted.unique`: a tree looks one way.
* `Painted.stable`: with the same stamp it looks the same later.
-/

namespace WidgetFlow

/-! ### Stamps -/

namespace Stamp

variable {parts parts' : List StampPart} {revision revision' : Nat}

/-- A stamp of parts and a revision tells both. -/
theorem ofParts_inj (h : ofParts parts revision = ofParts parts' revision') :
    parts = parts' ∧ revision = revision' := by
  induction parts generalizing parts' with
  | nil =>
      cases parts' with
      | nil => exact ⟨rfl, Stamp.revision.inj h⟩
      | cons part rest => cases part <;> exact nomatch h
  | cons part rest ih =>
      cases parts' with
      | nil => cases part <;> exact nomatch h
      | cons part' rest' =>
          cases part with
          | text content =>
              cases part' with
              | text content' =>
                  obtain ⟨rfl, hrest⟩ := text.inj h
                  obtain ⟨rfl, hrev⟩ := ih hrest
                  exact ⟨rfl, hrev⟩
              | child stamp => exact nomatch h
          | child stamp =>
              cases part' with
              | text content => exact nomatch h
              | child stamp' =>
                  obtain ⟨rfl, hrest⟩ := child.inj h
                  obtain ⟨rfl, hrev⟩ := ih hrest
                  exact ⟨rfl, hrev⟩

/-- A stamp of parts is not the stamp of a node that waits. -/
theorem ofParts_ne_waiting : ofParts parts revision ≠ waiting := by
  cases parts with
  | nil => exact nofun
  | cons part rest => cases part <;> exact nofun

/-- A stamp of parts is not the stamp of a node that has failed. -/
theorem ofParts_ne_failed : ofParts parts revision ≠ failed := by
  cases parts with
  | nil => exact nofun
  | cons part rest => cases part <;> exact nofun

end Stamp

/-! ### Painting -/

/-- What a node looks like that no definition renders, and its stamp; nothing if there is a
definition and an instance. -/
def Arena.blank (a : Arena) (s : Store) (index : Nat) : Option (Output × Stamp) :=
  match a.get? index with
  | none => some (.fragment [], .waiting)
  | some node =>
    match node.status with
    | .unresolved => some (.loading node.id node.tag, .waiting)
    | .loading => some (.loading node.id node.tag, .waiting)
    | .error reason => some (node.fallback reason, .failed)
    | .ready _ =>
      if s.contains node.id then none else some (node.fallback "instance missing", .failed)

/-- What children look like, and the parts that they add to a stamp. -/
inductive Painted (a : Arena) (s : Store) : List Child → List Output → List StampPart → Prop
  | nil : Painted a s [] [] []
  | text {children outputs parts} (content : String) (h : Painted a s children outputs parts) :
      Painted a s (.text content :: children) (.text content :: outputs) (.text content :: parts)
  | blank {children outputs parts index output stamp}
      (hblank : a.blank s index = some (output, stamp)) (h : Painted a s children outputs parts) :
      Painted a s (.node index :: children) (output :: outputs) (.child stamp :: parts)
  | drawn {children outputs parts index node d i below belowParts}
      (hnode : a.get? index = some node) (hstatus : node.status = .ready d)
      (hi : s.get? node.id = some i)
      (hbelow : Painted a s node.children below belowParts)
      (h : Painted a s children outputs parts) :
      Painted a s (.node index :: children) (d.render (renderContext d i below) :: outputs)
        (.child (.ofParts belowParts i.revision) :: parts)

namespace Painted

variable {a b : Arena} {s t : Store} {children : List Child} {outputs outputs' : List Output}
  {parts parts' : List StampPart} {index : Nat} {node : Node} {d : Definition} {i : Instance}

/-- A node with a definition and an instance is not blank. -/
theorem blank_eq_none (hnode : a.get? index = some node) (hstatus : node.status = .ready d)
    (hi : s.get? node.id = some i) : a.blank s index = none := by
  rw [Arena.blank]
  rw [hnode]
  dsimp only
  rw [hstatus]
  exact if_pos (Store.contains_iff.mpr ⟨i, hi⟩)

/-- The stamp of a blank node says that it waits or that it has failed. -/
theorem blank_stamp {output : Output} {stamp : Stamp} (h : a.blank s index = some (output, stamp)) :
    stamp = .waiting ∨ stamp = .failed := by
  rw [Arena.blank] at h
  split at h
  · exact .inl (Prod.mk.inj (Option.some.inj h)).2.symm
  · split at h
    · exact .inl (Prod.mk.inj (Option.some.inj h)).2.symm
    · exact .inl (Prod.mk.inj (Option.some.inj h)).2.symm
    · exact .inr (Prod.mk.inj (Option.some.inj h)).2.symm
    · split at h
      · exact nomatch h
      · exact .inr (Prod.mk.inj (Option.some.inj h)).2.symm

/-- Each child adds one part. -/
theorem length_parts (h : Painted a s children outputs parts) : parts.length = children.length := by
  induction h with
  | nil => rfl
  | text _ _ ih => exact congrArg (· + 1) ih
  | blank _ _ ih => exact congrArg (· + 1) ih
  | drawn _ _ _ _ _ _ ih => exact congrArg (· + 1) ih

/-- A child in front of others looks as it does alone. -/
theorem cons {child : Child} {output : Output} {part : StampPart}
    (h : Painted a s [child] [output] [part]) (h' : Painted a s children outputs parts) :
    Painted a s (child :: children) (output :: outputs) (part :: parts) := by
  cases h with
  | text content _ => exact .text content h'
  | blank hblank _ => exact .blank hblank h'
  | drawn hnode hstatus hi hbelow _ => exact .drawn hnode hstatus hi hbelow h'

/-- A node whose stamp does not say that it waits is there. -/
theorem exists_node {output : Output} {stamp : Stamp}
    (h : Painted a s [.node index] [output] [.child stamp]) (hstamp : stamp ≠ .waiting) :
    ∃ n, a.get? index = some n := by
  cases h with
  | drawn hnode _ _ _ _ => exact ⟨_, hnode⟩
  | blank hblank _ =>
      cases hn : a.get? index with
      | some n => exact ⟨n, rfl⟩
      | none =>
          rw [Arena.blank, hn] at hblank
          exact absurd (Prod.mk.inj (Option.some.inj hblank)).2.symm hstamp

/-- Children look one way. -/
theorem unique (h : Painted a s children outputs parts)
    (h' : Painted a s children outputs' parts') : outputs = outputs' ∧ parts = parts' := by
  induction h generalizing outputs' parts' with
  | nil =>
      cases h'
      exact ⟨rfl, rfl⟩
  | text content _ ih =>
      cases h' with
      | text _ h' =>
          obtain ⟨rfl, rfl⟩ := ih h'
          exact ⟨rfl, rfl⟩
  | blank hblank _ ih =>
      cases h' with
      | blank hblank' h' =>
          obtain ⟨rfl, rfl⟩ := Prod.mk.inj (Option.some.inj (hblank.symm.trans hblank'))
          obtain ⟨rfl, rfl⟩ := ih h'
          exact ⟨rfl, rfl⟩
      | drawn hnode hstatus hi _ _ =>
          exact nomatch hblank.symm.trans (blank_eq_none hnode hstatus hi)
  | drawn hnode hstatus hi _ _ ihbelow ih =>
      cases h' with
      | blank hblank _ => exact nomatch hblank.symm.trans (blank_eq_none hnode hstatus hi)
      | drawn hnode' hstatus' hi' hbelow' h' =>
          obtain rfl := Option.some.inj (hnode.symm.trans hnode')
          obtain rfl := Status.ready.inj (hstatus.symm.trans hstatus')
          obtain rfl := Option.some.inj (hi.symm.trans hi')
          obtain ⟨rfl, rfl⟩ := ihbelow hbelow'
          obtain ⟨rfl, rfl⟩ := ih h'
          exact ⟨rfl, rfl⟩

/-! ### Later states -/

/-- A fallback stays the same. -/
theorem fallback_eq {n m : Node} (h : n.Becomes m) (reason : String) :
    m.fallback reason = n.fallback reason := by
  rw [Node.fallback, Node.fallback, h.id, h.tag, h.declared]

/-- A node that is blank before and later, with the same stamp, looks the same. -/
theorem blank_stable {n m : Node} {output output' : Output} {stamp : Stamp}
    (hn : a.get? index = some n) (hm : b.get? index = some m) (hbecomes : n.Becomes m)
    (h : a.blank s index = some (output, stamp)) (h' : b.blank t index = some (output', stamp)) :
    output' = output := by
  rw [Arena.blank] at h h'
  rw [hn] at h
  rw [hm] at h'
  dsimp only at h h'
  have hloading : n.status.isWaiting = true → some (Output.loading n.id n.tag, Stamp.waiting) =
      some (output, stamp) → output' = output := by
    intro hwaiting heq
    obtain ⟨rfl, rfl⟩ := Prod.mk.inj (Option.some.inj heq)
    split at h'
    · rw [← (Prod.mk.inj (Option.some.inj h')).1, hbecomes.id, hbecomes.tag]
    · rw [← (Prod.mk.inj (Option.some.inj h')).1, hbecomes.id, hbecomes.tag]
    · exact nomatch (Prod.mk.inj (Option.some.inj h')).2
    · split at h'
      · exact nomatch h'
      · exact nomatch (Prod.mk.inj (Option.some.inj h')).2
  cases hstatus : n.status with
  | unresolved =>
      rw [hstatus] at h
      exact hloading (by rw [hstatus]; rfl) h
  | loading =>
      rw [hstatus] at h
      exact hloading (by rw [hstatus]; rfl) h
  | error reason =>
      rw [hstatus] at h
      rw [hbecomes.status (by rw [hstatus]; rfl), hstatus] at h'
      rw [← (Prod.mk.inj (Option.some.inj h)).1, ← (Prod.mk.inj (Option.some.inj h')).1]
      exact fallback_eq hbecomes reason
  | ready d =>
      rw [hstatus] at h
      rw [hbecomes.status (by rw [hstatus]; rfl), hstatus] at h'
      dsimp only at h h'
      split at h
      · exact nomatch h
      · split at h'
        · exact nomatch h'
        · rw [← (Prod.mk.inj (Option.some.inj h)).1, ← (Prod.mk.inj (Option.some.inj h')).1]
          exact fallback_eq hbecomes _

/-- Children that are there later and add the same parts to a stamp look the same later. -/
theorem stable (ha : a.Linked []) (hb : b.Linked []) (hs : s.Dated) (hab : a.Later b)
    (hst : s.Later t) (h : Painted a s children outputs parts)
    (hthere : ∀ j, Child.node j ∈ children → j < a.slots.length ∧ ∃ m, b.get? j = some m)
    (h' : Painted b t children outputs' parts) : outputs' = outputs := by
  induction h generalizing outputs' with
  | nil =>
      cases h'
      rfl
  | text content _ ih =>
      cases h' with
      | text _ h' =>
          rw [ih (fun j hj => hthere j (List.mem_cons_of_mem _ hj)) h']
  | blank hblank _ ih =>
      have hrest := fun j hj => hthere j (List.mem_cons_of_mem _ hj)
      cases h' with
      | blank hblank' h' =>
          obtain ⟨hlt, m, hm⟩ := hthere _ List.mem_cons_self
          obtain ⟨n, hn, hbecomes⟩ := hab.kept hlt hm
          rw [blank_stable hn hm hbecomes hblank hblank', ih hrest h']
      | drawn _ _ _ _ _ =>
          obtain hstamp | hstamp := blank_stamp hblank
          · exact absurd hstamp Stamp.ofParts_ne_waiting
          · exact absurd hstamp Stamp.ofParts_ne_failed
  | drawn hnode hstatus hi hbelow _ ihbelow ih =>
      have hrest := fun j hj => hthere j (List.mem_cons_of_mem _ hj)
      obtain ⟨hlt, m, hm⟩ := hthere _ List.mem_cons_self
      obtain ⟨n, hn, hbecomes⟩ := hab.kept hlt hm
      obtain rfl := Option.some.inj (hnode.symm.trans hn)
      generalize hpart : StampPart.child (.ofParts _ _) = part at h'
      cases h' with
      | blank hblank' h' =>
          obtain rfl := StampPart.child.inj hpart
          obtain hstamp | hstamp := blank_stamp hblank'
          · exact absurd hstamp Stamp.ofParts_ne_waiting
          · exact absurd hstamp Stamp.ofParts_ne_failed
      | drawn hnode' hstatus' hi' hbelow' h' =>
          obtain rfl := Option.some.inj (hm.symm.trans hnode')
          obtain ⟨rfl, hrev⟩ := Stamp.ofParts_inj (StampPart.child.inj hpart)
          -- the status was settled before, so the definition is the same
          rw [hbecomes.status (by rw [hstatus]; rfl), hstatus] at hstatus'
          obtain rfl := Status.ready.inj hstatus'
          -- the revision was known before, so the instance is the same
          have hold := hst.kept hi' (hrev ▸ hs.past hi)
          rw [hbecomes.id, hi] at hold
          obtain rfl := Option.some.inj hold
          -- there are as many parts as before, so no child was taken away
          have hchildren : m.children = _ := hbecomes.children.eq_of_length (by
            rw [← hbelow.length_parts, ← hbelow'.length_parts])
          rw [hchildren] at hbelow'
          have hpainted := ihbelow (fun j hj => by
            obtain ⟨-, -, k, hk, -⟩ := ha.child hnode (Node.mem_childNodes.mpr hj)
            obtain ⟨-, -, l, hl, -⟩ := hb.child hm (Node.mem_childNodes.mpr (hchildren ▸ hj))
            exact ⟨Arena.lt_of_get? hk, l, hl⟩) hbelow'
          rw [hpainted, ih hrest h']

end Painted

end WidgetFlow
