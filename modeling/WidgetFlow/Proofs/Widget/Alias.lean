import Mathlib.Data.List.Nodup
import WidgetFlow.Proofs.Dict
import WidgetFlow.Widget.Kind

/-!
# Where aliases lead

`AliasTable.normalize` replaces a tag at most as often as there are rules. This module says what it
computes without a bound: `Leads` is the chain of replacements from a tag, each of another key, and
`Settles` says where a chain comes to its end, because no alias applies any more or because a key
comes up again. Every chain does so, in exactly one way, and this is what `normalize` gives.

The chain of a tag that loops ends at the key where it entered the loop. It need not start on the
loop; but from the tag that it ends with, the loop is passed through once and closed by the same
replacement, so that the same tag results (`Leads.closed`).

## Main results

* `normalize_eq_iff`: a chain of replacements comes to an end, at the normalized tag.
* `Settles.again`: the tag at the end of a chain settles at itself.
* `Settles.congr`: tags that agree as keys settle at one tag, or both stay as they are.
* `aliases_settle`: normalization is total and idempotent for every table of configured aliases.
-/

namespace WidgetFlow

/-! ### Keys -/

/-- The key of a tag, character by character. -/
theorem toList_lookupKey (tag : String) :
    (lookupKey tag).toList = (Text.trimChars tag.toList).map Char.toLower := by
  rw [lookupKey, Text.lowerAscii, Text.trim, String.toList_map, String.toList_ofList]

/-- The tag of a canonical kind is its own key. -/
theorem lookupKey_canonical {key : String} (h : (Kind.ofCanonical? key).isSome) :
    lookupKey key = key := by
  obtain ⟨kind, hkind⟩ := Option.isSome_iff_exists.mp h
  have hmem : (key, kind) ∈ canonicalKinds := Dict.mem_of_lookup hkind
  have hall : ∀ entry ∈ canonicalKinds,
      (Text.trimChars entry.1.toList).map Char.toLower = entry.1.toList := by decide
  have hentry := hall (key, kind) hmem
  exact String.toList_inj.mp ((toList_lookupKey key).trans hentry)

namespace AliasTable

variable {t : AliasTable} {start tag next result : String} {keys : List String}

/-- A tag as it stands when no alias applies to it any more. -/
def settled (tag : String) : String :=
  if (Kind.ofCanonical? (lookupKey tag)).isSome then lookupKey tag else tag

/-- A tag keeps its key when it settles. -/
theorem lookupKey_settled (tag : String) : lookupKey (settled tag) = lookupKey tag := by
  rw [settled]
  split
  · next h => exact lookupKey_canonical h
  · rfl

/-- A settled tag stays as it is. -/
theorem settled_settled (tag : String) : settled (settled tag) = settled tag := by
  have hkey := lookupKey_settled tag
  by_cases h : (Kind.ofCanonical? (lookupKey tag)).isSome
  · rw [settled, hkey, if_pos h, settled, if_pos h]
  · rw [settled, hkey, if_neg h]

/-! ### Chains of replacements -/

/-- The keys for which the table has a rule. -/
def rules (t : AliasTable) : List String := Dict.keys t.extra ++ builtinAliases.map (·.1)

/-- A key that is replaced has a rule. -/
theorem mem_rules {key : String} (h : t.step key = some next) : key ∈ t.rules := by
  rw [step] at h
  split at h
  · next target htarget =>
      have hget := (Option.filter_eq_some_iff.mp htarget).1
      exact List.mem_append_left _ (List.mem_map.mpr ⟨_, Dict.mem_of_get? hget, rfl⟩)
  · split at h
    · exact nomatch h
    · have hmem : (key, next) ∈ builtinAliases := Dict.mem_of_lookup h
      exact List.mem_append_right _ (List.mem_map.mpr ⟨_, hmem, rfl⟩)

/-- Replacing the keys `keys` one after the other, the last one first in the list and none twice,
leads from the tag `start` to a tag. -/
inductive Leads (t : AliasTable) (start : String) : List String → String → Prop
  | start : Leads t start [] start
  | next {keys : List String} {tag next : String} (h : Leads t start keys tag)
      (hnew : lookupKey tag ∉ keys) (hstep : t.step (lookupKey tag) = some next) :
      Leads t start (lookupKey tag :: keys) next

/-- A chain ends at a tag whose key was replaced before, or has no rule. -/
def Ends (t : AliasTable) (keys : List String) (tag : String) : Prop :=
  lookupKey tag ∈ keys ∨ t.step (lookupKey tag) = none

/-- The chain of replacements from a tag comes to an end, and `result` is the tag that settles
there. -/
def Settles (t : AliasTable) (start result : String) : Prop :=
  ∃ keys tag, t.Leads start keys tag ∧ t.Ends keys tag ∧ result = settled tag

/-- No key is replaced twice. -/
theorem Leads.nodup (h : t.Leads start keys tag) : keys.Nodup := by
  induction h with
  | start => exact List.nodup_nil
  | next _ hnew _ ih => exact List.nodup_cons.mpr ⟨hnew, ih⟩

/-- Every key that is replaced has a rule. -/
theorem Leads.subset_rules (h : t.Leads start keys tag) : keys ⊆ t.rules := by
  induction h with
  | start => exact List.nil_subset _
  | next _ _ hstep ih => exact List.cons_subset.mpr ⟨mem_rules hstep, ih⟩

/-- A chain has at most as many replacements as there are rules. -/
theorem Leads.length_le (h : t.Leads start keys tag) :
    keys.length ≤ t.extra.length + builtinAliases.length := by
  have hlength := h.nodup.length_le_of_subset h.subset_rules
  rwa [rules, List.length_append, Dict.keys, List.length_map, List.length_map] at hlength

/-! ### The end of a chain -/

/-- Following the aliases stops where a chain ends. -/
theorem follow_of_ends (h : t.Ends keys tag) (n : Nat) :
    t.follow (n + 1) keys tag = settled tag := by
  have hnone : (if keys.contains (lookupKey tag) then none else t.step (lookupKey tag)) = none := by
    rcases h with hseen | hstep
    · rw [if_pos (List.contains_iff_mem.mpr hseen)]
    · rw [hstep, ite_self]
  simp only [follow, hnone]
  rfl

/-- Following the aliases takes a replacement that a chain can take. -/
theorem follow_of_step (hnew : lookupKey tag ∉ keys) (hstep : t.step (lookupKey tag) = some next)
    (n : Nat) : t.follow (n + 1) keys tag = t.follow n (lookupKey tag :: keys) next := by
  have hsome : (if keys.contains (lookupKey tag) then none else t.step (lookupKey tag)) =
      some next := by
    rw [if_neg (fun hseen => hnew (List.contains_iff_mem.mp hseen)), hstep]
  simp only [follow, hsome]

/-- Normalization follows every chain from its tag, with room for the rules that are left. -/
theorem Leads.normalize_eq (h : t.Leads start keys tag) :
    t.normalize start =
      t.follow (t.extra.length + builtinAliases.length - keys.length + 1) keys tag := by
  induction h with
  | start => rfl
  | @next keys tag next h hnew hstep ih =>
      have hroom : t.extra.length + builtinAliases.length - keys.length =
          t.extra.length + builtinAliases.length - (keys.length + 1) + 1 := by
        have hle := (h.next hnew hstep).length_le
        rw [List.length_cons] at hle
        omega
      rw [ih, follow_of_step hnew hstep, hroom, List.length_cons]

/-- A chain that can go on does so until it ends: with each replacement fewer rules are left. -/
theorem Leads.exists_end {keys : List String} {tag : String} (h : t.Leads start keys tag) :
    ∃ result, t.Settles start result := by
  by_cases hend : t.Ends keys tag
  · exact ⟨_, keys, tag, h, hend, rfl⟩
  · rw [Ends, not_or, ← ne_eq, Option.ne_none_iff_exists'] at hend
    obtain ⟨hnew, next, hstep⟩ := hend
    have hlonger := h.next hnew hstep
    have hle := hlonger.length_le
    exact hlonger.exists_end
termination_by t.extra.length + builtinAliases.length - keys.length
decreasing_by
  rw [List.length_cons] at hle ⊢
  omega

/-- **The chain of replacements from a tag ends**, at the normalized tag and nowhere else. -/
theorem normalize_eq_iff : t.normalize tag = result ↔ t.Settles tag result := by
  have hunique : ∀ {result}, t.Settles tag result → t.normalize tag = result := by
    rintro _ ⟨keys, last, hleads, hend, rfl⟩
    rw [hleads.normalize_eq, follow_of_ends hend]
  refine ⟨fun h => ?_, hunique⟩
  have hstart : t.Leads tag [] tag := .start
  obtain ⟨other, hother⟩ := hstart.exists_end
  rwa [← h, hunique hother]

/-! ### Chains from the end of a chain -/

/-- A chain that passes through a key leads to the same tag from any tag of that key: what is
replaced from there on is part of what was replaced before. -/
theorem Leads.closed (h : t.Leads start keys tag) {key : String} (hkey : key ∈ keys)
    {other : String} (hother : lookupKey other = key) :
    ∃ keys', t.Leads other keys' tag ∧ key ∈ keys' ∧ keys' ⊆ keys := by
  induction h with
  | start => exact absurd hkey List.not_mem_nil
  | @next keys tag next h hnew hstep ih =>
      by_cases hlast : key = lookupKey tag
      · subst hlast
        have hstart : t.Leads other [] other := .start
        have hleads := hstart.next List.not_mem_nil (hother.symm ▸ hstep)
        rw [hother] at hleads
        exact ⟨_, hleads, List.mem_cons_self, List.cons_subset_cons _ (List.nil_subset _)⟩
      · obtain ⟨keys', hleads, hmem, hsub⟩ := ih ((List.mem_cons.mp hkey).resolve_left hlast)
        refine ⟨_, hleads.next (fun hold => hnew (hsub hold)) hstep, List.mem_cons_of_mem _ hmem,
          List.cons_subset_cons _ hsub⟩

/-- A tag without a rule settles where it is. -/
theorem settles_of_step_eq_none (h : t.step (lookupKey tag) = none) :
    t.Settles tag (settled tag) :=
  ⟨[], tag, .start, .inr h, rfl⟩

/-- **The end of a chain settles at itself**: it has no rule, or the loop on which it stands comes
back to it by the same replacement. -/
theorem Settles.again (h : t.Settles tag result) : t.Settles result result := by
  obtain ⟨keys, last, hleads, hend, rfl⟩ := h
  have hkey := lookupKey_settled last
  rcases hend with hloop | hnone
  · obtain ⟨keys', hleads', hmem, -⟩ := hleads.closed hloop hkey
    exact ⟨keys', last, hleads', .inl hmem, rfl⟩
  · have hsettles : t.Settles (settled last) (settled (settled last)) :=
      settles_of_step_eq_none (hkey.symm ▸ hnone)
    rwa [settled_settled] at hsettles

/-- A chain with a replacement leads to the same tag from every tag that agrees as a key. -/
theorem Leads.congr (h : t.Leads start keys tag) (hne : keys ≠ []) {other : String}
    (hother : lookupKey other = lookupKey start) : t.Leads other keys tag := by
  induction h with
  | start => exact absurd rfl hne
  | @next keys tag next h hnew hstep ih =>
      by_cases hfirst : keys = []
      · subst hfirst
        cases h
        rw [← hother] at hstep ⊢
        exact Leads.start.next List.not_mem_nil hstep
      · exact (ih hfirst).next hnew hstep

/-- **Tags that agree as keys settle at one tag**, unless no alias applies and each stays as it is
spelled. -/
theorem Settles.congr (h : t.Settles tag result) {other : String}
    (hother : lookupKey other = lookupKey tag) :
    t.Settles other result ∨ result = tag ∧ t.Settles other other := by
  obtain ⟨keys, last, hleads, hend, rfl⟩ := h
  by_cases hfirst : keys = []
  · subst hfirst
    cases hleads
    have hnone := hend.resolve_left List.not_mem_nil
    have hsettles := settles_of_step_eq_none (hother.symm ▸ hnone)
    by_cases hcanonical : (Kind.ofCanonical? (lookupKey tag)).isSome
    · rw [settled, hother, if_pos hcanonical] at hsettles
      rw [settled, if_pos hcanonical]
      exact .inl hsettles
    · rw [settled, hother, if_neg hcanonical] at hsettles
      rw [settled, if_neg hcanonical]
      exact .inr ⟨rfl, hsettles⟩
  · exact .inl ⟨keys, last, hleads.congr hfirst hother, hend, rfl⟩

/-- **Aliases settle.** For every table of configured aliases and every tag, the chain of
replacements comes to an end, and at the normalized tag only; to normalize again changes nothing and
keeps the kind; and of two tags that agree up to ASCII case and the blanks around them, either none
is replaced or both become the same. -/
theorem aliases_settle (aliases : Dict String) (tag : String) :
    let t := AliasTable.ofAliases aliases
    (∀ result, t.Settles tag result ↔ t.normalize tag = result) ∧
    t.normalize (t.normalize tag) = t.normalize tag ∧
    t.kind (t.normalize tag) = t.kind tag ∧
    ∀ other, lookupKey other = lookupKey tag →
      (t.normalize tag = tag ∧ t.normalize other = other) ∨
        t.normalize other = t.normalize tag := by
  intro t
  have hsettles : t.Settles tag (t.normalize tag) := normalize_eq_iff.mp rfl
  have hagain : t.normalize (t.normalize tag) = t.normalize tag :=
    normalize_eq_iff.mpr hsettles.again
  refine ⟨fun result => normalize_eq_iff.symm, hagain, ?_, fun other hother => ?_⟩
  · rw [kind, kind, hagain]
  · rcases hsettles.congr hother with hsame | ⟨hstays, hother⟩
    · exact .inr (normalize_eq_iff.mpr hsame)
    · exact .inl ⟨hstays, normalize_eq_iff.mpr hother⟩

/-- Aliases that make a loop with the built-in ones: a card is a `div`, this is a container, which
is a `Panel`, and this is a card again. -/
def looping : Dict String := [("Card", " div"), ("container", "Panel")]

/-- Two spellings of a tag on a loop. -/
theorem aliases_settle_looping :
    lookupKey "PANEL " = lookupKey " panel" ∧
      (((AliasTable.ofAliases looping).normalize " panel" = " panel" ∧
          (AliasTable.ofAliases looping).normalize "PANEL " = "PANEL ") ∨
        (AliasTable.ofAliases looping).normalize "PANEL " =
          (AliasTable.ofAliases looping).normalize " panel") := by
  have hkey : lookupKey "PANEL " = lookupKey " panel" := by
    rw [← String.toList_inj, toList_lookupKey, toList_lookupKey]
    decide
  exact ⟨hkey, (aliases_settle looping " panel").2.2.2 "PANEL " hkey⟩

end AliasTable

end WidgetFlow
