import Mathlib.Data.List.Chain
import Mathlib.Data.List.DropRight
import WidgetFlow.Proofs.Widget.Alias
import WidgetFlow.Config.Basic

/-!
# Which configured aliases are refused

The check of a configuration follows the configured aliases from each of them, and refuses the first
chain that comes back to a key it has passed. It follows a chain for as many steps as there are
aliases. This module says what it computes without a bound: `AliasTable.Walks` is a chain of
configured rewrites through keys that are all different, and a chain ends where no rewrite is
configured or where the next key was passed before. One of the two happens, whatever the aliases.

The keys and their targets are those of the table that normalizes tags, so that a refused chain is
one that a tag could follow there. The check does not know the built-in aliases: a loop that it
accepts passes through one of them.

## Main results

* `AliasTable.chain_eq_some_iff`: a chain is refused if it ends at a key that it has passed.
* `aliasCycle?_eq_none_iff`: the check accepts aliases exactly if they have no loop.
* `AliasTable.exists_builtin`: a loop of the table passes through a built-in alias.
* `alias_cycles_refused`: **loops of configured aliases are refused, and nothing else.**
-/

namespace WidgetFlow

/-! ### Circuits -/

/-- A relation leads from a key through others, all different, back to the key. -/
def Circuit (r : String → String → Prop) (key : String) (others : List String) : Prop :=
  (key :: others).Nodup ∧ List.IsChain r (key :: (others ++ [key]))

/-- A chain, the last key first, that comes back to one of its keys closes a circuit. -/
theorem exists_circuit {r : String → String → Prop} {keys : List String} {key : String}
    (hnodup : keys.Nodup) (hchain : List.IsChain (fun a b => r b a) (key :: keys))
    (hkey : key ∈ keys) : ∃ others, Circuit r key others ∧ key :: others ⊆ keys := by
  obtain ⟨inner, outer, rfl⟩ := List.append_of_mem hkey
  refine ⟨inner.reverse, ⟨?_, ?_⟩, ?_⟩
  · rw [List.nodup_middle] at hnodup
    have hnew := List.nodup_cons.mp hnodup
    refine List.nodup_cons.mpr ⟨fun hmem => hnew.1 ?_, List.nodup_reverse.mpr hnew.2.of_append_left⟩
    exact List.mem_append_left _ (List.mem_reverse.mp hmem)
  · have hloop := (List.isChain_cons_split.mp hchain).1
    simpa using List.isChain_reverse.mpr hloop
  · refine List.cons_subset.mpr ⟨hkey, fun k hk => ?_⟩
    exact List.mem_append_left _ (List.mem_reverse.mp hk)

/-- A circuit leads on from each of its keys, to another of them. -/
theorem Circuit.exists_next {r : String → String → Prop} {key k : String} {others : List String}
    (h : Circuit r key others) (hk : k ∈ key :: others) : ∃ next ∈ key :: others, r k next := by
  obtain ⟨before, after, hsplit⟩ := List.append_of_mem hk
  have hchain := h.2
  rw [← List.cons_append, hsplit, List.append_assoc] at hchain
  cases after with
  | nil => exact ⟨key, List.mem_cons_self, hchain.right_of_append.rel_head? rfl⟩
  | cons next after =>
      refine ⟨next, ?_, hchain.right_of_append.rel_head? rfl⟩
      rw [hsplit]
      exact List.mem_append_right _ (List.mem_cons_of_mem _ List.mem_cons_self)

/-! ### Keys and targets -/

/-- Trimmed characters are those without the blanks behind them that are left without the blanks in
front. -/
theorem Text.trimChars_eq (cs : List Char) :
    trimChars cs = (cs.dropWhile isBlank).rdropWhile isBlank := rfl

/-- No blank stands in front of trimmed characters. -/
theorem Text.dropWhile_trimChars (cs : List Char) :
    (trimChars cs).dropWhile isBlank = trimChars cs := by
  cases htrim : trimChars cs with
  | nil => rfl
  | cons c tail =>
      -- the first character is also the first of those left without the blanks in front
      have hprefix : c :: tail <+: cs.dropWhile isBlank := htrim ▸ List.rdropWhile_prefix isBlank _
      obtain ⟨rest, hrest⟩ := hprefix
      have hfirst := List.head?_dropWhile_not isBlank cs
      rw [← hrest] at hfirst
      exact List.dropWhile_cons_of_neg (Bool.not_eq_true _ ▸ hfirst)

/-- Text that was trimmed stays as it is. -/
theorem Text.trim_trim (s : String) : trim (trim s) = trim s := by
  have hchars : trimChars (trimChars s.toList) = trimChars s.toList := by
    rw [trimChars_eq, dropWhile_trimChars, trimChars_eq, List.rdropWhile_idempotent]
  rw [trim, trim, String.toList_ofList, hchars]

namespace AliasTable

variable {t : AliasTable} {start key next tag : String} {passed keys chain : List String}

/-- A configured alias leads from a key to another one. -/
def Rewrites (t : AliasTable) (key next : String) : Prop :=
  next ≠ key ∧ ∃ target, Dict.get? t.extra key = some target ∧ lookupKey target = next

/-- A key is rewritten to one key only. -/
theorem Rewrites.unique (h : t.Rewrites key next) {next' : String} (h' : t.Rewrites key next') :
    next' = next := by
  obtain ⟨-, target, htarget, rfl⟩ := h
  obtain ⟨-, target', htarget', rfl⟩ := h'
  rw [Option.some.inj (htarget'.symm.trans htarget)]

/-- A key that is rewritten is a configured alias. -/
theorem Rewrites.mem_keys (h : t.Rewrites key next) : key ∈ Dict.keys t.extra := by
  obtain ⟨-, target, htarget, -⟩ := h
  exact List.mem_map.mpr ⟨_, Dict.mem_of_get? htarget, rfl⟩

/-! ### Chains of configured rewrites -/

/-- Configured rewrites lead from a key through the keys `passed`, the last one first, to a key; all
of them are different. -/
inductive Walks (t : AliasTable) (start : String) : List String → String → Prop
  | start : Walks t start [] start
  | next {passed : List String} {key next : String} (h : Walks t start passed key)
      (hrewrites : t.Rewrites key next) (hnew : next ∉ key :: passed) :
      Walks t start (key :: passed) next

namespace Walks

/-- No key comes twice. -/
theorem nodup (h : t.Walks start passed key) : (key :: passed).Nodup := by
  induction h with
  | start => exact List.nodup_singleton _
  | next _ _ hnew ih => exact List.nodup_cons.mpr ⟨hnew, ih⟩

/-- Each key is rewritten to the next one. -/
theorem isChain (h : t.Walks start passed key) :
    List.IsChain (fun a b => t.Rewrites b a) (key :: passed) := by
  induction h with
  | start => exact .singleton _
  | next _ hrewrites _ ih => exact .cons_cons hrewrites ih

/-- The first key is the one where the chain starts. -/
theorem getLast (h : t.Walks start passed key) : (key :: passed).getLast? = some start := by
  induction h with
  | start => rfl
  | next _ _ _ ih => rwa [List.getLast?_cons_cons]

/-- There are at most as many steps as configured aliases. -/
theorem length_le (h : t.Walks start passed key) : passed.length ≤ t.extra.length := by
  have hsub : passed ⊆ Dict.keys t.extra := by
    induction h with
    | start => exact List.nil_subset _
    | next _ hrewrites _ ih => exact List.cons_subset.mpr ⟨hrewrites.mem_keys, ih⟩
  have hlength := (List.nodup_cons.mp h.nodup).2.length_le_of_subset hsub
  rwa [Dict.keys, List.length_map] at hlength

/-- From keys that are all rewritten to one of them a chain does not lead away. -/
theorem mem_of_closed (h : t.Walks start passed key) {keys : List String} (hstart : start ∈ keys)
    (hclosed : ∀ k ∈ keys, ∃ next ∈ keys, t.Rewrites k next) : key ∈ keys := by
  induction h with
  | start => exact hstart
  | next _ hrewrites _ ih =>
      obtain ⟨next, hnext, hstep⟩ := hclosed _ ih
      exact hstep.unique hrewrites ▸ hnext

end Walks

/-! ### The end of a chain -/

/-- The chain of a key stops where no rewrite is configured. -/
def Stops (t : AliasTable) (start : String) : Prop :=
  ∃ passed key, t.Walks start passed key ∧ ∀ next, ¬ t.Rewrites key next

/-- The chain of a key returns to one that it has passed; `chain` are all its keys in order, that
one twice. -/
def Returns (t : AliasTable) (start : String) (chain : List String) : Prop :=
  ∃ passed key next, t.Walks start passed key ∧ t.Rewrites key next ∧ next ∈ key :: passed ∧
    chain = (key :: passed).reverse ++ [next]

/-- A chain that can go on does so until it ends: with each step fewer aliases are left. -/
theorem Walks.ends {passed : List String} {key : String} (h : t.Walks start passed key) :
    t.Stops start ∨ ∃ chain, t.Returns start chain := by
  by_cases hstop : ∀ next, ¬ t.Rewrites key next
  · exact .inl ⟨passed, key, h, hstop⟩
  · rw [not_forall_not] at hstop
    obtain ⟨next, hrewrites⟩ := hstop
    by_cases hold : next ∈ key :: passed
    · exact .inr ⟨_, passed, key, next, h, hrewrites, hold, rfl⟩
    · have hlonger := h.next hrewrites hold
      have hle := hlonger.length_le
      exact hlonger.ends
termination_by t.extra.length - passed.length
decreasing_by
  rw [List.length_cons] at hle ⊢
  omega

section Configured

variable {aliases : Dict String}

/-- A configured target is trimmed, so that its key only differs in case. -/
theorem map_lowerAscii_get? (aliases : Dict String) (key : String) :
    (Dict.get? (normalizeAliases aliases) key).map Text.lowerAscii =
      (Dict.get? (ofAliases aliases).extra key).map lookupKey := by
  refine Option.map_congr fun target htarget => ?_
  rcases Dict.mem_union (Dict.mem_of_get? htarget) with hnone | hentry
  · exact absurd hnone List.not_mem_nil
  · obtain ⟨entry, -, heq⟩ := List.mem_map.mp hentry
    rw [← (Prod.mk.inj heq).2, lookupKey, Text.trim_trim]

/-- The check leaves a chain that stops. -/
theorem chainFrom_of_stop (hstop : ∀ next, ¬ (ofAliases aliases).Rewrites key next) (n : Nat)
    (path : List String) : chainFrom (normalizeAliases aliases) (n + 1) path key = none := by
  rw [chainFrom, map_lowerAscii_get?]
  cases htarget : Dict.get? (ofAliases aliases).extra key with
  | none => rfl
  | some target =>
      have hself : lookupKey target = key := by
        by_contra hne
        exact hstop _ ⟨hne, target, htarget, rfl⟩
      rw [Option.map_some]
      exact if_pos hself

/-- The check follows a configured rewrite unless it leads to a key that was passed. -/
theorem chainFrom_of_rewrites (h : (ofAliases aliases).Rewrites key next) (n : Nat)
    (path : List String) : chainFrom (normalizeAliases aliases) (n + 1) path key =
      if next ∈ path then some (next :: path).reverse
      else chainFrom (normalizeAliases aliases) n (next :: path) next := by
  obtain ⟨hne, target, htarget, hkey⟩ := h
  rw [chainFrom, map_lowerAscii_get?, htarget, Option.map_some, hkey]
  simp only [hne, if_false, List.contains_iff_mem]

/-- The check follows every chain from its start, with room for the aliases that are left. -/
theorem Walks.chainFrom_eq (h : (ofAliases aliases).Walks start passed key) :
    chainFrom (normalizeAliases aliases) ((normalizeAliases aliases).length + 1) [start] start =
      chainFrom (normalizeAliases aliases)
        ((normalizeAliases aliases).length - passed.length + 1) (key :: passed) key := by
  induction h with
  | start => rfl
  | @next passed key next h hrewrites hnew ih =>
      have hroom : (normalizeAliases aliases).length - passed.length =
          (normalizeAliases aliases).length - (key :: passed).length + 1 := by
        have hle : (key :: passed).length ≤ (normalizeAliases aliases).length :=
          (h.next hrewrites hnew).length_le
        rw [List.length_cons] at hle ⊢
        omega
      rw [ih, chainFrom_of_rewrites hrewrites, if_neg hnew, hroom]

/-- **The check refuses a chain if it returns to a key that it has passed**, and accepts it if it
stops. -/
theorem chain_eq_some_iff : chainFrom (normalizeAliases aliases)
      ((normalizeAliases aliases).length + 1) [start] start = some chain ↔
    (ofAliases aliases).Returns start chain := by
  have hreturns : ∀ {chain}, (ofAliases aliases).Returns start chain →
      chainFrom (normalizeAliases aliases) ((normalizeAliases aliases).length + 1) [start] start =
        some chain := by
    rintro _ ⟨passed, key, next, hwalks, hrewrites, hold, rfl⟩
    rw [hwalks.chainFrom_eq, chainFrom_of_rewrites hrewrites, if_pos hold, List.reverse_cons]
  refine ⟨fun h => ?_, hreturns⟩
  have hstart : (ofAliases aliases).Walks start [] start := .start
  rcases hstart.ends with ⟨passed, key, hwalks, hstop⟩ | ⟨other, hother⟩
  · rw [hwalks.chainFrom_eq, chainFrom_of_stop hstop] at h
    exact nomatch h
  · rwa [Option.some.inj (h.symm.trans (hreturns hother))]

end Configured

/-! ### Loops -/

/-- A chain that returns has passed through a loop of configured rewrites. -/
theorem Returns.exists_circuit (h : t.Returns start chain) :
    ∃ key others, Circuit t.Rewrites key others := by
  obtain ⟨passed, key, next, hwalks, hrewrites, hold, -⟩ := h
  obtain ⟨others, hcircuit, -⟩ :=
    WidgetFlow.exists_circuit hwalks.nodup (.cons_cons hrewrites hwalks.isChain) hold
  exact ⟨next, others, hcircuit⟩

/-- The chain of a key on a loop of configured rewrites returns: it does not leave the loop, and
nowhere on it does it stop. -/
theorem exists_returns {others : List String} (h : Circuit t.Rewrites key others) :
    ∃ chain, t.Returns key chain := by
  have hstart : t.Walks key [] key := .start
  refine hstart.ends.resolve_left ?_
  rintro ⟨passed, last, hwalks, hstop⟩
  have hlast := hwalks.mem_of_closed List.mem_cons_self fun k hk => h.exists_next hk
  obtain ⟨next, -, hrewrites⟩ := h.exists_next hlast
  exact hstop next hrewrites

/-! ### Loops of the table -/

/-- An alias, configured or built-in, leads from a key to a key. -/
def Replaces (t : AliasTable) (key next : String) : Prop :=
  ∃ target, t.step key = some target ∧ lookupKey target = next

/-- A configured rewrite goes before any other replacement. -/
theorem Rewrites.of_replaces (h : t.Rewrites key next) {next' : String}
    (h' : t.Replaces key next') : t.Rewrites key next' := by
  obtain ⟨hne, target, htarget, rfl⟩ := h
  obtain ⟨target', hstep, rfl⟩ := h'
  have hfilter : (Dict.get? t.extra key).filter (fun target => lookupKey target != key) =
      some target := by
    rw [htarget, Option.filter_some, if_pos (bne_iff_ne.mpr hne)]
  simp only [step, hfilter, Option.some.injEq] at hstep
  exact hstep ▸ ⟨hne, target, htarget, rfl⟩

/-- Without a configured rewrite only a built-in alias replaces a key. -/
theorem Replaces.builtin (h : t.Replaces key next) (hnone : ∀ next, ¬ t.Rewrites key next) :
    ∃ target, builtinAliases.lookup key = some target ∧ t.step key = some target := by
  obtain ⟨target, hstep, -⟩ := h
  have hfilter : (Dict.get? t.extra key).filter (fun target => lookupKey target != key) = none :=
    Option.filter_eq_none_iff.mpr fun target htarget hne =>
      hnone _ ⟨bne_iff_ne.mp hne, target, htarget, rfl⟩
  refine ⟨target, ?_, hstep⟩
  simp only [step, hfilter] at hstep
  split at hstep
  · cases hstep
  · exact hstep

/-- In a chain of replacements each key leads to the next one. -/
theorem Leads.isChain (h : t.Leads start keys tag) :
    List.IsChain (fun a b => t.Replaces b a) (lookupKey tag :: keys) := by
  induction h with
  | start => exact .singleton _
  | next _ _ hstep ih => exact .cons_cons ⟨_, hstep, rfl⟩ ih

/-- If configured rewrites make no loop, a loop of replacements has a key that only a built-in alias
replaces. -/
theorem exists_builtin {others : List String} (h : Circuit t.Replaces key others)
    (hnone : ∀ key others, ¬ Circuit t.Rewrites key others) :
    ∃ k ∈ key :: others, (∀ next, ¬ t.Rewrites k next) ∧
      ∃ target, builtinAliases.lookup k = some target ∧ t.step k = some target := by
  by_contra hall
  have hconfigured : ∀ k ∈ key :: others, ∃ next, t.Rewrites k next := fun k hk => by
    by_contra hstop
    obtain ⟨next, -, hreplaces⟩ := h.exists_next hk
    have hstop' : ∀ next, ¬ t.Rewrites k next := not_exists.mp hstop
    exact hall ⟨k, hk, hstop', hreplaces.builtin hstop'⟩
  refine hnone key others ⟨h.1, h.2.imp_of_mem_imp fun k k' hk _ hreplaces => ?_⟩
  have hk' : k ∈ key :: others := by
    simpa [or_comm, or_left_comm] using hk
  obtain ⟨next, hrewrites⟩ := hconfigured k hk'
  exact hrewrites.of_replaces hreplaces

end AliasTable

/-! ### The check -/

open AliasTable

variable {aliases : Dict String} {chain : List String}

/-- A chain that is refused is that of a configured alias. -/
theorem returns_of_aliasCycle? (h : aliasCycle? aliases = some chain) :
    ∃ start ∈ Dict.keys (ofAliases aliases).extra, (ofAliases aliases).Returns start chain := by
  obtain ⟨start, hstart, hchain⟩ := List.exists_of_findSome?_eq_some h
  exact ⟨start, hstart, chain_eq_some_iff.mp hchain⟩

/-- **The check accepts aliases exactly if they have no loop.** -/
theorem aliasCycle?_eq_none_iff : aliasCycle? aliases = none ↔
    ∀ key others, ¬ Circuit (ofAliases aliases).Rewrites key others := by
  constructor
  · intro hnone key others hcircuit
    obtain ⟨next, -, hrewrites⟩ := hcircuit.exists_next List.mem_cons_self
    obtain ⟨chain, hreturns⟩ := exists_returns hcircuit
    have hkey := List.findSome?_eq_none_iff.mp hnone key hrewrites.mem_keys
    exact nomatch hkey.symm.trans (chain_eq_some_iff.mpr hreturns)
  · intro hnone
    by_contra hsome
    obtain ⟨chain, hchain⟩ := Option.ne_none_iff_exists'.mp hsome
    obtain ⟨start, -, hreturns⟩ := returns_of_aliasCycle? hchain
    obtain ⟨key, others, hcircuit⟩ := hreturns.exists_circuit
    exact hnone key others hcircuit

/-- **Loops of configured aliases are refused, and nothing else.** Keys and targets are those of the
table with these aliases, so that they agree up to ASCII case and the blanks around them, and of
several aliases of one key the last one counts; an alias of a key to itself rewrites nothing. From
every key the chain of rewrites comes to an end, because it stops or because it returns. The check
accepts the aliases exactly if no key is led back to itself through others that are all different;
otherwise it gives a chain that starts at a configured alias, rewrites each key to the next one, and
ends with a key that it has passed. If it accepts them, every loop that the replacement of a tag can
run into has a key that no configured alias rewrites and a built-in one replaces. -/
theorem alias_cycles_refused (aliases : Dict String) :
    let t := ofAliases aliases
    (∀ start, t.Stops start ∨ ∃ chain, t.Returns start chain) ∧
    (aliasCycle? aliases = none ↔ ∀ key others, ¬ Circuit t.Rewrites key others) ∧
    (∀ chain, aliasCycle? aliases = some chain →
      (∃ start ∈ Dict.keys t.extra, chain.head? = some start) ∧ List.IsChain t.Rewrites chain ∧
      ∃ passed last, chain = passed ++ [last] ∧ last ∈ passed) ∧
    (aliasCycle? aliases = none → ∀ tag keys last, t.Leads tag keys last → lookupKey last ∈ keys →
      ∃ others, Circuit t.Replaces (lookupKey last) others ∧ lookupKey last :: others ⊆ keys ∧
        ∃ key ∈ lookupKey last :: others, (∀ next, ¬ t.Rewrites key next) ∧
          ∃ target, builtinAliases.lookup key = some target ∧ t.step key = some target) := by
  intro t
  refine ⟨fun start => ?_, aliasCycle?_eq_none_iff, fun chain hchain => ?_,
    fun hnone tag keys last hleads hloop => ?_⟩
  · have hstart : t.Walks start [] start := .start
    exact hstart.ends
  · obtain ⟨start, hstart, passed, key, next, hwalks, hrewrites, hold, rfl⟩ :=
      returns_of_aliasCycle? hchain
    refine ⟨⟨start, hstart, ?_⟩, ?_, _, next, rfl, List.mem_reverse.mpr hold⟩
    · rw [List.head?_append, List.head?_reverse, hwalks.getLast]
      rfl
    · rw [← List.reverse_cons]
      exact List.isChain_reverse.mpr (.cons_cons hrewrites hwalks.isChain)
  · obtain ⟨others, hcircuit, hsub⟩ := exists_circuit hleads.nodup hleads.isChain hloop
    exact ⟨others, hcircuit, hsub, exists_builtin hcircuit (aliasCycle?_eq_none_iff.mp hnone)⟩

/-- A loop that needs the built-in aliases of `div` and `panel` is none of the check. -/
example : aliasCycle? [("Card", " div"), ("container", "Panel")] = none := by decide +kernel

end WidgetFlow
