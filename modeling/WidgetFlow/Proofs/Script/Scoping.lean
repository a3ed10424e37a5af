import WidgetFlow.Proofs.Script.Assign
import WidgetFlow.Proofs.Script.Course

/-!
# Scopes

A block or a branch runs in a scope of its own, which is gone when it ends, however it ends. What it
declares with `let` or `const` stands in that scope or in one further inside. A scope outside it
only reaches through `var`, which always declares in the outermost scope, and by assigning to a name
that it finds outside, or that it does not find at all.

Scopes are counted from the outermost one inwards, so that a scope keeps its number while others
come and go inside of it (`Session.entry`). The changes of a variable are traced back to the visits
of a run, in their order (`History`): `Visit.Declares` has the changes by `let` and `const`, and
`Visit.Reaches` all others.

## Main results

* `Session.exists_resolves`, `Session.sets_replace`, `Session.sets_declare`: which scope a name is
  found in, and which variable an assignment and a declaration set.
* `moves_course`: what happens to the variables of each scope.
* `scopes_hygienic`: **scopes are balanced, blocks are hygienic, and constants stay.**
-/

namespace WidgetFlow.Script

variable {σ : Type} {s t u : Session σ} {vs ws : List (Visit σ)} {name : String} {k : Nat}
  {b : Binding} {held : Operand}

/-! ### Variables by scope -/

namespace Session

/-- The scopes of a session, from the outermost one inwards. -/
def scopes (s : Session σ) : List Scope := s.outer :: s.inner.reverse

/-- The variable of a name in the scope with `k` scopes around it. -/
def entry (s : Session σ) (k : Nat) (name : String) : Option Binding :=
  s.scopes[k]?.bind (Dict.get? · name)

/-- A name stands for a variable of scope `k`: no scope inside of it has the name. -/
structure Resolves (s : Session σ) (name : String) (k : Nat) (b : Binding) : Prop where
  entry : s.entry k name = some b
  free : ∀ j > k, s.entry j name = none

/-- One session is another one with a variable set in scope `k`. -/
structure Sets (s : Session σ) (k : Nat) (name : String) (b : Binding) (t : Session σ) : Prop where
  height : t.inner.length = s.inner.length
  entry : ∀ j n, t.entry j n = if k = j ∧ name = n then some b else s.entry j n

/-- The session with another innermost scope. -/
def within (s : Session σ) (scope : Scope) : Session σ := s.withInner (scope :: s.inner)

/-- A session has no inner scopes, or it has an innermost one. -/
@[elab_as_elim]
theorem scopes_induction {P : Session σ → Prop} (s : Session σ)
    (outermost : ∀ s, s.inner = [] → P s) (within : ∀ s scope, P s → P (s.within scope)) : P s := by
  suffices h : ∀ inner, P (s.withInner inner) from h s.inner
  intro inner
  induction inner with
  | nil => exact outermost _ rfl
  | cons scope rest ih => exact within (s.withInner rest) scope ih

/-- The variables of the outermost scope. -/
theorem entry_zero (s : Session σ) (name : String) : s.entry 0 name = Dict.get? s.outer name := rfl

/-- The variables of the innermost scope, and of the others. -/
theorem entry_within (s : Session σ) (scope : Scope) (j : Nat) (name : String) :
    (s.within scope).entry j name =
      if j = s.inner.length + 1 then Dict.get? scope name else s.entry j name := by
  have hscopes : (s.within scope).scopes = s.scopes ++ [scope] :=
    congrArg (s.outer :: ·) List.reverse_cons
  have hlength : s.scopes.length = s.inner.length + 1 :=
    congrArg (· + 1) List.length_reverse
  rw [entry, entry, hscopes, ← hlength]
  split
  · next hj => rw [hj, List.getElem?_concat_length, Option.bind_some]
  · next hj =>
      rcases Nat.lt_or_gt_of_ne hj with hlt | hgt
      · rw [List.getElem?_append_left hlt]
      · rw [List.getElem?_eq_none (Nat.le_of_lt hgt), List.getElem?_eq_none]
        rw [List.length_append]
        exact hgt

/-- There are no variables further inside than the innermost scope. -/
theorem entry_of_lt (hk : s.inner.length < k) (name : String) : s.entry k name = none := by
  have hlength : s.scopes.length = s.inner.length + 1 :=
    congrArg (· + 1) List.length_reverse
  rw [entry, List.getElem?_eq_none (hlength.trans_le hk), Option.bind_none]

/-- A variable is in a scope that there is. -/
theorem le_of_entry (h : s.entry k name = some b) : k ≤ s.inner.length :=
  Nat.le_of_not_lt fun hlt => nomatch (entry_of_lt hlt name).symm.trans h

/-- The variables of a session with a new scope. -/
theorem entry_push (hk : k ≤ s.inner.length) : s.push.entry k name = s.entry k name := by
  rw [show s.push = s.within [] from rfl, entry_within, if_neg (by omega)]

/-- The variables of a session without its innermost scope. -/
theorem entry_pop (hk : k < s.inner.length) : s.pop.entry k name = s.entry k name := by
  induction s using scopes_induction with
  | outermost s hs =>
      rw [hs] at hk
      exact nomatch hk
  | within s scope _ =>
      have hlt : k < s.inner.length + 1 := hk
      rw [entry_within, if_neg (by omega)]
      rfl

/-- Sessions with the same variables have the same in each scope. -/
theorem SameVariables.entry (h : s.SameVariables t) (k : Nat) (name : String) :
    t.entry k name = s.entry k name := by
  rw [Session.entry, Session.entry, scopes, scopes, h.outer, h.inner]

/-- In sessions with the same variables, names stand for the same. -/
theorem Resolves.of_same (h : t.Resolves name k b) (hsame : s.SameVariables t) :
    s.Resolves name k b where
  entry := (hsame.entry k name).symm.trans h.entry
  free j hj := (hsame.entry j name).symm.trans (h.free j hj)

/-- A name is looked up in the innermost scope first. -/
theorem lookup_within (s : Session σ) (scope : Scope) (name : String) :
    (s.within scope).lookup name = (Dict.get? scope name).orElse fun _ => s.lookup name := by
  rw [lookup, within, withInner, List.findSome?_cons]
  cases Dict.get? scope name <;> rfl

/-- A name that the innermost scope does not have is found where it is found outside. -/
theorem entry_within_of_none {scope : Scope} (h : Dict.get? scope name = none) (s : Session σ)
    (j : Nat) : (s.within scope).entry j name = s.entry j name := by
  rw [entry_within]
  split
  · next hj => rw [h, entry_of_lt (hj ▸ Nat.lt_succ_self _)]
  · rfl

/-- A name that the innermost scope has stands for its variable there. -/
theorem resolves_within {scope : Scope} (h : Dict.get? scope name = some b) (s : Session σ) :
    (s.within scope).Resolves name (s.inner.length + 1) b where
  entry := by rw [entry_within, if_pos rfl, h]
  free j hj := entry_of_lt (s := s.within scope) hj name

/-- A name is found in no scope, or it stands for the variable that is looked up. -/
theorem lookup_cases (s : Session σ) (name : String) :
    (s.lookup name = none ∧ ∀ k, s.entry k name = none) ∨
    ∃ k b, s.lookup name = some b ∧ s.Resolves name k b := by
  induction s using scopes_induction with
  | outermost s hs =>
      have hlookup : s.lookup name = s.entry 0 name := by
        rw [lookup, hs, entry_zero]
        rfl
      have hfree : ∀ j > 0, s.entry j name = none := fun j hj =>
        entry_of_lt ((congrArg List.length hs).trans_lt hj) name
      rw [hlookup]
      cases hentry : s.entry 0 name with
      | none => exact .inl ⟨rfl, fun k => k.eq_zero_or_pos.elim (· ▸ hentry) (hfree k)⟩
      | some b => exact .inr ⟨0, b, rfl, hentry, hfree⟩
  | within s scope ih =>
      rw [lookup_within]
      cases hentry : Dict.get? scope name with
      | some b => exact .inr ⟨s.inner.length + 1, b, rfl, resolves_within hentry s⟩
      | none =>
          have hrest := entry_within_of_none hentry s
          refine ih.imp (.imp_right fun hnone j => (hrest j).trans (hnone j)) ?_
          rintro ⟨k, b, hlookup, hres⟩
          exact ⟨k, b, hlookup, (hrest k).trans hres.entry,
            fun j hj => (hrest j).trans (hres.free j hj)⟩

/-- A name stands for one variable. -/
theorem Resolves.unique {k' : Nat} {b' : Binding} (h : s.Resolves name k b)
    (h' : s.Resolves name k' b') : k = k' ∧ b = b' := by
  have hle : ∀ {i j : Nat} {c : Binding}, s.entry i name = some c →
      (∀ i > j, s.entry i name = none) → i ≤ j := fun hi hj =>
    Nat.le_of_not_lt fun hlt => nomatch (hj _ hlt).symm.trans hi
  obtain rfl : k = k' := Nat.le_antisymm (hle h.entry h'.free) (hle h'.entry h.free)
  exact ⟨rfl, Option.some.inj (h.entry.symm.trans h'.entry)⟩

/-- Names stand for the same if each scope has the same variable. -/
theorem lookup_eq_of_entry (h : t.inner.length = s.inner.length)
    (hentry : ∀ k ≤ s.inner.length, t.entry k name = s.entry k name) :
    t.lookup name = s.lookup name := by
  have hall : ∀ k, t.entry k name = s.entry k name := fun k => by
    by_cases hk : k ≤ s.inner.length
    · exact hentry k hk
    · have hlt := Nat.lt_of_not_le hk
      rw [entry_of_lt hlt, entry_of_lt (h.trans_lt hlt)]
  rcases s.lookup_cases name with ⟨hs, hnone⟩ | ⟨k, b, hs, hres⟩
  · rcases t.lookup_cases name with ⟨ht, -⟩ | ⟨k, b, -, hres⟩
    · rw [hs, ht]
    · exact nomatch (hres.entry.symm.trans (hall k)).trans (hnone k)
  · rcases t.lookup_cases name with ⟨-, hnone⟩ | ⟨k', b', ht, hres'⟩
    · exact nomatch (hres.entry.symm.trans (hall k).symm).trans (hnone k)
    · have hres'' : s.Resolves name k' b' :=
        ⟨(hall k').symm.trans hres'.entry, fun j hj => (hall j).symm.trans (hres'.free j hj)⟩
      rw [hs, ht, (hres.unique hres'').2]

/-! ### What assignments and declarations set -/

/-- A variable of the outermost scope is set. -/
theorem sets_outer {outer : Scope}
    (h : ∀ n, Dict.get? outer n = if name = n then some b else Dict.get? s.outer n) :
    s.Sets 0 name b (s.withOuter outer) where
  height := rfl
  entry j n := by
    cases j with
    | zero =>
        simp only [true_and]
        exact h n
    | succ j =>
        rw [if_neg fun hj => nomatch hj.1]
        rfl

/-- A variable of the innermost scope is set. -/
theorem sets_innermost {scope scope' : Scope}
    (h : ∀ n, Dict.get? scope' n = if name = n then some b else Dict.get? scope n) :
    (s.within scope).Sets (s.inner.length + 1) name b (s.within scope') where
  height := rfl
  entry j n := by
    rw [entry_within, entry_within]
    by_cases hj : s.inner.length + 1 = j
    · simpa only [hj, true_and, if_true] using h n
    · rw [if_neg (Ne.symm hj), if_neg (Ne.symm hj), if_neg fun h => hj h.1]

/-- A variable that is set outside the innermost scope. -/
theorem Sets.within (h : s.Sets k name b t) (hk : k ≤ s.inner.length) (scope : Scope) :
    (s.within scope).Sets k name b (t.within scope) where
  height := congrArg (· + 1) h.height
  entry j n := by
    rw [entry_within, entry_within, h.height, h.entry]
    split
    · next hj => rw [if_neg fun h => Nat.not_succ_le_self _ (hj ▸ h.1 ▸ hk)]
    · rfl

/-- What a scope has after a variable in it is replaced. -/
theorem get?_modify_held {scope : Scope} (h : Dict.get? scope name = some b) (held : Operand)
    (n : String) : Dict.get? (Dict.modify scope name fun b => { b with held }) n =
      if name = n then some { b with held } else Dict.get? scope n := by
  by_cases hn : name = n
  · rw [if_pos hn, ← hn, Dict.get?_modify_self, h]
    rfl
  · rw [if_neg hn, Dict.get?_modify_of_ne hn]

/-- What a variable holds is replaced in the scope in which the name is found. -/
theorem sets_replace (h : s.Resolves name k b) (held : Operand) :
    s.Sets k name { b with held } (s.replace name held) := by
  induction s using scopes_induction with
  | outermost s hs =>
      obtain rfl : k = 0 := Nat.le_zero.mp ((le_of_entry h.entry).trans_eq (congrArg _ hs))
      rw [replace_eq, hs]
      exact sets_outer (get?_modify_held h.entry held)
  | within s scope ih =>
      have hinner : (s.within scope).inner = scope :: s.inner := rfl
      rw [replace_eq, hinner, replaceIn]
      cases hentry : Dict.get? scope name with
      | some b' =>
          obtain ⟨rfl, rfl⟩ := h.unique (resolves_within hentry s)
          exact sets_innermost (get?_modify_held hentry held)
      | none =>
          -- the name stands for a variable further outside
          have hrest := entry_within_of_none hentry s
          have hres : s.Resolves name k b :=
            ⟨(hrest k).symm.trans h.entry, fun j hj => (hrest j).symm.trans (h.free j hj)⟩
          have hset := (ih hres).within (le_of_entry hres.entry) scope
          rw [replace_eq] at hset
          dsimp only
          cases hr : replaceIn name held s.inner with
          | some inner =>
              rw [hr] at hset
              exact hset
          | none =>
              rw [hr] at hset
              exact hset

/-- A variable of the outermost scope is bound anew. -/
theorem sets_bind (s : Session σ) (name : String) (held : Operand) :
    s.Sets 0 name ⟨held, false⟩ (s.bind name held) :=
  sets_outer fun _ => Dict.get?_insert

/-- Where there is no other scope, a declaration belongs to the outermost one. -/
theorem declaredIn_outermost (hs : s.inner = []) (kind : DeclKind) :
    s.declaredIn kind = s.outer := by
  unfold declaredIn
  rw [hs]
  cases kind <;> rfl

/-- A declaration for a block belongs to the innermost scope. -/
theorem get?_declaredIn {kind : DeclKind} (hkind : kind ≠ .handler) (s : Session σ)
    (name : String) : Dict.get? (s.declaredIn kind) name = s.entry s.inner.length name := by
  induction s using scopes_induction with
  | outermost s hs =>
      rw [declaredIn_outermost hs, hs, List.length_nil, entry_zero]
  | within s scope _ =>
      have hlength : (s.within scope).inner.length = s.inner.length + 1 := rfl
      rw [hlength, entry_within, if_pos rfl]
      cases kind with
      | handler => exact absurd rfl hkind
      | _ => rfl

/-- A declaration sets a variable: of the outermost scope, which is no constant there, or of the
innermost one, which does not have the name. -/
theorem sets_declare {kind : DeclKind} (h : s.declare kind name held = .ok t) :
    (kind = .handler ∧ (∀ b, s.entry 0 name = some b → b.constant = false) ∧
      s.Sets 0 name ⟨held, false⟩ t) ∨
    (kind ≠ .handler ∧ s.entry s.inner.length name = none ∧
      s.Sets s.inner.length name ⟨held, kind == .constant⟩ t) := by
  rw [declare_eq] at h
  split at h
  · exact nomatch h
  next hclash =>
  rw [clashes] at hclash
  by_cases hkind : kind = .handler
  · subst hkind
    obtain rfl := Except.ok.inj h
    refine .inl ⟨rfl, fun b hb => ?_, sets_outer fun _ => Dict.get?_insert⟩
    rw [show Dict.get? (s.declaredIn .handler) name = some b from hb] at hclash
    simpa using hclash
  · have hfree : s.entry s.inner.length name = none := by
      rw [← get?_declaredIn hkind, ← Option.not_isSome_iff_eq_none, Option.isSome_iff_exists]
      rintro ⟨b, hb⟩
      rw [hb] at hclash
      simp [hkind] at hclash
    refine .inr ⟨hkind, hfree, ?_⟩
    induction s using scopes_induction with
    | outermost s hs =>
        rw [hs, declaredIn_outermost hs] at h
        rw [hs]
        have ht : s.withOuter (Dict.insert s.outer name ⟨held, kind == .constant⟩) = t := by
          cases kind <;> exact Except.ok.inj h
        subst ht
        exact sets_outer fun _ => Dict.get?_insert
    | within s scope _ =>
        have ht : s.within (Dict.insert scope name ⟨held, kind == .constant⟩) = t := by
          cases kind with
          | handler => exact absurd rfl hkind
          | _ => exact Except.ok.inj h
        subst ht
        exact sets_innermost fun _ => Dict.get?_insert

end Session

/-! ### Changes, one after the other -/

/-- Along visits, something changes by `P`, at some of the visits and in their order. -/
inductive History {β : Type} (P : Visit σ → β → β → Prop) : List (Visit σ) → β → β → Prop
  | done (b : β) : History P [] b b
  | skip (v : Visit σ) {visits : List (Visit σ)} {b c : β} :
      History P visits b c → History P (v :: visits) b c
  | change {v : Visit σ} {visits : List (Visit σ)} {a b c : β} :
      P v a b → History P visits b c → History P (v :: visits) a c

namespace History

variable {β : Type} {P Q : Visit σ → β → β → Prop} {a c d : β}

/-- Nothing changes. -/
theorem refl (visits : List (Visit σ)) (c : β) : History P visits c c := by
  induction visits with
  | nil => exact .done c
  | cons v rest ih => exact .skip v ih

/-- Changes along some visits, and then along others. -/
theorem append (h : History P vs a c) (h' : History P ws c d) : History P (vs ++ ws) a d := by
  induction h with
  | done => exact h'
  | skip v _ ih => exact .skip v (ih h')
  | change hP _ ih => exact .change hP (ih h')

/-- One change. -/
theorem of_mem {v : Visit σ} (hv : v ∈ vs) (h : P v a c) : History P vs a c := by
  obtain ⟨before, behind, rfl⟩ := List.append_of_mem hv
  exact (refl before a).append (.change h (refl behind c))

/-- Changes of one kind that are changes of another. -/
theorem mono (h : History P vs a c) (hPQ : ∀ v a c, P v a c → Q v a c) : History Q vs a c := by
  induction h with
  | done b => exact .done b
  | skip v _ ih => exact .skip v ih
  | change hP _ ih => exact .change (hPQ _ _ _ hP) ih

/-- Where no visit changes anything, nothing changes. -/
theorem eq_of_none (h : History P vs a c) (hnone : ∀ v ∈ vs, ∀ a c, ¬ P v a c) : c = a := by
  induction h with
  | done => rfl
  | skip v _ ih => exact ih fun v' hv' => hnone v' (List.mem_cons_of_mem v hv')
  | change hP _ _ => exact absurd hP (hnone _ List.mem_cons_self _ _)

end History

/-- From one session to another, as many scopes remain, and in each scope variables change by `P`
along the visits. -/
structure Session.Moves (P : String → Nat → Visit σ → Option Binding → Option Binding → Prop)
    (visits : List (Visit σ)) (s t : Session σ) : Prop where
  height : t.inner.length = s.inner.length
  entry : ∀ name, ∀ k ≤ s.inner.length,
    History (P name k) visits (s.entry k name) (t.entry k name)

namespace Session.Moves

variable {P Q : String → Nat → Visit σ → Option Binding → Option Binding → Prop}

/-- No variable changes. -/
theorem of_same (h : s.SameVariables t) (visits : List (Visit σ)) : Moves P visits s t where
  height := congrArg List.length h.inner
  entry name k _ := h.entry k name ▸ .refl visits _

/-- One variable changes. -/
theorem of_sets (h : s.Sets k name b t) {v : Visit σ} (hv : v ∈ vs)
    (hP : P name k v (s.entry k name) (some b)) : Moves P vs s t where
  height := h.height
  entry n j _ := by
    rw [h.entry]
    split
    · next hat =>
        obtain ⟨rfl, rfl⟩ := hat
        exact .of_mem hv hP
    · exact .refl vs _

/-- Changes of one kind that are changes of another. -/
theorem mono (h : Moves P vs s t) (hPQ : ∀ name k v a c, P name k v a c → Q name k v a c) :
    Moves Q vs s t where
  height := h.height
  entry name k hk := (h.entry name k hk).mono (hPQ name k)

/-- Changes after changes. -/
theorem trans (h : Moves P vs s t) (h' : Moves P ws t u) : Moves P (vs ++ ws) s u where
  height := h'.height.trans h.height
  entry name k hk := (h.entry name k hk).append (h'.entry name k (hk.trans_eq h.height.symm))

/-- Of the changes with a scope of its own, those outside of it are left when it is gone. -/
theorem pop (h : Moves P vs s.push t)
    (hPQ : ∀ name, ∀ k ≤ s.inner.length, ∀ v a c, P name k v a c → Q name k v a c) :
    Moves Q vs s t.pop where
  height := by
    have hlength : t.inner.length = s.inner.length + 1 := h.height
    rw [Session.pop, List.length_tail, hlength, Nat.add_sub_cancel]
  entry name k hk := by
    have hlength : t.inner.length = s.inner.length + 1 := h.height
    have hhistory := h.entry name k (hk.trans (Nat.le_succ _))
    rw [Session.entry_push hk,
      ← Session.entry_pop (s := t) (hk.trans_lt (hlength ▸ Nat.lt_succ_self _))] at hhistory
    exact hhistory.mono (hPQ name k hk)

end Session.Moves

/-- An assignment sets what it writes to, in the scope in which the name is found. -/
theorem sets_store {root : String} {path : List PathStep} {result : Except RunError Unit}
    (h : store held root path s = (result, t)) :
    t = s ∨
    (path = [] ∧ ((∃ k old, s.Resolves root k ⟨old, false⟩ ∧ s.Sets k root ⟨held, false⟩ t) ∨
      (∀ k, s.entry k root = none) ∧ s.Sets 0 root ⟨held, false⟩ t)) ∨
    (path ≠ [] ∧ ∃ k old constant, s.Resolves root k ⟨.value old, constant⟩ ∧
      s.Sets k root ⟨.value (write held.toValue path old).2, constant⟩ t) := by
  rw [store] at h
  split at h
  · next hpath =>
      rw [Run.assignVariable] at h
      rcases s.lookup_cases root with ⟨hlookup, hnone⟩ | ⟨k, b, hlookup, hres⟩
      · rw [hlookup] at h
        obtain ⟨-, rfl⟩ := Prod.mk.inj h
        exact .inr (.inl ⟨List.isEmpty_iff.mp hpath, .inr ⟨hnone, s.sets_bind root held⟩⟩)
      · rw [hlookup] at h
        obtain ⟨old, constant⟩ := b
        cases constant with
        | true => exact .inl (Prod.mk.inj h).2.symm
        | false =>
            obtain ⟨-, rfl⟩ := Prod.mk.inj h
            exact .inr (.inl ⟨List.isEmpty_iff.mp hpath,
              .inl ⟨k, old, hres, Session.sets_replace hres held⟩⟩)
  · next hpath =>
      rw [Run.assignBelow] at h
      rcases s.lookup_cases root with ⟨hlookup, -⟩ | ⟨k, b, hlookup, hres⟩
      · rw [hlookup] at h
        exact .inl (Prod.mk.inj h).2.symm
      · rw [hlookup] at h
        obtain ⟨old, constant⟩ := b
        cases old with
        | value old =>
            have ht : s.replace root (.value (write held.toValue path old).2) = t := by
              dsimp only at h
              split at h
              · exact (Prod.mk.inj h).2
              · split at h <;> exact (Prod.mk.inj h).2
            subst ht
            exact .inr (.inr ⟨fun hnil => hpath (hnil ▸ rfl), k, old, constant, hres,
              Session.sets_replace hres _⟩)
        | _ => exact .inl (Prod.mk.inj h).2.symm

/-! ### Changes, and the visits that they belong to -/

section Host

variable [Host σ]

/-- A visited assignment to a member or an index changes what the name stands for there: the
variable keeps whether it is constant, and what it holds is written to in place. -/
inductive Visit.WritesBelow (name : String) (k : Nat) : Visit σ → Binding → Binding → Prop
  | intro {target value : Expr} {op : AssignOp} {s t : Session σ} {held : Operand}
      {path : List PathStep} {old : Value} {constant : Bool} :
      prepare target op value s = (.ok (held, name, path), t) → path ≠ [] →
      s.Resolves name k ⟨.value old, constant⟩ →
      WritesBelow name k (.stmt (.assign target op value) s) ⟨.value old, constant⟩
        ⟨.value (write held.toValue path old).2, constant⟩

/-- A write below a constant leaves a constant. -/
theorem Visit.WritesBelow.constant {v : Visit σ} {old new : Binding}
    (h : v.WritesBelow name k old new) : new.constant = old.constant := by
  cases h
  rfl

/-- A visited statement changes a scope that it reaches, be it further outside: a declaration with
`var`, which spares constants; an assignment to a name that stands for a variable that is not
constant; one to a name that is found nowhere, which then is in the outermost scope; and a write
below a variable. -/
inductive Visit.Reaches (name : String) :
    Nat → Visit σ → Option Binding → Option Binding → Prop
  | declared {init : Option Expr} {s t : Session σ} {held : Operand} {old : Option Binding} :
      evalStep init s = (.ok held, t) → s.entry 0 name = old →
      (∀ b, old = some b → b.constant = false) →
      Reaches name 0 (.stmt (.decl .handler name init) s) old (some ⟨held, false⟩)
  | assigned {target value : Expr} {op : AssignOp} {s t : Session σ} {held old : Operand}
      {k : Nat} :
      prepare target op value s = (.ok (held, name, []), t) → s.Resolves name k ⟨old, false⟩ →
      Reaches name k (.stmt (.assign target op value) s) (some ⟨old, false⟩) (some ⟨held, false⟩)
  | undeclared {target value : Expr} {op : AssignOp} {s t : Session σ} {held : Operand} :
      prepare target op value s = (.ok (held, name, []), t) → (∀ k, s.entry k name = none) →
      Reaches name 0 (.stmt (.assign target op value) s) none (some ⟨held, false⟩)
  | below {v : Visit σ} {k : Nat} {old new : Binding} :
      v.WritesBelow name k old new → Reaches name k v (some old) (some new)

/-- A visited declaration with `let` or `const` changes the innermost scope there, which does not
have the name. -/
inductive Visit.Declares (name : String) (k : Nat) :
    Visit σ → Option Binding → Option Binding → Prop
  | intro {kind : DeclKind} {init : Option Expr} {s t : Session σ} {held : Operand} :
      kind ≠ .handler → evalStep init s = (.ok held, t) → s.inner.length = k →
      s.entry k name = none →
      Declares name k (.stmt (.decl kind name init) s) none (some ⟨held, kind == .constant⟩)

/-- What happens to a variable of scope `k` while statements run in scope `inside`. -/
def Visit.Changes (inside : Nat) (name : String) (k : Nat) (v : Visit σ)
    (old new : Option Binding) : Prop :=
  v.Reaches name k old new ∨ k = inside ∧ v.Declares name k old new

/-! ### Statements that act -/

/-- What happens to the variables of a session while a block or a branch runs. -/
def MovesOutside : Conduct σ := fun s visits _ t =>
  Session.Moves (fun name k v => v.Reaches name k) visits s t

/-- What happens to the variables of a session while any statement runs. -/
def MovesThrough : Conduct σ := fun s visits _ t =>
  Session.Moves (Visit.Changes s.inner.length) visits s t

/-- A declaration changes one variable, if any. -/
theorem moves_decl (kind : DeclKind) (name : String) (init : Option Expr) :
    MovesThrough.Holds (stmtVisits (.decl kind name init) : Visits σ)
      (exec (.decl kind name init)) := fun s => by
  have hvisit := mem_stmtVisits (.decl kind name init) s
  have hsame := (evalStep_observes init).same s
  rw [exec_decl, Run.bind_apply]
  generalize hinit : evalStep init s = out at hsame
  obtain ⟨result, u⟩ := out
  cases result with
  | error e => exact .of_same hsame _
  | ok held =>
      dsimp only
      rw [Run.bind_apply, Run.declare]
      cases hdecl : u.declare kind name held with
      | error e => exact .of_same hsame _
      | ok t =>
          refine (Session.Moves.of_same hsame []).trans ?_
          rcases Session.sets_declare hdecl with ⟨rfl, hold, hset⟩ | ⟨hkind, hnone, hset⟩
          · exact .of_sets hset hvisit
              (.inl (.declared hinit (hsame.entry 0 name).symm hold))
          · have hheight : u.inner.length = s.inner.length := congrArg List.length hsame.inner
            refine .of_sets hset hvisit (.inr ⟨hheight, ?_⟩)
            rw [hnone]
            exact .intro hkind hinit hheight.symm ((hsame.entry _ name).symm.trans hnone)

/-- An assignment changes one variable, if any. -/
theorem moves_assign (target : Expr) (op : AssignOp) (value : Expr) :
    MovesThrough.Holds (stmtVisits (.assign target op value) : Visits σ)
      (exec (.assign target op value)) := fun s => by
  have hvisit := mem_stmtVisits (.assign target op value) s
  have hsame := (prepare_observes target op value).same s
  rw [exec_assign, Run.bind_apply]
  generalize hprepare : prepare target op value s = out at hsame
  obtain ⟨result, u⟩ := out
  cases result with
  | error e => exact .of_same hsame _
  | ok found =>
      obtain ⟨held, root, path⟩ := found
      dsimp only
      rw [Run.bind_apply]
      generalize hstore : store held root path u = out
      obtain ⟨done, t⟩ := out
      suffices h : MovesThrough s (stmtVisits (.assign target op value) s) (.ok .next) t by
        cases done <;> exact h
      refine (Session.Moves.of_same hsame []).trans ?_
      rcases sets_store hstore with rfl | ⟨rfl, ⟨k, old, hres, hset⟩ | ⟨hnone, hset⟩⟩ |
        ⟨hpath, k, old, constant, hres, hset⟩
      · exact .of_same (.refl _) _
      · refine .of_sets hset hvisit (.inl ?_)
        rw [hres.entry]
        exact .assigned hprepare (hres.of_same hsame)
      · refine .of_sets hset hvisit (.inl ?_)
        rw [hnone]
        exact .undeclared hprepare fun k => (hsame.entry k root).symm.trans (hnone k)
      · refine .of_sets hset hvisit (.inl ?_)
        rw [hres.entry]
        exact .below (.intro hprepare hpath (hres.of_same hsame))

/-- Other statements that act leave the variables alone. -/
theorem moves_of_observes {visits : Visits σ} {run : Run σ Flow} (h : run.Observes) :
    MovesThrough.Holds visits run := fun s => .of_same (h.same s) _

/-- A statement that acts changes one variable, if any. -/
theorem moves_act {stmt : Stmt} (h : stmt.nests = false) :
    MovesThrough.Holds (stmtVisits stmt : Visits σ) (exec stmt) := by
  have hpure : ∀ flow, Run.Observes (pure flow : Run σ Flow) := fun flow =>
    observes_evaluates.lift (.ok flow)
  cases stmt with
  | decl kind name init => exact moves_decl kind name init
  | assign target op value => exact moves_assign target op value
  | empty =>
      rw [exec]
      exact moves_of_observes (.bind .tick fun _ => hpure _)
  | expr e =>
      rw [exec]
      exact moves_of_observes (.bind .tick fun _ => .bind (eval_observes e) fun v =>
        .bind (complete_observes v) fun _ => hpure _)
  | ret value =>
      rw [exec]
      exact moves_of_observes (.bind .tick fun _ =>
        .bind (evalOption_walks observes_evaluates value) fun _ => hpure _)
  | block | branch => exact nomatch h

/-! ### Any statement -/

/-- What happens to variables carries over along a run. -/
theorem moves_course : Course (MovesOutside (σ := σ)) MovesThrough where
  quiet h _ := .of_same h.same _
  after hquiet h := (Session.Moves.of_same hquiet.same _).trans h
  -- what is declared in the new scope is not in any that was there before
  inScope h := Session.Moves.pop h fun _ _ hk _ _ _ hchange =>
    hchange.resolve_right fun ⟨hinside, _⟩ => Nat.not_succ_le_self _ (hinside ▸ hk)
  nested h := h.mono fun _ _ _ _ _ => .inl
  act := moves_act
  append {s vs t ws result u} h h' := by
    have hlast : Session.Moves (Visit.Changes t.inner.length) ws t u := h'
    rw [h.height] at hlast
    exact Session.Moves.trans h hlast

/-- A variable that is constant changes by writes below it only, and stays constant. -/
theorem writesBelow_of_constant {inside : Nat} {old new : Option Binding}
    (h : History (Visit.Changes inside name k) vs old new) (hold : old = some b)
    (hb : b.constant = true) :
    ∃ b', new = some b' ∧ b'.constant = true ∧
      History (fun v : Visit σ => v.WritesBelow name k) vs b b' := by
  -- along the history the variable is a constant, which every other change has to spare
  induction h generalizing b with
  | done => exact ⟨b, hold, hb, .done b⟩
  | skip v _ ih =>
      obtain ⟨b', hnew, hb', hhistory⟩ := ih hold hb
      exact ⟨b', hnew, hb', .skip v hhistory⟩
  | change hchange _ ih =>
      subst hold
      rcases hchange with hreach | ⟨-, hdeclare⟩
      · cases hreach with
        | declared _ _ hspares => exact nomatch hb.symm.trans (hspares b rfl)
        | assigned => exact nomatch hb
        | below hwrite =>
            obtain ⟨b', hnew, hb', hhistory⟩ := ih rfl (hwrite.constant.trans hb)
            exact ⟨b', hnew, hb', .change hwrite hhistory⟩
      · cases hdeclare

/-- **Scopes are balanced, blocks are hygienic, and constants stay.** In any session, any statement
leaves as many scopes as there were, however it ends.

A block or a branch changes the scopes outside of it only where a visited `var` or a visited
assignment reaches them, and never by a `let` or a `const` inside; a name that is not reached stands
for what it stood for.

And while statements run in turn, a constant of a scope that is there from the start stays a
constant of that scope. No declaration and no assignment replaces it, and what it holds changes only
where a visited assignment writes to a member or an index below it. -/
theorem scopes_hygienic (s : Session σ) :
    (∀ stmt, (exec stmt s).2.inner.length = s.inner.length) ∧
    (∀ stmt : Stmt, stmt.nests = true → ∀ name,
      let t := (exec stmt s).2
      let visits := stmtVisits stmt s
      (∀ k ≤ s.inner.length,
        History (fun v => v.Reaches name k) visits (s.entry k name) (t.entry k name)) ∧
      ((∀ k ≤ s.inner.length, ∀ v ∈ visits, ∀ old new, ¬ v.Reaches name k old new) →
        t.lookup name = s.lookup name)) ∧
    (∀ body name k b, s.entry k name = some b → b.constant = true →
      let t := (execAll body s).2
      ∃ b', t.entry k name = some b' ∧ b'.constant = true ∧
        History (fun v => v.WritesBelow name k) (programVisits body s) b b') := by
  refine ⟨fun stmt => (exec_course moves_course stmt s).height, ?_, ?_⟩
  · intro stmt hstmt name t visits
    have hmoves : MovesOutside s visits _ t := exec_nested moves_course hstmt s
    refine ⟨hmoves.entry name, fun hnone => Session.lookup_eq_of_entry hmoves.height ?_⟩
    exact fun k hk => (hmoves.entry name k hk).eq_of_none (hnone k hk)
  · intro body name k b hb hconstant t
    have hhistory := (execAll_course moves_course body s).entry name k (Session.le_of_entry hb)
    exact writesBelow_of_constant hhistory hb hconstant

/-- A block declares `x` and `c` anew, which are a variable and a constant outside of it. -/
theorem scopes_hygienic_shadowing :
    let s : Session Console := (Session.start {} none 10).withOuter
      [("c", ⟨.value (.obj []), true⟩), ("x", ⟨.value .null, false⟩)]
    let block : Stmt := .block [.decl .block "x" none, .decl .constant "c" none]
    (exec block s).2.inner.length = s.inner.length ∧
      (exec block s).2.lookup "x" = s.lookup "x" ∧
      ∃ b, (execAll [block] s).2.entry 0 "c" = some b ∧ b.constant = true := by
  intro s block
  obtain ⟨hheight, hblocks, hconstants⟩ := scopes_hygienic s
  have hx : ∀ k ≤ s.inner.length, ∀ v ∈ stmtVisits block s, ∀ old new,
      ¬ v.Reaches "x" k old new := by
    have hvisits : ∃ body u₁ u₂, stmtVisits block s = [.stmt (.block body) s,
        .stmt (.decl .block "x" none) u₁, .stmt (.decl .constant "c" none) u₂] :=
      ⟨_, _, _, rfl⟩
    obtain ⟨body, u₁, u₂, hvisits⟩ := hvisits
    rw [hvisits]
    intro k _ v hv old new hreach
    simp only [List.mem_cons, List.not_mem_nil, or_false] at hv
    rcases hv with rfl | rfl | rfl <;> obtain _ | _ | _ | ⟨⟨⟩⟩ := hreach
  refine ⟨hheight block, (hblocks block rfl "x").2 hx, ?_⟩
  obtain ⟨b, hb, hconstant, -⟩ := hconstants [block] "c" 0 _ rfl rfl
  exact ⟨b, hb, hconstant⟩

end Host

end WidgetFlow.Script
