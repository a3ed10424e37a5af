import WidgetFlow.Proofs.Engine.Rejection

/-!
# At most one connection between two points

Two connections may lead between the same points, if they are made that way. `Graph.Simple` says that
none do. A graph stays simple as long as connections only go (`Graph.Simple.sublist`), and as long
as a connection is made only where there is none. Automatic connections are proposed that way: the
proposals are all different, and none repeats a connection that is there.

## Main results

* `Engine.sublist_perform`: an operation that is not there to connect makes no connection.
* `connectable_propose`: what is proposed may be connected, all of it.
* `Engine.simple_autoConnect`: connecting automatically keeps a graph simple.
-/

namespace WidgetFlow

namespace Graph

variable {g g' : Graph} {source target : Endpoint}

/-- The points between which the connections lead, in order. -/
def ends (g : Graph) : List (Endpoint × Endpoint) := g.all.map fun c => (c.source, c.target)

/-- No two connections lead between the same points. -/
def Simple (g : Graph) : Prop := g.ends.Nodup

/-- A new connection leads between its points. -/
theorem ends_connect (transform? : Option Transform) :
    (g.connect source target transform?).2.ends = g.ends ++ [(source, target)] := by
  rw [ends, all_connect, List.map_append]
  rfl

/-- A connection between two points exists if it is one of those that are there. -/
theorem exists?_iff : g.exists? source target = true ↔ (source, target) ∈ g.ends := by
  rw [exists?, List.any_eq_true, ends, List.mem_map]
  refine exists_congr fun c => and_congr_right fun _ => ?_
  rw [Bool.and_eq_true, decide_eq_true_iff, decide_eq_true_iff, Prod.mk.injEq]

/-- A graph is still simple when connections have gone. -/
theorem Simple.sublist (h : g.Simple) (hsub : g'.all.Sublist g.all) : g'.Simple :=
  List.Nodup.sublist (hsub.map _) h

/-- A connection where there was none leaves a graph simple. -/
theorem Simple.append (h : g.Simple) (hnew : (source, target) ∉ g.ends)
    (heq : g'.ends = g.ends ++ [(source, target)]) : g'.Simple := by
  rw [Simple, heq]
  exact List.nodup_append.mpr ⟨h, List.nodup_singleton _, fun x hx y hy hxy =>
    hnew (List.mem_singleton.mp hy ▸ hxy ▸ hx)⟩

end Graph

/-! ### Proposals -/

/-- The points between which a proposed connection is to lead. -/
def Proposal.ends (p : Proposal) : Endpoint × Endpoint := (p.source, p.target)

/-- All proposals may be connected: they are different from each other and from the connections of a
graph. -/
structure Connectable (g : Graph) (proposals : List Proposal) : Prop where
  nodup : (proposals.map Proposal.ends).Nodup
  fresh : ∀ p ∈ proposals, p.ends ∉ g.ends

/-- A proposal is added only if it may be connected with the others. -/
theorem Connectable.addProposal {g : Graph} {proposals : List Proposal} (h : Connectable g proposals)
    (p : Proposal) : Connectable g (addProposal g proposals p) := by
  rw [WidgetFlow.addProposal]
  split
  · exact h
  · next hno =>
      rw [Bool.or_eq_true, not_or, Graph.exists?_iff, List.any_eq_true] at hno
      obtain ⟨hfresh, hother⟩ := hno
      have hmem : ∀ q ∈ proposals ++ [p], q ∈ proposals ∨ q = p := fun q hq =>
        (List.mem_append.mp hq).imp id List.mem_singleton.mp
      refine ⟨?_, fun q hq => ?_⟩
      · rw [List.map_append, List.nodup_append]
        refine ⟨h.nodup, List.nodup_singleton _, ?_⟩
        rintro x hx y hy rfl
        obtain ⟨q, hq, rfl⟩ := List.mem_map.mp hx
        obtain ⟨hsource, htarget⟩ := Prod.mk.inj (List.mem_singleton.mp hy)
        exact hother ⟨q, hq, by rw [hsource, htarget]; simp⟩
      · rcases hmem q hq with hq | rfl
        · exact h.fresh q hq
        · exact hfresh

/-- What is proposed may be connected, all of it. -/
theorem connectable_propose (numberToText : Bool) (components : List String)
    (pointsOf : String → List Point) (g : Graph) :
    Connectable g (propose numberToText components pointsOf g) :=
  List.foldlRecOn _ (addProposal g) ⟨List.nodup_nil, fun _ hp => absurd hp List.not_mem_nil⟩
    fun _ h p _ => h.addProposal p

/-- When the first proposal has been connected or refused, the others may still be connected. -/
theorem Connectable.tail {g g' : Graph} {p : Proposal} {rest : List Proposal}
    (h : Connectable g (p :: rest)) (heq : g'.ends = g.ends ∨ g'.ends = g.ends ++ [p.ends]) :
    Connectable g' rest := by
  obtain ⟨hnot, hrest⟩ := List.nodup_cons.mp h.nodup
  refine ⟨hrest, fun q hq hmem => ?_⟩
  have hbefore : q.ends ∉ g.ends := h.fresh q (List.mem_cons_of_mem p hq)
  rcases heq with heq | heq
  · exact hbefore (heq ▸ hmem)
  · rw [heq, List.mem_append, List.mem_singleton] at hmem
    rcases hmem with hmem | hsame
    · exact hbefore hmem
    · exact hnot (hsame ▸ List.mem_map_of_mem hq)

/-! ### Operations -/

namespace Engine

variable {e e' : Engine} {source target : Endpoint}

/-- Removing an instance makes no connection. -/
theorem sublist_removeInstance (e : Engine) (id : String) :
    (e.removeInstance id).2.graph.all.Sublist e.graph.all := by
  cases hi : e.instances.get? id with
  | none =>
      rw [removeInstance_of_none hi]
  | some i =>
      obtain ⟨events, heq⟩ := removeInstance_of_some hi
      rw [heq, Graph.all_removeFor]
      exact List.filter_sublist

/-- A call leaves the connections alone. -/
theorem graph_call (e : Engine) (call : Call) : (call.run e).graph = e.graph := by
  cases call with
  | emit source v => exact (e.emit_flows source v).graph
  | sendInput target v => exact (e.sendInput_flows target v).graph
  | applyEffects component effects => exact (e.applyEffects_flows component effects).graph
  | applyBehavior component behavior options =>
      rw [Call.run]
      rcases e.applyBehavior_cases component behavior options with heq | ⟨-, found, events, -, heq⟩
      · rw [heq]
      · rw [heq, (applyOutcomeBy_flows emitSilently_flows _ _).graph]
  | removeBehavior id =>
      rw [Call.run]
      rcases e.removeBehavior_cases id with heq | ⟨outcome, events, heq⟩
      · rw [heq]
      · rw [heq, (applyOutcomeBy_flows emitSilently_flows _ _).graph]

/-- An operation that is not there to connect makes no connection. -/
theorem sublist_perform (e : Engine) {op : EngineOp} (hop : op.connects = false) :
    (e.perform op).graph.all.Sublist e.graph.all := by
  have hsame : ∀ {e' : Engine}, e'.graph = e.graph → e'.graph.all.Sublist e.graph.all :=
    fun heq => heq ▸ List.Sublist.refl _
  cases op with
  | connect source target transform? => cases hop
  | connectNamed source target name? => cases hop
  | autoConnect components => cases hop
  | registerType d => exact hsame rfl
  | registerBehavior b => exact hsame rfl
  | createInstance kind id properties =>
      rcases e.createInstance_cases kind id properties with ⟨-, heq⟩ | ⟨d, events, -, heq⟩
      · exact hsame (by rw [perform, heq])
      · exact hsame (by rw [perform, heq])
  | updateInstance id u =>
      obtain ⟨events, heq⟩ := e.updateInstance_eq id u
      exact hsame (by rw [perform, heq])
  | removeInstance id => exact e.sublist_removeInstance id
  | clear => exact List.nil_sublist _
  | disconnect id =>
      obtain ⟨events, heq⟩ := e.disconnect_cases id
      rw [perform, heq]
      dsimp only
      rw [Graph.disconnect]
      split
      · exact List.Sublist.refl _
      · exact List.filter_sublist.map _
  | call call => exact hsame (e.graph_call call)
  | setProperty id key v => exact hsame rfl
  | setStyle id property v => exact hsame rfl
  | addClass id name => exact hsame rfl
  | removeClass id name => exact hsame rfl
  | setHidden id hidden => exact hsame rfl

/-- Operations that do not connect make no connection. -/
theorem Rearranges.sublist (h : Rearranges e e') : e'.graph.all.Sublist e.graph.all := by
  induction h with
  | refl => exact List.Sublist.refl _
  | perform _ op hop ih => exact (sublist_perform _ hop.2).trans ih

/-- A connection that is refused changes nothing, and one that is made leads between its points. -/
theorem ends_connect (e : Engine) (source target : Endpoint) (transform? : Option Transform) :
    (e.connect source target transform?).2.graph.ends = e.graph.ends ∨
      (e.connect source target transform?).2.graph.ends = e.graph.ends ++ [(source, target)] := by
  rcases e.connect_cases source target transform? with heq | ⟨-, -, events, heq⟩
  · exact .inl (by rw [heq])
  · exact .inr (by rw [heq, Graph.ends_connect])

/-- Connecting leaves the points alone. -/
theorem pointOf?_connect (e : Engine) (source target : Endpoint) (transform? : Option Transform) :
    (e.connect source target transform?).2.pointOf? = e.pointOf? := by
  rcases e.connect_cases source target transform? with heq | ⟨-, -, events, heq⟩
  · rw [heq]
  · rw [heq]
    rfl

/-- Connecting automatically leaves the points alone. -/
theorem pointOf?_autoConnect (e : Engine) (components : List String) :
    (e.autoConnect components).2.pointOf? = e.pointOf? := by
  rw [autoConnect_snd]
  exact List.foldlRecOn (motive := fun e' : Engine => e'.pointOf? = e.pointOf?) _ _ rfl
    fun e' h p _ => (e'.pointOf?_connect ..).trans h

/-- Connecting leaves a graph simple if there was no such connection. -/
theorem simple_connect (h : e.graph.Simple) (hnew : (source, target) ∉ e.graph.ends)
    (transform? : Option Transform) : (e.connect source target transform?).2.graph.Simple := by
  rcases e.ends_connect source target transform? with heq | heq
  · rwa [Graph.Simple, heq]
  · exact h.append hnew heq

/-- Between points that are there a connection is made. -/
theorem mem_ends_connect (hsource : e.pointOf? source.component source.point ≠ none)
    (htarget : e.pointOf? target.component target.point ≠ none) (transform? : Option Transform) :
    (source, target) ∈ (e.connect source target transform?).2.graph.ends := by
  rw [connect, checkPoint_eq_ok_iff.mpr hsource, checkPoint_eq_ok_iff.mpr htarget]
  change _ ∈ (e.graph.connect source target transform?).2.ends
  rw [Graph.ends_connect]
  exact List.mem_append_right _ List.mem_cons_self

/-- Connecting automatically keeps a graph simple and its connections. -/
theorem simple_autoConnect (h : e.graph.Simple) (components : List String) :
    (e.autoConnect components).2.graph.Simple ∧
      e.graph.ends ⊆ (e.autoConnect components).2.graph.ends := by
  have hconnectable : Connectable e.graph (e.proposals components) := connectable_propose ..
  rw [autoConnect_snd]
  generalize e.proposals components = proposals at hconnectable
  induction proposals generalizing e with
  | nil => exact ⟨h, List.Subset.refl _⟩
  | cons p rest ih =>
      have hends := e.ends_connect p.source p.target (p.transform?.bind Transform.ofSpec?)
      obtain ⟨hsimple, hsub⟩ := ih (simple_connect h (hconnectable.fresh p List.mem_cons_self) _)
        (hconnectable.tail hends)
      refine ⟨hsimple, List.Subset.trans ?_ hsub⟩
      rcases hends with heq | heq
      · exact heq ▸ List.Subset.refl _
      · exact heq ▸ List.subset_append_left _ _

end Engine

end WidgetFlow
