import WidgetFlow.Proofs.Engine.Trail
import WidgetFlow.Proofs.Script.Host

/-!
# A handler accounts for what it changes

Handler code changes instances in two ways. It writes to them through handles, and notes the ones it
wrote to; and it emits, upon which values travel over connections and behaviors that hear them write
in turn, as deep as emissions may nest. The first is noted by the evaluator, separately for each
kind of write, and the second is told by the events.

`Run.Account run s events` says of one computation that these two together account for every
instance it changed. It passes on along the syntax tree: two computations record their events one
after the other, and what the first one notes is still noted after the second.

## Main results

* `HandleWrite.trail`: a write through a handle changes its component, or else what values come to.
* `accounted_walks`, `Handler.account`: every computation accounts for what it changes.
* `accounted_run`: so does every run of a handler.
-/

namespace WidgetFlow

open Script

namespace Engine

/-! ### Writes through a handle -/

/-- Writing to the store changes the component that is written to, if it is there. -/
theorem writing_trail (write : Store → Bool × Store) (id : String)
    (hfound : ∀ s, (write s).1 = s.contains id) (hwrites : ∀ s : Store, s.Writes (write s).2)
    (hne : ∀ s key, id ≠ key → (write s).2.get? key = s.get? key) (e : Engine) :
    Trail (fun e => (e.writing (write e.instances)).2) e
      (fun key => id = key ∧ (write e.instances).1 = true) [] := by
  refine .write (fun s => (write s).2) fun key hdue => ?_
  by_cases hkey : id = key
  · subst hkey
    have hgone : e.instances.contains id = false :=
      (hfound _).symm.trans (Bool.eq_false_iff.mpr fun htrue => hdue ⟨rfl, htrue⟩)
    have hgone' : (write e.instances).2.contains id = false :=
      ((hwrites _).contains id).trans hgone
    exact (Store.contains_eq_false_iff.mp hgone').trans (Store.contains_eq_false_iff.mp hgone).symm
  · exact hne _ key hkey

/-- Presenting a component otherwise changes this component, if it is there. -/
theorem present_trail (id : String) (change : Presentation → Presentation) (e : Engine) :
    Trail (fun e => (e.writing (e.instances.present id change)).2) e
      (fun key => id = key ∧ (e.instances.present id change).1 = true) [] :=
  writing_trail (fun s => s.present id change) id (fun _ => Store.mutate_fst)
    (fun _ => .of_present) (fun _ _ hne => Store.get?_mutate_of_ne hne) e

end Engine

/-- A write through a handle answers the same whatever the log is. -/
theorem Script.HandleWrite.fst_relog (w : HandleWrite) (e : Engine) (id : String) (log : EventLog) :
    (w.run (e.relog log) id).1 = (w.run e id).1 := by
  cases w <;> rfl

/-- A write through a handle changes its component, if it finds it, and what values come to. -/
theorem Script.HandleWrite.trail (w : HandleWrite) (id : String) (e : Engine) : ∃ events,
    Engine.Trail (fun e => (w.run e id).2) e (fun key => id = key ∧ (w.run e id).1 = true)
      events := by
  cases w with
  | setProperty key v =>
      exact ⟨[], Engine.writing_trail (fun s => View.setProperty s id key v) id
        (fun s => congrArg Prod.fst (Store.view_setProperty s id key v))
        (fun _ => .of_setProperty) (fun _ _ hne => Store.get?_setProperty_of_ne hne) e⟩
  | setStyle key v => exact ⟨[], Engine.present_trail id _ e⟩
  | addClass name => exact ⟨[], Engine.present_trail id _ e⟩
  | removeClass name => exact ⟨[], Engine.present_trail id _ e⟩
  | setHidden hidden => exact ⟨[], Engine.present_trail id _ e⟩
  | emit point v => exact (e.emitSilently_trail ⟨id, point⟩ v).imp fun _ h => h.weaken _

namespace Script

variable {α β : Type}

/-! ### Computations -/

/-- A session on an engine with another log. -/
def Session.relog (s : Session Engine) (log : EventLog) : Session Engine :=
  s.with (s.host.relog log) s.touched

/-- A computation records some events, whatever the log, and notes more components as written. An
instance that is neither noted nor reached is the same afterwards, and the applications heard what
the events say. -/
structure Run.Account (run : Run Engine α) (s : Session Engine) (events : List Event) : Prop where
  records : ∀ log, run (s.relog log) = ((run s).1, (run s).2.relog (log.recordAll events))
  touched : s.touched ⊆ (run s).2.touched
  accounts : ∀ id, id ∉ (run s).2.touched → ¬ Reached events id →
    (run s).2.host.instances.get? id = s.host.instances.get? id
  heard : s.host.behaviors.Heard events (run s).2.host.behaviors

/-- A computation accounts for what it changes in every session. -/
def Run.Accounted (run : Run Engine α) : Prop := ∀ s, ∃ events, run.Account s events

namespace Run

variable {run : Run Engine α} {next : α → Run Engine β} {s : Session Engine} {a : α}
  {events events' : List Event}

/-- Nothing comes after a failure. -/
theorem bind_of_error {e : RunError} (h : (run s).1 = .error e) :
    (run >>= next) s = (.error e, (run s).2) := by
  change ExceptT.bindCont next (run s).1 (run s).2 = _
  rw [h]
  rfl

/-- What comes after a result. -/
theorem bind_of_ok (h : (run s).1 = .ok a) : (run >>= next) s = next a (run s).2 := by
  change ExceptT.bindCont next (run s).1 (run s).2 = _
  rw [h]
  rfl

/-- A computation that fails accounts for what it changed up to then. -/
theorem Account.bind_error {e : RunError} (h : run.Account s events) (he : (run s).1 = .error e) :
    (run >>= next).Account s events := by
  have hbind : (run >>= next) s = (.error e, (run s).2) := bind_of_error he
  refine ⟨fun log => ?_, ?_, fun id => ?_, ?_⟩
  · have he' : (run (s.relog log)).1 = .error e := (congrArg Prod.fst (h.records log)).trans he
    rw [hbind, bind_of_error he', h.records]
  · rw [hbind]
    exact h.touched
  · rw [hbind]
    exact h.accounts id
  · rw [hbind]
    exact h.heard

/-- Two computations one after the other account for what they change. -/
theorem Account.bind_ok (h : run.Account s events) (ha : (run s).1 = .ok a)
    (h' : (next a).Account (run s).2 events') : (run >>= next).Account s (events ++ events') := by
  have hbind : (run >>= next) s = next a (run s).2 := bind_of_ok ha
  refine ⟨fun log => ?_, ?_, fun id hid hreached => ?_, ?_⟩
  · have ha' : (run (s.relog log)).1 = .ok a := (congrArg Prod.fst (h.records log)).trans ha
    rw [hbind, bind_of_ok ha', h.records, EventLog.recordAll_append]
    exact h'.records (log.recordAll events)
  · rw [hbind]
    exact List.Subset.trans h.touched h'.touched
  · rw [hbind] at hid ⊢
    obtain ⟨hfirst, hrest⟩ := not_or.mp (mt reached_append.mpr hreached)
    have hnoted : id ∉ (run s).2.touched := fun hmem => hid (h'.touched hmem)
    exact (h'.accounts id hid hrest).trans (h.accounts id hnoted hfirst)
  · rw [hbind]
    exact h.heard.trans h'.heard

/-- Two computations one after the other account for what they change if both do. -/
theorem Accounted.bind (h : run.Accounted) (hnext : ∀ a, (next a).Accounted) :
    (run >>= next).Accounted := fun s => by
  obtain ⟨events, hrun⟩ := h s
  cases hresult : (run s).1 with
  | error e => exact ⟨events, hrun.bind_error hresult⟩
  | ok a =>
      obtain ⟨events', hrest⟩ := hnext a (run s).2
      exact ⟨events ++ events', hrun.bind_ok hresult hrest⟩

/-- A computation that leaves instances and behaviors alone has nothing to account for. -/
theorem Account.idle (hrecords : ∀ log, run (s.relog log) = ((run s).1, (run s).2.relog log))
    (htouched : (run s).2.touched = s.touched)
    (hinstances : (run s).2.host.instances = s.host.instances)
    (hbehaviors : (run s).2.host.behaviors = s.host.behaviors) : run.Account s [] where
  records := hrecords
  touched := htouched ▸ List.Subset.refl _
  accounts id _ _ := congrArg (·.get? id) hinstances
  heard := hbehaviors ▸ .refl s.host.behaviors

/-- A computation that does not look at the host has nothing to account for. -/
theorem Accounted.of_aside (h : run.Aside) : run.Accounted := fun s => by
  obtain ⟨hhost, htouched⟩ := h.host s
  refine ⟨[], .idle (fun log => ?_) htouched (congrArg (·.instances) hhost)
    (congrArg (·.behaviors) hhost)⟩
  rw [Session.relog, h, Session.relog, hhost, htouched]

/-- One write through a handle. -/
theorem writeOne_apply (id : String) (w : HandleWrite) (s : Session Engine) :
    (Run.writeEach [id] fun h id => w.run h id) s =
      (.ok (), s.with (w.run s.host id).2
        (if (w.run s.host id).1 then insertName id s.touched else s.touched)) := rfl

/-- One write through a handle is accounted for: the component is noted if it was there. -/
theorem accounted_writeOne (id : String) (w : HandleWrite) :
    (Run.writeEach [id] fun h id => w.run h id : Run Engine Unit).Accounted := fun s => by
  obtain ⟨events, htrail⟩ := w.trail id s.host
  have hnoted : ∀ key, (key ∈ s.touched ∨ id = key ∧ (w.run s.host id).1 = true) ↔
      key ∈ if (w.run s.host id).1 then insertName id s.touched else s.touched := by
    intro key
    cases (w.run s.host id).1 with
    | false => simp
    | true => simp [mem_insertName, or_comm, eq_comm]
  refine ⟨events, fun log => ?_, fun key hkey => (hnoted key).mp (.inl hkey),
    fun key hkey hreached => ?_, htrail.heard⟩
  · have hhost : (w.run (s.host.relog log) id).2 =
        (w.run s.host id).2.relog (log.recordAll events) := htrail.records log
    rw [writeOne_apply, writeOne_apply]
    change (_, s.with (w.run (s.host.relog log) id).2
      (if (w.run (s.host.relog log) id).1 then _ else _)) = _
    rw [hhost, w.fst_relog]
    rfl
  · exact htrail.accounts key (fun hdue => hkey ((hnoted key).mp (.inr hdue))) hreached

/-- Writes through a handle are accounted for. -/
theorem accounted_writeEach (ids : List String) (w : HandleWrite) :
    (Run.writeEach ids fun h id => w.run h id : Run Engine Unit).Accounted := by
  induction ids with
  | nil => exact .of_aside fun _ _ _ => rfl
  | cons id rest ih => exact (accounted_writeOne id w).bind fun _ => ih

end Run

/-- The accessor leaves the session alone. -/
theorem snd_select (arg : Option Operand) (s : Session Engine) : (select arg s).2 = s := by
  unfold select
  split <;> rfl

/-- The accessor selects the same whatever the log is. -/
theorem select_relog (arg : Option Operand) (s : Session Engine) (log : EventLog) :
    select arg (s.relog log) = ((select arg s).1, (select arg s).2.relog log) := by
  have hhost : ∀ selector,
      Host.select (s.relog log).host selector = Host.select s.host selector := by
    intro selector
    cases selector <;> rfl
  rw [snd_select]
  unfold select
  split
  · simp only [hhost]
    rfl
  · rfl
  · rfl
  · rfl

/-- Handler code accounts for what it changes: this passes on. -/
theorem accounted_walks : Walks fun _ (run : Run Engine _) => run.Accounted where
  aside h := .of_aside h
  bind h hnext := h.bind hnext
  inScope h s := by
    obtain ⟨events, hrun⟩ := h s.push
    refine ⟨events, fun log => ?_, hrun.touched, hrun.accounts, hrun.heard⟩
    have hpush : (s.relog log).push = s.push.relog log := rfl
    rw [Run.inScope, hpush, hrun.records]
    rfl
  select arg s :=
    ⟨[], .idle (select_relog arg s) (congrArg (·.touched) (snd_select arg s))
      (congrArg (·.host.instances) (snd_select arg s))
      (congrArg (·.host.behaviors) (snd_select arg s))⟩
  read ids r s := by
    refine ⟨[], .idle (fun log => ?_) rfl rfl rfl⟩
    cases r <;> rfl
  write ids w := Run.accounted_writeEach ids w
  log line s := ⟨[], .idle (fun _ => rfl) rfl rfl rfl⟩

/-! ### Handlers -/

/-- Variables are bound in the same way whatever the log is. -/
theorem Session.foldl_bind_relog (s : Session Engine) (log : EventLog)
    (held : List (String × Operand)) :
    held.foldl (fun s p => s.bind p.1 p.2) (s.relog log) =
      (held.foldl (fun s p => s.bind p.1 p.2) s).relog log :=
  List.foldl_hom (fun s : Session Engine => s.relog log) fun _ _ => rfl

/-- A handler starts in the same session whatever the log is. -/
theorem Handler.session_relog (h : Handler) (call : Invocation) (e : Engine) (log : EventLog) :
    h.session call (e.relog log) = (h.session call e).relog log :=
  Session.foldl_bind_relog
    (((Session.start e call.selfId call.maxSteps).bind "event" (.value call.event)).bind
      "accessor" .accessor) log (arguments h.params call.event)

/-- A run of a handler accounts for what it changes, whether it succeeds or fails. -/
theorem Handler.account (h : Handler) (call : Invocation) (e : Engine) :
    ∃ events, (runProgram h.body).Account (h.session call e) events :=
  runProgram_walks accounted_walks h.body (h.session call e)

end Script

namespace Engine

/-- A run of a handler leaves due what it notes, and its answer does not depend on the log. -/
theorem runHandler_trail (h : Handler) (call : Invocation) (e : Engine) : ∃ events,
    Trail (fun e => (h.run call e).2) e
      (fun id => id ∈ (runProgram h.body (h.session call e)).2.touched) events ∧
    ∀ log, (h.run call (e.relog log)).1 = (h.run call e).1 := by
  obtain ⟨events, haccount⟩ := h.account call e
  have hhost : (h.session call e).host = e := h.host_session call e
  have hrecords : ∀ log, runProgram h.body (h.session call (e.relog log)) =
      ((runProgram h.body (h.session call e)).1,
        (runProgram h.body (h.session call e)).2.relog (log.recordAll events)) := fun log =>
    h.session_relog call e log ▸ haccount.records log
  refine ⟨events, ⟨fun log => ?_, fun id hid hreached => ?_, ?_⟩, fun log => ?_⟩
  · exact congrArg (·.2.host) (hrecords log)
  · exact (haccount.accounts id hid hreached).trans (congrArg (·.instances.get? id) hhost)
  · have hheard := haccount.heard
    rw [hhost] at hheard
    exact hheard
  · exact congrArg (fun r => r.1.map fun v => (⟨v.toValue, r.2.touched⟩ : Outcome)) (hrecords log)

/-- An answer that is there is the one of a run that succeeds. -/
theorem ok_of_toOption {α : Type} {result : Except RunError α} {a : α}
    (h : result.toOption = some a) : result = .ok a := by
  cases result with
  | error e => cases h
  | ok b => exact congrArg Except.ok (Option.some.inj h)

/-- A run that succeeds answers with what was noted. -/
theorem touched_outcome {h : Handler} {call : Invocation} {e : Engine} {outcome : Outcome}
    (houtcome : (h.run call e).1 = .ok outcome) :
    outcome.touched = (runProgram h.body (h.session call e)).2.touched := by
  change (runProgram h.body (h.session call e)).1.map _ = .ok outcome at houtcome
  cases hresult : (runProgram h.body (h.session call e)).1 with
  | error err =>
      rw [hresult] at houtcome
      cases houtcome
  | ok v =>
      rw [hresult] at houtcome
      obtain rfl := Except.ok.inj houtcome
      rfl

/-- **A handler accounts for what it changes.** A run of a handler records some events, whatever the
log, and its answer does not depend on the log. If it succeeds, then every instance is noted as
written, or the events tell that a value came to it, or it is the same as before, its revision
included. -/
theorem accounted_run (h : Handler) (call : Invocation) (e : Engine) : ∃ events,
    e.Records (fun e => (h.run call e).2) events ∧
    (∀ log, (h.run call (e.relog log)).1 = (h.run call e).1) ∧
    ∀ outcome, (h.run call e).1 = .ok outcome → ∀ id,
      id ∈ outcome.touched ∨ Reached events id ∨
        (h.run call e).2.instances.get? id = e.instances.get? id := by
  obtain ⟨events, htrail, hanswer⟩ := runHandler_trail h call e
  refine ⟨events, htrail.records, hanswer, fun outcome houtcome id => ?_⟩
  rw [touched_outcome houtcome]
  by_cases hnoted : id ∈ (runProgram h.body (h.session call e)).2.touched
  · exact .inl hnoted
  · by_cases hreached : Reached events id
    · exact .inr (.inl hreached)
    · exact .inr (.inr (htrail.accounts id hnoted hreached))

/-- Two texts and a connection from one to the other. -/
def paired : Engine :=
  { Engine.new {} with
    instances := { instances :=
      [("t", { id := "t", kind := .text, properties := [] }),
       ("u", { id := "u", kind := .text, properties := [] })] }
    graph := {
      connections := [(0, ⟨"c0", ⟨"t", "out"⟩, ⟨"u", "in"⟩, none⟩)]
      index := [("c0", 0)]
      next := 1 } }

/-- Handler code that emits at a point of its own component. -/
def emitter : Handler :=
  ⟨.block, [], [.expr (.call (.member (.call (.var "accessor") [.literal (.str "self")]) "emit")
    [.literal (.str "out"), .literal .null])]⟩

/-- A value that a handler emits at one text is received at the other, which the handler did not
write to. -/
theorem accounted_run_paired :
    ∃ outcome, (emitter.run ⟨.null, some "t", 100⟩ paired).1 = .ok outcome ∧
      outcome.touched = ["t"] ∧ ∃ events,
        paired.Records (fun e => (emitter.run ⟨.null, some "t", 100⟩ e).2) events ∧
          Reached events "u" := by
  have hanswer : ((emitter.run ⟨.null, some "t", 100⟩ paired).1.toOption.map (·.touched)) =
      some ["t"] := by decide +kernel
  obtain ⟨outcome, houtcome, htouched⟩ := Option.map_eq_some_iff.mp hanswer
  have hok := ok_of_toOption houtcome
  obtain ⟨events, hrecords, -, haccount⟩ := accounted_run emitter ⟨.null, some "t", 100⟩ paired
  refine ⟨outcome, hok, htouched, events, hrecords, ?_⟩
  obtain hnoted | hreached | hsame := haccount outcome hok "u"
  · rw [htouched] at hnoted
    exact absurd hnoted (by decide)
  · exact hreached
  · have hbefore : (paired.instances.get? "u").map (·.state.length) = some 0 := rfl
    have hafter : ((emitter.run ⟨.null, some "t", 100⟩ paired).2.instances.get? "u").map
        (·.state.length) = some 1 := by decide +kernel
    rw [hsame, hbefore] at hafter
    exact absurd hafter (by decide)

end Engine

end WidgetFlow
