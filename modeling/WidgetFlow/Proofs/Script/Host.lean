import WidgetFlow.Proofs.Script.Walk

/-!
# What a run of handler code does to its host

Handler code reaches its host through a handful of calls. `Script.Respects R` says that each of them
keeps a relation `R` between the host before and the host after; then so does every run of a
handler, whether it succeeds or fails and wherever it stops.

`Run.Within R run` is this statement for one computation. It passes on, so that the walk through the
syntax tree gives it for all of them.

## Main results

* `Respects.walks`: what every host call keeps passes on.
* `Handler.run_within`: a run of a handler keeps what every host call keeps.
-/

namespace WidgetFlow.Script

variable {σ : Type} {α β : Type}

/-- Every call of a host keeps a relation between the host before and the host after. -/
structure Respects [Host σ] (R : σ → σ → Prop) : Prop where
  refl : ∀ h, R h h
  trans : ∀ {a b c}, R a b → R b c → R a c
  setProperty : ∀ h id key v, R h (View.setProperty h id key v).2
  setStyle : ∀ h id property v, R h (View.setStyle h id property v).2
  addClass : ∀ h id name, R h (View.addClass h id name).2
  removeClass : ∀ h id name, R h (View.removeClass h id name).2
  setHidden : ∀ h id hidden, R h (View.setHidden h id hidden).2
  emit : ∀ h component point v, R h (Host.emit h component point v)
  log : ∀ h line, R h (Host.log h line)

/-- A computation keeps a relation between the host before and the host after, however it ends. -/
def Run.Within (R : σ → σ → Prop) (run : Run σ α) : Prop := ∀ s, R s.host (run s).2.host

section Walk

variable [Host σ] {R : σ → σ → Prop} (hR : Respects R)

include hR

/-- Every write through a handle keeps the relation. -/
theorem Respects.write (h : σ) (id : String) (w : HandleWrite) : R h (w.run h id).2 := by
  cases w with
  | setProperty key v => exact hR.setProperty h id key v
  | setStyle key v => exact hR.setStyle h id key v
  | addClass name => exact hR.addClass h id name
  | removeClass name => exact hR.removeClass h id name
  | setHidden hidden => exact hR.setHidden h id hidden
  | emit point v => exact hR.emit h id point v

/-- Two computations one after the other keep the relation if both do. -/
theorem Respects.bind {run : Run σ α} {next : α → Run σ β} (h : Run.Within R run)
    (hnext : ∀ a, Run.Within R (next a)) : Run.Within R (run >>= next) := fun s => by
  have hrun := h s
  rw [Run.bind_apply]
  generalize run s = out at hrun ⊢
  obtain ⟨result, t⟩ := out
  cases result with
  | error e =>
      exact hrun
  | ok a =>
      exact hR.trans hrun (hnext a t)

/-- Writes to each of some components keep the relation. -/
theorem Respects.writeEach (ids : List String) (w : HandleWrite) :
    Run.Within R (Run.writeEach ids fun h id => w.run h id) := fun s =>
  List.foldlRecOn (motive := fun t : Session σ => R s.host t.host) ids _ (hR.refl s.host)
    fun t ht id _ => hR.trans ht (hR.write t.host id w)

/-- What every host call keeps passes on. -/
theorem Respects.walks : Walks fun _ run => Run.Within R run where
  aside h s := by
    rw [(h.host s).1]
    exact hR.refl s.host
  bind h hnext := hR.bind h hnext
  inScope h s := h s.push
  select arg s := by
    have hhost : (select arg s).2.host = s.host := by
      unfold select
      split <;> rfl
    rw [hhost]
    exact hR.refl s.host
  read _ _ s := hR.refl s.host
  write ids w := hR.writeEach ids w
  log line s := hR.log s.host line

end Walk

/-! ### Handlers -/

/-- Handlers start on the host they are given. -/
theorem Handler.host_session [Host σ] (h : Handler) (call : Invocation) (host : σ) :
    (h.session call host).host = host :=
  List.foldlRecOn (motive := fun s : Session σ => s.host = host) _ _ rfl fun _ hs _ _ => hs

/-- A run of a handler keeps what every host call keeps, whether it succeeds or fails. -/
theorem Handler.run_within [Host σ] {R : σ → σ → Prop} (hR : Respects R) (h : Handler)
    (call : Invocation) (host : σ) : R host (h.run call host).2 := by
  have hrun := runProgram_walks hR.walks h.body (h.session call host)
  rw [Handler.host_session] at hrun
  exact hrun

end WidgetFlow.Script
