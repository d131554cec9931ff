import TunnelKeeper.Proofs.Keeper.Step
import TunnelKeeper.Service.Job

/-!
# How jobs end

A job that runs without gaps goes on from where its first part ended, and a step of the keeper in it
leaves the service as the step leaves the keeper.
-/
namespace TunnelKeeper.Job
open TunnelKeeper

variable {α β : Type} {s : Service}

/-- What holds of the answer of a job and of the service that it leaves. -/
def Ends (j : Job α) (s : Service) (R : Except ServiceError α → Service → Prop) : Prop :=
  R (j.run s).1 (j.run s).2

theorem Ends.mono {j : Job α} {R R' : Except ServiceError α → Service → Prop} (h : j.Ends s R)
    (hR : ∀ r t, R r t → R' r t) : j.Ends s R' :=
  hR _ _ h

theorem Ends.of_run {j : Job α} {t : Service} {r : Except ServiceError α}
    {R : Except ServiceError α → Service → Prop} (h : j.Ends s R) (run : j.run s = (r, t)) :
    R r t := by
  unfold Ends at h
  rw [run] at h
  exact h

theorem ends_bind {j : Job α} {f : α → Job β} {R : Except ServiceError β → Service → Prop} :
    (j >>= f).Ends s R ↔ j.Ends s fun r t =>
      match r with
      | .ok a => (f a).Ends t R
      | .error e => R (.error e) t := by
  change R ((j.bind f).run s).1 ((j.bind f).run s).2 ↔ _
  unfold Ends
  rw [run_bind]
  rcases j.run s with ⟨_ | _, t⟩ <;> rfl

theorem ends_attempt {step : Step α}
    {R : Except ServiceError (Except KeeperError α) → Service → Prop} :
    (attempt step).Ends s R ↔
      Effect.Ends step s.keeper fun r k => R (.ok r) { s with keeper := k } := Iff.rfl

theorem ends_keep {step : Step α} {R : Except ServiceError α → Service → Prop}
    (h : Effect.Ends step s.keeper fun r k =>
      match r with
      | .ok a => R (.ok a) { s with keeper := k }
      | .error e => R (.error (.keeper e)) { s with keeper := k }) : (keep step).Ends s R := by
  apply ends_bind.2
  rw [ends_attempt]
  apply h.mono
  intro r k hr
  cases r with
  | ok a => exact hr
  | error e => exact hr

theorem run_keep {step : Step α} {r : Except KeeperError α} {k : Keeper}
    (h : step.run.run s.keeper = (r, k)) :
    (keep step).run s = (r.mapError .keeper, { s with keeper := k }) := by
  change ((attempt step).bind ofExcept).run s = _
  rw [run_bind, attempt, run]
  simp only [h, run]
  cases r <;> rfl

theorem run_look (f : Memory → Except KeeperError α) (s : Service) :
    (look f).run s = ((f s.keeper.memory).mapError .keeper, s) :=
  run_keep ((Step.ends_look (R := fun r k => (r, k) = (f s.keeper.memory, s.keeper))).2 rfl)

theorem run_look_bind (f : Memory → Except KeeperError α) (next : α → Job β) (s : Service) :
    (look f >>= next).run s =
      match f s.keeper.memory with
      | .ok a => (next a).run s
      | .error e => (.error (.keeper e), s) := by
  change ((look f).bind next).run s = _
  rw [run_bind, run_look]
  cases f s.keeper.memory <;> rfl

/-- What holds of the keeper after a step holds of it after the job, and what follows goes on. -/
theorem keep_then {step : Step α} {next : α → Job β} {P : Keeper → Prop}
    (h : Effect.Ends step s.keeper fun r k =>
      match r with
      | .ok a => (next a).Ends { s with keeper := k } fun _ t => P t.keeper
      | .error _ => P k) : (keep step >>= next).Ends s fun _ t => P t.keeper := by
  rw [ends_bind]
  apply ends_keep
  apply h.mono
  intro r k hr
  cases r with
  | ok a => exact hr
  | error e => exact hr

theorem look_then {f : Memory → Except KeeperError α} {next : α → Job β}
    {R : Except ServiceError β → Service → Prop}
    (failed : ∀ e, f s.keeper.memory = .error e → R (.error (.keeper e)) s)
    (ok : ∀ a, f s.keeper.memory = .ok a → (next a).Ends s R) : (look f >>= next).Ends s R := by
  rw [ends_bind]
  apply ends_keep
  rw [Step.ends_look]
  cases h : f s.keeper.memory with
  | error e => exact failed e h
  | ok a => exact ok a h

/-- A look does not change what holds of the keeper. -/
theorem ends_look {f : Memory → Except KeeperError α} {P : Keeper → Prop} (h : P s.keeper) :
    (look f).Ends s fun _ t => P t.keeper := by
  apply ends_keep
  rw [Step.ends_look]
  cases f s.keeper.memory with
  | error e => exact h
  | ok a => exact h

theorem attempt_look_then {f : Memory → Except KeeperError α} {next : Except KeeperError α → Job β}
    {R : Except ServiceError β → Service → Prop} (h : (next (f s.keeper.memory)).Ends s R) :
    (attempt (Step.look f) >>= next).Ends s R :=
  ends_bind.2 (ends_attempt.2 (Step.ends_look.2 h))

end TunnelKeeper.Job
