import Mathlib.Logic.Function.Basic
import TunnelKeeper.Proofs.Service.Job

/-!
# Two jobs in turns

Two jobs that are under way at the same time take turns on one service. A turn is one step of a job;
a job that has ended lets its turns pass. Any order of turns may occur.
-/
namespace TunnelKeeper

inductive Side where
  | left
  | right
deriving DecidableEq, Repr

def Side.other : Side → Side
  | .left => .right
  | .right => .left

@[simp] theorem Side.other_other (a : Side) : a.other.other = a := by cases a <;> rfl

@[simp] theorem Side.other_ne (a : Side) : a.other ≠ a := by cases a <;> decide

theorem Side.eq_or_eq_other (a b : Side) : b = a ∨ b = a.other := by
  cases a <;> cases b <;> decide

namespace Job

variable {α β : Type}

/-- The job after its next step, and what the step leaves. -/
def next : Job α → Service → Job α × Service
  | .done a, s => (.done a, s)
  | .fail e, s => (.fail e, s)
  | .call action rest, s => (rest (action s).1, (action s).2)

def answer? : Job α → Option (Except ServiceError α)
  | .done a => some (.ok a)
  | .fail e => some (.error e)
  | .call .. => none

/-- What is left of a job gives the answer of the whole. -/
theorem run_next (j : Job α) (s : Service) : (j.next s).1.run (j.next s).2 = j.run s := by
  cases j <;> rfl

theorem run_of_answer? {j : Job α} {a : Except ServiceError α} (h : j.answer? = some a)
    (s : Service) : j.run s = (a, s) := by
  cases j with
  | done b =>
    cases h
    rfl
  | fail e =>
    cases h
    rfl
  | call => contradiction

theorem next_of_answer? {j : Job α} {a : Except ServiceError α} (h : j.answer? = some a)
    (s : Service) : j.next s = (j, s) := by
  cases j with
  | done b => rfl
  | fail e => rfl
  | call => contradiction

theorem answer?_eq_done_iff {j : Job α} {a : α} : j.answer? = some (.ok a) ↔ j = .done a := by
  cases j <;> simp [answer?]

/-- The turn of a step of the keeper. -/
theorem next_keep (step : Step α) (f : α → Job β) (s : Service) :
    (keep step >>= f).next s =
      match step.run.run s.keeper with
      | (.ok a, k) => (f a, { s with keeper := k })
      | (.error e, k) => (.fail (.keeper e), { s with keeper := k }) := by
  change ((ofExcept (step.run.run s.keeper).1).bind f,
    { s with keeper := (step.run.run s.keeper).2 }) = _
  rcases step.run.run s.keeper with ⟨_ | _, k⟩ <;> rfl

theorem next_look (f : Memory → Except KeeperError α) (g : α → Job β) (s : Service) :
    (look f >>= g).next s =
      match f s.keeper.memory with
      | .ok a => (g a, s)
      | .error e => (.fail (.keeper e), s) := by
  have run : (Step.look f).run.run s.keeper = (f s.keeper.memory, s.keeper) :=
    Step.ends_look (R := fun r k => (r, k) = (f s.keeper.memory, s.keeper)).2 rfl
  rw [look, next_keep, run]
  cases f s.keeper.memory <;> rfl

end Job

/-- Two jobs under way, and what they work on. -/
structure Race (α : Type) where
  job : Side → Job α
  service : Service

namespace Race

variable {α : Type}

def turn (r : Race α) (a : Side) : Race α where
  job := Function.update r.job a ((r.job a).next r.service).1
  service := ((r.job a).next r.service).2

def play (r : Race α) (turns : List Side) : Race α := turns.foldl turn r

theorem play_concat (r : Race α) (turns : List Side) (a : Side) :
    r.play (turns ++ [a]) = (r.play turns).turn a := by
  simp [play]

theorem play_append (r : Race α) (first second : List Side) :
    r.play (first ++ second) = (r.play first).play second := by
  simp [play]

@[simp] theorem job_turn_self (r : Race α) (a : Side) :
    (r.turn a).job a = ((r.job a).next r.service).1 :=
  Function.update_self ..

@[simp] theorem job_turn_other (r : Race α) (a : Side) : (r.turn a).job a.other = r.job a.other :=
  Function.update_of_ne a.other_ne ..

@[simp] theorem job_turn_of_other (r : Race α) (a : Side) : (r.turn a.other).job a = r.job a := by
  have same := r.job_turn_other a.other
  rwa [Side.other_other] at same

theorem turn_of_answer? {r : Race α} {a : Side} {x : Except ServiceError α}
    (h : (r.job a).answer? = some x) : r.turn a = r := by
  cases r
  simp only [turn, Job.next_of_answer? h, Function.update_eq_self]

/-- A job that has ended stays ended. -/
theorem answer?_turn {r : Race α} {a : Side} {x : Except ServiceError α}
    (h : (r.job a).answer? = some x) (b : Side) : ((r.turn b).job a).answer? = some x := by
  rcases b.eq_or_eq_other a with rfl | rfl
  · rw [turn_of_answer? h, h]
  · rw [job_turn_other, h]

theorem job_turn_of_done {r : Race α} {a : Side} {x : α} (h : r.job a = .done x) (b : Side) :
    (r.turn b).job a = .done x :=
  Job.answer?_eq_done_iff.1 (answer?_turn (Job.answer?_eq_done_iff.2 h) b)

theorem answer?_play {r : Race α} {a : Side} {x : Except ServiceError α}
    (h : (r.job a).answer? = some x) (turns : List Side) :
    ((r.play turns).job a).answer? = some x := by
  induction turns generalizing r with
  | nil => exact h
  | cons b turns ih => exact ih (answer?_turn h b)

end Race

end TunnelKeeper
