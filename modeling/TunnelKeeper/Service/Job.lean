import TunnelKeeper.Keeper.Housekeeping
import TunnelKeeper.Keeper.Import
import TunnelKeeper.Key.Basic

/-!
# Jobs

A request of a user is a job: a row of steps, each of which runs alone, with decisions in between.
Other jobs may run their steps in the gaps. Running a job without gaps gives its answer. Besides the
keeper a job works with a source of keys for what is prepared.
-/
namespace TunnelKeeper

inductive ServiceError where
  | keeper (cause : KeeperError)
  | missingFilter
  | noMorePages
  /-- There is no instant as long ago as prepared peers may be kept. -/
  | noSuchInstant
  /-- Background jobs cannot run without a pause between them. -/
  | noInterval
deriving DecidableEq, Repr

def ServiceError.message : ServiceError → String
  | .keeper cause => cause.message
  | .missingFilter => "specify at least an interface or a user filter"
  | .noMorePages => "invalid page offset: no more pages"
  | .noSuchInstant => "instant out of range"
  | .noInterval => "interval must not be zero"

def KeyPair.ofPrivateKey (k : Key) : KeyPair := ⟨k.text, k.publicKey.text⟩

/-- A source of keys, which gives out the n-th pair and the n-th pre-shared key in turn, from 1. -/
structure KeySupply where
  pair : Nat → KeyPair
  presharedKey : Nat → String
  pairsGiven : Nat := 0
  presharedKeysGiven : Nat := 0

/-- The source that is fed with these private and pre-shared keys. -/
def KeySupply.ofKeys (privateKey presharedKey : Nat → Key) : KeySupply where
  pair n := .ofPrivateKey (privateKey n)
  presharedKey n := (presharedKey n).text

/-- What jobs work on. -/
structure Service where
  keeper : Keeper
  keys : KeySupply

/-- A job that answers with an `α` or fails. -/
inductive Job (α : Type) : Type 1 where
  | done (a : α)
  | fail (e : ServiceError)
  | call {β : Type} (action : Service → β × Service) (next : β → Job α)

namespace Job

variable {α β : Type}

def bind (f : α → Job β) : Job α → Job β
  | .done a => f a
  | .fail e => .fail e
  | .call action next => .call action fun b => bind f (next b)

instance : Monad Job where
  pure := .done
  bind t f := t.bind f

theorem bind_done (t : Job α) : t.bind .done = t := by
  induction t with
  | done a => rfl
  | fail e => rfl
  | call action next ih => simp [bind, ih]

theorem bind_assoc {γ : Type} (t : Job α) (f : α → Job β) (g : β → Job γ) :
    (t.bind f).bind g = t.bind fun a => (f a).bind g := by
  induction t with
  | done a => rfl
  | fail e => rfl
  | call action next ih => simp [bind, ih]

instance : LawfulMonad Job :=
  LawfulMonad.mk' Job bind_done (fun _ _ => rfl) bind_assoc

/-- The job with an answer in place of every failure. -/
def recover (answer : ServiceError → α) : Job α → Job α
  | .done a => .done a
  | .fail e => .done (answer e)
  | .call action next => .call action fun b => recover answer (next b)

/-- The answer of a job that runs without gaps, and what it leaves. -/
def run : Job α → Service → Except ServiceError α × Service
  | .done a, s => (.ok a, s)
  | .fail e, s => (.error e, s)
  | .call action next, s => (next (action s).1).run (action s).2

/-- A failure ends the job; otherwise what follows goes on from where the first part left off. -/
theorem run_bind (t : Job α) (f : α → Job β) (s : Service) :
    (t.bind f).run s =
      match t.run s with
      | (.ok a, s') => (f a).run s'
      | (.error e, s') => (.error e, s') := by
  induction t generalizing s with
  | done a => rfl
  | fail e => rfl
  | call action next ih => exact ih (action s).1 (action s).2

/-- Answering failures does not change what a job does. -/
theorem run_recover (answer : ServiceError → α) (t : Job α) (s : Service) :
    (t.recover answer).run s =
      match t.run s with
      | (.ok a, s') => (.ok a, s')
      | (.error e, s') => (.ok (answer e), s') := by
  induction t generalizing s with
  | done a => rfl
  | fail e => rfl
  | call action next ih => exact ih (action s).1 (action s).2

/-- One step of the keeper, whose failure is part of the answer. -/
def attempt (step : Step α) : Job (Except KeeperError α) :=
  .call
    (fun s =>
      let r := step.run.run s.keeper
      (r.1, { s with keeper := r.2 }))
    .done

def ofExcept : Except KeeperError α → Job α
  | .ok a => .done a
  | .error e => .fail (.keeper e)

/-- One step of the keeper, whose failure ends the job. -/
def keep (step : Step α) : Job α := (attempt step).bind ofExcept

/-- A look at what is managed. -/
def look (f : Memory → Except KeeperError α) : Job α := keep (Step.look f)

def now : Job Instant := .call (fun s => (s.keeper.clock, s)) .done

def keyPair : Job KeyPair :=
  .call
    (fun s =>
      let n := s.keys.pairsGiven + 1
      (s.keys.pair n, { s with keys := { s.keys with pairsGiven := n } }))
    .done

def presharedKey : Job String :=
  .call
    (fun s =>
      let n := s.keys.presharedKeysGiven + 1
      (s.keys.presharedKey n, { s with keys := { s.keys with presharedKeysGiven := n } }))
    .done

end Job

end TunnelKeeper
