import TunnelKeeper.Keeper.Import
import TunnelKeeper.Proofs.Kernel.Requests
import TunnelKeeper.Proofs.Store.Change

/-!
# Parts of a step

How the parts end from which the operations are built: a look at memory leaves everything as it is,
a request to the kernel changes the kernel alone, and a write changes the store alone. Each rule
says what has to hold where the part fails and what has to hold of the rest of the step where it
succeeds. A refusal is an error that is found by looking.
-/
namespace TunnelKeeper
open Effect

/-- Whether an operation was refused for what it was asked, and not because something failed. -/
def KeeperError.isRefusal : KeeperError → Bool
  | .interfaceNotFound _ | .peerNotFound _ | .interfaceExists _ => true
  | .rejected _ | .addresses .. | .key .. => true
  | .kernel .. | .persistence .. | .load _ | .exhausted _ => false

def Refuses {α : Type} (r : Except KeeperError α) : Prop := ∀ e, r = .error e → e.isRefusal = true

namespace Refuses

variable {α β : Type}

theorem ok (a : α) : Refuses (.ok a) := fun _ h => nomatch h

theorem error {e : KeeperError} (h : e.isRefusal = true) : Refuses (.error e : Except _ α) := by
  rintro _ ⟨⟩
  exact h

theorem bind {r : Except KeeperError α} {f : α → Except KeeperError β} (h : Refuses r)
    (hf : ∀ a, Refuses (f a)) : Refuses (r >>= f) := by
  cases r with
  | error e => exact error (h e rfl)
  | ok a => exact hf a

theorem map {r : Except KeeperError α} {f : α → β} (h : Refuses r) : Refuses (r.map f) := by
  cases r with
  | error e => exact error (h e rfl)
  | ok a => exact ok (f a)

theorem mapError {ε : Type} {r : Except ε α} {f : ε → KeeperError}
    (h : ∀ e, (f e).isRefusal = true) : Refuses (r.mapError f) := by
  cases r with
  | error e => exact error (h e)
  | ok a => exact ok a

theorem forM {f : β → Except KeeperError Unit} {bs : List β} (h : ∀ b ∈ bs, Refuses (f b)) :
    Refuses (bs.forM f) := by
  induction bs with
  | nil => exact ok ()
  | cons b bs ih =>
    rw [List.forall_mem_cons] at h
    exact bind h.1 fun _ => ih h.2

end Refuses

namespace Step

variable {α β : Type} {s : Keeper} {R : Except KeeperError β → Keeper → Prop}

@[simp] theorem ends_look {f : Memory → Except KeeperError α}
    {R : Except KeeperError α → Keeper → Prop} : Ends (look f) s R ↔ R (f s.memory) s := by
  rw [look, ends_bind, ends_get, andThen_ok]
  cases f s.memory <;> rfl

@[simp] theorem ends_check {r : Except KeeperError α} {R : Except KeeperError α → Keeper → Prop} :
    Ends (check r) s R ↔ R r s :=
  ends_look

@[simp] theorem ends_changeMemory {f : Memory → Memory}
    {R : Except KeeperError Unit → Keeper → Prop} :
    Ends (changeMemory f) s R ↔ R (.ok ()) { s with memory := f s.memory } := Iff.rfl

theorem ends_askKernel {step : KernelStep} {target : String} {r : Kernel.Request α}
    {R : Except KeeperError α → Keeper → Prop}
    (ok : ∀ a k, r.run.run s.kernel = (.ok a, k) → R (.ok a) { s with kernel := k })
    (failed : ∀ e k, r.run.run s.kernel = (.error e, k) →
      R (.error (.kernel step target e)) { s with kernel := k }) :
    Ends (askKernel step target r) s R := by
  rw [askKernel, ends_bind, ends_get, andThen_ok]
  rcases h : r.run.run s.kernel with ⟨_ | _, k⟩
  · exact failed _ k h
  · exact ok _ k h

theorem ends_askStore {fault : StoreError → KeeperError} {r : Store.Request α}
    {R : Except KeeperError α → Keeper → Prop}
    (h : Ends r s.store fun r t =>
      match r with
      | .ok a => R (.ok a) { s with store := t }
      | .error e => R (.error (fault e)) { s with store := t }) :
    Ends (askStore fault r) s R := by
  rw [askStore, ends_bind, ends_get, andThen_ok]
  unfold Ends at h
  rcases hr : r.run.run s.store with ⟨_ | _, t⟩ <;> rw [hr] at h <;> exact h

theorem ends_persist {step : StoreStep} {target : String} {c : Store.Change}
    {R : Except KeeperError Unit → Keeper → Prop}
    (ok : s.store.fault? c = none → R (.ok ()) { s with store := s.store.changed c })
    (failed : ∀ e, s.store.fault? c = some e →
      R (.error (.persistence step target e)) { s with store := s.store.noted c }) :
    Ends (persist step target c.request) s R :=
  ends_askStore (Store.ends_request ok failed)

theorem look_then {f : Memory → Except KeeperError α} {next : α → Step β}
    (failed : ∀ e, f s.memory = .error e → R (.error e) s)
    (ok : ∀ a, f s.memory = .ok a → Ends (next a) s R) : Ends (look f >>= next) s R := by
  rw [ends_bind, ends_look]
  cases h : f s.memory with
  | error e => exact failed e h
  | ok a => exact ok a h

theorem check_then {r : Except KeeperError α} {next : α → Step β}
    (failed : ∀ e, r = .error e → R (.error e) s)
    (ok : ∀ a, r = .ok a → Ends (next a) s R) : Ends (check r >>= next) s R :=
  look_then failed ok

theorem askKernel_then {step : KernelStep} {target : String} {r : Kernel.Request α}
    {next : α → Step β}
    (failed : ∀ e k, r.run.run s.kernel = (.error e, k) →
      R (.error (.kernel step target e)) { s with kernel := k })
    (ok : ∀ a k, r.run.run s.kernel = (.ok a, k) → Ends (next a) { s with kernel := k } R) :
    Ends (askKernel step target r >>= next) s R :=
  ends_bind.2 (ends_askKernel ok failed)

theorem changeMemory_then {f : Memory → Memory} {next : Unit → Step β}
    (h : Ends (next ()) { s with memory := f s.memory } R) :
    Ends (changeMemory f >>= next) s R :=
  ends_bind.2 h

theorem persist_then {step : StoreStep} {target : String} {c : Store.Change} {next : Unit → Step β}
    (failed : ∀ e, s.store.fault? c = some e →
      R (.error (.persistence step target e)) { s with store := s.store.noted c })
    (ok : s.store.fault? c = none → Ends (next ()) { s with store := s.store.changed c } R) :
    Ends (persist step target c.request >>= next) s R :=
  ends_bind.2 (ends_persist ok failed)

/-- The states that differ from a given one in nothing but a kernel that is as required. -/
def WithKernel (s : Keeper) (I : Kernel → Prop) (t : Keeper) : Prop :=
  ∃ k, I k ∧ t = { s with kernel := k }

/-- Errors of requests to the kernel for a target, as far as their causes are admitted. -/
def Blames (target : String) (E : KernelError → Prop) (e : KeeperError) : Prop :=
  ∃ step cause, E cause ∧ e = .kernel step target cause

theorem yields_request {I : Kernel → Prop} {P : α → Prop} {E : KernelError → Prop}
    {r : Kernel.Request α} (h : Yields I P E r) (s : Keeper) (step : KernelStep)
    (target : String) :
    Yields (WithKernel s I) P (Blames target E) (askKernel step target r) := by
  rintro _ ⟨k, hk, rfl⟩
  apply ends_askKernel
  · intro a k' run
    obtain ⟨hk', results, -⟩ := (h k hk).of_run run
    refine ⟨⟨k', hk', rfl⟩, ?_, nofun⟩
    rintro _ ⟨⟩
    exact results a rfl
  · intro e k' run
    obtain ⟨hk', -, errors⟩ := (h k hk).of_run run
    refine ⟨⟨k', hk', rfl⟩, nofun, ?_⟩
    rintro _ ⟨⟩
    exact ⟨step, e, errors e rfl, rfl⟩

/-- A part that changes the kernel alone fails with an error of the kernel, or the rest goes on. -/
theorem bounded_then {x : Step α} {next : α → Step β} {I : Kernel → Prop} {P : α → Prop}
    {E : KernelError → Prop} {target : String} (hs : I s.kernel)
    (h : Yields (WithKernel s I) P (Blames target E) x)
    (failed : ∀ step cause k, I k → E cause →
      R (.error (.kernel step target cause)) { s with kernel := k })
    (ok : ∀ a k, P a → I k → Ends (next a) { s with kernel := k } R) : Ends (x >>= next) s R := by
  rw [ends_bind]
  apply (h s ⟨s.kernel, hs, rfl⟩).mono
  rintro r _ ⟨⟨k, hk, rfl⟩, results, errors⟩
  cases r with
  | ok a => exact ok a k (results a rfl) hk
  | error e =>
    obtain ⟨step, cause, admitted, rfl⟩ := errors e rfl
    exact failed step cause k hk admitted

/-- Two states that differ in nothing but the kernel. -/
def SameButKernel (s t : Keeper) : Prop := ∃ k, t = { s with kernel := k }

def IsKernelError (target : String) (e : KeeperError) : Prop :=
  ∃ step cause, e = .kernel step target cause

/-- What is kept of any kernel is that nothing but the kernel changes. -/
theorem yields_sameButKernel {P : α → Prop} {target : String} {x : Step α}
    (h : Yields (WithKernel s fun _ => True) P (Blames target fun _ => True) x) :
    Yields (SameButKernel s) P (IsKernelError target) x := by
  rintro _ ⟨k, rfl⟩
  apply (h _ ⟨k, trivial, rfl⟩).mono
  rintro r t ⟨⟨k, -, rfl⟩, results, errors⟩
  refine ⟨⟨k, rfl⟩, results, fun e he => ?_⟩
  obtain ⟨step, cause, -, blamed⟩ := errors e he
  exact ⟨step, cause, blamed⟩

theorem yields_askKernel (s : Keeper) (step : KernelStep) (target : String)
    (r : Kernel.Request α) :
    Yields (SameButKernel s) (fun _ => True) (IsKernelError target) (askKernel step target r) := by
  apply yields_sameButKernel
  apply yields_request
  intro k _
  exact ⟨trivial, fun _ _ => trivial, fun _ _ => trivial⟩

theorem yields_then {x : Step α} {next : α → Step β} {P : α → Prop} {target : String}
    (h : Yields (WithKernel s fun _ => True) P (Blames target fun _ => True) x)
    (failed : ∀ step cause k, R (.error (.kernel step target cause)) { s with kernel := k })
    (ok : ∀ a k, Ends (next a) { s with kernel := k } R) : Ends (x >>= next) s R :=
  bounded_then trivial h (fun step cause k _ _ => failed step cause k) fun a k _ _ => ok a k

end Step

/-- Whether a write or a change of a device failed between two states. -/
def Keeper.Lost (s t : Keeper) : Prop := s.store.LostWrite t.store ∨ s.kernel.LostChange t.kernel

end TunnelKeeper
