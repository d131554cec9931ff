import TunnelKeeper.Keeper.PeerChange

/-!
# The keeper and its steps

The keeper is what is managed together with the kernel, the store and the clock. An operation is one
step: it runs alone, and it changes the keeper even where it fails later on. Memory is built from
what the store holds.
-/
namespace TunnelKeeper

structure Keeper where
  memory : Memory := {}
  kernel : Kernel := {}
  store : Store := {}
  clock : Instant := .epoch

/-- A step of the keeper that may fail; what it changed before it failed stays changed. -/
abbrev Step (α : Type) := ExceptT KeeperError (StateM Keeper) α

namespace Step

def look {α : Type} (f : Memory → Except KeeperError α) : Step α := do
  match f (← get).memory with
  | .ok a => return a
  | .error e => throw e

def check {α : Type} (r : Except KeeperError α) : Step α := look fun _ => r

def changeMemory (f : Memory → Memory) : Step Unit :=
  modify fun s => { s with memory := f s.memory }

def askKernel {α : Type} (step : KernelStep) (target : String) (r : Kernel.Request α) : Step α := do
  let s ← get
  let (result, kernel) := r.run.run s.kernel
  set { s with kernel := kernel }
  match result with
  | .ok a => return a
  | .error e => throw (.kernel step target e)

def askStore {α : Type} (fault : StoreError → KeeperError) (r : Store.Request α) : Step α := do
  let s ← get
  let (result, store) := r.run.run s.store
  set { s with store := store }
  match result with
  | .ok a => return a
  | .error e => throw (fault e)

def persist (step : StoreStep) (target : String) (r : Store.Request Unit) : Step Unit :=
  askStore (.persistence step target) r

end Step

namespace Keeper

/-- Replaces what is managed by what the store holds; on failure it stays as it was. -/
def load : Step Unit := do
  let ids ← Step.askStore .load Store.interfaceIds
  let loaded ← Step.askStore .load (Store.allInterfaces ids)
  Step.changeMemory fun _ => .ofLoaded loaded

end Keeper

end TunnelKeeper
