import TunnelKeeper.Proofs.Keeper.Refusal

/-!
# Operations that the kernel does not let through

An operation that fails because a call to the kernel failed has written nothing, and it has left
memory as it was. Saving a peer is the exception for memory, since a committed peer is filed before
it is pushed. A batch that fails so at one of its peers leaves what saving the peers before it
leaves, and in memory the record of that peer.
-/
namespace TunnelKeeper.Keeper
open TunnelKeeper Effect

variable {s t : Keeper} {step : KernelStep} {target : String} {cause : KernelError}

/-- The kernel comes before memory and store, except that a peer is filed before it is pushed. -/
theorem same_of_kernelFault {op : Operation} (filesLast : ∀ p, op ≠ .savePeer p)
    (failed : op.step.run.run s = (.error (.kernel step target cause), t)) :
    t.memory = s.memory ∧ t.store = s.store := by
  have outcome := (op.ends s).of_run failed
  generalize isError : Except.error (KeeperError.kernel step target cause) = r at outcome
  cases op with
  | savePeer p => exact absurd rfl (filesLast p)
  | _ =>
    -- The ends that change memory or the store are successes or blame the store.
    cases outcome <;> cases isError <;> exact ⟨rfl, rfl⟩

theorem filed_of_kernelFault {p : Peer}
    (failed : (savePeer p).run.run s = (.error (.kernel step target cause), t)) :
    t.memory = s.memory.addPeer p.tunnel.interfaceId p ∧ t.store = s.store := by
  have ends := (savePeer_ends p s).of_run failed
  cases ends with
  | refused h => contradiction
  | notPushed => exact ⟨rfl, rfl⟩

/-- An operation that fails in the kernel leaves memory and store, the record of attempted writes
included, as they were. A batch that fails in the kernel at one of its peers leaves the store as
saving the peers before it leaves it, and memory too but for that peer. -/
theorem unwritten_of_kernelFault (s : Keeper) {step : KernelStep} {target : String}
    {cause : KernelError} :
    (∀ (op : Operation) (t : Keeper), (∀ p, op ≠ .savePeer p) →
        op.step.run.run s = (.error (.kernel step target cause), t) →
          t.memory = s.memory ∧ t.store = s.store) ∧
      ∀ (ps : List Peer) (t : Keeper),
        (savePeers ps).run.run s = (.error (.kernel step target cause), t) →
          ∃ done p rest u, ps = done ++ p :: rest ∧ (savePeers done).run.run s = (.ok (), u) ∧
            (savePeer p).run.run u = (.error (.kernel step target cause), t) ∧
            t.memory = u.memory.addPeer p.tunnel.interfaceId p ∧ t.store = u.store := by
  constructor
  · intro op t filesLast failed
    exact same_of_kernelFault filesLast failed
  · intro ps t failed
    obtain ⟨done, p, rest, u, split, before, stopped⟩ := of_forM_eq_error failed
    exact ⟨done, p, rest, u, split, before, stopped, filed_of_kernelFault stopped⟩

def Surroundings.rigid : Surroundings where
  kernel :=
    { links := (default : Directory .interface Kernel.Link).insert ⟨"wg0"⟩ ⟨"wg0", 1420, true⟩
      faults := fun o _ => if o = .configureDevice then some .unsupported else none }
  clock := .epoch
  storeFaults := .healthy

def unpushedInterface : Interface := { id := ⟨"wg0"⟩, addresses := "10.0.0.1/24" }

def unpushedBatch : List Peer :=
  [{ id := ⟨"b"⟩, preparedAt := some .epoch, tunnel := { interfaceId := ⟨"wg0"⟩ } },
    { id := ⟨"c"⟩
      keys := { publicKey := "AAAAAAAAAAAAAAAAAAAAAAAAAAAAAAAAAAAAAAAAAAA=" }
      tunnel := { interfaceId := ⟨"wg0"⟩ } },
    { id := ⟨"d"⟩, preparedAt := some .epoch, tunnel := { interfaceId := ⟨"wg0"⟩ } }]

theorem unwritten_of_kernelFault_rigid :
    (∃ t, (updateInterface unpushedInterface).run.run (solo.within .rigid) =
          (.error (.kernel .configureDevice "wg0" .unsupported), t) ∧
        t.memory = (solo.within .rigid).memory ∧ t.store = (solo.within .rigid).store) ∧
      ∃ done p rest u t, unpushedBatch = done ++ p :: rest ∧
        (savePeers unpushedBatch).run.run (solo.within .rigid) =
          (.error (.kernel .configurePeer "c" .unsupported), t) ∧
        (savePeers done).run.run (solo.within .rigid) = (.ok (), u) ∧
        t.memory = u.memory.addPeer p.tunnel.interfaceId p ∧ t.store = u.store := by
  have updated : ((updateInterface unpushedInterface).run.run (solo.within .rigid)).1 =
      .error (.kernel .configureDevice "wg0" .unsupported) := by
    decide +kernel
  have saved : ((savePeers unpushedBatch).run.run (solo.within .rigid)).1 =
      .error (.kernel .configurePeer "c" .unsupported) := by
    decide +kernel
  have pushed (p : Peer) : Operation.updateInterface unpushedInterface ≠ .savePeer p := by simp
  constructor
  · rcases run : (updateInterface unpushedInterface).run.run (solo.within .rigid) with ⟨r, t⟩
    rw [run] at updated
    subst updated
    exact ⟨t, rfl, (unwritten_of_kernelFault _).1 (.updateInterface unpushedInterface) t pushed run⟩
  · rcases run : (savePeers unpushedBatch).run.run (solo.within .rigid) with ⟨r, t⟩
    rw [run] at saved
    subst saved
    obtain ⟨done, p, rest, u, split, before, -, left⟩ := (unwritten_of_kernelFault _).2 _ t run
    exact ⟨done, p, rest, u, t, split, rfl, before, left⟩

end TunnelKeeper.Keeper
