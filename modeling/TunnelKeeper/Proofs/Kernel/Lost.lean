import TunnelKeeper.Kernel.Basic
import TunnelKeeper.Proofs.Effect

/-!
# Lost changes of devices

A change of a device fails only if a fault meets its call. Between two states of the kernel a change
was lost if one of the calls that changed a device in between met a fault.
-/
namespace TunnelKeeper.Kernel
open TunnelKeeper Effect

/-- Whether a change of a device failed between two states of the kernel. -/
def LostChange (k k' : Kernel) : Prop :=
  ∃ n, k.made .configureDevice ≤ n ∧ n < k'.made .configureDevice ∧
    (k.faults .configureDevice n ≠ none ∨ k.supported = false)

theorem ends_attempt {c : Call} {k : Kernel} {R : Except KernelError Unit → Kernel → Prop}
    (ok : k.fault? c = none → R (.ok ()) (k.record c))
    (failed : ∀ e, k.fault? c = some e → R (.error e) (k.record c)) : Ends (attempt c) k R := by
  rw [attempt, ends_bind, ends_get, andThen_ok, ends_bind, ends_set, andThen_ok]
  cases h : k.fault? c with
  | none => exact ok h
  | some e => exact failed e h

theorem LostChange.of_error {k k' : Kernel} {name : String} {change : DeviceChange}
    {e : KernelError} (h : (configureDevice name change).run.run k = (.error e, k')) :
    LostChange k k' := by
  have ends : Ends (configureDevice name change) k fun r t =>
      ∀ e, r = .error e → LostChange k t := by
    apply ends_attempt
    · intro _ _ ok
      contradiction
    · intro e fault _ _
      have counted : k.made .configureDevice < (k.record (.configureDevice name change)).made
          .configureDevice := by
        simp [record, Call.operation]
      refine ⟨k.made .configureDevice, Nat.le_refl _, counted, ?_⟩
      cases hf : k.faults .configureDevice (k.made .configureDevice) with
      | some e => exact .inl (Option.some_ne_none e)
      | none =>
        have refused : k.supported = false ∧ KernelError.unsupported = e := by
          simpa [fault?, Call.operation, hf] using fault
        exact .inr refused.1
  exact ends.of_run h e rfl

end TunnelKeeper.Kernel
