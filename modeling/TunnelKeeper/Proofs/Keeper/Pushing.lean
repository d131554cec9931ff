import TunnelKeeper.Proofs.Keeper.Health
import TunnelKeeper.Proofs.Kernel.Application

/-!
# The calls that push an interface

Where no call meets a fault, an update of a managed interface opens its link, sets the MTU unless it
is zero, sets the addresses, configures the device and brings the link up or down. The calls depend
on the record and on the name of the link alone. What the store does afterwards makes no difference.
-/
namespace TunnelKeeper
open Effect Step Kernel

namespace Kernel

theorem Healthy.changeLink {k : Kernel} (h : k.Healthy) (n : String) (f : Link → Link) :
    (k.changeLink n f).Healthy := by
  unfold Kernel.changeLink
  split
  · exact ⟨h.supported, h.faults⟩
  · exact h

/-- Whether a request is done in every healthy kernel, by exactly these calls. -/
def Makes (r : Request Unit) (cs : List Call) : Prop :=
  ∀ k : Kernel, k.Healthy → Ends r k fun result k' =>
    result = .ok () ∧ k'.Healthy ∧ k'.calls = k.calls ++ cs

theorem makes_attempt (c : Call) : Makes (attempt c) [c] := by
  intro k hk
  apply ends_attempt
  · intro _
    exact ⟨rfl, Bounds.healthy.record hk c, rfl⟩
  · intro e fault
    rw [hk.fault?_eq_none] at fault
    contradiction

/-- A look for a link that is there. -/
theorem linkByName_found {k : Kernel} {n : String} {l : Link} (hk : k.Healthy)
    (found : k.links.find? ⟨n⟩ = some l) :
    Ends (linkByName n) k fun result k' =>
      result = .ok l ∧ k'.Healthy ∧ k'.calls = k.calls ++ [.linkByName n] := by
  apply ends_bind.2
  apply ends_attempt
  · intro _
    rw [andThen_ok, ends_bind, ends_get, andThen_ok]
    have same : (k.record (.linkByName n)).links.find? ⟨n⟩ = some l := found
    rw [same]
    exact ⟨rfl, Bounds.healthy.record hk _, rfl⟩
  · intro e fault
    rw [hk.fault?_eq_none] at fault
    contradiction

theorem makes_attempt_changeLink (c : Call) (n : String) (f : Link → Link) :
    Makes (do attempt c; modify fun k => k.changeLink n f) [c] := by
  intro k hk
  apply ends_bind.2
  apply (makes_attempt c k hk).mono
  rintro _ k' ⟨rfl, hk', calls⟩
  refine ⟨rfl, hk'.changeLink n f, ?_⟩
  change (k'.changeLink n f).calls = _
  rw [calls_changeLink, calls]

theorem makes_linkSetUp (l : Link) : Makes (linkSetUp l) [.linkSetUp l.name] :=
  makes_attempt_changeLink _ _ _

theorem makes_linkSetDown (l : Link) : Makes (linkSetDown l) [.linkSetDown l.name] :=
  makes_attempt_changeLink _ _ _

theorem makes_linkSetMtu (l : Link) (mtu : UInt32) :
    Makes (linkSetMtu l mtu) [.linkSetMtu l.name mtu] :=
  makes_attempt_changeLink _ _ _

end Kernel

namespace Step

/-- Whether a step is done wherever the kernel is healthy, changing the kernel alone, by exactly
these calls. -/
def Makes (x : Step Unit) (cs : List Call) : Prop :=
  ∀ s : Keeper, s.kernel.Healthy → Ends x s fun result t =>
    result = .ok () ∧ ∃ k : Kernel, k.Healthy ∧ k.calls = s.kernel.calls ++ cs ∧
      t = { s with kernel := k }

theorem makes_pure : Makes (pure ()) [] := by
  intro s hs
  exact ⟨rfl, s.kernel, hs, (List.append_nil _).symm, rfl⟩

theorem makes_request {r : Request Unit} {cs : List Call} (h : Kernel.Makes r cs)
    (step : KernelStep) (target : String) : Makes (askKernel step target r) cs := by
  intro s hs
  apply ends_askKernel
  · intro _ k run
    obtain ⟨-, healthy, calls⟩ := (h s.kernel hs).of_run run
    exact ⟨rfl, k, healthy, calls, rfl⟩
  · intro e k run
    obtain ⟨failed, -⟩ := (h s.kernel hs).of_run run
    cases failed

theorem Makes.bind {x y : Step Unit} {cs ds : List Call} (h : Makes x cs) (h' : Makes y ds) :
    Makes (x >>= fun _ => y) (cs ++ ds) := by
  intro s hs
  apply ends_bind.2
  apply (h s hs).mono
  rintro _ _ ⟨rfl, k, hk, calls, rfl⟩
  rw [andThen_ok]
  apply (h' { s with kernel := k } hk).mono
  rintro _ _ ⟨rfl, k', hk', more, rfl⟩
  refine ⟨rfl, k', hk', ?_, rfl⟩
  rw [more, calls, List.append_assoc]

theorem Makes.forM {α : Type} {f : α → Step Unit} {call : α → Call} (h : ∀ a, Makes (f a) [call a])
    (as : List α) : Makes (as.forM f) (as.map call) := by
  induction as with
  | nil => exact makes_pure
  | cons a as ih => exact (h a).bind ih

end Step

namespace Keeper

/-- The calls that set the addresses of a link, the first one in place of the old ones. -/
def addressCalls (name : String) : List Net.Cidr → List Call
  | [] => []
  | c :: cs => .addrReplace name c :: cs.map (.addrAdd name)

/-- The calls that push to a device, and to the link that is found for it. -/
def pushCalls (device link : String) (mtu : UInt32) (addresses : List Net.Cidr)
    (change : DeviceChange) (up : Bool) : List Call :=
  [.linkByName device] ++ (if mtu = 0 then [] else [.linkSetMtu link mtu]) ++
    addressCalls link addresses ++
    [.configureDevice device change, if up then .linkSetUp link else .linkSetDown link]

theorem makes_setAddresses (target : String) (l : Link) (cs : List Net.Cidr) :
    Makes (setAddresses target l cs) (addressCalls l.name cs) := by
  cases cs with
  | nil => exact makes_pure
  | cons c cs =>
    have first := makes_request (makes_attempt (.addrReplace l.name c)) .setAddress target
    refine first.bind (.forM (fun d => ?_) cs)
    exact makes_request (makes_attempt (.addrAdd l.name d)) .setAddress target

theorem makes_switchLink (i : Interface) (l : Link) :
    Makes (if i.isEnabled then askKernel .enableLink i.id.text (linkSetUp l)
      else askKernel .disableLink i.id.text (linkSetDown l))
      [if i.isEnabled then .linkSetUp l.name else .linkSetDown l.name] := by
  split
  · exact makes_request (makes_linkSetUp l) .enableLink _
  · exact makes_request (makes_linkSetDown l) .disableLink _

/-- A push in a healthy kernel in which the link is found. -/
theorem pushInterface_makes {s : Keeper} {i : Interface} {l : Link} (hs : s.kernel.Healthy)
    (found : s.kernel.links.find? ⟨i.id.text⟩ = some l) (addresses : List Net.Cidr)
    (privateKey : Option Key) :
    Ends (pushInterface i addresses privateKey) s fun result t =>
      result = .ok () ∧ ∃ k : Kernel, t = { s with kernel := k } ∧
        k.calls = s.kernel.calls ++ pushCalls i.id.text l.name i.mtu addresses
          (deviceChange i privateKey) i.isEnabled := by
  have last := ((makes_setAddresses i.id.text l addresses).bind <|
    (makes_request (makes_attempt (.configureDevice i.id.text (deviceChange i privateKey)))
      .configureDevice i.id.text).bind (makes_switchLink i l))
  unfold pushInterface
  apply askKernel_then
  · intro e k run
    obtain ⟨failed, -⟩ := (linkByName_found hs found).of_run run
    cases failed
  intro a k run
  obtain ⟨same, hk, opened⟩ := (linkByName_found hs found).of_run run
  cases same
  -- both ways of going on after the link is found end with the same calls
  have ended {x : Step Unit} {cs : List Call} (h : Makes x cs)
      (all : Call.linkByName i.id.text :: cs = pushCalls i.id.text l.name i.mtu addresses
        (deviceChange i privateKey) i.isEnabled) :
      Ends x { s with kernel := k } fun result t =>
        result = .ok () ∧ ∃ k : Kernel, t = { s with kernel := k } ∧
          k.calls = s.kernel.calls ++ pushCalls i.id.text l.name i.mtu addresses
            (deviceChange i privateKey) i.isEnabled := by
    apply (h _ hk).mono
    rintro _ _ ⟨rfl, k', -, calls, rfl⟩
    refine ⟨rfl, k', rfl, ?_⟩
    rw [calls, opened, ← all, List.append_assoc]
    rfl
  dsimp only
  split
  case isTrue mtu =>
    have first := makes_request (makes_linkSetMtu l i.mtu) .setMtu i.id.text
    apply ended (first.bind last)
    simp [pushCalls, mtu]
  case isFalse unset =>
    apply ended last
    simp [pushCalls, Decidable.not_not.1 unset]

/-- How an update ends in a healthy kernel in which the link is found: refused for want of a name or
of a managed interface, with nothing done, or with these calls, and then only the store may have
failed. -/
inductive PushEnds (s : Keeper) (id : InterfaceId) (cs : List Call) :
    Except KeeperError Unit → Keeper → Prop
  | refused {e : KeeperError} (refusal : e.isRefusal = true)
      (cause : id.isBlank = true ∨ s.memory.interfaces.contains id = false) :
      PushEnds s id cs (.error e) s
  | pushed {result : Except KeeperError Unit} {t : Keeper}
      (failure : ∀ e, result = .error e → e.isPersistence = true)
      (calls : t.kernel.calls = s.kernel.calls ++ cs) : PushEnds s id cs result t

theorem updateInterface_pushEnds {s : Keeper} {i : Interface} {l : Link}
    {addresses : List Net.Cidr} {privateKey : Option Key} (hs : s.kernel.Healthy)
    (found : s.kernel.links.find? ⟨i.id.text⟩ = some l)
    (addressed : Memory.addressesAt (.interface i.id) i.addresses = .ok addresses)
    (keyed : privateKey? i = .ok privateKey) :
    Ends (updateInterface i) s (PushEnds s i.id (pushCalls i.id.text l.name i.mtu addresses
      (deviceChange i privateKey) i.isEnabled)) := by
  unfold updateInterface
  apply check_then
  · intro e unnamed
    rw [checkInterfaceId] at unnamed
    split at unnamed
    case isTrue blank =>
      cases unnamed
      exact .refused rfl (.inl blank)
    case isFalse => cases unnamed
  intro _ _
  apply check_then
  · intro e refused
    cases addressed.symm.trans refused
  intro cs hcs
  cases addressed.symm.trans hcs
  apply check_then
  · intro e refused
    cases keyed.symm.trans refused
  intro key hkey
  cases keyed.symm.trans hkey
  apply requireInterface_then
  · exact fun unmanaged => .refused rfl (.inr unmanaged)
  intro _
  apply ends_bind.2
  apply (pushInterface_makes hs found addresses privateKey).mono
  rintro _ _ ⟨rfl, k, rfl, calls⟩
  rw [andThen_ok]
  apply changeMemory_then
  apply ends_persist (c := .saveInterface i)
  · exact fun _ => .pushed nofun calls
  · intro e _
    apply PushEnds.pushed _ calls
    rintro _ ⟨⟩
    rfl

end Keeper
end TunnelKeeper
