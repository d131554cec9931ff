import TunnelKeeper.Proofs.Directory
import TunnelKeeper.Proofs.Kernel.Lost

/-!
# Requests about a link

A request about a link records a call, changes a link that is there, or fails. It fails because a
fault meets the call or because the link is missing, so where no call meets a fault and the link is
there it succeeds. Only the two requests that add and delete a link change which links there are.
-/
namespace TunnelKeeper.Kernel
open TunnelKeeper Effect

/-- Whether no call meets a fault. -/
structure Healthy (k : Kernel) : Prop where
  supported : k.supported = true
  faults : k.faults = FaultPlan.healthy

theorem Healthy.fault?_eq_none {k : Kernel} (h : k.Healthy) (c : Call) : k.fault? c = none := by
  simp [fault?, h.faults, FaultPlan.healthy, h.supported]

def HasLink (name : String) (k : Kernel) : Prop := k.links.contains ⟨name⟩ = true

theorem HasLink.changeLink {name : String} {k : Kernel} (h : k.HasLink name) (n : String)
    (f : Link → Link) : (k.changeLink n f).HasLink name := by
  unfold Kernel.changeLink
  split
  case h_1 l found =>
    change (k.links.insert ⟨n⟩ (f l)).contains ⟨name⟩ = true
    rw [Directory.contains_insert, h, Bool.or_true]
  case h_2 => exact h

/-- What calls keep, and the errors with which they may fail. -/
structure Bounds (I : Kernel → Prop) (E : KernelError → Prop) : Prop where
  record {k : Kernel} (h : I k) (c : Call) : I (k.record c)
  fault {k : Kernel} (h : I k) {c : Call} {e : KernelError} (fault : k.fault? c = some e) : E e

/-- What requests about a link keep, and the errors with which they may fail. -/
structure LinkBounds (name : String) (I : Kernel → Prop) (E : KernelError → Prop) : Prop
    extends Bounds I E where
  changeLink {k : Kernel} (h : I k) (n : String) (f : Link → Link) : I (k.changeLink n f)
  absent {k : Kernel} (h : I k) (absent : k.links.find? ⟨name⟩ = none) : E (.linkNotFound name)

/-- In a healthy kernel no call fails. -/
theorem Bounds.healthy : Bounds Healthy (fun _ => False) where
  record h _ := ⟨h.supported, h.faults⟩
  fault h _ _ fault := by
    rw [h.fault?_eq_none] at fault
    contradiction

namespace LinkBounds

/-- Nothing is known of the kernel. -/
theorem any (name : String) : LinkBounds name (fun _ => True) (fun _ => True) :=
  ⟨⟨fun _ _ => trivial, fun _ _ _ _ => trivial⟩, fun _ _ _ => trivial, fun _ _ => trivial⟩

/-- A link that is there stays there. -/
theorem hasLink (name : String) : LinkBounds name (HasLink name) (fun _ => True) :=
  ⟨⟨fun h _ => h, fun _ _ _ _ => trivial⟩, HasLink.changeLink, fun _ _ => trivial⟩

/-- In a healthy kernel requests about a link that is there do not fail. -/
theorem serving (name : String) :
    LinkBounds name (fun k => k.Healthy ∧ k.HasLink name) (fun _ => False) where
  record h c := ⟨Bounds.healthy.record h.1 c, h.2⟩
  fault h _ _ fault := Bounds.healthy.fault h.1 fault
  changeLink {k} h n f := by
    refine ⟨?_, h.2.changeLink n f⟩
    unfold Kernel.changeLink
    split
    · exact ⟨h.1.supported, h.1.faults⟩
    · exact h.1
  absent {k} h absent := by
    have present : k.links.contains ⟨name⟩ = true := h.2
    rw [Directory.contains_eq_false_iff.2 absent] at present
    contradiction

end LinkBounds

section

variable {I : Kernel → Prop} {E : KernelError → Prop}

theorem yields_attempt (b : Bounds I E) (c : Call) : Yields I (fun _ => True) E (attempt c) := by
  intro k hk
  apply ends_attempt
  · intro _
    exact ⟨b.record hk c, fun _ _ => trivial, nofun⟩
  · intro e fault
    refine ⟨b.record hk c, nofun, ?_⟩
    rintro _ ⟨⟩
    exact b.fault hk fault

/-- A call that changes the kernel where it succeeds. -/
theorem yields_attempt_modify (b : Bounds I E) (c : Call) {f : Kernel → Kernel}
    (h : ∀ k, I k → I (f k)) :
    Yields I (fun _ => True) E (do attempt c; modify f) := by
  apply (yields_attempt b c).bind
  intro _ _ k hk
  exact ends_modify.2 ⟨h k hk, fun _ _ => trivial, nofun⟩

/-- A call that only looks at the kernel where it succeeds. -/
theorem yields_attempt_read {α : Type} {P : α → Prop} (b : Bounds I E) (c : Call) {f : Kernel → α}
    (h : ∀ k, I k → P (f k)) :
    Yields I P E (do attempt c; return f (← get)) := by
  apply (yields_attempt b c).bind
  intro _ _ k hk
  refine ⟨hk, ?_, nofun⟩
  rintro _ ⟨⟩
  exact h k hk

variable {name : String}

/-- A look for a link finds it, unless it is missing. -/
theorem yields_linkByName {P : Link → Prop} (b : Bounds I E)
    (found : ∀ {k l}, I k → k.links.find? ⟨name⟩ = some l → P l)
    (absent : ∀ {k}, I k → k.links.find? ⟨name⟩ = none → E (.linkNotFound name)) :
    Yields I P E (linkByName name) := by
  apply (yields_attempt b _).bind
  intro _ _ k hk
  rw [ends_bind, ends_get, andThen_ok]
  cases hl : k.links.find? ⟨name⟩ with
  | some l =>
    refine ⟨hk, ?_, nofun⟩
    rintro _ ⟨⟩
    exact found hk hl
  | none =>
    refine ⟨hk, nofun, ?_⟩
    rintro _ ⟨⟩
    exact absent hk hl

theorem LinkBounds.yields_linkByName (b : LinkBounds name I E) :
    Yields I (fun _ => True) E (linkByName name) :=
  Kernel.yields_linkByName b.toBounds (fun _ _ => trivial) b.absent

theorem yields_linkSetUp (b : LinkBounds name I E) (l : Link) :
    Yields I (fun _ => True) E (linkSetUp l) :=
  yields_attempt_modify b.toBounds _ fun _ hk => b.changeLink hk _ _

theorem yields_linkSetDown (b : LinkBounds name I E) (l : Link) :
    Yields I (fun _ => True) E (linkSetDown l) :=
  yields_attempt_modify b.toBounds _ fun _ hk => b.changeLink hk _ _

theorem yields_linkSetMtu (b : LinkBounds name I E) (l : Link) (mtu : UInt32) :
    Yields I (fun _ => True) E (linkSetMtu l mtu) :=
  yields_attempt_modify b.toBounds _ fun _ hk => b.changeLink hk _ _

end

/-- A link that was found is there. -/
theorem hasLink_of_linkByName {name : String} {k k' : Kernel} {l : Link}
    (h : (linkByName name).run.run k = (.ok l, k')) : k.HasLink name := by
  have finds : Yields (fun t => t.links = k.links) (fun _ => k.HasLink name) (fun _ => True)
      (linkByName name) := by
    refine yields_linkByName ⟨fun h _ => h, fun _ _ _ _ => trivial⟩ ?_ fun _ _ => trivial
    intro t l same found
    rw [same] at found
    exact Directory.contains_of_find? found
  obtain ⟨-, results, -⟩ := (finds k rfl).of_run h
  exact results l rfl

theorem healthy_linkDel (name : String) :
    Yields Healthy (fun _ => True) (fun _ => False) (linkDel name) :=
  yields_attempt_modify .healthy _ fun _ hk => ⟨hk.supported, hk.faults⟩

theorem healthy_linkAdd (name : String) :
    Yields Healthy (fun _ => True) (fun _ => False) (linkAdd name) :=
  yields_attempt_modify .healthy _ fun _ hk => ⟨hk.supported, hk.faults⟩

def newLink (name : String) : Link := ⟨name, defaultMtu, true⟩

def HasNewLink (name : String) (k : Kernel) : Prop := k.links.find? ⟨name⟩ = some (newLink name)

theorem HasNewLink.hasLink {name : String} {k : Kernel} (h : k.HasNewLink name) :
    k.HasLink name :=
  Directory.contains_of_find? h

theorem hasNewLink_of_linkAdd {name : String} {k k' : Kernel}
    (h : (linkAdd name).run.run k = (.ok (), k')) : k'.HasNewLink name := by
  have ends : Ends (linkAdd name) k fun r t => r = .ok () → t.HasNewLink name := by
    apply ends_bind.2
    apply ends_attempt
    · exact fun _ _ => Directory.find?_insert_self _ _ _
    · exact fun _ _ => nofun
  exact ends.of_run h rfl

theorem newLink_bounds (name : String) : Bounds (HasNewLink name) (fun _ => True) :=
  ⟨fun h _ => h, fun _ _ _ _ => trivial⟩

theorem yields_linkByName_new (name : String) :
    Yields (HasNewLink name) (· = newLink name) (fun _ => True) (linkByName name) := by
  refine yields_linkByName (newLink_bounds name) ?_ fun _ _ => trivial
  intro k l new found
  exact Option.some.inj (found.symm.trans new)

/-- A new link is up already. -/
theorem yields_linkSetUp_new (name : String) :
    Yields (HasNewLink name) (fun _ => True) (fun _ => True) (linkSetUp (newLink name)) := by
  refine yields_attempt_modify (newLink_bounds name) _ fun k new => ?_
  have found : k.links.find? ⟨(newLink name).name⟩ = some (newLink name) := new
  unfold changeLink
  rw [found]
  exact Directory.find?_insert_self _ _ _

end TunnelKeeper.Kernel
