import TunnelKeeper.Kernel.Device
import TunnelKeeper.Model.Directory

/-!
# The kernel

The kernel keeps links, addresses and devices by name. Every call is recorded, whether it succeeds
or not. Any call may fail: the fault plan says for each operation whether its next call does, by the
number of calls of that operation since the plan was laid.
-/
namespace TunnelKeeper

inductive KernelError where
  | unsupported
  | linkNotFound (name : String)
  | netlink (text : String)
  | wireguard (text : String)
  | system (text : String)
deriving DecidableEq, Repr

def KernelError.message : KernelError → String
  | .unsupported => "not supported on this platform"
  | .linkNotFound name => s!"link {name} not found"
  | .netlink text => s!"netlink error: {text}"
  | .wireguard text => s!"wireguard control error: {text}"
  | .system text => s!"IO error: {text}"

namespace Kernel
open Net

inductive Operation where
  | linkAdd
  | linkDel
  | linkByName
  | linkSetUp
  | linkSetDown
  | linkSetMtu
  | addrReplace
  | addrAdd
  | addrList
  | devices
  | device
  | configureDevice
deriving DecidableEq, Repr

inductive Call where
  | linkAdd (name : String)
  | linkDel (name : String)
  | linkByName (name : String)
  | linkSetUp (name : String)
  | linkSetDown (name : String)
  | linkSetMtu (name : String) (mtu : UInt32)
  | addrReplace (name : String) (addr : Cidr)
  | addrAdd (name : String) (addr : Cidr)
  | addrList (name : String)
  | devices
  | device (name : String)
  | configureDevice (name : String) (change : DeviceChange)
deriving DecidableEq, Repr

def Call.operation : Call → Operation
  | .linkAdd _ => .linkAdd
  | .linkDel _ => .linkDel
  | .linkByName _ => .linkByName
  | .linkSetUp _ => .linkSetUp
  | .linkSetDown _ => .linkSetDown
  | .linkSetMtu .. => .linkSetMtu
  | .addrReplace .. => .addrReplace
  | .addrAdd .. => .addrAdd
  | .addrList _ => .addrList
  | .devices => .devices
  | .device _ => .device
  | .configureDevice .. => .configureDevice

/-- For each operation, the fault of its n-th call, if it has one. -/
abbrev FaultPlan := Operation → Nat → Option KernelError

def FaultPlan.healthy : FaultPlan := fun _ _ => none

end Kernel

structure Kernel where
  links : Directory .interface Kernel.Link := default
  addresses : Directory .interface (List Net.Cidr) := default
  devices : Directory .interface Kernel.Device := default
  /-- Without tunnel support every call that has no other fault is refused. -/
  supported : Bool := true
  faults : Kernel.FaultPlan := Kernel.FaultPlan.healthy
  /-- The calls since the fault plan was laid, per operation. -/
  made : Kernel.Operation → Nat := fun _ => 0
  calls : List Kernel.Call := []

namespace Kernel
open Net

/-- A request to the kernel: it changes the kernel whether or not it succeeds. -/
abbrev Request (α : Type) := ExceptT KernelError (StateM Kernel) α

def defaultMtu : UInt32 := 1420

def record (k : Kernel) (c : Call) : Kernel :=
  { k with
    calls := k.calls ++ [c]
    made := fun o => if o = c.operation then k.made o + 1 else k.made o }

def fault? (k : Kernel) (c : Call) : Option KernelError :=
  match k.faults c.operation (k.made c.operation) with
  | some e => some e
  | none => if k.supported then none else some .unsupported

/-- Records a call, and fails if a fault meets it. -/
def attempt (c : Call) : Request Unit := do
  let k ← get
  set (k.record c)
  match k.fault? c with
  | some e => throw e
  | none => pure ()

def changeLink (k : Kernel) (name : String) (f : Link → Link) : Kernel :=
  match k.links.find? ⟨name⟩ with
  | some l => { k with links := k.links.insert ⟨name⟩ (f l) }
  | none => k

/-- A new link is up; one of the same name is replaced. -/
def linkAdd (name : String) : Request Unit := do
  attempt (.linkAdd name)
  modify fun k => { k with links := k.links.insert ⟨name⟩ ⟨name, defaultMtu, true⟩ }

/-- Deleting a link that is not there succeeds. -/
def linkDel (name : String) : Request Unit := do
  attempt (.linkDel name)
  modify fun k => { k with links := k.links.erase ⟨name⟩ }

def linkByName (name : String) : Request Link := do
  attempt (.linkByName name)
  match (← get).links.find? ⟨name⟩ with
  | some l => return l
  | none => throw (.linkNotFound name)

def linkSetUp (l : Link) : Request Unit := do
  attempt (.linkSetUp l.name)
  modify fun k => k.changeLink l.name fun l => { l with up := true }

def linkSetDown (l : Link) : Request Unit := do
  attempt (.linkSetDown l.name)
  modify fun k => k.changeLink l.name fun l => { l with up := false }

def linkSetMtu (l : Link) (mtu : UInt32) : Request Unit := do
  attempt (.linkSetMtu l.name mtu)
  modify fun k => k.changeLink l.name fun l => { l with mtu := mtu }

def addrReplace (l : Link) (addr : Cidr) : Request Unit := attempt (.addrReplace l.name addr)

def addrAdd (l : Link) (addr : Cidr) : Request Unit := attempt (.addrAdd l.name addr)

def addrList (l : Link) : Request (List Cidr) := do
  attempt (.addrList l.name)
  return ((← get).addresses.find? ⟨l.name⟩).getD []

def listDevices : Request (List Device) := do
  attempt .devices
  return (← get).devices.records

def device (name : String) : Request Device := do
  attempt (.device name)
  match (← get).devices.find? ⟨name⟩ with
  | some d => return d
  | none => throw (.wireguard s!"no device {name}")

def configureDevice (name : String) (change : DeviceChange) : Request Unit :=
  attempt (.configureDevice name change)

end Kernel

end TunnelKeeper
