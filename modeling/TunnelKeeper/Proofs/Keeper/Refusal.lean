import TunnelKeeper.Proofs.Keeper.Run

/-!
# Refused operations

An operation that is refused has asked nothing of the kernel, has written nothing and has left
memory as it was. Saving several peers is not one operation in this sense: what was saved before
the peer that is refused stays saved, exactly as if only that had been asked for.
-/
namespace TunnelKeeper.Keeper
open TunnelKeeper Effect

/-- The operations that are never refused half way. -/
inductive Operation where
  | createInterface (id : InterfaceId)
  | updateInterface (i : Interface)
  | deleteInterface (id : InterfaceId)
  | applyDefaults (id : InterfaceId)
  | savePeer (p : Peer)
  | removePeer (id : PeerId)
  | importInterface (c : ImportCandidate)

def Operation.step : Operation → Step Unit
  | .createInterface id => Keeper.createInterface id
  | .updateInterface i => Keeper.updateInterface i
  | .deleteInterface id => Keeper.deleteInterface id
  | .applyDefaults id => Keeper.applyDefaults id
  | .savePeer p => Keeper.savePeer p
  | .removePeer id => Keeper.removePeer id
  | .importInterface c => Keeper.importInterface c

def Operation.Outcome (s : Keeper) : Operation → Except KeeperError Unit → Keeper → Prop
  | .createInterface id => CreateInterfaceEnds id s
  | .updateInterface i => UpdateInterfaceEnds i s
  | .deleteInterface id => DeleteInterfaceEnds id s
  | .applyDefaults id => ApplyDefaultsEnds id s
  | .savePeer p => SavePeerEnds p s
  | .removePeer id => RemovePeerEnds id s
  | .importInterface c => ImportInterfaceEnds c s

theorem Operation.ends (op : Operation) (s : Keeper) : Ends op.step s (op.Outcome s) := by
  cases op with
  | createInterface id => exact createInterface_ends id s
  | updateInterface i => exact updateInterface_ends i s
  | deleteInterface id => exact deleteInterface_ends id s
  | applyDefaults id => exact applyDefaults_ends id s
  | savePeer p => exact savePeer_ends p s
  | removePeer id => exact removePeer_ends id s
  | importInterface c => exact importInterface_ends c s

/-- A refusal comes before everything else that an operation does. -/
theorem eq_of_refused {op : Operation} {s t : Keeper} {e : KeeperError}
    (failed : op.step.run.run s = (.error e, t)) (refusal : e.isRefusal = true) : t = s := by
  have outcome := (op.ends s).of_run failed
  generalize isError : Except.error e = r at outcome
  cases op <;> cases outcome with
  | refused => rfl
  -- Every other way to fail blames the kernel or the store.
  | _ => cases isError <;> contradiction

section

variable {s t : Keeper} {e : KeeperError}

/-- Creating an interface is refused for its name or because it is managed already. -/
theorem refusal_of_createInterface {id : InterfaceId}
    (failed : (createInterface id).run.run s = (.error e, t)) (refusal : e.isRefusal = true) :
    checkDeviceName id = .error e ∨
      e = .interfaceExists id ∧ s.memory.interfaces.contains id = true := by
  have ends : Ends (createInterface id) s fun r _ => ∀ e, r = .error e → e.isRefusal = true →
      checkDeviceName id = .error e ∨
        e = .interfaceExists id ∧ s.memory.interfaces.contains id = true := by
    unfold createInterface
    apply Step.check_then
    · rintro e he _ ⟨⟩ _
      exact .inl he
    intro _ _
    apply requireAbsent_then
    · rintro present _ ⟨⟩ _
      exact .inr ⟨rfl, present⟩
    intro _
    apply Step.askKernel_then
    · rintro _ _ _ _ ⟨⟩ ⟨⟩
    intro _ _ _
    apply Step.askKernel_then
    · rintro _ _ _ _ ⟨⟩ ⟨⟩
    intro _ _ _
    apply Step.askKernel_then
    · rintro _ _ _ _ ⟨⟩ ⟨⟩
    intro _ _ _
    apply Step.changeMemory_then
    apply Step.ends_persist (c := .saveInterface { id := id })
    · exact fun _ _ => nofun
    · rintro _ _ _ ⟨⟩ ⟨⟩
  exact ends.of_run failed e rfl refusal

/-- Updating an interface is refused for its identifier, its addresses or its private key, or
because it is not managed. -/
theorem refusal_of_updateInterface {i : Interface}
    (failed : (updateInterface i).run.run s = (.error e, t)) (refusal : e.isRefusal = true) :
    checkInterfaceId i.id = .error e ∨
      Memory.addressesAt (.interface i.id) i.addresses = .error e ∨ privateKey? i = .error e ∨
      s.memory.interfaces.contains i.id = false := by
  have ends : Ends (updateInterface i) s fun r _ => ∀ e, r = .error e → e.isRefusal = true →
      checkInterfaceId i.id = .error e ∨
        Memory.addressesAt (.interface i.id) i.addresses = .error e ∨ privateKey? i = .error e ∨
        s.memory.interfaces.contains i.id = false := by
    unfold updateInterface
    apply Step.check_then
    · rintro e he _ ⟨⟩ _
      exact .inl he
    intro _ _
    apply Step.check_then
    · rintro e he _ ⟨⟩ _
      exact .inr (.inl he)
    intro addresses _
    apply Step.check_then
    · rintro e he _ ⟨⟩ _
      exact .inr (.inr (.inl he))
    intro privateKey _
    apply requireInterface_then
    · intro unmanaged _ _ _
      exact .inr (.inr (.inr unmanaged))
    intro _
    apply Step.yields_then (yields_pushInterface s i (.any _) addresses privateKey)
    · rintro _ _ _ _ ⟨⟩ ⟨⟩
    intro _ _
    apply Step.changeMemory_then
    apply Step.ends_persist (c := .saveInterface i)
    · exact fun _ _ => nofun
    · rintro _ _ _ ⟨⟩ ⟨⟩
  exact ends.of_run failed e rfl refusal

end

/-- A refused operation leaves kernel, store and memory as they were, and a batch of peers that is
refused at one of them leaves what saving the peers before it leaves. -/
theorem unchanged_of_refused (s : Keeper) {e : KeeperError} (refusal : e.isRefusal = true) :
    (∀ (op : Operation) (t : Keeper), op.step.run.run s = (.error e, t) → t = s) ∧
      ∀ (ps : List Peer) (t : Keeper), (savePeers ps).run.run s = (.error e, t) →
        ∃ done p rest, ps = done ++ p :: rest ∧
          (savePeers done).run.run s = (.ok (), t) ∧ (savePeer p).run.run t = (.error e, t) := by
  constructor
  · intro op t failed
    exact eq_of_refused failed refusal
  · intro ps t failed
    obtain ⟨done, p, rest, u, split, before, refused⟩ := of_forM_eq_error failed
    obtain rfl : t = u := @eq_of_refused (.savePeer p) u t e refused refusal
    exact ⟨done, p, rest, split, before, refused⟩

/-- A device whose last peer has no identifier. -/
def namelessCandidate : ImportCandidate where
  interface := { id := ⟨"wg1"⟩ }
  location := "interface"
  kind := "unknown"
  peers := [{ id := ⟨"b"⟩ }, { id := ⟨""⟩ }]

/-- A prepared peer, and one without an identifier. -/
def namelessBatch : List Peer :=
  [{ id := ⟨"b"⟩, preparedAt := some .epoch, tunnel := { interfaceId := ⟨"wg0"⟩ } }, { id := ⟨""⟩ }]

theorem unchanged_of_refused_nameless :
    ((importInterface namelessCandidate).run.run solo).2 = solo ∧
      ∃ done p rest, namelessBatch = done ++ p :: rest ∧
        ((savePeers done).run.run solo).1 = .ok () ∧
        ((savePeer p).run.run ((savePeers namelessBatch).run.run solo).2).1 =
          .error (.rejected .missingPeerId) := by
  have refusal : (KeeperError.rejected .missingPeerId).isRefusal = true := rfl
  have imported : (importInterface namelessCandidate).run.run solo =
      (.error (.rejected .missingPeerId), solo) := rfl
  have batch : (savePeers namelessBatch).run.run solo =
      (.error (.rejected .missingPeerId), ((savePeers namelessBatch).run.run solo).2) := rfl
  obtain ⟨whole, prefixes⟩ := unchanged_of_refused solo refusal
  obtain ⟨done, p, rest, split, before, refused⟩ := prefixes _ _ batch
  refine ⟨whole (.importInterface namelessCandidate) _ imported, done, p, rest, split, ?_, ?_⟩
  · rw [before]
  · rw [refused]

end TunnelKeeper.Keeper
