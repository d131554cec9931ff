import TunnelKeeper.Proofs.Keeper.Health
import TunnelKeeper.Proofs.Keeper.Refusal
import TunnelKeeper.Proofs.Service.Request

/-!
# How requests for new interfaces end

A request to create an interface is two operations: the bare interface is created, and then it is
updated with the record. The addresses and the private key are looked at in the second of them, and
so a record that is refused for them leaves the bare interface behind. A request to take over a
device looks for the candidates first.
-/
namespace TunnelKeeper.Service
open TunnelKeeper Keeper

variable {s t : Service} {i : Interface}

/-- How the two operations end, one after the other. -/
inductive CreateInterfaceEnds (i : Interface) (s : Service) :
    Except ServiceError Interface → Service → Prop
  | notCreated {e : KeeperError} {k : Keeper}
      (created : (Keeper.createInterface i.id).run.run s.keeper = (.error e, k)) :
      CreateInterfaceEnds i s (.error (.keeper e)) { s with keeper := k }
  | notUpdated {e : KeeperError} {k k' : Keeper}
      (created : (Keeper.createInterface i.id).run.run s.keeper = (.ok (), k))
      (updated : (Keeper.updateInterface i).run.run k = (.error e, k')) :
      CreateInterfaceEnds i s (.error (.keeper e)) { s with keeper := k' }
  | done {k k' : Keeper}
      (created : (Keeper.createInterface i.id).run.run s.keeper = (.ok (), k))
      (updated : (Keeper.updateInterface i).run.run k = (.ok (), k')) :
      CreateInterfaceEnds i s (.ok i) { s with keeper := k' }

/-- How a search and taking over what it found end, one after the other. -/
inductive ImportInterfaceEnds (id : InterfaceId) (s : Service) :
    Except ServiceError Interface → Service → Prop
  | notListed {e : KeeperError} {k : Keeper}
      (listed : Keeper.importCandidates.run.run s.keeper = (.error e, k)) :
      ImportInterfaceEnds id s (.error (.keeper e)) { s with keeper := k }
  | unknown {cs : List ImportCandidate} {k : Keeper}
      (listed : Keeper.importCandidates.run.run s.keeper = (.ok cs, k))
      (missing : (cs.find? fun c => c.interface.id = id) = none) :
      ImportInterfaceEnds id s (.error (.keeper (.interfaceNotFound id))) { s with keeper := k }
  | notImported {cs : List ImportCandidate} {c : ImportCandidate} {e : KeeperError} {k k' : Keeper}
      (listed : Keeper.importCandidates.run.run s.keeper = (.ok cs, k))
      (found : (cs.find? fun c => c.interface.id = id) = some c)
      (imported : (Keeper.importInterface c).run.run k = (.error e, k')) :
      ImportInterfaceEnds id s (.error (.keeper e)) { s with keeper := k' }
  | done {cs : List ImportCandidate} {c : ImportCandidate} {k k' : Keeper}
      (listed : Keeper.importCandidates.run.run s.keeper = (.ok cs, k))
      (found : (cs.find? fun c => c.interface.id = id) = some c)
      (imported : (Keeper.importInterface c).run.run k = (.ok (), k')) :
      ImportInterfaceEnds id s (.ok c.interface) { s with keeper := k' }

theorem createInterface_ends (i : Interface) (s : Service) :
    (createInterface i).Ends s (CreateInterfaceEnds i s) := by
  rcases created : (Keeper.createInterface i.id).run.run s.keeper with ⟨_ | _, k⟩
  case error e =>
    apply Job.ends_bind.2
    apply Job.ends_keep
    unfold Effect.Ends
    rw [created]
    exact .notCreated created
  case ok =>
    apply Job.ends_bind.2
    apply Job.ends_keep
    unfold Effect.Ends
    rw [created]
    apply Job.ends_bind.2
    apply Job.ends_keep
    rcases updated : (Keeper.updateInterface i).run.run k with ⟨_ | _, k'⟩
    all_goals
      unfold Effect.Ends
      rw [updated]
    case error e => exact .notUpdated created updated
    case ok =>
      apply Job.ends_keep
      rw [Step.ends_look]
      cases (updateInterface_ends i k).of_run updated with
      | done =>
        rw [interface_withInterface]
        exact .done created updated

/-- An interface that was taken over is found. -/
theorem interface_of_importInterface {c : ImportCandidate} {s t : Keeper}
    (imported : (Keeper.importInterface c).run.run s = (.ok (), t)) :
    t.memory.interface c.interface.id = .ok c.interface := by
  cases (Keeper.importInterface_ends c s).of_run imported with
  | done =>
    rw [interface_eq_ok_iff, Memory.interfaces_addPeers]
    exact Directory.find?_insert_self _ _ _

/-- The candidate that is found is the one that was asked for. -/
theorem named_of_found {id : InterfaceId} {cs : List ImportCandidate} {c : ImportCandidate}
    (found : (cs.find? fun c => c.interface.id = id) = some c) : c.interface.id = id := by
  simpa using List.find?_some found

theorem importInterface_ends (id : InterfaceId) (s : Service) :
    (importInterface id).Ends s (ImportInterfaceEnds id s) := by
  apply Job.ends_bind.2
  apply Job.ends_keep
  rcases listed : Keeper.importCandidates.run.run s.keeper with ⟨_ | cs, k⟩
  all_goals
    unfold Effect.Ends
    rw [listed]
  case error e => exact .notListed listed
  case ok =>
    dsimp only
    cases found : cs.find? fun c => c.interface.id = id with
    | none => exact .unknown listed found
    | some c =>
      apply Job.ends_bind.2
      apply Job.ends_keep
      rcases imported : (Keeper.importInterface c).run.run k with ⟨_ | _, k'⟩
      all_goals
        unfold Effect.Ends
        rw [imported]
      case error e => exact .notImported listed found imported
      case ok =>
        have filed := interface_of_importInterface imported
        rw [named_of_found found] at filed
        apply Job.ends_keep
        rw [Step.ends_look, filed]
        exact .done listed found imported

theorem named_of_createInterface {id : InterfaceId} {s t : Keeper}
    (created : (Keeper.createInterface id).run.run s = (.ok (), t)) :
    checkDeviceName id = .ok () := by
  have ends : Effect.Ends (Keeper.createInterface id) s
      fun r _ => r = .ok () → checkDeviceName id = .ok () := by
    apply Step.check_then
    · exact fun _ _ => nofun
    · exact fun _ named _ => named
  exact ends.of_run created rfl

/-- The state in which a bare interface has been created. -/
structure Bare (id : InterfaceId) (s t : Keeper) : Prop where
  memory : t.memory = s.memory.addInterface { id := id }
  store : t.store = s.store.changed (.saveInterface { id := id })
  link : t.kernel.HasNewLink id.text

theorem bare_of_createInterface {id : InterfaceId} {s t : Keeper}
    (created : (Keeper.createInterface id).run.run s = (.ok (), t)) : Bare id s t := by
  have link := hasNewLink_of_createInterface created
  cases (Keeper.createInterface_ends id s).of_run created with
  | done => exact ⟨rfl, rfl, link⟩

/-- A refused creation leaves everything as it was where the name is refused or taken, and leaves
the bare interface in the kernel, in memory and in the store where the addresses or the private key
are refused. -/
theorem createInterface_refused {e : KeeperError} (refusal : e.isRefusal = true)
    (failed : (createInterface i).run s = (.error (.keeper e), t)) :
    ((checkDeviceName i.id = .error e ∨
        e = .interfaceExists i.id ∧ s.keeper.memory.interfaces.contains i.id = true) ∧ t = s) ∨
      ((Memory.addressesAt (.interface i.id) i.addresses = .error e ∨ privateKey? i = .error e) ∧
        Bare i.id s.keeper t.keeper) := by
  have ends := (createInterface_ends i s).of_run failed
  generalize isError : Except.error (ServiceError.keeper e) = r at ends
  cases ends with
  | done => contradiction
  | notCreated created =>
    cases isError
    have same := @eq_of_refused (.createInterface i.id) _ _ _ created refusal
    refine .inl ⟨refusal_of_createInterface created refusal, ?_⟩
    rw [same]
  | @notUpdated _ k k' created updated =>
    cases isError
    obtain rfl := @eq_of_refused (.updateInterface i) _ _ _ updated refusal
    have bare := bare_of_createInterface created
    obtain ⟨_, identified, -⟩ := bind_eq_ok_iff.1 (named_of_createInterface created)
    rcases refusal_of_updateInterface updated refusal with reason | reason | reason | reason
    · rw [identified] at reason
      contradiction
    · exact .inr ⟨.inl reason, bare⟩
    · exact .inr ⟨.inr reason, bare⟩
    · rw [bare.memory, Memory.contains_addInterface _ { id := i.id }] at reason
      contradiction

def unreadableAddresses : Interface := { id := ⟨"wg1"⟩, addresses := "nonsense" }

def unreadableKey : Interface := { id := ⟨"wg1"⟩, keys := { privateKey := "nonsense" } }

theorem createInterface_refused_unreadable :
    ∃ e t, e.isRefusal = true ∧
      (createInterface unreadableKey).run solo = (.error (.keeper e), t) ∧
      Bare unreadableKey.id solo.keeper t.keeper := by
  have refusal : (KeeperError.key (.interface ⟨"wg1"⟩) (.length 6)).isRefusal = true := rfl
  have answer : ((createInterface unreadableKey).run solo).1 =
      .error (.keeper (.key (.interface ⟨"wg1"⟩) (.length 6))) := by
    decide +kernel
  have named : checkDeviceName unreadableKey.id = .ok () := rfl
  have absent : solo.keeper.memory.interfaces.contains unreadableKey.id = false := rfl
  rcases run : (createInterface unreadableKey).run solo with ⟨r, t⟩
  rw [run] at answer
  subst answer
  refine ⟨_, t, refusal, rfl, ?_⟩
  rcases createInterface_refused refusal run with ⟨early | ⟨-, present⟩, -⟩ | ⟨-, bare⟩
  · rw [named] at early
    contradiction
  · rw [absent] at present
    contradiction
  · exact bare

def everywhere (id : InterfaceId) (s : Keeper) : Bool × Bool × Bool :=
  (s.kernel.links.contains ⟨id.text⟩, s.memory.interfaces.contains id,
    s.store.records.interfaces.contains id)

/-- An interface whose addresses or whose private key cannot be read is nowhere before the request
that is refused for them, and everywhere after it. -/
theorem createInterface_not_atomic :
    solo.keeper.Started ∧ everywhere ⟨"wg1"⟩ solo.keeper = (false, false, false) ∧
      ((createInterface unreadableAddresses).run solo).1 =
        .error (.keeper (.addresses (.interface ⟨"wg1"⟩) (.missingLength "nonsense"))) ∧
      everywhere ⟨"wg1"⟩ ((createInterface unreadableAddresses).run solo).2.keeper =
        (true, true, true) ∧
      ((createInterface unreadableKey).run solo).1 =
        .error (.keeper (.key (.interface ⟨"wg1"⟩) (.length 6))) ∧
      everywhere ⟨"wg1"⟩ ((createInterface unreadableKey).run solo).2.keeper =
        (true, true, true) := by
  refine ⟨started_solo, rfl, ?_, ?_, ?_, ?_⟩ <;> decide +kernel

end TunnelKeeper.Service
