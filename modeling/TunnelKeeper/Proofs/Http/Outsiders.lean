import TunnelKeeper.Http.Answer

/-!
# Requests without the token

A request that does not show the token is answered without a single step, by its path and its method
alone. So it learns nothing of what is managed and changes nothing, and unless the path leads to no
resource or to the health check, or the resource does not know the method, it is turned away.
Whether its query or its body could be read makes no difference.
-/
namespace TunnelKeeper.Http
open TunnelKeeper

def Resource.methods : Resource → List Method
  | .health => []
  | .interfaces | .peers => [.get, .post]
  | .interface _ | .peer _ => [.get, .put, .delete]
  | .interfaceDefaults _ | .importCandidate _ | .newPeer _ => [.post]
  | .newInterface _ | .interfaceFile _ | .freshAddresses _ | .statistics _ | .importCandidates
  | .peerFile _ => [.get]

theorem Resource.isSome_handler?_iff (settings : Service.Settings) (resource : Resource)
    (method : Method) :
    (resource.handler? settings method).isSome = true ↔ method ∈ resource.methods := by
  cases resource <;> cases method <;> simp [handler?, methods]

/-- The response to a request that does not show the token. -/
def Request.outsideResponse (r : Request) : Response :=
  match Resource.ofSegments? r.segments with
  | none => ⟨404, .empty⟩
  | some .health =>
    if r.method = .get then .json 200 (.record [("status", .text "ok")]) else ⟨404, .empty⟩
  | some resource => if r.method ∈ resource.methods then .unauthorized else ⟨405, .empty⟩

theorem Request.outsideResponse_of_resource {r : Request} {resource : Resource}
    (path : Resource.ofSegments? r.segments = some resource) (other : resource ≠ .health) :
    r.outsideResponse = if r.method ∈ resource.methods then .unauthorized else ⟨405, .empty⟩ := by
  rw [outsideResponse, path]
  cases resource with
  | health => contradiction
  | _ => rfl

namespace Api

/-- Only the scheme and the whole token, of visible characters, are let in, and never an empty
token. -/
theorem hasToken_iff {token : String} {r : Request} :
    hasToken token r = true ↔ token ≠ "" ∧ r.authorization = some ("Bearer " ++ token) ∧
      isHeaderText ("Bearer " ++ token) = true := by
  have header : header? r.authorization = some (scheme ++ token.toList) ↔
      r.authorization = some ("Bearer " ++ token) ∧ isHeaderText ("Bearer " ++ token) = true := by
    have shown : scheme ++ token.toList = ("Bearer " ++ token).toList :=
      (String.toList_append ..).symm
    rw [shown, header?, Option.map_eq_some_iff]
    simp only [Option.filter_eq_some_iff, String.toList_inj, exists_eq_right]
  rw [hasToken, Bool.and_eq_true, decide_eq_true_iff, header, and_comm]
  simp

variable {api : Api} {token : String} {r : Request}

theorem hasToken_eq_false
    (outside : token = "" ∨ r.authorization ≠ some ("Bearer " ++ token)) :
    hasToken token r = false := by
  rw [← Bool.not_eq_true, hasToken_iff]
  rintro ⟨given, shown, -⟩
  exact outside.elim given fun other => other shown

theorem guarded_of_outside (configured : api.token = some token)
    (outside : token = "" ∨ r.authorization ≠ some ("Bearer " ++ token)) (handler : Handler) :
    api.guarded handler r = .done .unauthorized := by
  rw [guarded, configured]
  simp [hasToken_eq_false outside]

theorem answer_of_resource {resource : Resource}
    (path : Resource.ofSegments? r.segments = some resource) (other : resource ≠ .health) :
    api.answer r =
      match resource.handler? api.settings r.method with
      | none => .done ⟨405, .empty⟩
      | some handler => api.guarded handler r := by
  rw [answer, path]
  cases resource with
  | health => contradiction
  | _ => rfl

theorem answer_of_outside (configured : api.token = some token)
    (outside : token = "" ∨ r.authorization ≠ some ("Bearer " ++ token)) :
    api.answer r = .done r.outsideResponse := by
  cases path : Resource.ofSegments? r.segments with
  | none => rw [answer, Request.outsideResponse, path]
  | some resource =>
    by_cases health : resource = .health
    · subst health
      rw [answer, Request.outsideResponse, path]
      exact (apply_ite Job.done ..).symm
    · have known := resource.isSome_handler?_iff api.settings r.method
      rw [answer_of_resource path health, Request.outsideResponse_of_resource path health]
      cases found : resource.handler? api.settings r.method with
      | none =>
        have unknown : r.method ∉ resource.methods := by simpa [found] using known
        rw [if_neg unknown]
      | some handler =>
        have supported : r.method ∈ resource.methods := by simpa [found] using known
        rw [if_pos supported]
        exact guarded_of_outside configured outside handler

/-- A request without the token is answered alike whatever is managed, without a call to the kernel
or the store, and leaves everything as it was. -/
theorem outsiders_learn_nothing (configured : api.token = some token)
    (outside : token = "" ∨ r.authorization ≠ some ("Bearer " ++ token)) :
    api.answer r = .done r.outsideResponse ∧
      (∀ s : Service, (api.answer r).run s = (.ok r.outsideResponse, s)) ∧
      ∀ resource, Resource.ofSegments? r.segments = some resource → resource ≠ .health →
        r.method ∈ resource.methods → r.outsideResponse = .unauthorized := by
  have answer := answer_of_outside configured outside
  refine ⟨answer, ?_, ?_⟩
  · intro s
    rw [answer]
    rfl
  · intro resource path other supported
    rw [Request.outsideResponse_of_resource path other, if_pos supported]

/-- An attempt with a wrong token, whose body is no record either. -/
def intrusion : Request where
  method := .put
  target := "/api/interfaces/wg0?size=x"
  authorization := some "Bearer wrong"
  contentType := none
  body := "\x7b"

def locked : Api where
  settings := ⟨51820, "kernel", 60⟩
  token := some "secret"

theorem outsiders_learn_nothing_intrusion :
    locked.token = some "secret" ∧ intrusion.authorization ≠ some ("Bearer " ++ "secret") ∧
      locked.answer intrusion = .done .unauthorized := by
  have configured : locked.token = some "secret" := rfl
  have wrong : intrusion.authorization ≠ some ("Bearer " ++ "secret") := by decide
  have path : Resource.ofSegments? intrusion.segments = some (.interface ⟨"wg0"⟩) := by
    decide +kernel
  obtain ⟨answer, -, refused⟩ := outsiders_learn_nothing configured (.inr wrong)
  rw [answer, refused _ path nofun (by decide)]
  exact ⟨configured, wrong, rfl⟩

end Api

end TunnelKeeper.Http
