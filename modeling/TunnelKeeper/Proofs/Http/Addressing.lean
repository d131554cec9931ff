import TunnelKeeper.Proofs.Http.Outsiders
import TunnelKeeper.Proofs.Keeper.Commitment
import TunnelKeeper.Proofs.Service.InterfaceEnds
import TunnelKeeper.Proofs.Url.Percent

/-!
# Which interface a path names

The configuration file, the free addresses and the statistics of an interface are found under its
identifier, however it was encoded, and are what memory says of that interface. The route of new
interfaces comes before them: where `prepare` stands for the identifier, the last word of the path
is taken for the name of a new interface. So an interface of that name can be created, but what
belongs to it cannot be looked at.
-/
namespace TunnelKeeper.Http
open TunnelKeeper Url Text

/-- The path of a target: what stands between its authority and its query. -/
def Request.path (r : Request) : List Char := r.pathAndQuery.takeWhile (· ≠ '?')

/-- What may be looked at for one interface. -/
inductive View where
  | file
  | addresses
  | statistics
deriving DecidableEq, Repr

def told {α : Type} (found : Except KeeperError α) (response : α → Response) : Response :=
  match found with
  | .ok a => response a
  | .error e => .ofKeeperError e

namespace View

def word : View → String
  | .file => "config"
  | .addresses => "fresh-ips"
  | .statistics => "stats"

def start : List Char := "/api/interfaces/".toList

def path (v : View) (segment : List Char) : List Char := start ++ (segment ++ '/' :: v.word.toList)

def resource : View → InterfaceId → Resource
  | .file => .interfaceFile
  | .addresses => .freshAddresses
  | .statistics => .statistics

def response (m : Memory) (id : InterfaceId) : View → Response
  | .file => told (m.interfaceFile ConfigFile.defaultVersion id) Http.file
  | .addresses =>
    told (m.freshAddresses id) fun s => .json 200 (.record [("address_str", .text s)])
  | .statistics =>
    told (do return (← m.statsOfInterface id, ← m.statsOfPeers id)) fun stats =>
      .json 200 (.record
        [("interface", .optional InterfaceStats.toJson stats.1),
          ("peers", .list PeerStats.toJson stats.2)])

theorem start_eq : start = '/' :: ("api".toList ++ '/' :: ("interfaces".toList ++ ['/'])) := by
  decide +kernel

theorem start_plain : Percent.sign ∉ encode start := by decide +kernel

theorem word_plain (v : View) :
    '/' ∉ v.word.toList ∧ Percent.sign ∉ encode ('/' :: v.word.toList) := by
  cases v <;> decide +kernel

end View

theorem segments_of_path {r : Request} {v : View} {segment text : List Char}
    (encoded : Percent.Encodes segment (encode text)) (path : r.path = v.path segment) :
    ∃ read, Percent.Reads read text ∧
      r.segments = [[], "api".toList, "interfaces".toList, read, v.word.toList] := by
  obtain ⟨read, reads, decoded⟩ := encoded.reads
  refine ⟨read, reads, ?_⟩
  have whole : Percent.decodePath r.path = v.path read := by
    rw [Percent.decodePath, path, View.path, Percent.encode_append, Percent.encode_append,
      Percent.decodeBytes_append View.start_plain, decoded,
      Percent.decodeBytes_of_not_mem v.word_plain.2, ← Percent.encode_append,
      ← Percent.encode_append, decodeLenient_encode, View.path]
  have plain : ∀ w ∈ [[], "api".toList, "interfaces".toList, read, v.word.toList], '/' ∉ w := by
    simp only [List.forall_mem_cons]
    exact ⟨by decide, by decide, by decide, reads.slash_not_mem, v.word_plain.1,
      List.forall_mem_nil _⟩
  have joined : v.path read =
      ['/'].intercalate [[], "api".toList, "interfaces".toList, read, v.word.toList] := by
    rw [View.path, View.start_eq]
    simp only [List.intercalate_cons_cons, List.intercalate_singleton,
      List.nil_append, List.append_assoc, List.cons_append, -String.reduceToList]
  rw [Request.segments, ← Request.path, whole, joined,
    List.splitOn_intercalate '/' plain (List.cons_ne_nil _ _)]

namespace Route

variable {parts : List RoutePart} {rest : List (List Char)}

@[simp] theorem captured?_nil_nil : captured? [] [] = some [] := rfl

@[simp] theorem captured?_nil_cons (s : List Char) : captured? [] (s :: rest) = none := rfl

@[simp] theorem captured?_word (v w : String) :
    captured? (.word w :: parts) (v.toList :: rest) =
      if v = w then captured? parts rest else none := by
  simp only [captured?, String.toList_inj]

theorem captured?_word_of_ne {s : List Char} {w : String} (h : s ≠ w.toList) :
    captured? (.word w :: parts) (s :: rest) = none := by
  rw [captured?, if_neg h]

theorem captured?_identifier {s : List Char} (h : s ≠ []) :
    captured? (.identifier :: parts) (s :: rest) = (captured? parts rest).map (s :: ·) := by
  rw [captured?, if_neg (by simpa using h)]

end Route

/-- The route of new interfaces hides what is under the identifier `prepare`. -/
theorem ofSegments?_view (v : View) {read : List Char} (filled : read ≠ []) :
    Resource.ofSegments? [[], "api".toList, "interfaces".toList, read, v.word.toList] =
      some (if read = "prepare".toList then .newInterface ⟨v.word⟩
        else v.resource ⟨Route.identifierText read⟩) := by
  by_cases hidden : read = "prepare".toList
  · subst hidden
    cases v <;> decide +kernel
  · rw [if_neg hidden]
    cases v <;>
      simp [Resource.ofSegments?, routes, Route.resource?, interfacesPath, interfacePath,
        candidatesPath, peersPath, peerPath, View.word, View.resource,
        Route.captured?_word_of_ne hidden, Route.captured?_identifier filled, -String.reduceToList]

/-- An encoded identifier leads to what belongs to it, unless it is the word `prepare`. -/
theorem ofSegments?_of_path {r : Request} {v : View} {segment : List Char} {id : InterfaceId}
    (encoded : Percent.Encodes segment (encode id.text.toList)) (filled : id.text ≠ "")
    (path : r.path = v.path segment) :
    Resource.ofSegments? r.segments =
      some (if id.text = "prepare" then .newInterface ⟨v.word⟩ else v.resource id) := by
  obtain ⟨read, reads, segments⟩ := segments_of_path encoded path
  have filled' : read ≠ [] := by
    rw [Ne, reads.eq_nil_iff, String.toList_eq_nil_iff]
    exact filled
  have same : Route.identifierText read = id.text := by
    rw [Route.identifierText, reads.decode, String.ofList_toList]
  have unkept : "prepare".toList.any (Percent.IsKept ·) = false := by decide
  have hidden : read = "prepare".toList ↔ id.text = "prepare" := by
    rw [reads.eq_iff_of_not_kept (by simpa using List.any_eq_false.1 unkept), String.toList_inj]
  rw [segments, ofSegments?_view v filled', same]
  simp only [hidden]

/-- A job that only looks at memory tells what it found and leaves everything as it was. -/
theorem run_respond {α : Type} (job : Job α) (response : α → Response) (s : Service) :
    (Handler.respond job response).run s =
      match job.run s with
      | (.ok a, t) => (.ok (response a), t)
      | (.error e, t) => (.ok (.ofError e), t) := by
  rw [Handler.respond, Job.run_recover, Job.run_bind]
  rcases job.run s with ⟨_ | _, t⟩ <;> rfl

theorem run_respond_look {α : Type} (f : Memory → Except KeeperError α) (response : α → Response)
    (s : Service) :
    (Handler.respond (Job.look f) response).run s =
      (.ok (told (f s.keeper.memory) response), s) := by
  rw [run_respond, Job.run_look]
  cases f s.keeper.memory <;> rfl

theorem run_statisticsOf (id : InterfaceId) (s : Service) :
    (Handler.respond (statisticsOf id) (.json 200)).run s =
      (.ok (View.statistics.response s.keeper.memory id), s) := by
  rw [run_respond, statisticsOf, Job.run_look_bind]
  simp only [View.response]
  cases s.keeper.memory.statsOfInterface id with
  | error e => rfl
  | ok interface =>
    simp only [Job.run_look_bind]
    cases s.keeper.memory.statsOfPeers id <;> rfl

theorem handler?_view (settings : Service.Settings) (v : View) (id : InterfaceId) :
    ∃ handler, (v.resource id).handler? settings .get = some handler ∧
      ∀ r s, (handler r).run s = (.ok (v.response s.keeper.memory id), s) := by
  cases v with
  | file => exact ⟨_, rfl, fun _ s => run_respond_look _ _ s⟩
  | addresses => exact ⟨_, rfl, fun _ s => run_respond_look _ _ s⟩
  | statistics => exact ⟨_, rfl, fun _ s => run_statisticsOf id s⟩

def prepared (settings : Service.Settings) (id : InterfaceId) : Job Response :=
  Handler.respond (Service.prepareInterface settings id) fun i => .json 200 i.toJson

theorem filled_of_createInterface {id : InterfaceId} {s t : Keeper}
    (created : (Keeper.createInterface id).run.run s = (.ok (), t)) : id.text ≠ "" := by
  obtain ⟨_, named, -⟩ := bind_eq_ok_iff.1 (Service.named_of_createInterface created)
  intro empty
  rw [Keeper.checkInterfaceId, Id.isBlank, empty] at named
  contradiction

namespace Api

variable {api : Api} {token : String} {r : Request}

theorem answer_of_handler {resource : Resource} {handler : Handler}
    (configured : api.token = some token) (shown : hasToken token r = true)
    (path : Resource.ofSegments? r.segments = some resource) (other : resource ≠ .health)
    (known : resource.handler? api.settings r.method = some handler) :
    api.answer r = handler r := by
  rw [answer_of_resource path other, known]
  simp [guarded, configured, shown]

/-- What belongs to an interface that was created is found under its identifier, in whatever way
this is encoded, unless the interface is named like the route of new interfaces; then the record of
a new interface is prepared in its place. -/
theorem interfaces_addressable {id : InterfaceId} {k k' : Keeper} {v : View} {segment : List Char}
    (configured : api.token = some token) (shown : hasToken token r = true)
    (get : r.method = .get) (created : (Keeper.createInterface id).run.run k = (.ok (), k'))
    (encoded : Percent.Encodes segment (encode id.text.toList)) (path : r.path = v.path segment) :
    (id.text ≠ "prepare" →
        ∀ s, (api.answer r).run s = (.ok (v.response s.keeper.memory id), s)) ∧
      (id.text = "prepare" → api.answer r = prepared api.settings ⟨v.word⟩) := by
  have resource := ofSegments?_of_path encoded (filled_of_createInterface created) path
  constructor
  · intro other s
    obtain ⟨handler, known, answer⟩ := handler?_view api.settings v id
    rw [if_neg other] at resource
    rw [← get] at known
    rw [answer_of_handler configured shown resource (by cases v <;> nofun) known, answer]
  · intro hidden
    rw [if_pos hidden] at resource
    exact answer_of_handler configured shown resource nofun (by rw [get]; rfl)

def lookup (target : String) : Request where
  method := .get
  target := target
  authorization := some "Bearer secret"
  contentType := none
  body := ""

def opened (id : InterfaceId) : Service :=
  { Service.solo with
    keeper := ((Keeper.createInterface id).run.run (Keeper.vacant.within .calm)).2 }

def branch : InterfaceId := ⟨"wg/ä"⟩

theorem encodes_branch : Percent.Encodes "wg%2f%C3%A4".toList (encode branch.text.toList) := by
  have bytes : encode branch.text.toList = [119, 103, 47, 195, 164] := by decide +kernel
  rw [bytes]
  exact .plain rfl (.plain rfl (.escaped rfl (.escaped rfl (.escaped rfl .nil))))

theorem interfaces_addressable_branch :
    hasToken "secret" (lookup "/api/interfaces/wg%2f%C3%A4/config") = true ∧
      ((Keeper.createInterface branch).run.run (Keeper.vacant.within .calm)).1 = .ok () ∧
      (locked.answer (lookup "/api/interfaces/wg%2f%C3%A4/config")).run (opened branch) =
        (.ok (file "# Generated by wgportal 0.1.0\n# wg/ä\n[Interface]\n"), opened branch) := by
  have shown : hasToken "secret" (lookup "/api/interfaces/wg%2f%C3%A4/config") = true := by
    decide +kernel
  have created : ((Keeper.createInterface branch).run.run (Keeper.vacant.within .calm)).1 =
      .ok () := by
    decide +kernel
  have path : (lookup "/api/interfaces/wg%2f%C3%A4/config").path =
      View.file.path "wg%2f%C3%A4".toList := by
    decide +kernel
  have found : (opened branch).keeper.memory.interfaceFile ConfigFile.defaultVersion branch =
      .ok "# Generated by wgportal 0.1.0\n# wg/ä\n[Interface]\n" := by
    decide +kernel
  have configured : locked.token = some "secret" := rfl
  have answer := (interfaces_addressable configured shown rfl (Prod.ext created rfl)
    encodes_branch path).1 (by decide) (opened branch)
  rw [View.response, found] at answer
  exact ⟨shown, created, answer⟩

/-- An interface that is named like the route of new interfaces. -/
def hidden : InterfaceId := ⟨"prepare"⟩

/-- The interface `prepare` can be created, but what is shown under the path of its configuration
file is a new interface called `config`. -/
theorem interface_not_addressable :
    Keeper.Started Keeper.vacant ∧
      Relation.ReflTransGen Keeper.Move Keeper.vacant (opened hidden).keeper ∧
      ((Keeper.createInterface hidden).run.run (Keeper.vacant.within .calm)).1 = .ok () ∧
      locked.token = some "secret" ∧
      hasToken "secret" (lookup "/api/interfaces/prepare/config") = true ∧
      Percent.Encodes "prepare".toList (encode hidden.text.toList) ∧
      (lookup "/api/interfaces/prepare/config").path = View.file.path "prepare".toList ∧
      View.file.response (opened hidden).keeper.memory hidden =
        file "# Generated by wgportal 0.1.0\n# prepare\n[Interface]\n" ∧
      ∃ i : Interface, i.id = ⟨"config"⟩ ∧
        ((locked.answer (lookup "/api/interfaces/prepare/config")).run (opened hidden)).1 =
          .ok (.json 200 i.toJson) := by
  have shown : hasToken "secret" (lookup "/api/interfaces/prepare/config") = true := by
    decide +kernel
  have encoded : Percent.Encodes "prepare".toList (encode hidden.text.toList) :=
    Percent.encodes_of_plain (by decide)
  have path : (lookup "/api/interfaces/prepare/config").path =
      View.file.path "prepare".toList := by
    decide +kernel
  have found : (opened hidden).keeper.memory.interfaceFile ConfigFile.defaultVersion hidden =
      .ok "# Generated by wgportal 0.1.0\n# prepare\n[Interface]\n" := by
    decide +kernel
  have response : View.file.response (opened hidden).keeper.memory hidden =
      file "# Generated by wgportal 0.1.0\n# prepare\n[Interface]\n" := by
    rw [View.response, found]
    rfl
  have resource := ofSegments?_of_path encoded (by decide) path
  have answer : locked.answer (lookup "/api/interfaces/prepare/config") =
      prepared locked.settings ⟨"config"⟩ :=
    answer_of_handler rfl shown resource nofun rfl
  refine ⟨Keeper.started_vacant, .single (.act .calm (.createInterface hidden)),
    by decide +kernel, rfl, shown, encoded, path, response, ?_⟩
  rw [answer, prepared, run_respond]
  exact ⟨_, rfl, rfl⟩

end Api

end TunnelKeeper.Http
