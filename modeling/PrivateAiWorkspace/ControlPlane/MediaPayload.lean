import PrivateAiWorkspace.ControlPlane.Media

/-!
# Payloads of the media backends

What generation and synthesis send. The parameters of the caller are merged over
the fields that were checked, so a parameter of the same name replaces the
checked prompt, text or model, whatever its length; a payload carries the checked
fields exactly when no parameter gives one of them another value.
-/

namespace PrivateAiWorkspace.ControlPlane

open Effects Python

/-! ## Merging -/

theorem lookup_assign (key name : String) (value : Json)
    (fields : List (String × Json)) :
    Json.lookup key (assign name value fields) =
      if name = key then some value else Json.lookup key fields := by
  induction fields with
  | nil => simp [assign, Json.lookup]
  | cons field rest ih =>
      rcases field with ⟨other, stored⟩
      by_cases here : other = name
      · subst here
        simp only [assign, if_true, Json.lookup]
        split <;> rfl
      · simp only [assign, here, if_false, Json.lookup, ih]
        by_cases found : other = key
        · subst found
          simp [Ne.symm here]
        · simp [found]

/-- A parameter comes before the field of the same name. -/
theorem lookup_mergeParams (key : String) (fields : List (String × Json))
    {params : List (String × Json)} (unique : (params.map Prod.fst).Nodup) :
    Json.lookup key (mergeParams fields params) =
      (Json.lookup key params).or (Json.lookup key fields) := by
  induction params generalizing fields with
  | nil => rfl
  | cons param rest ih =>
      rcases param with ⟨name, value⟩
      rcases List.nodup_cons.mp unique with ⟨fresh, later⟩
      have merged : mergeParams fields ((name, value) :: rest) =
          mergeParams (assign name value fields) rest := rfl
      rw [merged, ih _ later, lookup_assign, Json.lookup]
      by_cases same : name = key
      · subst same
        have missing : Json.lookup name rest = none := by
          clear ih later merged unique
          induction rest with
          | nil => rfl
          | cons other rest ih =>
              simp only [List.map_cons, List.mem_cons, not_or] at fresh
              rw [Json.lookup, if_neg (Ne.symm fresh.1)]
              exact ih fresh.2
        simp [missing]
      · simp [same]

/-- A field survives the merge when no parameter gives it another value. -/
theorem lookup_mergeParams_iff {key : String} {value : Json}
    {fields params : List (String × Json)}
    (unique : (params.map Prod.fst).Nodup)
    (field : Json.lookup key fields = some value) :
    Json.lookup key (mergeParams fields params) = some value ↔
      ∀ other, Json.lookup key params = some other → other = value := by
  rw [lookup_mergeParams key fields unique, field]
  cases Json.lookup key params with
  | none => simp
  | some other => simp

/-! ## What an endpoint sends -/

/-- Every payload posted to a backend satisfies a predicate. -/
def Posts (sent : MediaBody → Prop) : Services.Call → Prop
  | .mediaPost _ body _ => sent body
  | _ => True

theorem posts_of_bookkeeping {sent : MediaBody → Prop} {request : Services.Call}
    (bookkeeping : Bookkeeping request) : Posts sent request := by
  cases request with
  | mediaPost => exact bookkeeping.elim
  | _ => trivial

section Guarded

variable {sent : MediaBody → Prop} {past : List ServiceEvent}

theorem guarded_posts {α : Type} {program : Service α}
    (guarded : Program.Guarded (fun _ => Bookkeeping) past program) :
    Program.Guarded (fun _ => Posts sent) past program :=
  guarded.mono fun _ _ => posts_of_bookkeeping

theorem guarded_storeArtifact (executor : MediaExecutor)
    (defaultType tenantId userId : String) (response : MediaResponse) :
    Program.Guarded (fun _ => Posts sent) past
      (executor.storeArtifact defaultType tenantId userId response) := by
  apply Program.Guarded.callThen trivial
  intro artifactId
  dsimp only
  split
  · trivial
  · apply Program.Guarded.attemptThen trivial
    intro answer
    cases answer <;> trivial

/-- A service is sent the payload its entry in the registry calls for. -/
theorem guarded_produce (executor : MediaExecutor) (kind : MediaKind)
    (path defaultType : String) (payload : MediaService → List (String × Json))
    (service tenantId userId : String)
    (permitted : ∀ spec, executor.services.lookup service = some spec →
      sent (.json (.obj (payload spec)))) :
    Program.Guarded (fun _ => Posts sent) past
      (executor.produce kind path defaultType payload service tenantId
        userId) := by
  unfold MediaExecutor.produce
  cases found : executor.services.lookup service with
  | none => trivial
  | some spec =>
      dsimp only
      split
      · trivial
      · apply Program.Guarded.bind
        · apply Program.Guarded.attemptThen (permitted spec found)
          intro answer
          split
          all_goals try trivial
          split <;> trivial
        · intro more outcome _
          cases outcome with
          | error failure => trivial
          | ok response => exact guarded_storeArtifact executor _ _ _ _

theorem guarded_answerMedia {α : Type} (notificationStore : Bool)
    (request : MediaRequest α) (started : Rat) (outcome : MediaOutcome) :
    Program.Guarded (fun _ => Posts sent) past
      (answerMedia notificationStore request started outcome) := by
  apply guarded_posts
  apply (guarded_latencyMs _ _).bind
  intro _ latencyMs _
  apply (guarded_audit _ _).bind
  intro _ audited _
  exact (guarded_emit _ _ _ _ _ _).bind fun _ _ _ => trivial

/-- A media endpoint posts what its work posts for the requests it admits. -/
theorem guarded_buildMediaResponse {α : Type}
    {prepare : Service (Except JsonResponse (MediaRequest α))}
    {work : MediaRequest α → Service MediaOutcome} {notificationStore : Bool}
    (first : Program.Guarded (fun _ => Bookkeeping) [] prepare)
    (working : ∀ events request,
      Program.Run prepare events (.ok (.ok request)) →
      Program.Guarded (fun _ => Posts sent) [] (work request)) :
    Program.Guarded (fun _ => Handler.BackendAllowed (Posts sent)) []
      (buildMediaResponse prepare work notificationStore) := by
  apply Handler.guarded_limited
  · exact guarded_posts first
  · intro events request run
    refine ⟨?_, ?_, fun started => ⟨?_, fun outcome => ?_⟩⟩
    · apply guarded_posts
      exact (guarded_audit _ _).bind fun _ _ _ => trivial
    · refine ⟨trivial, fun now => ?_⟩
      cases now <;> trivial
    · exact working events request run
    · exact guarded_answerMedia _ _ _ _

end Guarded

/-! ## What a body asks for -/

/-- A body asks a service for something: the text under a field, within its
bound, and the parameters. -/
structure Asks (field : String) (maxChars : Int) (body : Except PyException Json)
    (service text : String) (params : List (String × Json)) : Prop where
  object : ∃ data, body = .ok (.obj data) ∧
    Json.get data "service" = .str service ∧ Json.get data field = .str text ∧
    Json.getOr data "params" (.obj []) = .obj params
  capped : (text.length : Int) ≤ maxChars

theorem of_readMediaRequest {field tooLong : String} {maxChars : Int}
    {data : List (String × Json)} {service text : String}
    {params : List (String × Json)}
    (read : readMediaRequest field tooLong maxChars data =
      .ok (service, text, params)) :
    Json.get data "service" = .str service ∧ Json.get data field = .str text ∧
      Json.getOr data "params" (.obj []) = .obj params ∧
      (text.length : Int) ≤ maxChars := by
  unfold readMediaRequest at read
  cases service_eq : Json.get data "service" with
  | str given =>
      cases text_eq : Json.get data field with
      | str asked =>
          cases params_eq : Json.getOr data "params" (.obj []) with
          | obj extra =>
              simp only [service_eq, text_eq, params_eq] at read
              split at read
              · cases read
              · split at read
                · cases read
                · split at read
                  · cases read
                  · cases read
                    rename_i room
                    exact ⟨rfl, rfl, rfl, Int.not_lt.mp room⟩
          | _ =>
              simp only [service_eq, text_eq, params_eq] at read
              repeat' split at read
              all_goals cases read
      | _ =>
          simp only [service_eq, text_eq] at read
          repeat' split at read
          all_goals cases read
  | _ =>
      simp only [service_eq] at read
      cases read

/-- Admission does not change a request. -/
theorem admitted_of_run {α : Type} {allowlist : Allowlist}
    {request admitted : MediaRequest α} {events : List ServiceEvent}
    (run : Program.Run (admitMedia allowlist request) events
      (.ok (.ok admitted))) : admitted = request := by
  unfold admitMedia at run
  simp only [Program.bind_eq] at run
  rcases Program.run_bind_iff.mp run with
    ⟨_, _, impossible⟩ | ⟨refusal, before, after, _, _, rest⟩
  · cases impossible
  · cases refusal with
    | some response => cases rest
    | none =>
        cases rest
        rfl

/-- A request that is admitted asks for what its body asks for. -/
theorem asks_of_run {builtins : Builtins} {authorization : Option String}
    {body : Except PyException Json} {tokenVerifier : Option TokenVerifier}
    {enabled : Bool} {allowlist : Allowlist}
    {field tooLong operation : String} {maxChars : Int}
    {events : List ServiceEvent}
    {request : MediaRequest (String × List (String × Json))}
    (run : Program.Run (prepareMedia builtins authorization body tokenVerifier
      enabled allowlist field tooLong operation maxChars) events
      (.ok (.ok request))) :
    Asks field maxChars body request.service request.input.1 request.input.2 := by
  unfold prepareMedia at run
  simp only [Program.bind_eq] at run
  rcases Program.run_bind_iff.mp run with
    ⟨_, _, impossible⟩ | ⟨outcome, before, after, _, read, rest⟩
  · cases impossible
  · have accepted := (Program.run_ofExcept_iff.mp read).2
    cases outcome with
    | error response =>
        cases rest
    | ok value =>
        rcases value with ⟨caller, service, text, params⟩
        have parts := of_readRequest accepted.symm
        rcases parts.2 with ⟨data, loaded, read⟩
        rcases of_readMediaRequest read with ⟨service_eq, text_eq, params_eq, room⟩
        have admitted := admitted_of_run rest
        subst admitted
        exact ⟨⟨data, body_of_loadObject loaded, service_eq, text_eq, params_eq⟩,
          room⟩

theorem guarded_prepareMedia (builtins : Builtins)
    (authorization : Option String) (body : Except PyException Json)
    (tokenVerifier : Option TokenVerifier) (enabled : Bool)
    (allowlist : Allowlist) (field tooLong operation : String)
    (maxChars : Int) :
    Program.Guarded (fun _ => Bookkeeping) []
      (prepareMedia builtins authorization body tokenVerifier enabled allowlist
        field tooLong operation maxChars) := by
  unfold prepareMedia
  simp only [Program.bind_eq]
  cases readRequest (mediaGate builtins authorization tokenVerifier enabled) _ _
    with
  | error error => trivial
  | ok outcome =>
      cases outcome with
      | error response => trivial
      | ok value =>
          apply (guarded_authorize _ _ _ _ _ _ _).bind
          intro _ refusal _
          cases refusal <;> trivial

/-! ## The payloads of the endpoints -/

/-- What the media endpoints are wired with when the server starts. -/
structure MediaWiring where
  builtins : Builtins
  tokenVerifier : Option TokenVerifier
  enabled : Bool
  allowlist : Allowlist
  executor : MediaExecutor
  maxChars : Int
  notificationStore : Bool

namespace MediaWiring

variable (wiring : MediaWiring) (authorization : Option String)
  (body : Except PyException Json)

/-- The endpoint for images, wired. -/
def generate : Handler Services JsonResponse :=
  buildMediaGenerateResponse wiring.builtins authorization body
    wiring.tokenVerifier wiring.enabled wiring.allowlist wiring.executor
    wiring.maxChars wiring.notificationStore

/-- The endpoint for speech, wired. -/
def synthesize : Handler Services JsonResponse :=
  buildMediaSynthesizeResponse wiring.builtins authorization body
    wiring.tokenVerifier wiring.enabled wiring.allowlist wiring.executor
    wiring.maxChars wiring.notificationStore

/-- What is posted for an image is the prompt of the body with its parameters
merged over it. -/
theorem guarded_generate :
    Program.Guarded
      (fun _ => Handler.BackendAllowed (Posts fun payload =>
        ∃ service prompt params,
          Asks "prompt" wiring.maxChars body service prompt params ∧
          payload = .json (.obj (mergeParams [("prompt", .str prompt)] params))))
      [] (wiring.generate authorization body) := by
  apply guarded_buildMediaResponse (guarded_prepareMedia _ _ _ _ _ _ _ _ _ _)
  intro events request run
  apply guarded_produce
  intro spec _
  exact ⟨_, _, _, asks_of_run run, rfl⟩

/-- What is posted for speech is the model of the service and the text of the
body with its parameters merged over them. -/
theorem guarded_synthesize :
    Program.Guarded
      (fun _ => Handler.BackendAllowed (Posts fun payload =>
        ∃ service text params spec,
          Asks "text" wiring.maxChars body service text params ∧
          wiring.executor.services.lookup service = some spec ∧
          payload = .json (.obj (mergeParams
            [("model", .str spec.model), ("input", .str text)] params))))
      [] (wiring.synthesize authorization body) := by
  apply guarded_buildMediaResponse (guarded_prepareMedia _ _ _ _ _ _ _ _ _ _)
  intro events request run
  apply guarded_produce
  intro spec registered
  exact ⟨_, _, _, spec, asks_of_run run, registered, rfl⟩

end MediaWiring

/-- A payload posted in a run of a guarded endpoint. -/
theorem posted_of_run {sent : MediaBody → Prop}
    {handler : Handler Services JsonResponse}
    (guarded : Program.Guarded (fun _ => Handler.BackendAllowed (Posts sent)) []
      handler)
    {events : List (Event (Limited Services) PyException)}
    {result : Except PyException JsonResponse}
    (run : Program.Run handler events result)
    {url contentType : String} {payload : MediaBody}
    {answer : Except PyException MediaResponse}
    (posted : ⟨.backend (ServiceCall.mediaPost url payload contentType), answer⟩ ∈
      events) : sent payload := by
  rcases List.append_of_mem posted with ⟨before, after, split⟩
  exact guarded.of_run run split

/-- Parameters leave a field its value. -/
def Leaves (params : List (String × Json)) (key : String) (value : Json) : Prop :=
  ∀ other, Json.lookup key params = some other → other = value

/-- The payload of every image or speech request has the checked prompt, or the
checked text and the registered model, exactly when the parameters of the body
leave these fields their values. -/
theorem payload_kept_iff (wiring : MediaWiring) (authorization : Option String)
    (body : Except PyException Json)
    (events : List (Event (Limited Services) PyException))
    (result : Except PyException JsonResponse) (url contentType : String)
    (payload : MediaBody) (answer : Except PyException MediaResponse)
    (posted : ⟨.backend (ServiceCall.mediaPost url payload contentType), answer⟩ ∈
      events) :
    (Program.Run (wiring.generate authorization body) events result →
      ∃ service prompt params fields,
        Asks "prompt" wiring.maxChars body service prompt params ∧
        payload = .json (.obj fields) ∧
        ((params.map Prod.fst).Nodup →
          (Json.lookup "prompt" fields = some (.str prompt) ↔
            Leaves params "prompt" (.str prompt)))) ∧
    (Program.Run (wiring.synthesize authorization body) events result →
      ∃ service text params spec fields,
        Asks "text" wiring.maxChars body service text params ∧
        wiring.executor.services.lookup service = some spec ∧
        payload = .json (.obj fields) ∧
        ((params.map Prod.fst).Nodup →
          (Json.lookup "input" fields = some (.str text) ∧
              Json.lookup "model" fields = some (.str spec.model) ↔
            Leaves params "input" (.str text) ∧
              Leaves params "model" (.str spec.model)))) := by
  constructor
  · intro run
    rcases posted_of_run (wiring.guarded_generate authorization body) run posted
      with ⟨service, prompt, params, asks, payload_eq⟩
    refine ⟨service, prompt, params, _, asks, payload_eq, fun unique => ?_⟩
    exact lookup_mergeParams_iff unique rfl
  · intro run
    rcases posted_of_run (wiring.guarded_synthesize authorization body) run posted
      with ⟨service, text, params, spec, asks, registered, payload_eq⟩
    refine ⟨service, text, params, spec, _, asks, registered, payload_eq,
      fun unique => ?_⟩
    have kept : ∀ key value,
        Json.lookup key [("model", .str spec.model), ("input", .str text)] =
          some value →
        (Json.lookup key (mergeParams
            [("model", .str spec.model), ("input", .str text)] params) =
          some value ↔ Leaves params key value) :=
      fun _ _ => lookup_mergeParams_iff unique
    exact and_congr (kept "input" _ rfl) (kept "model" _ rfl)

/-! ## A parameter in place of the prompt -/

/-- An image service for `acme.com`. -/
def imageWiring : MediaWiring where
  builtins := .sample []
  tokenVerifier := some fun _ => .ok ⟨"ana", "ana@acme.com", []⟩
  enabled := true
  allowlist := ⟨[("acme.com", ["sdxl"])], by decide⟩
  executor :=
    ⟨[("sdxl", ⟨"sdxl", .image, "http://sdxl.inference.svc:8000", "whisper-1"⟩)],
      false⟩
  maxChars := 2000
  notificationStore := false

/-- A request for a picture with parameters. -/
def pictureOf (prompt : String) (params : List (String × Json)) : Json :=
  .obj [("service", .str "sdxl"), ("prompt", .str prompt),
    ("params", .obj params)]

/-- Services that answer, with a media backend that times out. -/
def slowMedia (_ : Unit) : (request : (Limited Services).Call) →
    Except PyException ((Limited Services).Answer request) × Unit
  | .time => (.ok (0 : Int), ())
  | .tryAcquire _ _ => (.ok true, ())
  | .release => (.ok (), ())
  | .backend .monotonic => (.ok (0 : Rat), ())
  | .backend (.isEnabled _ _) => (.ok true, ())
  | .backend (.audit _) => (.ok (), ())
  | .backend _ => (.error .timeoutError, ())

/-- What happens when a picture is asked for. -/
def picture (prompt : String) (params : List (String × Json)) :
    List (Event (Limited Services) PyException) :=
  (imageWiring.generate (some "Bearer t1")
    (.ok (pictureOf prompt params))).trace slowMedia ()

theorem picture_run (prompt : String) (params : List (String × Json)) :
    ∃ result, Program.Run (imageWiring.generate (some "Bearer t1")
      (.ok (pictureOf prompt params))) (picture prompt params) result :=
  ⟨_, Program.run_trace _ ()⟩

/-- The post of a payload to the image service. -/
def posting (fields : List (String × Json)) :
    Event (Limited Services) PyException :=
  ⟨.backend (ServiceCall.mediaPost
      "http://sdxl.inference.svc:8000/v1/images/generations"
      (.json (.obj fields)) "application/json"),
    (.error .timeoutError : Except PyException MediaResponse)⟩

/-- A parameter of another name leaves the prompt alone. -/
theorem payload_kept_iff_sized :
    ∃ service prompt params fields,
      Asks "prompt" 2000 (.ok (pictureOf "a cat" [("n", .int 1)])) service prompt
        params ∧
      MediaBody.json (.obj [("prompt", .str "a cat"), ("n", .int 1)]) =
        .json (.obj fields) ∧
      ((params.map Prod.fst).Nodup →
        (Json.lookup "prompt" fields = some (.str prompt) ↔
          Leaves params "prompt" (.str prompt))) := by
  rcases picture_run "a cat" [("n", .int 1)] with ⟨result, run⟩
  have posted : posting [("prompt", .str "a cat"), ("n", .int 1)] ∈
      picture "a cat" [("n", .int 1)] := List.mem_of_getElem? (i := 4) rfl
  exact (payload_kept_iff imageWiring _ _ _ _ _ _ _ _ posted).1 run

/-- A request for a picture of a cat sends a request for one of a dog. -/
theorem prompt_overridden :
    ¬ ∀ (wiring : MediaWiring) (authorization : Option String)
        (body : Except PyException Json)
        (events : List (Event (Limited Services) PyException))
        (result : Except PyException JsonResponse) (url contentType : String)
        (payload : MediaBody) (answer : Except PyException MediaResponse),
      Program.Run (wiring.generate authorization body) events result →
      ⟨.backend (ServiceCall.mediaPost url payload contentType), answer⟩ ∈
        events →
      ∃ service prompt params fields,
        Asks "prompt" wiring.maxChars body service prompt params ∧
        payload = .json (.obj fields) ∧
        Json.lookup "prompt" fields = some (.str prompt) := by
  intro kept
  rcases picture_run "a cat" [("prompt", .str "a dog")] with ⟨result, run⟩
  have posted : posting [("prompt", .str "a dog")] ∈
      picture "a cat" [("prompt", .str "a dog")] :=
    List.mem_of_getElem? (i := 4) rfl
  rcases kept _ _ _ _ _ _ _ _ _ run posted with
    ⟨service, prompt, params, fields, asks, payload_eq, found⟩
  rcases asks.object with ⟨data, data_eq, _, asked, _⟩
  cases payload_eq
  cases data_eq
  cases asked
  exact absurd found (by simp [Json.lookup])

end PrivateAiWorkspace.ControlPlane
