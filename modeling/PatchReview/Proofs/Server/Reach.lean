import PatchReview.Proofs.Provider.Credential
import PatchReview.Proofs.Provider.Trace
import PatchReview.Server

/-!
# What a request can choose

A request for a review is answered for the files, the provider and the model
that its body asks for, and for nothing else in it. Of those only the name of
the provider has a say in where the server sends anything and with which key:
the address of a service and the keys are from the environment, and other
requests make the server send nothing (`runOn_handle_within_order`).
-/

namespace PatchReview

open PatchReview.Action (Adds Keeps runOn_bind runOn_bind_ok runOn_bind_error)

namespace Settings

def providerFor (environment : Environment) (wanted : Option String) : String :=
  ((nonEmpty wanted).or (environment.value? "AI_PROVIDER")).getD "mock"

def generateUrlFor (environment : Environment) : String :=
  Http.withoutTrailingSlashes ((environment.value? "AI_BASE_URL").getD "http://localhost:11434") ++
    "/api/generate"

theorem provider_of_ofEnvironment (configured : ofEnvironment environment wanted = .ok settings) :
    settings.provider = providerFor environment wanted ∧
      settings.baseUrl = environment.value? "AI_BASE_URL" := by
  simp only [ofEnvironment] at configured
  split at configured
  · cases configured
  · cases configured
    exact ⟨rfl, rfl⟩

end Settings

theorem Remote.textOr_value? (environment : Environment) (name fallback : String) :
    textOr fallback (environment.value? name) = (environment.value? name).getD fallback := by
  cases found : environment.value? name with
  | none => rfl
  | some text =>
    rw [textOr, Environment.isEmpty_of_value? found]
    rfl

namespace Server

-- ---------------------------------------------------------------------------
-- Orders
-- ---------------------------------------------------------------------------

structure Orders (request : HttpRequest) (order : ReviewOrder) : Prop where
  method : request.method = "POST"
  place : ∃ path, pathOf request = .ok path ∧ endpoint? path = some .review
  body : ∃ value, bodyValue request.body = .ok value ∧ checkOrder value = .valid order

def orderFields : List String := ["files", "provider", "model"]

theorem checkOrder_congr
    (same : ∀ name ∈ orderFields, List.lookup name fields = List.lookup name others) :
    checkOrder (.obj fields) = checkOrder (.obj others) := by
  have files := same "files" (by decide)
  have provider := same "provider" (by decide)
  have model := same "model" (by decide)
  simp only [checkOrder, Schema.Check.model, checkFiles, Schema.required, Schema.optional, files,
    provider, model]

theorem runOn_handle_of_orders (orders : Orders request order) (session : Session) :
    (handle request).runOn session = (review order).runOn session := by
  obtain ⟨method, ⟨path, place, leads⟩, value, read, checked⟩ := orders
  have answers : (answer request).runOn session = (review order).runOn session := by
    have found : (Action.ofExcept (pathOf request)).runOn session = (.ok path, session) := by
      rw [Action.runOn_ofExcept, place]
    unfold answer
    rw [runOn_bind_ok found]
    simp only [leads, method, withBody, read, checked]
    rfl
  unfold handle
  rw [runOn_bind, answers]
  rcases (review order).runOn session with ⟨failure | response, after⟩
  · rfl
  · simp [method]

-- ---------------------------------------------------------------------------
-- What is not sent
-- ---------------------------------------------------------------------------

theorem keeps_respond (body : Json) : Keeps Session.trace (respond body) := by
  unfold respond
  split
  · exact .throw _
  · exact .pure _

theorem keeps_answerOf (result : Except Failure Report) :
    Keeps Session.trace (answerOf result) := by
  cases result with
  | ok report => exact keeps_respond _
  | error failure =>
    rw [answerOf]
    split
    · exact (Keeps.ofExcept _).bind fun _ => .pure _
    · exact .throw _

theorem keeps_refuse (value : Json) (violations : List Schema.Violation) :
    Keeps Session.trace (refuse value violations) := by
  unfold refuse
  dsimp only
  split
  · exact (Keeps.throw _).bind fun _ => (Keeps.ofExcept _).bind fun _ => .pure _
  · exact (Keeps.ofExcept _).bind fun _ => .pure _

theorem keeps_health : Keeps Session.trace health := by
  intro session
  unfold health
  rw [runOn_bind_ok (Action.runOn_get session)]
  exact ((Keeps.ofExcept _).bind fun _ => keeps_respond _) session

theorem keeps_analyze (files : List ChangedFile) : Keeps Session.trace (analyze files) := by
  unfold analyze
  split
  · exact .pure _
  · exact (keeps_trace_analyzeFiles _ files).bind fun _ => keeps_respond _

theorem keeps_withBody {check : Schema.Check α} {act : α → Action Session Response}
    (acts : ∀ value decoded, bodyValue body = .ok value → check value = .valid decoded →
      Keeps Session.trace (act decoded)) : Keeps Session.trace (withBody check body act) := by
  unfold withBody
  cases read : bodyValue body with
  | error response => exact .pure _
  | ok value =>
    cases checked : check value with
    | valid decoded => simpa only [checked] using acts value decoded read checked
    | invalid violations => simpa only [checked] using keeps_refuse value violations

theorem keeps_handle (none_ordered : ∀ order, ¬Orders request order) :
    Keeps Session.trace (handle request) := by
  refine Keeps.bind (fun session => ?_) fun _ => .pure _
  unfold answer
  cases place : pathOf request with
  | error failure => rfl
  | ok path =>
    rw [runOn_bind_ok (Action.runOn_ofExcept (.ok path) session)]
    cases leads : endpoint? path with
    | none => rfl
    | some endpoint =>
      dsimp only
      split
      · rfl
      · next allowed =>
        -- One endpoint asks a model, and a body that it takes is an order.
        cases endpoint with
        | interface =>
          dsimp only
          exact keeps_respond (Interface.toJson version) session
        | page => rfl
        | health => exact keeps_health session
        | analyze => exact keeps_withBody (fun _ files _ _ => keeps_analyze files) session
        | review =>
          have method : request.method = "POST" := by simpa [Endpoint.methods] using allowed
          refine keeps_withBody (fun value order read checked => ?_) session
          exact absurd ⟨method, ⟨path, place, leads⟩, value, read, checked⟩ (none_ordered order)

-- ---------------------------------------------------------------------------
-- What is sent
-- ---------------------------------------------------------------------------

/-- An event that is sent where the environment says, and with the key that it
has for the provider wanted. -/
def IsSentFor (environment : Environment) (wanted : Option String) : Event → Prop
  | .posted url _ _ => url = Settings.generateUrlFor environment
  | .clientBuilt settings =>
    settings.lookup "api_key" = some (.ofOption .str
      (Settings.apiKeyFor environment (Settings.providerFor environment wanted))) ∧
      settings.lookup "base_url" = none
  | .completionAsked request => request.lookup "api_key" = none ∧ request.lookup "base_url" = none
  | .slept _ | .messageSent _ => True
  | .hostAsked _ | .consulted _ => False

theorem isSentFor_of_isEventOf
    (configured : Settings.ofEnvironment environment wanted = .ok settings)
    (h : (Provider.chosen (some settings.provider) settings.apiKey settings.baseUrl
      model).IsEventOf event) : IsSentFor environment wanted event := by
  obtain ⟨named, based⟩ := Settings.provider_of_ofEnvironment configured
  have keyed := Settings.apiKey_of_ofEnvironment configured
  rw [named] at keyed
  rw [keyed, based] at h
  unfold Provider.chosen at h
  generalize (Provider.kind? (some settings.provider)).getD .mock = kind at h
  cases kind with
  | mock =>
    cases h with
    | paused => trivial
  | remote service =>
    cases h with
    | paused => trivial
    | built hasClient =>
      cases service with
      | ollama => exact absurd rfl hasClient
      | openai | anthropic => exact ⟨rfl, rfl⟩
    | requested =>
      -- The other services are asked through their clients, wherever those send to.
      cases service with
      | openai => exact ⟨rfl, rfl⟩
      | anthropic => trivial
      | ollama =>
        change _ = Settings.generateUrlFor environment
        rw [Settings.generateUrlFor, ← Remote.textOr_value?]
        rfl

open Classical in
theorem shows_reviewFiles_for (configured : Settings.ofEnvironment environment wanted = .ok settings)
    (pool : Pool) (files : List ChangedFile) (model : Option String) :
    Shows (fun event => decide (IsSentFor environment wanted event))
      (reviewFiles pool files (some (Provider.chosen (some settings.provider) settings.apiKey
        settings.baseUrl model)) true) := by
  refine shows_reviewFiles pool files (fun event own => decide_eq_true ?_) true
  exact isSentFor_of_isEventOf configured own

theorem exists_trace_review (order : ReviewOrder) (session : Session) : ∃ sent,
    ((review order).runOn session).2.trace = session.trace ++ sent ∧
      ∀ event ∈ sent, IsSentFor session.environment order.provider event := by
  unfold review
  split
  · exact ⟨[], (List.append_nil _).symm, nofun⟩
  rw [runOn_bind_ok (Action.runOn_get session)]
  cases configured : Settings.ofEnvironment session.environment order.provider with
  | error failure => exact ⟨[], (List.append_nil _).symm, nofun⟩
  | ok settings =>
    let model := (nonEmpty order.model).or settings.model
    obtain ⟨after, chooses, -⟩ := Provider.exists_runOn_choose (some settings.provider)
      settings.apiKey settings.baseUrl model session
    have kept := Provider.keeps_choose (some settings.provider) settings.apiKey settings.baseUrl
      model session
    rw [chooses] at kept
    rw [runOn_bind_ok (Action.runOn_ofExcept (.ok settings) session), runOn_bind_ok chooses]
    have reviews := (shows_reviewFiles_for configured (.inOrder settings.maxWorkers) order.files
      model).outcome.bind fun result => .of_keeps (keeps_answerOf result)
    obtain ⟨sent, shown, fine⟩ := reviews after
    refine ⟨sent, shown.trans (congrArg (· ++ sent) kept), fun event listed => ?_⟩
    classical exact of_decide_eq_true (fine event listed)

/-- Requests with the same order are answered alike and have the same effects,
whatever else is in their bodies. What any request makes the server send is for
an order, whose one say in where it is sent, and with which key, is the name of
a provider. -/
theorem runOn_handle_within_order :
    (∀ first second order session, Orders first order → Orders second order →
      (handle first).runOn session = (handle second).runOn session) ∧
    (∀ fields others,
      (∀ name ∈ orderFields, List.lookup name fields = List.lookup name others) →
        checkOrder (.obj fields) = checkOrder (.obj others)) ∧
    ∀ request session, ∃ sent,
      ((handle request).runOn session).2.trace = session.trace ++ sent ∧
      ∀ event ∈ sent, ∃ order, Orders request order ∧
        IsSentFor session.environment order.provider event := by
  refine ⟨fun first second order session orders sameOrder => ?_,
    fun _ _ => checkOrder_congr, fun request session => ?_⟩
  · rw [runOn_handle_of_orders orders, runOn_handle_of_orders sameOrder]
  · by_cases ordered : ∃ order, Orders request order
    · obtain ⟨order, orders⟩ := ordered
      obtain ⟨sent, shown, fine⟩ := exists_trace_review order session
      refine ⟨sent, by rw [runOn_handle_of_orders orders, shown], fun event listed => ?_⟩
      exact ⟨order, orders, fine event listed⟩
    · exact ⟨[], by rw [keeps_handle (not_exists.mp ordered) session, List.append_nil], nofun⟩

def plainBody : String :=
  "\x7b\"files\":[\x7b\"filename\":\"a.html\",\"status\":\"added\",\"contents\":\"<img src=a>\"\x7d]" ++
    ",\"provider\":\"ollama\"\x7d"

def paddedBody : String :=
  "\x7b\"api_key\":\"k\",\"provider\":\"ollama\",\"base_url\":\"out\",\"files\":[\x7b\"filename\":" ++
    "\"a.html\",\"status\":\"added\",\"contents\":\"<img src=a>\"\x7d]\x7d"

def pageFiles : Json :=
  .arr [.obj [("filename", .str "a.html"), ("status", .str "added"),
    ("contents", .str "<img src=a>")]]

def pageOrder : ReviewOrder :=
  ⟨[⟨"a.html", .added, none, some "<img src=a>"⟩], some "ollama", none⟩

theorem read_plainBody : Json.read plainBody.toList =
    .ok (.obj [("files", pageFiles), ("provider", .str "ollama")]) := by decide +kernel

theorem read_paddedBody : Json.read paddedBody.toList =
    .ok (.obj [("api_key", .str "k"), ("provider", .str "ollama"), ("base_url", .str "out"),
      ("files", pageFiles)]) := by decide +kernel

theorem bodyValue_of_read (filled : body.isEmpty = false)
    (decodes : Json.documentText? body = some text) (reads : Json.read text = .ok value) :
    bodyValue body = .ok value := by
  simp only [bodyValue, filled, decodes, reads, Bool.false_eq_true, if_false]

def plainRequest : HttpRequest := ⟨"POST", "/review", Utf8.encode plainBody.toList⟩

def paddedRequest : HttpRequest :=
  ⟨"POST", "/review/?base_url=out", Utf8.encode paddedBody.toList⟩

theorem orders_plainRequest : Orders plainRequest pageOrder where
  method := rfl
  place := ⟨"/review".toList, rfl, by decide +kernel⟩
  body := ⟨_, bodyValue_of_read (by decide +kernel) (by decide +kernel) read_plainBody, rfl⟩

theorem orders_paddedRequest : Orders paddedRequest pageOrder where
  method := rfl
  place := ⟨"/review/".toList, rfl, by decide +kernel⟩
  body := ⟨_, bodyValue_of_read (by decide +kernel) (by decide +kernel) read_paddedBody, rfl⟩

def postedTo : Event → Option String
  | .posted url _ _ => some url
  | _ => none

/-- Both bodies make the server send one request, to the address that the
environment says. -/
theorem runOn_handle_within_pageOrder :
    let session : Session := { Session.ofReplies [] with
      environment := [("AI_BASE_URL", "http://in/")] }
    Orders plainRequest pageOrder ∧ Orders paddedRequest pageOrder ∧
      (handle plainRequest).runOn session = (handle paddedRequest).runOn session ∧
      ((handle paddedRequest).runOn session).2.trace.map postedTo =
        [some "http://in/api/generate"] ∧
      ∀ event ∈ ((handle paddedRequest).runOn session).2.trace,
        ∃ order, Orders paddedRequest order ∧
          IsSentFor session.environment order.provider event := by
  intro session
  obtain ⟨alike, -, sends⟩ := runOn_handle_within_order
  obtain ⟨sent, shown, fine⟩ := sends paddedRequest session
  refine ⟨orders_plainRequest, orders_paddedRequest, ?_, ?_, ?_⟩
  · exact alike _ _ _ session orders_plainRequest orders_paddedRequest
  · rw [runOn_handle_of_orders orders_paddedRequest]
    decide +kernel
  · rwa [shown]

end Server

end PatchReview
