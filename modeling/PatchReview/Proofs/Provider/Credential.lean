import PatchReview.Proofs.Provider.Calls
import PatchReview.Proofs.Provider.Choice
import PatchReview.Proofs.Text.Blank
import PatchReview.Settings

/-!
# The key that a provider gets

The settings look for a key under the name of the provider, and the provider
is chosen by the same name. Both ignore the case of letters, but only the
choice ignores white space around the name, so a service with a padded name
gets the general key and never its own (`apiKey_of_choose`). The variable of
another service is not looked at in either case.
-/

namespace PatchReview

def Service.keyVariable? : Service → Option String
  | openai => some "OPENAI_API_KEY"
  | anthropic => some "ANTHROPIC_API_KEY"
  | ollama => none

/-- Whether a name has no white space around it. -/
def IsPlainName (name : String) : Prop := Text.strip name.toList = name.toList

instance (name : String) : Decidable (IsPlainName name) :=
  inferInstanceAs (Decidable (Text.strip name.toList = name.toList))

-- ---------------------------------------------------------------------------
-- Names
-- ---------------------------------------------------------------------------

namespace Provider

theorem lookupName_of_plain (plain : IsPlainName wanted) :
    lookupName wanted = lowerName wanted := by
  rw [lookupName, plain, lowerName]

theorem isPlainName_of_lowerName (h : IsPlainName (lowerName wanted)) : IsPlainName wanted := by
  rw [IsPlainName, lowerName, String.toList_ofList] at h
  exact Text.strip_eq_self_of_map_lowerAscii h

theorem lookupName_of_kind? {service : Service} (h : kind? (some wanted) = some (.remote service)) :
    lookupName wanted = service.name := by
  have found : kinds.lookup (lookupName wanted) = some (.remote service) := h
  obtain ⟨before, after, listed, -⟩ := List.lookup_eq_some_iff.mp found
  have row : (lookupName wanted, Kind.remote service) ∈ kinds := by simp [listed]
  cases service <;> simpa [kinds] using row

end Provider

theorem Settings.keyVariable?_eq {service : Service}
    (named : Provider.lookupName wanted = service.name) :
    keyVariable? wanted = if IsPlainName wanted then service.keyVariable? else none := by
  split
  · next plain =>
    rw [keyVariable?, ← Provider.lookupName_of_plain plain, named]
    cases service <;> decide
  · next padded =>
    -- The names in the table are plain, so a padded one is not among them.
    have absent : ∀ row ∈ keyVariables, IsPlainName row.1 := by decide
    refine List.lookup_eq_none_iff.mpr fun row hrow => bne_iff_ne.mpr fun same => padded ?_
    exact Provider.isPlainName_of_lowerName (same ▸ absent row hrow)

/-- A general key counts first, and the own key of the service only under a
plain name. -/
theorem Settings.apiKeyFor_eq {service : Service}
    (named : Provider.lookupName wanted = service.name) (environment : Environment) :
    apiKeyFor environment wanted = (environment.value? "AI_API_KEY").or
      (if IsPlainName wanted then service.keyVariable?.bind environment.value? else none) := by
  rw [apiKeyFor, keyVariable?_eq named]
  cases environment.value? "AI_API_KEY" with
  | some key => rfl
  | none => by_cases plain : IsPlainName wanted <;> simp [plain]

theorem Settings.apiKey_of_ofEnvironment
    (configured : ofEnvironment environment override = .ok settings) :
    settings.apiKey = apiKeyFor environment settings.provider := by
  simp only [ofEnvironment] at configured
  split at configured
  · cases configured
  · cases configured
    rfl

theorem Environment.isEmpty_of_value? {environment : Environment}
    (h : environment.value? name = some text) : text.isEmpty = false := by
  simpa using (Option.filter_eq_some_iff.mp h).2

-- ---------------------------------------------------------------------------
-- Providers
-- ---------------------------------------------------------------------------

theorem Provider.remote_of_choose {provider : Remote}
    (uses : (choose (some wanted) apiKey baseUrl usedModel).runOn session =
      (.ok (.remote provider), after)) :
    lookupName wanted = provider.service.name ∧
      (provider.service.needsCredential = true → provider.apiKey = apiKey) := by
  unfold choose at uses
  split at uses
  · next kind found =>
    cases kind with
    | mock => cases uses
    | remote service =>
      cases uses
      refine ⟨lookupName_of_kind? found, fun needs => ?_⟩
      cases service with
      | openai | anthropic => rfl
      | ollama => cases needs
  · cases uses

namespace Remote

theorem isReady_of_apiKey {provider : Remote} (given : provider.apiKey = some key)
    (filled : key.isEmpty = false) : provider.IsReady := by
  intro _
  simp [hasCredential, given, filled]

theorem runOn_generate_of_no_key {provider : Remote}
    (needs : provider.service.needsCredential = true)
    (missing : provider.apiKey = none) (prompt : String) (state : Client × Session) :
    (provider.generate prompt).runOn state =
      (.error (.missingCredential provider.service.name), state) :=
  provider.runOn_generate_of_not_ready
    (fun ready => by simpa [hasCredential, missing] using ready needs)
    prompt state

/-- A reply that is not delivered ends in a failure of the transport, or was
raised as it is. -/
theorem payload_of_not_delivered {service : Service} {reply : ModelReply}
    (lost : reply.isDelivered service = false) (timeout : Binary64) :
    (∃ failure, payload service timeout reply = .error (.transport failure)) ∨
      ∃ failure, reply = .raised failure ∧ payload service timeout reply = .error failure := by
  cases reply with
  | timedOut | disconnected => cases service <;> exact .inl ⟨_, rfl⟩
  | raised failure =>
    cases failure with
    | request kind detail =>
      cases service with
      | ollama => left; simp only [payload]; split <;> exact ⟨_, rfl⟩
      | openai | anthropic => exact .inr ⟨_, rfl, rfl⟩
    | _ => exact .inr ⟨_, rfl, by cases service <;> rfl⟩
  | http status reason body =>
    cases service with
    | ollama =>
      have refused : Http.isErrorStatus status = true := by simpa [ModelReply.isDelivered] using lost
      exact .inl ⟨_, by simp only [payload, refused]; rfl⟩
    | openai | anthropic => exact .inl ⟨_, rfl⟩
  | completion | content => cases lost

theorem raised_of_payload {service : Service} {reply : ModelReply}
    (failed : payload service timeout reply = .error (.missingCredential text)) :
    reply = .raised (.missingCredential text) := by
  cases delivered : reply.isDelivered service with
  | true =>
    have reading := payload_reading timeout delivered
    rw [failed] at reading
    generalize reply.breaks service = c at reading
    cases reading with
    | breaks h => cases h
  | false =>
    rcases payload_of_not_delivered delivered timeout with ⟨_, same⟩ | ⟨_, rfl, same⟩
    · cases failed.symm.trans same
    · cases failed.symm.trans same
      rfl

theorem outcome_of_concluded {outcome : Except Failure Json} {failure : Failure}
    (h : Retry.concluded outcome attempts = .error failure)
    (plain : ∀ last count, failure ≠ .exhausted last count) : outcome = .error failure := by
  unfold Retry.concluded at h
  split at h
  · cases h
    exact absurd rfl (plain _ _)
  · exact h

/-- No reply makes a call fail for want of a key, except one that raises that
failure. -/
theorem raised_of_result {provider : Remote} {prompt : String} {queue : List ModelReply}
    (failed : (Call.of provider prompt queue).result provider = .error (.missingCredential text)) :
    ModelReply.raised (.missingCredential text) ∈ queue := by
  obtain ⟨call, hcall⟩ : ∃ call, Call.of provider prompt queue = call := ⟨_, rfl⟩
  rw [hcall, Call.result] at failed
  cases answered : call.answer provider with
  | ok found =>
    rw [answered] at failed
    have judged : provider.verdict found = .error (.missingCredential text) := failed
    unfold verdict at judged
    split at judged <;> cases judged
  | error failure =>
    rw [answered] at failed
    cases failed
    have last : provider.outcomeOf call.replies[call.requests - 1]? =
        .error (.missingCredential text) :=
      outcome_of_concluded answered (by rintro _ _ ⟨⟩)
    cases replied : call.replies[call.requests - 1]? with
    | none =>
      rw [replied] at last
      cases last
    | some reply =>
      rw [replied] at last
      have received : reply ∈ queue.take call.requests := by
        rw [← hcall] at replied ⊢
        exact List.mem_of_getElem? replied
      rw [raised_of_payload last] at received
      exact List.mem_of_mem_take received

end Remote

-- ---------------------------------------------------------------------------
-- From the environment to the provider
-- ---------------------------------------------------------------------------

/-- A service that needs a key gets the general one, or else its own if the name
it was chosen by has no white space around it. Without a key every call fails
and does nothing; with one no call fails for want of it. -/
theorem apiKey_of_choose {provider : Remote}
    (configured : Settings.ofEnvironment environment override = .ok settings)
    (uses : (Provider.choose (some settings.provider) settings.apiKey settings.baseUrl
      settings.model).runOn session = (.ok (.remote provider), after))
    (needs : provider.service.needsCredential = true) :
    (provider.apiKey = (environment.value? "AI_API_KEY").or
      (if IsPlainName settings.provider then
        provider.service.keyVariable?.bind environment.value? else none)) ∧
    (provider.apiKey = none → ∀ prompt state, (provider.generate prompt).runOn state =
      (.error (.missingCredential provider.service.name), state)) ∧
    (provider.apiKey.isSome → ∀ prompt client later text,
      ((provider.generate prompt).runOn (client, later)).1 = .error (.missingCredential text) →
      ModelReply.raised (.missingCredential text) ∈ later.modelReplies) := by
  obtain ⟨named, given⟩ := Provider.remote_of_choose uses
  have key : provider.apiKey = Settings.apiKeyFor environment settings.provider :=
    (given needs).trans (Settings.apiKey_of_ofEnvironment configured)
  rw [Settings.apiKeyFor_eq named] at key
  refine ⟨key, fun missing prompt state => ?_, fun there prompt client later text failed => ?_⟩
  · exact Remote.runOn_generate_of_no_key needs missing prompt state
  · obtain ⟨found, hfound⟩ := Option.isSome_iff_exists.mp there
    have filled : found.isEmpty = false := by
      rw [hfound] at key
      rcases Option.or_eq_some_iff.mp key.symm with general | ⟨-, own⟩
      · exact Environment.isEmpty_of_value? general
      · split at own
        · obtain ⟨name, -, own⟩ := Option.bind_eq_some_iff.mp own
          exact Environment.isEmpty_of_value? own
        · cases own
    rw [provider.runOn_generate (Remote.isReady_of_apiKey hfound filled)] at failed
    exact Remote.raised_of_result failed

def settingsWithKey (provider : String) (key : Option String) : Settings :=
  ⟨provider, key, none, none, none, none, none, "INFO", 1⟩

theorem apiKey_of_choose_openai :
    Settings.ofEnvironment [("OPENAI_API_KEY", "key")] (some "OpenAI") =
        .ok (settingsWithKey "OpenAI" (some "key")) ∧
      (Provider.choose (some "OpenAI") (some "key") none none).runOn (.ofReplies []) =
        (.ok (.remote (.keyed .openai)), .ofReplies []) ∧
      (Remote.keyed .openai).apiKey = some "key" := by
  have configured : Settings.ofEnvironment [("OPENAI_API_KEY", "key")] (some "OpenAI") =
      .ok (settingsWithKey "OpenAI" (some "key")) := by decide +kernel
  have uses : (Provider.choose (some "OpenAI") (some "key") none none).runOn (.ofReplies []) =
      (.ok (.remote (.keyed .openai)), .ofReplies []) := by
    have found : Provider.kind? (some "OpenAI") = some (.remote .openai) := by decide +kernel
    rw [Provider.choose, found]
    rfl
  refine ⟨configured, uses, ?_⟩
  rw [(apiKey_of_choose configured uses rfl).1]
  decide +kernel

theorem exists_padded_name_without_key :
    ¬ ∀ (environment : Environment) (override : Option String) (settings : Settings)
      (session after : Session) (provider : Remote) (key : String),
      Settings.ofEnvironment environment override = .ok settings →
      (Provider.choose (some settings.provider) settings.apiKey settings.baseUrl
        settings.model).runOn session = (.ok (.remote provider), after) →
      environment.value? "AI_API_KEY" = none →
      provider.service.keyVariable?.bind environment.value? = some key →
      provider.apiKey = some key := by
  intro claim
  have configured : Settings.ofEnvironment [("OPENAI_API_KEY", "key")] (some " openai") =
      .ok (settingsWithKey " openai" none) := by decide +kernel
  have found : Provider.kind? (some " openai") = some (.remote .openai) := by decide +kernel
  have uses : (Provider.choose (some " openai") none none none).runOn (.ofReplies []) =
      (.ok (.remote (.make .openai none none none none)), .ofReplies []) := by
    rw [Provider.choose, found]
    rfl
  exact nomatch claim _ _ _ _ _ _ "key" configured uses (by decide) (by decide)

end PatchReview
