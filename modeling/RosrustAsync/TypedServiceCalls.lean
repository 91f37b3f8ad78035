import RosrustAsync.CallResolution
import RosrustAsync.Messages

namespace RosrustAsync

open Runs

inductive ServiceClientError : Type
  | io (error : IoError)
  | rpcSend
  | rpcRecv
  | clientLink (error : ClientLinkError)

structure ServicePair (Q S : Type) where
  request : Message Q
  response : Message S

namespace ServicePair

variable {Q S : Type} (P : ServicePair Q S) (display : IoError → String) (callback : Q → Except String S)

/-- The callback that `advertise_service` gives to the provider. -/
def erasedCallback (data : Bytes) : Except String Bytes := do
  let request ← (P.request.decodeSlice data).mapError display
  let response ← callback request
  (P.response.encodeVec response).mapError display

/-- A typed `call`, which ends with what `call_raw` ends with. -/
def call (callRaw : Bytes → Except ClientLinkError Bytes) (request : Q) :
    Except ServiceClientError S := do
  let data ← (P.request.encodeVec request).mapError .io
  let reply ← (callRaw data).mapError .clientLink
  (P.response.decodeSlice reply).mapError .io

/-- The callback itself, its errors as a client sees them. -/
def direct (request : Q) : Except ServiceClientError S :=
  match callback request with
  | .ok response =>
    match P.response.encodeVec response with
    | .ok _ => .ok response
    | .error e => .error (.clientLink (.rpcFailure (display e)))
  | .error e => .error (.clientLink (.rpcFailure e))

/-- No text of an error outgrows its length prefix. -/
structure ShortTexts : Prop where
  request : ∀ data e, P.request.decodeSlice data = .error e → (asBytes (display e)).length < 2 ^ 32
  response : ∀ response e, P.response.encodeVec response = .error e →
    (asBytes (display e)).length < 2 ^ 32
  callback : ∀ request e, callback request = .error e → (asBytes e).length < 2 ^ 32

variable {P display callback}

theorem framed (h : P.ShortTexts display callback) : Framed (P.erasedCallback display callback) := by
  refine ⟨fun data response hr => ?_, fun data e he => ?_⟩
  · obtain ⟨request, -, hr⟩ := bind_eq_ok.mp hr
    obtain ⟨result, -, hr⟩ := bind_eq_ok.mp hr
    cases hencode : P.response.encodeVec result with
    | error e =>
      rw [hencode] at hr
      cases hr
    | ok bytes =>
      rw [hencode] at hr
      cases hr
      exact P.response.isFrame_encodeVec hencode
  · unfold erasedCallback at he
    cases hdecode : P.request.decodeSlice data with
    | error e' =>
      rw [hdecode] at he
      cases he
      exact h.request data e' hdecode
    | ok request =>
      rw [hdecode] at he
      cases hcallback : callback request with
      | error e' =>
        simp only [Except.mapError, bind, Except.bind, hcallback] at he
        cases he
        exact h.callback request e hcallback
      | ok response =>
        simp only [Except.mapError, bind, Except.bind, hcallback] at he
        cases hencode : P.response.encodeVec response with
        | error e' =>
          rw [hencode] at he
          cases he
          exact h.response response e' hencode
        | ok bytes =>
          rw [hencode] at he
          cases he

/-- A request that was encoded is answered as if its caller had the callback. -/
theorem call_outcome {request : Q} {data : Bytes} (h : P.request.encodeVec request = .ok data) :
    P.call (fun _ => ServiceCalls.outcome (P.erasedCallback display callback data)) request =
      P.direct display callback request := by
  rw [call, h, erasedCallback, P.request.decodeSlice_encodeVec h, direct]
  simp only [Except.mapError, bind, Except.bind]
  cases callback request with
  | error e => rfl
  | ok response =>
    cases hencode : P.response.encodeVec response with
    | error e => simp [hencode, ServiceCalls.outcome]
    | ok bytes => simp [hencode, ServiceCalls.outcome, P.response.decodeSlice_encodeVec hencode]

end ServicePair

namespace ServiceCalls

variable {Q S : Type} {P : ServicePair Q S} {display : IoError → String}
  {callback : Q → Except String S} {decodeString : Bytes → Except IoError String}
  {encodeString : String → Except IoError Bytes} {erased : Bytes → Except String Bytes}
  {s t : ServiceCalls}

/-- The requests of the link's clients are of type `Q`. -/
def Typed (P : ServicePair Q S) (label : Label) : Prop :=
  Reliable label ∧ ∀ data, label = .client (.call data) →
    ∃ request, P.request.encodeVec request = .ok data

theorem step_typed {label : Label} (h : ∀ b ∈ s.entered, ∃ m, P.request.encodeVec m = .ok b)
    (hok : Typed P label) (hs : s.step decodeString encodeString erased label = some t) :
    ∀ b ∈ t.entered, ∃ m, P.request.encodeVec m = .ok b := by
  have hconstants := congrArg (fun c => c.2.2) (step_constants hs)
  split at hconstants
  · rename_i data
    simp only [constants] at hconstants
    intro b hb
    rw [hconstants] at hb
    rcases List.mem_append.mp hb with hb | hb
    · exact h b hb
    · obtain rfl := List.mem_singleton.mp hb
      exact hok.2 b rfl
  · simp only [constants] at hconstants
    rw [hconstants]
    exact h

theorem mem_answers {entered : List Bytes} {replies : List (ℕ × Except ClientLinkError Bytes)}
    (h : replies <+: answers erased entered) {i : ℕ} {reply : Except ClientLinkError Bytes}
    (hmem : (i, reply) ∈ replies) :
    ∃ data, entered[i]? = some data ∧ reply = outcome (erased data) := by
  obtain ⟨j, hj⟩ := List.mem_iff_getElem?.mp (h.subset hmem)
  rw [answers, List.getElem?_mapIdx, Option.map_eq_some_iff] at hj
  obtain ⟨data, hdata, heq⟩ := hj
  cases heq
  exact ⟨data, hdata, rfl⟩

theorem replies_in_order {entered : List Bytes} {replies : List (ℕ × Except ClientLinkError Bytes)}
    (h : replies <+: answers erased entered) :
    replies.map Prod.fst = List.range replies.length := by
  obtain ⟨rest, hrest⟩ := h
  apply List.ext_getElem?
  intro i
  by_cases hi : i < replies.length
  · have hget : (answers erased entered)[i]? = some replies[i] := by
      rw [← hrest, List.getElem?_append_left hi, List.getElem?_eq_getElem hi]
    rw [answers, List.getElem?_mapIdx, Option.map_eq_some_iff] at hget
    obtain ⟨data, -, heq⟩ := hget
    rw [List.getElem?_map, List.getElem?_eq_getElem hi, ← heq, List.getElem?_range hi]
    rfl
  · rw [List.getElem?_eq_none (by simpa using hi), List.getElem?_eq_none (by simpa using hi)]

theorem typed_calls_resolve {service service' : Service} {callerId callerId' : String}
    {persistent : Bool} {link : ClientLink} {provider : Listener}
    (hlink : ClientLink.new service callerId persistent = .ok link)
    (hprovider : Listener.new service' callerId' = .ok provider)
    (hcompatible : service.spec.validateCompatibility service'.spec = .ok ())
    (hclient : link.args.clientHeaderBytes.length < 4 + 2 ^ 32)
    (hprobe : link.args.probeHeaderBytes.length < 4 + 2 ^ 32)
    (hserver : provider.serverHeaderBytes.length < 4 + 2 ^ 32)
    (hresponse : provider.probeHeaderBytes.length < 4 + 2 ^ 32)
    (hc : Codec decodeString encodeString) (hshort : P.ShortTexts display callback)
    {labels : List Label}
    (hrun : Run (step decodeString encodeString (P.erasedCallback display callback))
      (fun _ => Typed P) (start link provider) labels s) :
    ∃ requests, P.request.Encodes requests s.entered ∧
      s.link.replies.map Prod.fst = List.range s.link.replies.length ∧
      (∀ i reply, (i, reply) ∈ s.link.replies → ∃ request, requests[i]? = some request ∧
        P.call (fun _ => reply) request = P.direct display callback request) ∧
      (∃ n, P.request.Encodes (requests.take n) s.invoked ∧ s.link.replies.length ≤ n ∧
        n ≤ s.link.replies.length + 1) ∧
      (s.link.replies.length < requests.length →
        Enabled decodeString encodeString (P.erasedCallback display callback) s) := by
  have hf := ServicePair.framed hshort
  have ha := agreed_of_new hlink hprovider hcompatible hclient hprobe hserver hresponse
  obtain ⟨hstart, -⟩ : Invariant (P.erasedCallback display callback) (start link provider) false ∧
      (start link provider).measure = 0 := by
    simp only [ClientLink.new, toBytes_eq] at hlink
    cases hlink
    exact start_invariant rfl rfl rfl rfl rfl rfl
  obtain ⟨called, h, hagreed, -⟩ := run_invariant ha hc hf (hrun.mono fun _ _ hok => hok.1) hstart
  have htyped : ∀ b ∈ s.entered, ∃ m, P.request.encodeVec m = .ok b :=
    hrun.invariant (I := fun s => ∀ b ∈ s.entered, ∃ m, P.request.encodeVec m = .ok b)
      (fun _ _ _ h => step_typed h) (by simp [start])
  obtain ⟨requests, hrequests⟩ := Message.exists_encodes htyped
  have hlength : requests.length = s.entered.length := by
    simpa using congrArg List.length hrequests
  refine ⟨requests, hrequests, replies_in_order h.accounts.answers, fun i reply hmem => ?_,
    ⟨s.link.replies.length + called.toNat, ?_, Nat.le_add_right _ _,
      Nat.add_le_add_left (Bool.toNat_le called) _⟩, fun hlt => ?_⟩
  · obtain ⟨data, hdata, rfl⟩ := mem_answers h.accounts.answers hmem
    have hi : (requests.map P.request.encodeVec)[i]? = some (.ok data) := by
      rw [hrequests, List.getElem?_map, hdata]
      rfl
    rw [List.getElem?_map, Option.map_eq_some_iff] at hi
    obtain ⟨request, hrequest, hencode⟩ := hi
    exact ⟨request, hrequest, ServicePair.call_outcome hencode⟩
  · rw [h.invoked, Message.Encodes, List.map_take, hrequests, List.map_take]
  · exact h.enabled hagreed hc hf (hlength ▸ hlt)

/-- A service whose requests and responses are a byte. -/
def bytePair : ServicePair UInt8 UInt8 := ⟨byteMessage, byteMessage⟩

theorem typed_calls_resolve_refused : ∃ (s : ServiceCalls) (reply : Except ClientLinkError Bytes),
    s.link.replies = [(0, reply)] ∧
      bytePair.call (fun _ => reply) 1 = .error (.clientLink (.rpcFailure "no")) := by
  obtain ⟨link, hlink, hfresh, -, hclient, hprobe⟩ := addService_link
  obtain ⟨provider, hprovider, hserver, hresponse⟩ := addService_listener
  have hcompatible : addService.spec.validateCompatibility addService.spec = .ok () := rfl
  have hshort : bytePair.ShortTexts (fun _ => "") (fun _ => .error "no") := by
    refine ⟨fun _ _ _ => by decide, fun _ _ _ => by decide, fun request e he => ?_⟩
    cases he
    decide
  have hframe : IsFrame (frame (asBytes "no")) := ⟨_, by decide, rfl⟩
  obtain ⟨rest, hread, -⟩ := hframe.readTcprosFrame
  obtain ⟨s, hrun, hreplies, hentered⟩ := run_failure
    (bytePair.erasedCallback (fun _ => "") fun _ => .error "no")
    (agreed_of_new hlink hprovider hcompatible hclient hprobe hserver hresponse)
    (frame [1]) ⟨[1], by decide, rfl⟩ rfl (codec_text.encode "no") hread
    (codec_text.decode "no" (by decide))
  rw [← hfresh] at hrun
  have htyped : Run _ (fun _ => Typed bytePair) _ _ s := hrun.of_mem fun label hlabel _ hok => by
    refine ⟨hok, ?_⟩
    rintro data rfl
    simp only [probing, greeting, exchange, List.cons_append, List.nil_append, List.mem_cons,
      reduceCtorEq, Label.client.injEq, ClientLink.Label.call.injEq, List.not_mem_nil,
      or_false] at hlabel
    exact ⟨1, by rw [hlabel]; rfl⟩
  obtain ⟨requests, hrequests, -, hresolved, -⟩ := typed_calls_resolve hlink hprovider hcompatible
    hclient hprobe hserver hresponse codec_text hshort htyped
  obtain ⟨request, hrequest, hcall⟩ := hresolved 0 (.error (.rpcFailure "no")) (by simp [hreplies])
  have hone : requests = [1] := by
    rw [← hrequests.filterMap, hentered]
    rfl
  subst hone
  cases hrequest
  exact ⟨s, _, hreplies, hcall⟩

end ServiceCalls

end RosrustAsync
