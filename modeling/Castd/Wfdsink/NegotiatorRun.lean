import Castd.Wfdsink.Rtsp

/-!
# Runs of the negotiator

Any sequence of calls of the methods of `WfdNegotiator`, whatever the arguments and whether or not
a call raises. What one call can do is said once (`Call.Effect`, `Call.invoke_cases`), and what
holds after every sequence is read off it (`negotiator_run_lawful`).
-/

namespace Castd.Wfdsink

open Lib WfdNegotiator

/-! ## Calls -/

/-- A call of a method. -/
inductive Call
  | handleM1Options (request : Str)
  | buildM2OptionsRequest
  | handleM3GetParameter (request : Str)
  | handleM4SetParameter (request : Str)
  | handleM5Generic (request : Str)
  | buildM6SetupRequest (sourceIp : Str)
  | parseM6Response (response : Str)
  | buildM7PlayRequest (sourceIp : Str)
  | confirmStreaming (response : Str)
  | isTeardown (message : Str)
  | buildSteadyStateAck (message : Str)
  | markTornDown
  deriving DecidableEq

/-- What a call returns. -/
inductive Reply
  | text (text : Str)
  | texts (texts : List Str)
  | params (session : WfdSessionParams)
  | flag (flag : Bool)
  | nothing
  deriving DecidableEq

/-- The method of a call. -/
def Call.invoke : Call → Negotiating Reply
  | .handleM1Options request => return .text (← WfdNegotiator.handleM1Options request)
  | .buildM2OptionsRequest => return .text (← WfdNegotiator.buildM2OptionsRequest)
  | .handleM3GetParameter request => return .text (← WfdNegotiator.handleM3GetParameter request)
  | .handleM4SetParameter request => return .text (← WfdNegotiator.handleM4SetParameter request)
  | .handleM5Generic request => return .text (← WfdNegotiator.handleM5Generic request)
  | .buildM6SetupRequest sourceIp => return .text (← WfdNegotiator.buildM6SetupRequest sourceIp)
  | .parseM6Response response => return .params (← WfdNegotiator.parseM6Response response)
  | .buildM7PlayRequest sourceIp => return .text (← WfdNegotiator.buildM7PlayRequest sourceIp)
  | .confirmStreaming response => do
    WfdNegotiator.confirmStreaming response
    return .nothing
  | .isTeardown message => return .flag (WfdNegotiator.isTeardown message)
  | .buildSteadyStateAck message => return .texts (← WfdNegotiator.buildSteadyStateAck message)
  | .markTornDown => do
    WfdNegotiator.markTornDown
    return .nothing

/-- The state a handler of the handshake is for. -/
def Call.waitsIn : Call → Option WfdState
  | .handleM1Options _ => some .waitM1
  | .handleM3GetParameter _ => some .waitM3
  | .handleM4SetParameter _ => some .waitM4
  | .handleM5Generic _ => some .waitM5
  | .parseM6Response _ => some .waitM6Response
  | .confirmStreaming _ => some .waitM7Response
  | _ => none

/-- The states of the handshake in their order. -/
def handshakeOrder : List WfdState :=
  [.waitM1, .waitM3, .waitM4, .waitM5, .waitM6Response, .waitM7Response]

/-- One step along the order. -/
def WfdState.next : WfdState → Option WfdState
  | .waitM1 => some .waitM3
  | .waitM3 => some .waitM4
  | .waitM4 => some .waitM5
  | .waitM5 => some .waitM6Response
  | .waitM6Response => some .waitM7Response
  | .waitM7Response => some .streaming
  | .streaming => none
  | .tornDown => none

/-- The first line of the request a call builds. -/
def Call.startLine : Call → Option Str
  | .buildM2OptionsRequest => some "OPTIONS * RTSP/1.0".toList
  | .buildM6SetupRequest sourceIp =>
    some ("SETUP rtsp://".toList ++ sourceIp ++ "/wfd1.0/streamid=0 RTSP/1.0".toList)
  | .buildM7PlayRequest sourceIp =>
    some ("PLAY rtsp://".toList ++ sourceIp ++ "/wfd1.0/streamid=0 RTSP/1.0".toList)
  | _ => none

/-- A request with this first line and this CSeq after it. -/
def IsNumbered (request line : Str) (cseq : Nat) : Prop :=
  ∃ others, request = line ++ "\r\nCSeq: ".toList ++ decimal cseq ++ crlf ++ others

private theorem m2Request_isNumbered (cseq : Nat) :
    IsNumbered (m2Request cseq) "OPTIONS * RTSP/1.0".toList cseq := by
  have front : "OPTIONS * RTSP/1.0\r\nCSeq: ".toList =
      "OPTIONS * RTSP/1.0".toList ++ "\r\nCSeq: ".toList := by decide
  have back : "\r\nRequire: org.wfa.wfd1.0\r\n\r\n".toList =
      crlf ++ "Require: org.wfa.wfd1.0\r\n\r\n".toList := by decide
  refine ⟨"Require: org.wfa.wfd1.0\r\n\r\n".toList, ?_⟩
  unfold m2Request
  simp only [front, back, List.append_assoc]

private theorem m6Request_isNumbered (sourceIp : Str) (cseq port : Nat) :
    IsNumbered (m6Request sourceIp cseq port)
      ("SETUP rtsp://".toList ++ sourceIp ++ "/wfd1.0/streamid=0 RTSP/1.0".toList) cseq := by
  have front : "/wfd1.0/streamid=0 RTSP/1.0\r\nCSeq: ".toList =
      "/wfd1.0/streamid=0 RTSP/1.0".toList ++ "\r\nCSeq: ".toList := by decide
  have back : "\r\nTransport: RTP/AVP/UDP;unicast;client_port=".toList =
      crlf ++ "Transport: RTP/AVP/UDP;unicast;client_port=".toList := by decide
  refine ⟨"Transport: RTP/AVP/UDP;unicast;client_port=".toList ++ decimal port ++ crlf2, ?_⟩
  unfold m6Request
  simp only [front, back, List.append_assoc]

private theorem m7Request_isNumbered (sourceIp : Str) (cseq : Nat) (id : Str) :
    IsNumbered (m7Request sourceIp cseq id)
      ("PLAY rtsp://".toList ++ sourceIp ++ "/wfd1.0/streamid=0 RTSP/1.0".toList) cseq := by
  have front : "/wfd1.0/streamid=0 RTSP/1.0\r\nCSeq: ".toList =
      "/wfd1.0/streamid=0 RTSP/1.0".toList ++ "\r\nCSeq: ".toList := by decide
  have back : "\r\nSession: ".toList = crlf ++ "Session: ".toList := by decide
  refine ⟨"Session: ".toList ++ id ++ crlf2, ?_⟩
  unfold m7Request
  simp only [front, back, List.append_assoc]

/-! ## One call -/

/-- What a call that returns does to the negotiator. -/
inductive Call.Effect (n : WfdNegotiator) : Call → Reply → WfdNegotiator → Prop
  /-- A handler goes one step along the order. What it records of the session is the user input
  back channel. -/
  | handled {call : Call} {reply : Reply} {state next : WfdState} {port : Option Str}
    {hidc : Bool} (waits : call.waitsIn = some state) (other : state ≠ .waitM6Response)
    (stands : n.state = state) (step : state.next = some next) :
    Effect n call reply
      { n with session := { n.session with uibcPort := port, useHidc := hidc }, state := next }
  /-- `parse_m6_response` records the port and the id of the session too. -/
  | parsed {response id : Str} {port : Nat} {session : WfdSessionParams}
    (stands : n.state = .waitM6Response)
    (records : session = { n.session with serverPort := some port, sessionId := some id }) :
    Effect n (.parseM6Response response) (.params session)
      { n with session := session, state := .waitM7Response }
  /-- A request is built with the next CSeq. -/
  | built {call : Call} {line request : Str} (builds : call.startLine = some line)
    (numbered : IsNumbered request line (n.ownCseq + 1)) :
    Effect n call (.text request) { n with ownCseq := n.ownCseq + 1 }
  | tornDown : Effect n .markTornDown .nothing { n with state := .tornDown }
  /-- `is_teardown` and `build_steady_state_ack` change nothing. -/
  | looked {call : Call} {reply : Reply} (noHandler : call.waitsIn = none)
    (noRequest : call.startLine = none) (goesOn : call ≠ .markTornDown) : Effect n call reply n

section

variable {n n' : WfdNegotiator}

private theorem Call.Effect.of_state {call : Call} {reply : Reply} {state next : WfdState}
    (waits : call.waitsIn = some state) (other : state ≠ .waitM6Response)
    (stands : n.state = state) (step : state.next = some next) :
    call.Effect n reply { n with state := next } := by
  show call.Effect n reply { n with
    session := { n.session with uibcPort := n.session.uibcPort, useHidc := n.session.useHidc }
    state := next }
  exact .handled waits other stands step

private theorem Call.invoke_ok {α : Type} {call : Call} {x : Negotiating α} {wrap : α → Reply}
    {a : α}
    (does : call.invoke = x >>= fun a => pure (wrap a)) (returned : x n = .ok a n') :
    call.invoke n = .ok (wrap a) n' := by
  rw [does, bind_of_ok returned]
  rfl

private theorem Call.invoke_error {α : Type} {call : Call} {x : Negotiating α} {wrap : α → Reply}
    {e : PyError} (does : call.invoke = x >>= fun a => pure (wrap a)) (raised : x n = .error e n') :
    call.invoke n = .error e n' := by
  rw [does, bind_of_error raised]

private theorem Call.invoke_answer {call : Call} {what : String} {state next : WfdState}
    {request : Str}
    {reply : Str → Negotiating Str}
    (does : call.invoke = answerRequest what state next request reply >>= fun t => pure (.text t))
    (waits : call.waitsIn = some state) (other : state ≠ .waitM6Response)
    (step : state.next = some next)
    (replies : ∀ c, ∃ response n', reply c n = .ok response n' ∧ ∃ port hidc,
      n' = { n with session := { n.session with uibcPort := port, useHidc := hidc } }) :
    (∃ e, call.invoke n = .error e n) ∨
      ∃ reply n', call.invoke n = .ok reply n' ∧ call.Effect n reply n' := by
  have cases : (∃ e, answerRequest what state next request reply n = .error e n) ∨ _ :=
    answerRequest_cases replies
  rcases cases with raised | answered
  · obtain ⟨e, raised⟩ := raised
    exact .inl ⟨e, invoke_error does raised⟩
  · obtain ⟨stands, response, n', ⟨port, hidc, rfl⟩, answered⟩ := answered
    exact .inr ⟨.text response, _, invoke_ok does answered, .handled waits other stands step⟩

/-- A call raises and changes nothing, or returns with its effect. -/
theorem Call.invoke_cases (call : Call) (n : WfdNegotiator) :
    (∃ e, call.invoke n = .error e n) ∨
      ∃ reply n', call.invoke n = .ok reply n' ∧ call.Effect n reply n' := by
  cases call with
  | handleM1Options request =>
    apply invoke_answer rfl rfl (by decide) rfl
    exact fun c => ⟨_, n, rfl, n.session.uibcPort, n.session.useHidc, rfl⟩
  | handleM3GetParameter request =>
    apply invoke_answer rfl rfl (by decide) rfl
    exact fun c => ⟨_, n, rfl, n.session.uibcPort, n.session.useHidc, rfl⟩
  | handleM5Generic request =>
    apply invoke_answer rfl rfl (by decide) rfl
    exact fun c => ⟨_, n, rfl, n.session.uibcPort, n.session.useHidc, rfl⟩
  | handleM4SetParameter request =>
    apply invoke_answer rfl rfl (by decide) rfl
    intro c
    obtain ⟨port, hidc, recorded⟩ := withUibcPort_frame n.session request
    refine ⟨okResponse c, { n with session := withUibcPort n.session request }, rfl, port, hidc, ?_⟩
    rw [recorded]
  | buildM2OptionsRequest =>
    exact .inr ⟨.text _, _, invoke_ok rfl buildM2OptionsRequest_ok,
      .built rfl (m2Request_isNumbered _)⟩
  | buildM6SetupRequest sourceIp =>
    exact .inr ⟨.text _, _, invoke_ok rfl (buildM6SetupRequest_ok sourceIp),
      .built rfl (m6Request_isNumbered sourceIp _ _)⟩
  | buildM7PlayRequest sourceIp =>
    cases hid : n.session.sessionId with
    | none => exact .inl ⟨_, invoke_error rfl (buildM7PlayRequest_notParsed sourceIp hid)⟩
    | some id =>
      exact .inr ⟨.text _, _, invoke_ok rfl (buildM7PlayRequest_ok sourceIp hid),
        .built rfl (m7Request_isNumbered sourceIp _ id)⟩
  | parseM6Response response =>
    cases parsed : WfdNegotiator.parseM6Response response n with
    | ok session n' =>
      have stands := (expect_bind_eq_ok parsed).1
      obtain ⟨_, _, _, _, _, _, records, rfl⟩ := parseM6Response_eq_ok stands parsed
      exact .inr ⟨_, _, invoke_ok rfl parsed, .parsed stands records⟩
    | error e n' =>
      rw [parseM6Response_keeps parsed] at parsed
      exact .inl ⟨e, invoke_error rfl parsed⟩
  | confirmStreaming response =>
    cases acked : WfdNegotiator.confirmStreaming response n with
    | ok _ n' =>
      have stands := (expect_bind_eq_ok acked).1
      obtain ⟨_, rfl⟩ := confirmStreaming_eq_ok stands acked
      exact .inr ⟨_, _, invoke_ok rfl acked, .of_state rfl (by decide) stands rfl⟩
    | error e n' =>
      rw [confirmStreaming_keeps acked] at acked
      exact .inl ⟨e, invoke_error rfl acked⟩
  | isTeardown message => exact .inr ⟨_, _, rfl, .looked rfl rfl nofun⟩
  | buildSteadyStateAck message =>
    by_cases stands : n.state = .streaming
    · cases found : ackCseqs (split crlf2 message) with
      | some cseqs =>
        exact .inr ⟨_, _, invoke_ok rfl (buildSteadyStateAck_ok stands found),
          .looked rfl rfl nofun⟩
      | none =>
        obtain ⟨_, raised⟩ := buildSteadyStateAck_noCseq stands found
        exact .inl ⟨_, invoke_error rfl raised⟩
    · have unexpected : ∃ e, WfdNegotiator.buildSteadyStateAck message n = .error e n :=
        buildSteadyStateAck_unexpected stands
      obtain ⟨e, raised⟩ := unexpected
      exact .inl ⟨e, invoke_error rfl raised⟩
  | markTornDown => exact .inr ⟨_, _, rfl, .tornDown⟩

end

/-! ## Runs -/

/-- A call and how it ended. -/
structure CallEvent where
  call : Call
  outcome : Except PyError Reply

/-- A negotiator, and the calls so far, oldest first. -/
structure NegotiatorRun where
  negotiator : WfdNegotiator
  events : List CallEvent := []

/-- One more call. -/
def NegotiatorRun.call (r : NegotiatorRun) (call : Call) : NegotiatorRun :=
  match call.invoke r.negotiator with
  | .ok reply n => { negotiator := n, events := r.events ++ [⟨call, .ok reply⟩] }
  | .error e n => { negotiator := n, events := r.events ++ [⟨call, .error e⟩] }

/-- Any calls on a fresh negotiator. -/
def NegotiatorRun.of (capabilities : WfdCapabilities) (sinkRtpPort : Nat) (calls : List Call) :
    NegotiatorRun :=
  calls.foldl NegotiatorRun.call { negotiator := .new capabilities sinkRtpPort }

/-- The state a handler that succeeded was for. -/
def CallEvent.succeeded (event : CallEvent) : Option WfdState :=
  match event.outcome with
  | .ok _ => event.call.waitsIn
  | .error _ => none

/-- The first line and the text of a request that was built. -/
def CallEvent.request (event : CallEvent) : Option (Str × Str) :=
  match event.outcome, event.call.startLine with
  | .ok (.text request), some line => some (line, request)
  | _, _ => none

namespace NegotiatorRun

/-- The states of the handlers that succeeded, in order. -/
def succeeded (r : NegotiatorRun) : List WfdState := r.events.filterMap CallEvent.succeeded

/-- The requests that were built, in order. -/
def requests (r : NegotiatorRun) : List (Str × Str) := r.events.filterMap CallEvent.request

/-- What holds of a negotiator after any calls. It is stated on the calls so far, which returned and
which raised, and so says of the record and of the requests where they came from. -/
structure Lawful (r : NegotiatorRun) : Prop where
  /-- A call that raises changes nothing. -/
  raise_keeps : ∀ (call : Call) e n, call.invoke r.negotiator = .error e n → n = r.negotiator
  /-- A handler that succeeds takes the state one step along the order. -/
  handler_steps : ∀ (call : Call) state reply n, call.waitsIn = some state →
    call.invoke r.negotiator = .ok reply n →
      r.negotiator.state = state ∧ state.next = some n.state
  /-- Every other call but `mark_torn_down` leaves the state. -/
  others_keep : ∀ (call : Call) reply n, call.waitsIn = none → call ≠ .markTornDown →
    call.invoke r.negotiator = .ok reply n → n.state = r.negotiator.state
  /-- After `mark_torn_down` the state stays, and every handler raises. -/
  torn_down : (∃ event ∈ r.events, event.call = .markTornDown) →
    r.negotiator.state = .tornDown ∧
      ∀ call : Call, call.waitsIn.isSome = true →
        ∃ e, call.invoke r.negotiator = .error e r.negotiator
  /-- STREAMING is reached through the six handlers, each once and in order. -/
  streaming : r.negotiator.state = .streaming → r.succeeded = handshakeOrder
  /-- Before the response to M6 is parsed there is no port and no session id. -/
  unparsed : .waitM6Response ∉ r.succeeded →
    r.negotiator.session.serverPort = none ∧ r.negotiator.session.sessionId = none
  /-- What the parse recorded is there and stays. -/
  parsed : ∀ response session, ⟨.parseM6Response response, .ok (.params session)⟩ ∈ r.events →
    (∃ port, session.serverPort = some port ∧ r.negotiator.session.serverPort = some port) ∧
      ∃ id, session.sessionId = some id ∧ r.negotiator.session.sessionId = some id
  /-- PLAY cannot be built exactly before the response to M6 is parsed. -/
  play : ∀ sourceIp, (∃ e n, Call.invoke (.buildM7PlayRequest sourceIp) r.negotiator = .error e n) ↔
    .waitM6Response ∉ r.succeeded
  /-- The requests are numbered from one on, without a gap. -/
  numbered : r.requests.length = r.negotiator.ownCseq ∧
    ∀ k line request, r.requests[k]? = some (line, request) → IsNumbered request line (k + 1)

end NegotiatorRun

/-- The states still to pass. -/
def WfdState.todo : WfdState → List WfdState
  | .waitM1 => handshakeOrder
  | .waitM3 => handshakeOrder.drop 1
  | .waitM4 => handshakeOrder.drop 2
  | .waitM5 => handshakeOrder.drop 3
  | .waitM6Response => handshakeOrder.drop 4
  | .waitM7Response => handshakeOrder.drop 5
  | .streaming => []
  | .tornDown => []

private theorem WfdState.todo_of_next {state next : WfdState} (step : state.next = some next) :
    state.todo = state :: next.todo ∧ state ≠ .tornDown ∧ next ≠ .tornDown := by
  cases state <;> cases step <;> exact ⟨rfl, by decide, by decide⟩

private theorem Call.startLine_of_waitsIn {call : Call} {state : WfdState}
    (waits : call.waitsIn = some state) : call.startLine = none := by
  cases call <;> cases waits <;> rfl

private theorem Call.waitsIn_of_startLine {call : Call} {line : Str}
    (builds : call.startLine = some line) : call.waitsIn = none ∧ call ≠ .markTornDown := by
  cases call <;> cases builds <;> exact ⟨rfl, nofun⟩

namespace NegotiatorRun

variable {r : NegotiatorRun} {call : Call} {n : WfdNegotiator}

private theorem call_of_ok {reply : Reply} (h : call.invoke r.negotiator = .ok reply n) :
    r.call call = { negotiator := n, events := r.events ++ [⟨call, .ok reply⟩] } := by
  rw [NegotiatorRun.call, h]

private theorem call_of_error {e : PyError} (h : call.invoke r.negotiator = .error e n) :
    r.call call = { negotiator := n, events := r.events ++ [⟨call, .error e⟩] } := by
  rw [NegotiatorRun.call, h]

private theorem succeeded_append (n : WfdNegotiator) (events : List CallEvent) (event : CallEvent) :
    (NegotiatorRun.mk n (events ++ [event])).succeeded =
      events.filterMap CallEvent.succeeded ++ event.succeeded.toList := by
  rw [succeeded, List.filterMap_append]
  cases h : event.succeeded <;> simp [h]

private theorem requests_append (n : WfdNegotiator) (events : List CallEvent) (event : CallEvent) :
    (NegotiatorRun.mk n (events ++ [event])).requests =
      events.filterMap CallEvent.request ++ event.request.toList := by
  rw [requests, List.filterMap_append]
  cases h : event.request <;> simp [h]

/-- The negotiator and the calls so far agree. -/
structure Coherent (r : NegotiatorRun) : Prop where
  order : r.negotiator.state ≠ .tornDown →
    r.succeeded ++ r.negotiator.state.todo = handshakeOrder
  tornDown : (∃ event ∈ r.events, event.call = .markTornDown) → r.negotiator.state = .tornDown
  unparsed : .waitM6Response ∉ r.succeeded →
    r.negotiator.session.serverPort = none ∧ r.negotiator.session.sessionId = none
  recorded : .waitM6Response ∈ r.succeeded → r.negotiator.session.sessionId ≠ none
  parsed : ∀ response session, ⟨.parseM6Response response, .ok (.params session)⟩ ∈ r.events →
    (∃ port, session.serverPort = some port ∧ r.negotiator.session.serverPort = some port) ∧
      ∃ id, session.sessionId = some id ∧ r.negotiator.session.sessionId = some id
  numbered : r.requests.length = r.negotiator.ownCseq ∧
    ∀ k line request, r.requests[k]? = some (line, request) → IsNumbered request line (k + 1)

namespace Coherent

/-- A fresh negotiator. -/
theorem new (capabilities : WfdCapabilities) (sinkRtpPort : Nat) :
    Coherent { negotiator := .new capabilities sinkRtpPort } where
  order := fun _ => rfl
  tornDown := by simp
  unparsed := fun _ => ⟨rfl, rfl⟩
  recorded := nofun
  parsed := nofun
  numbered := ⟨rfl, nofun⟩

private theorem mem_succeeded {response : Str} {session : WfdSessionParams}
    (mem : ⟨.parseM6Response response, .ok (.params session)⟩ ∈ r.events) :
    .waitM6Response ∈ r.succeeded := List.mem_filterMap.mpr ⟨_, mem, rfl⟩

/-- The handler of the present state has not succeeded before. -/
theorem fresh (h : Coherent r) {state next : WfdState} (stands : r.negotiator.state = state)
    (step : state.next = some next) : state ∉ r.succeeded := by
  obtain ⟨here, up, _⟩ := WfdState.todo_of_next step
  have order := h.order (stands ▸ up)
  rw [stands, here] at order
  have once : (r.succeeded ++ state :: next.todo).Nodup := by
    rw [order]
    decide
  intro before
  exact (List.nodup_append.mp once).2.2 state before state List.mem_cons_self rfl

private theorem order_next (h : Coherent r) {state next : WfdState}
    (stands : r.negotiator.state = state)
    (step : state.next = some next) : r.succeeded ++ [state] ++ next.todo = handshakeOrder := by
  obtain ⟨here, up, _⟩ := WfdState.todo_of_next step
  have order := h.order (stands ▸ up)
  rwa [stands, here, List.append_cons] at order

private theorem marked_of_concat {event : CallEvent} (goesOn : event.call ≠ .markTornDown)
    (marked : ∃ e ∈ r.events ++ [event], e.call = .markTornDown) :
    ∃ e ∈ r.events, e.call = .markTornDown := by
  obtain ⟨e, mem, marks⟩ := marked
  rcases List.mem_append.mp mem with old | new
  · exact ⟨e, old, marks⟩
  · rw [List.mem_singleton.mp new] at marks
    exact absurd marks goesOn

private theorem parse_of_concat {event : CallEvent} {response : Str} {session : WfdSessionParams}
    (other : event.succeeded ≠ some .waitM6Response)
    (mem : ⟨.parseM6Response response, .ok (.params session)⟩ ∈ r.events ++ [event]) :
    ⟨.parseM6Response response, .ok (.params session)⟩ ∈ r.events := by
  rcases List.mem_append.mp mem with old | new
  · exact old
  · rw [← List.mem_singleton.mp new] at other
    exact absurd rfl other

private theorem numbered_concat {requests : List (Str × Str)} {line request : Str}
    (each : ∀ k l t, requests[k]? = some (l, t) → IsNumbered t l (k + 1))
    (next : IsNumbered request line (requests.length + 1)) (k : Nat) (l t : Str)
    (found : (requests ++ [(line, request)])[k]? = some (l, t)) : IsNumbered t l (k + 1) := by
  by_cases old : k < requests.length
  · rw [List.getElem?_append_left old] at found
    exact each k l t found
  · have last : k = requests.length := by
      have within := (List.getElem?_eq_some_iff.mp found).1
      simp at within
      omega
    rw [last, List.getElem?_concat_length] at found
    cases found
    rw [last]
    exact next

/-- A call that handles nothing and builds nothing. -/
theorem quiet (h : Coherent r) {event : CallEvent} {state : WfdState}
    (noHandler : event.succeeded = none) (noRequest : event.request = none)
    (stays : state = .tornDown ∨ state = r.negotiator.state ∧ event.call ≠ .markTornDown) :
    Coherent { negotiator := { r.negotiator with state := state },
               events := r.events ++ [event] } := by
  have handlers : (NegotiatorRun.mk { r.negotiator with state := state }
      (r.events ++ [event])).succeeded = r.succeeded := by
    rw [succeeded_append, noHandler]
    exact List.append_nil _
  have built : (NegotiatorRun.mk { r.negotiator with state := state }
      (r.events ++ [event])).requests = r.requests := by
    rw [requests_append, noRequest]
    exact List.append_nil _
  constructor
  · intro up
    rw [handlers]
    rcases stays with rfl | ⟨rfl, _⟩
    · exact absurd rfl up
    · exact h.order up
  · intro marked
    rcases stays with rfl | ⟨rfl, goesOn⟩
    · rfl
    · exact h.tornDown (marked_of_concat goesOn marked)
  · rw [handlers]
    exact h.unparsed
  · rw [handlers]
    exact h.recorded
  · intro response session mem
    refine h.parsed response session (parse_of_concat ?_ mem)
    rw [noHandler]
    exact nofun
  · rw [built]
    exact h.numbered

/-- A handler goes one step along the order. -/
theorem handled (h : Coherent r) {reply : Reply} {state next : WfdState} {port : Option Str}
    {hidc : Bool} (waits : call.waitsIn = some state) (other : state ≠ .waitM6Response)
    (stands : r.negotiator.state = state) (step : state.next = some next) :
    Coherent { negotiator := { r.negotiator with
        session := { r.negotiator.session with uibcPort := port, useHidc := hidc }, state := next }
               events := r.events ++ [⟨call, .ok reply⟩] } := by
  have noRequest : (CallEvent.mk call (.ok reply)).request = none := by
    rw [CallEvent.request, Call.startLine_of_waitsIn waits]
    cases reply <;> rfl
  constructor
  · intro _
    rw [succeeded_append, CallEvent.succeeded, waits]
    exact h.order_next stands step
  · intro marked
    have goesOn : call ≠ .markTornDown := by
      rintro rfl
      cases waits
    have down := h.tornDown (marked_of_concat goesOn marked)
    exact absurd (stands.symm.trans down) (WfdState.todo_of_next step).2.1
  · intro absent
    rw [succeeded_append] at absent
    exact h.unparsed fun old => absent (List.mem_append_left _ old)
  · intro present
    rw [succeeded_append, CallEvent.succeeded, waits] at present
    rcases List.mem_append.mp present with old | new
    · exact h.recorded old
    · exact absurd (List.mem_singleton.mp new).symm other
  · intro response session mem
    refine h.parsed response session (parse_of_concat ?_ mem)
    rw [CallEvent.succeeded, waits]
    exact fun same => other (Option.some.inj same)
  · rw [requests_append, noRequest]
    exact (List.append_nil r.requests).symm ▸ h.numbered

private theorem parsedM6 (h : Coherent r) {response id : Str} {port : Nat}
    {session : WfdSessionParams}
    (stands : r.negotiator.state = .waitM6Response)
    (records : session =
      { r.negotiator.session with serverPort := some port, sessionId := some id }) :
    Coherent { negotiator := { r.negotiator with session := session, state := .waitM7Response }
               events := r.events ++ [⟨.parseM6Response response, .ok (.params session)⟩] } := by
  have notYet := h.fresh stands rfl
  constructor
  · intro _
    rw [succeeded_append]
    exact h.order_next stands rfl
  · intro marked
    have goesOn : Call.parseM6Response response ≠ .markTornDown := nofun
    have down := h.tornDown (marked_of_concat goesOn marked)
    rw [stands] at down
    cases down
  · intro absent
    rw [succeeded_append] at absent
    exact absurd (List.mem_append_right _ List.mem_cons_self) absent
  · intro _
    rw [records]
    exact nofun
  · intro response' session' mem
    rcases List.mem_append.mp mem with old | new
    · exact absurd (mem_succeeded old) notYet
    · cases List.mem_singleton.mp new
      rw [records]
      exact ⟨⟨port, rfl, rfl⟩, ⟨id, rfl, rfl⟩⟩
  · rw [requests_append]
    exact (List.append_nil r.requests).symm ▸ h.numbered

/-- A request is built with the next CSeq. -/
theorem built (h : Coherent r) {line request : Str} (builds : call.startLine = some line)
    (numbered : IsNumbered request line (r.negotiator.ownCseq + 1)) :
    Coherent { negotiator := { r.negotiator with ownCseq := r.negotiator.ownCseq + 1 }
               events := r.events ++ [⟨call, .ok (.text request)⟩] } := by
  obtain ⟨noHandler, goesOn⟩ := Call.waitsIn_of_startLine builds
  have handlers : (NegotiatorRun.mk { r.negotiator with ownCseq := r.negotiator.ownCseq + 1 }
      (r.events ++ [⟨call, .ok (.text request)⟩])).succeeded = r.succeeded := by
    rw [succeeded_append, CallEvent.succeeded, noHandler]
    exact List.append_nil _
  have newRequest : (CallEvent.mk call (.ok (.text request))).request = some (line, request) := by
    rw [CallEvent.request, builds]
  constructor
  · rw [handlers]
    exact h.order
  · exact fun marked => h.tornDown (marked_of_concat goesOn marked)
  · rw [handlers]
    exact h.unparsed
  · rw [handlers]
    exact h.recorded
  · intro response session mem
    refine h.parsed response session (parse_of_concat ?_ mem)
    rw [CallEvent.succeeded, noHandler]
    exact nofun
  · obtain ⟨length, each⟩ := h.numbered
    rw [requests_append, newRequest]
    show (r.requests ++ [(line, request)]).length = _ ∧
      ∀ k l t, (r.requests ++ [(line, request)])[k]? = some (l, t) → _
    refine ⟨by simp [length], numbered_concat each ?_⟩
    rw [length]
    exact numbered

/-- A call that returns. -/
theorem returned (h : Coherent r) {reply : Reply} (effect : call.Effect r.negotiator reply n) :
    Coherent { negotiator := n, events := r.events ++ [⟨call, .ok reply⟩] } := by
  cases effect with
  | handled waits other stands step => exact h.handled waits other stands step
  | parsed stands records => exact h.parsedM6 stands records
  | built builds numbered => exact h.built builds numbered
  | tornDown => exact h.quiet rfl rfl (.inl rfl)
  | looked noHandler noRequest goesOn =>
    refine h.quiet noHandler ?_ (.inr ⟨rfl, goesOn⟩)
    rw [CallEvent.request, noRequest]
    cases reply <;> rfl

private theorem extended (h : Coherent r) (c : Call) : Coherent (r.call c) := by
  rcases c.invoke_cases r.negotiator with raised | returns
  · obtain ⟨e, raised⟩ := raised
    rw [call_of_error raised]
    refine h.quiet rfl rfl (.inr ⟨rfl, ?_⟩)
    rintro rfl
    cases raised
  · obtain ⟨reply, n, invoked, effect⟩ := returns
    rw [call_of_ok invoked]
    exact h.returned effect

/-- Any calls. -/
theorem of (capabilities : WfdCapabilities) (sinkRtpPort : Nat) (calls : List Call) :
    Coherent (.of capabilities sinkRtpPort calls) := by
  have onward : ∀ (calls : List Call) (r : NegotiatorRun), Coherent r →
      Coherent (calls.foldl NegotiatorRun.call r) := by
    intro calls
    induction calls with
    | nil => exact fun _ h => h
    | cons c calls ih => exact fun r h => ih (r.call c) (h.extended c)
  exact onward calls _ (new capabilities sinkRtpPort)

end Coherent

end NegotiatorRun

private theorem Call.effect_of_ok {call : Call} {n n' : WfdNegotiator} {reply : Reply}
    (h : call.invoke n = .ok reply n') : call.Effect n reply n' := by
  rcases call.invoke_cases n with raised | returned
  · obtain ⟨e, raised⟩ := raised
    rw [raised] at h
    cases h
  · obtain ⟨reply', n'', returned, effect⟩ := returned
    rw [returned] at h
    cases h
    exact effect

private theorem Call.keeps_of_error {call : Call} {n n' : WfdNegotiator} {e : PyError}
    (h : call.invoke n = .error e n') : n' = n := by
  rcases call.invoke_cases n with raised | returned
  · obtain ⟨e', raised⟩ := raised
    rw [raised] at h
    cases h
    rfl
  · obtain ⟨reply, n'', returned, _⟩ := returned
    rw [returned] at h
    cases h

private theorem Call.Effect.handler_steps {call : Call} {n n' : WfdNegotiator} {reply : Reply}
    {state : WfdState} (effect : call.Effect n reply n') (waits : call.waitsIn = some state) :
    n.state = state ∧ state.next = some n'.state := by
  cases effect with
  | handled waits' _ stands step =>
    cases waits'.symm.trans waits
    exact ⟨stands, step⟩
  | parsed stands _ =>
    cases waits
    exact ⟨stands, rfl⟩
  | built builds _ =>
    rw [(waitsIn_of_startLine builds).1] at waits
    cases waits
  | tornDown => cases waits
  | looked noHandler _ _ =>
    rw [noHandler] at waits
    cases waits

private theorem Call.Effect.others_keep {call : Call} {n n' : WfdNegotiator} {reply : Reply}
    (effect : call.Effect n reply n') (noHandler : call.waitsIn = none)
    (goesOn : call ≠ .markTornDown) : n'.state = n.state := by
  cases effect with
  | handled waits _ _ _ =>
    rw [noHandler] at waits
    cases waits
  | parsed _ _ => cases noHandler
  | built _ _ => rfl
  | tornDown => exact absurd rfl goesOn
  | looked _ _ _ => rfl

/-- After any sequence of calls, whatever their arguments and whether or not they raised: a call
that raises changes nothing; a handler goes one step along the order, in it and in no other state;
STREAMING is behind all six; the response to M6 is recorded once, and PLAY can be built from then
on; and the requests are numbered without a gap. -/
theorem negotiator_run_lawful (capabilities : WfdCapabilities) (sinkRtpPort : Nat)
    (calls : List Call) : (NegotiatorRun.of capabilities sinkRtpPort calls).Lawful := by
  have coherent := NegotiatorRun.Coherent.of capabilities sinkRtpPort calls
  generalize NegotiatorRun.of capabilities sinkRtpPort calls = r at coherent ⊢
  refine
    { raise_keeps := fun call e n raised => Call.keeps_of_error raised
      handler_steps := fun call state reply n waits returned =>
        (Call.effect_of_ok returned).handler_steps waits
      others_keep := fun call reply n noHandler goesOn returned =>
        (Call.effect_of_ok returned).others_keep noHandler goesOn
      torn_down := ?_
      streaming := ?_
      unparsed := coherent.unparsed
      parsed := coherent.parsed
      play := ?_
      numbered := coherent.numbered }
  · intro marked
    have down := coherent.tornDown marked
    refine ⟨down, ?_⟩
    intro call handler
    obtain ⟨state, waits⟩ := Option.isSome_iff_exists.mp handler
    rcases call.invoke_cases r.negotiator with raised | returned
    · exact raised
    · obtain ⟨reply, n, _, effect⟩ := returned
      obtain ⟨stands, step⟩ := effect.handler_steps waits
      rw [← stands, down] at step
      cases step
  · intro stands
    have order := coherent.order (by rw [stands]; exact nofun)
    rw [stands] at order
    simpa [WfdState.todo] using order
  · intro sourceIp
    constructor
    · rintro ⟨e, n, raised⟩ present
      obtain ⟨id, hid⟩ := Option.ne_none_iff_exists'.mp (coherent.recorded present)
      rw [Call.invoke_ok rfl (buildM7PlayRequest_ok sourceIp hid)] at raised
      cases raised
    · intro absent
      exact ⟨_, _, Call.invoke_error rfl
        (buildM7PlayRequest_notParsed sourceIp (coherent.unparsed absent).2)⟩

end Castd.Wfdsink
