import Failsafe.Daemon.MainLoop
import Failsafe.Send.Session

/-!
What a control connection does before it opens a session with another device, and what it tells
its client.
-/

namespace Failsafe.Daemon

open Failsafe.Core Failsafe.Lib Failsafe.Transport Failsafe.Send

section Requests

variable {κ : Type}

/-- The feature that a connection uses, and the device that it reaches. -/
def DaemonRequest.opens : DaemonRequest κ → Option (FeatureId × DeviceId)
  | .openShellStream target _ _ => some (SHELL_FEATURE_ID, target)
  | .spawn (.forward target _) => some (PORT_FEATURE_ID, target)
  | .send (.send target _ _) => some (SEND_FEATURE_ID, target)
  | _ => none

def DaemonRequest.isReply : DaemonRequest κ → Bool
  | .sendResponse _ => true
  | _ => false

/-- What only comes after the client was told that it can start. -/
def DaemonRequest.inSession : DaemonRequest κ → Bool
  | .relay | .portTurn | .spawn _ | .shutdownStream => true
  | .send (.send _ _ _) | .send (.writeEvent _) | .send (.emit _ _ _ _)
  | .send (.tryEmit _ _ _ _) | .send (.registerWaiter _) | .send (.importSources _ _)
  | .send (.saveSendState _) => true
  | _ => false

/-- What a connection asks for at all. -/
def DaemonRequest.served : DaemonRequest κ → Bool
  | .peers .readPeers | .peers .readDisabled | .peers .connectedPeers | .send _
  | .spawn (.forward _ _) | .recvEnvelope | .sendResponse _ | .readSharedFeatures
  | .shutdownStream | .openShellStream _ _ _ | .relay | .bindPort _ | .portTurn | .hang => true
  | _ => false

/-- Nothing that has to wait for anything. -/
def DaemonRequest.plain (request : DaemonRequest κ) : Bool :=
  request.opens.isNone && !request.isReply && !request.inSession && request.served

end Requests

section Gate

variable {β κ : Type}

/-- One of the messages that the transfer of a request is sent in. -/
def Carries (config : SendConfig) (request : SendFilesRequest) (envelope : SendEnvelope) : Prop :=
  ∃ payload : SendPayload, payload.transferId = request.transferId ∧
    payload.senderName = config.deviceName ∧
      envelope ∈ planTransferEnvelopes config.serde config.localId request.target payload

/-- The body of a client's request asks for this session. -/
def Wants (config : ControlConfig β) (body : β) : DaemonRequest κ → Prop
  | .openShellStream target rows cols => config.bodies.shell body = .ok { target, rows, cols }
  | .spawn (.forward target remotePort) | .openPortStream target remotePort .tcp =>
      ∃ localPort,
        config.bodies.port body = .ok { target, localPort, remotePort, protocol := .tcp }
  | .send (.send target envelope _) => ∃ request,
      config.bodies.send body = .ok (.sendFiles request) ∧ request.target = target ∧
        Carries config.send request envelope
  | _ => True

/-- The body of a client's request asks for a session of this feature with this device. -/
def Asks (bodies : Bodies β) (body : β) (feature : FeatureId) (target : DeviceId) : Prop :=
  (feature = SHELL_FEATURE_ID ∧
    ∃ request, bodies.shell body = .ok request ∧ request.target = target) ∨
  (feature = PORT_FEATURE_ID ∧
    ∃ request, bodies.port body = .ok request ∧ request.target = target) ∨
  (feature = SEND_FEATURE_ID ∧
    ∃ request, bodies.send body = .ok (.sendFiles request) ∧ request.target = target)

/-- What a connection is told on its way to a session. -/
structure Clearance (β : Type) where
  envelope : ControlEnvelope β
  localFeatures : Finset FeatureId
  peers : List DeviceId
  disabled : Finset (DeviceId × FeatureId)
  connected : List DeviceId

def opening (envelope : ControlEnvelope β) (localFeatures : Finset FeatureId) :
    List (Exchange (DaemonSig β κ)) :=
  [⟨.recvEnvelope, .ok envelope⟩, ⟨.readSharedFeatures, localFeatures⟩]

def Clearance.told (clearance : Clearance β) : List (Exchange (DaemonSig β κ)) :=
  opening clearance.envelope clearance.localFeatures ++
    [⟨.peers .readPeers, clearance.peers⟩, ⟨.peers .readDisabled, clearance.disabled⟩,
      ⟨.peers .connectedPeers, clearance.connected⟩]

structure Clearance.Admits (clearance : Clearance β) (config : ControlConfig β)
    (feature : FeatureId) (target : DeviceId) : Prop where
  presented : clearance.envelope.token = config.token
  addressed : clearance.envelope.request.feature = feature
  asked : Asks config.bodies clearance.envelope.request.body feature target
  enabled : feature ∈ clearance.localFeatures
  peer : target ∈ clearance.peers
  permitted : (target, feature) ∉ clearance.disabled
  connected : target ∈ clearance.connected

/-- The connection was told, in this order, that it may open a session. -/
def Cleared (config : ControlConfig β) (feature : FeatureId) (target : DeviceId)
    (log : List (Exchange (DaemonSig β κ))) (request : DaemonRequest κ) : Prop :=
  ∃ clearance : Clearance β, clearance.told <+: log ∧
    clearance.Admits config feature target ∧
      Wants config clearance.envelope.request.body request

/-- The connection was told that it may open the session that its client asks for. -/
def Admitted (config : ControlConfig β) (log : List (Exchange (DaemonSig β κ))) : Prop :=
  ∃ feature target, ∃ clearance : Clearance β, clearance.told <+: log ∧
    clearance.Admits config feature target

def Unanswered (log : List (Exchange (DaemonSig β κ))) : Prop :=
  ∀ exchange ∈ log, exchange.request.isReply = false

def replies (log : List (Exchange (DaemonSig β κ))) : List (Exchange (DaemonSig β κ)) :=
  log.filter fun exchange => exchange.request.isReply

/-- The body of the client's request is not one for its feature. -/
def Unreadable (config : ControlConfig β) (log : List (Exchange (DaemonSig β κ))) : Prop :=
  ∃ envelope, ⟨.recvEnvelope, .ok envelope⟩ ∈ log ∧ envelope.token = config.token ∧
    ∃ error,
      (envelope.request.feature = SHELL_FEATURE_ID ∧
        config.bodies.shell envelope.request.body = .error error) ∨
      (envelope.request.feature = PORT_FEATURE_ID ∧
        config.bodies.port envelope.request.body = .error error) ∨
      (envelope.request.feature = SEND_FEATURE_ID ∧
        config.bodies.send envelope.request.body = .error error)

/-- The client was answered once, or not at all because its request was not understood. -/
def Answered (config : ControlConfig β) (log : List (Exchange (DaemonSig β κ))) : Prop :=
  (replies log).length = 1 ∨ Unanswered log ∧ Unreadable config log

/-- What holds of every request of a control connection. -/
structure Gate (config : ControlConfig β) (log : List (Exchange (DaemonSig β κ)))
    (request : DaemonRequest κ) : Prop where
  opens : ∀ feature target, request.opens = some (feature, target) →
    Cleared config feature target log request
  reply : request.isReply = true → Unanswered log
  ready : request = .sendResponse .ready → Admitted config log
  session : request.inSession = true → ⟨.sendResponse .ready, .ok ()⟩ ∈ log
  served : request.served = true

variable {config : ControlConfig β} {log log' : List (Exchange (DaemonSig β κ))}
  {request : DaemonRequest κ} {feature : FeatureId} {target : DeviceId}

theorem gate_plain (h : request.plain = true) : Gate config log request := by
  simp only [DaemonRequest.plain, Bool.and_eq_true, Bool.not_eq_true',
    Option.isNone_iff_eq_none] at h
  obtain ⟨⟨⟨hopens, hreply⟩, hsession⟩, hserved⟩ := h
  refine ⟨?_, ?_, ?_, ?_, hserved⟩
  · intro feature target hopen
    rw [hopens] at hopen
    cases hopen
  · intro hanswer
    rw [hreply] at hanswer
    cases hanswer
  · rintro rfl
    cases hreply
  · intro hin
    rw [hsession] at hin
    cases hin

theorem Unanswered.snoc (h : Unanswered log) (request : DaemonRequest κ)
    (response : request.Response β) (hrequest : request.isReply = false) :
    Unanswered (log ++ [⟨request, response⟩]) := by
  intro exchange hmem
  rcases List.mem_append.mp hmem with hold | hlast
  · exact h exchange hold
  · obtain rfl := List.mem_singleton.mp hlast
    exact hrequest

theorem unanswered_opening (envelope : ControlEnvelope β) (localFeatures : Finset FeatureId) :
    Unanswered (opening (κ := κ) envelope localFeatures) := by
  intro exchange hmem
  rcases List.mem_cons.mp hmem with rfl | hmem
  · rfl
  · obtain rfl := List.mem_singleton.mp hmem
    rfl

theorem Unanswered.replies_snoc {response : request.Response β} (h : Unanswered log)
    (hrequest : request.isReply = true) :
    replies (log ++ [⟨request, response⟩]) = [⟨request, response⟩] := by
  have hnone : replies log = [] := by
    refine List.filter_eq_nil_iff.mpr fun exchange hmem => ?_
    simp [h exchange hmem]
  have hlast : replies [(⟨request, response⟩ : Exchange (DaemonSig β κ))] =
      [⟨request, response⟩] := List.filter_cons_of_pos hrequest
  rw [replies, List.filter_append]
  change replies log ++ replies _ = _
  rw [hnone, hlast, List.nil_append]

theorem gate_sendResponse {response : ControlResponse} (h : Unanswered log)
    (hready : response = .ready → Admitted config log) :
    Gate config log (.sendResponse response) := by
  refine ⟨?_, fun _ => h, fun hresponse => hready (DaemonRequest.sendResponse.inj hresponse),
    fun hin => absurd hin Bool.false_ne_true, rfl⟩
  intro feature target hopens
  cases hopens

theorem Cleared.mono (h : Cleared config feature target log request) (hlog : log <+: log') :
    Cleared config feature target log' request := by
  obtain ⟨clearance, htold, hadmits, hwants⟩ := h
  exact ⟨clearance, htold.trans hlog, hadmits, hwants⟩

theorem gate_reply {response : ControlResponse} (h : Unanswered log) (hother : response ≠ .ready) :
    Gate config log (.sendResponse response) :=
  gate_sendResponse h fun hready => (hother hready).elim

theorem gate_ready (h : Unanswered log) (hcleared : Cleared config feature target log request) :
    Gate config log (.sendResponse .ready) := by
  obtain ⟨clearance, htold, hadmits, -⟩ := hcleared
  exact gate_sendResponse h fun _ => ⟨feature, target, clearance, htold, hadmits⟩

theorem answered_snoc {response : ControlResponse} {sent : Except ControlError Unit}
    (h : Unanswered log) : Answered config (log ++ [⟨.sendResponse response, sent⟩]) := by
  left
  rw [h.replies_snoc rfl, List.length_singleton]

/-- The client was told, once, that the session starts. -/
structure Session (log : List (Exchange (DaemonSig β κ))) : Prop where
  ready : ⟨.sendResponse .ready, .ok ()⟩ ∈ log
  once : (replies log).length = 1

theorem session_snoc (h : Unanswered log) :
    Session (log ++ [(⟨.sendResponse .ready, .ok ()⟩ : Exchange (DaemonSig β κ))]) := by
  constructor
  · exact List.mem_append_right _ (List.mem_singleton_self _)
  · rw [h.replies_snoc rfl, List.length_singleton]

/-- What may be asked for from this point of a session on. -/
structure Continues (config : ControlConfig β) (log : List (Exchange (DaemonSig β κ)))
    (request : DaemonRequest κ) : Prop where
  silent : request.isReply = false
  served : request.served = true
  opens : ∀ feature target, request.opens = some (feature, target) →
    Cleared config feature target log request

theorem continues_plain (h : request.opens = none) (hreply : request.isReply = false)
    (hserved : request.served = true) : Continues config log request := by
  refine ⟨hreply, hserved, fun feature target hopens => ?_⟩
  rw [h] at hopens
  cases hopens

theorem session_ensures {α : Type} {p : DaemonProg β κ α} (hlog : Session log)
    (hp : p.All (Continues config log)) :
    p.Ensures (Gate config) Prog.heard (fun _ log' => Answered config log') log := by
  refine Prog.Ensures.of_all (I := fun log' => Session log' ∧ log <+: log') hp ?_ ?_ ?_
    ⟨hlog, List.prefix_rfl⟩
  · rintro log' request ⟨hsession, hahead⟩ hrequest
    refine ⟨?_, ?_, ?_, fun _ => hsession.ready, hrequest.served⟩
    · intro feature target hopens
      exact (hrequest.opens feature target hopens).mono hahead
    · intro hreply
      rw [hrequest.silent] at hreply
      cases hreply
    · rintro rfl
      cases hrequest.silent
  · rintro request response log' _ hrequest ⟨hsession, hahead⟩ rfl
    refine ⟨⟨List.mem_append_left _ hsession.ready, ?_⟩, hahead.trans (List.prefix_append _ _)⟩
    have hsilent : replies [(⟨request, response⟩ : Exchange (DaemonSig β κ))] = [] :=
      List.filter_cons_of_neg (by simp [hrequest.silent])
    rw [replies, List.filter_append]
    change (replies log' ++ replies _).length = 1
    rw [hsilent, List.append_nil, hsession.once]
  · rintro _ log' ⟨hsession, -⟩
    exact .inl hsession.once

theorem reject_ensures {message : String} (h : Unanswered log) :
    (reject message : DaemonProg β κ _).Ensures (Gate config) Prog.heard
      (fun _ log' => Answered config log') log := by
  refine ⟨gate_reply h ControlResponse.noConfusion, ?_⟩
  rintro sent _ rfl
  exact answered_snoc h

theorem isFeatureEnabled_ensures (h : Unanswered log) :
    (isFeatureEnabled target feature : DaemonProg β κ Bool).Ensures (Gate config) Prog.heard
      (fun enabled log' => Unanswered log' ∧ (enabled = true → ∃ peers disabled,
        log' = log ++ [⟨.peers .readPeers, peers⟩, ⟨.peers .readDisabled, disabled⟩] ∧
          target ∈ peers ∧ (target, feature) ∉ disabled)) log := by
  refine ⟨gate_plain rfl, ?_⟩
  rintro peers _ rfl
  have hfirst := h.snoc (.peers .readPeers) peers rfl
  dsimp only [Prog.bind]
  split
  · rename_i hpeer
    refine ⟨gate_plain rfl, ?_⟩
    rintro disabled _ rfl
    refine ⟨hfirst.snoc (.peers .readDisabled) disabled rfl, fun henabled => ?_⟩
    refine ⟨peers, disabled, ?_, hpeer, ?_⟩
    · rw [List.append_assoc]
      rfl
    · exact of_decide_eq_true henabled
  · exact ⟨hfirst, fun henabled => absurd henabled Bool.false_ne_true⟩

end Gate

section Handlers

variable {β κ : Type} {config : ControlConfig β} {envelope : ControlEnvelope β}
  {localFeatures : Finset FeatureId} {feature : FeatureId} {target : DeviceId}

theorem checks_ensures {α : Type} {absent denied offline go : DaemonProg β κ α}
    {post : α → List (Exchange (DaemonSig β κ)) → Prop}
    (htoken : envelope.token = config.token) (hfeature : envelope.request.feature = feature)
    (hasks : Asks config.bodies envelope.request.body feature target)
    (habsent : absent.Ensures (Gate config) Prog.heard post (opening envelope localFeatures))
    (hdenied : ∀ log, Unanswered log → denied.Ensures (Gate config) Prog.heard post log)
    (hoffline : ∀ log, Unanswered log → offline.Ensures (Gate config) Prog.heard post log)
    (hgo : ∀ log, Unanswered log →
      (∀ request : DaemonRequest κ, Wants config envelope.request.body request →
        Cleared config feature target log request) →
      go.Ensures (Gate config) Prog.heard post log) :
    (if feature ∉ localFeatures then absent
      else do
        if ← isFeatureEnabled target feature then
          if target ∈ (← demand (.peers .connectedPeers)) then go else offline
        else denied).Ensures (Gate config) Prog.heard post (opening envelope localFeatures) := by
  split
  · exact habsent
  · rename_i hlocal
    rw [Decidable.not_not] at hlocal
    refine Prog.ensures_bind.mpr
      ((isFeatureEnabled_ensures (unanswered_opening envelope localFeatures)).mono ?_)
    rintro enabled log ⟨hlog, henabled⟩
    split
    · rename_i hpermitted
      obtain ⟨peers, disabled, rfl, hpeer, hflag⟩ := henabled hpermitted
      refine ⟨gate_plain rfl, ?_⟩
      rintro connected _ rfl
      have htold := hlog.snoc (.peers .connectedPeers) connected rfl
      dsimp only [Prog.bind]
      split
      · rename_i hconnected
        refine hgo _ htold fun request hwants => ?_
        refine ⟨⟨envelope, localFeatures, peers, disabled, connected⟩, ?_, ?_, hwants⟩
        · rw [Clearance.told, List.append_assoc]
          exact List.prefix_rfl
        · exact ⟨htoken, hfeature, hasks, hlocal, hpeer, hflag, hconnected⟩
      · exact hoffline _ htold
    · exact hdenied log hlog

/-- The shell is opened before the client is told that it can start. -/
theorem handleShellControl_ensures (htoken : envelope.token = config.token)
    (hfeature : envelope.request.feature = SHELL_FEATURE_ID) :
    (handleShellControl config.bodies localFeatures envelope.request.body :
      DaemonProg β κ _).Ensures (Gate config) Prog.heard (fun _ log => Answered config log)
        (opening envelope localFeatures) := by
  have hopening := unanswered_opening (κ := κ) envelope localFeatures
  unfold handleShellControl
  split
  · rename_i error hbody
    refine .inr ⟨hopening, envelope, List.mem_cons_self, htoken, error, .inl ⟨hfeature, hbody⟩⟩
  · rename_i request hbody
    have hasks : Asks config.bodies envelope.request.body SHELL_FEATURE_ID request.target :=
      .inl ⟨rfl, request, hbody, rfl⟩
    refine checks_ensures htoken hfeature hasks (reject_ensures hopening)
      (fun _ => reject_ensures) (fun _ => reject_ensures) fun log hlog hcleared => ?_
    refine ⟨⟨?_, fun hreply => absurd hreply Bool.false_ne_true, ?_,
      fun hin => absurd hin Bool.false_ne_true, rfl⟩, ?_⟩
    · intro feature target hopens
      obtain ⟨rfl, rfl⟩ := Prod.mk.inj (Option.some.inj hopens)
      exact hcleared _ hbody
    · intro hready
      cases hready
    rintro opened _ rfl
    have hopened := hlog.snoc (.openShellStream request.target request.rows request.cols) opened rfl
    cases opened with
    | error error => exact reject_ensures hopened
    | ok session =>
        refine ⟨gate_ready hopened ((hcleared .relay trivial).mono (List.prefix_append _ _)), ?_⟩
        rintro sent _ rfl
        cases sent with
        | error error => exact answered_snoc hopened
        | ok done =>
            refine session_ensures (session_snoc hopened) ⟨continues_plain rfl rfl rfl, ?_⟩
            exact fun _ => ⟨continues_plain rfl rfl rfl, fun _ => trivial⟩

theorem prepareOutgoingPortForward_ensures {request : OpenPortForwardRequest}
    (htoken : envelope.token = config.token)
    (hfeature : envelope.request.feature = PORT_FEATURE_ID)
    (hbody : config.bodies.port envelope.request.body = .ok request) :
    (prepareOutgoingPortForward localFeatures request : DaemonProg β κ _).Ensures (Gate config)
      Prog.heard (fun result log => Unanswered log ∧ (result = .ok () →
        request.protocol = .tcp ∧ ∀ wanted : DaemonRequest κ,
          Wants config envelope.request.body wanted →
            Cleared config PORT_FEATURE_ID request.target log wanted))
        (opening envelope localFeatures) := by
  have hopening := unanswered_opening (κ := κ) envelope localFeatures
  have hfails (message : String) (log : List (Exchange (DaemonSig β κ))) (hlog : Unanswered log) :
      Unanswered log ∧ ((.error message : Except String Unit) = .ok () →
        request.protocol = .tcp ∧ ∀ wanted : DaemonRequest κ,
          Wants config envelope.request.body wanted →
            Cleared config PORT_FEATURE_ID request.target log wanted) := by
    refine ⟨hlog, fun hok => ?_⟩
    cases hok
  refine checks_ensures htoken hfeature (.inr (.inl ⟨rfl, request, hbody, rfl⟩))
    (hfails _ _ hopening) (hfails _) (hfails _) fun log hlog hcleared => ?_
  split
  · exact hfails _ log hlog
  · rename_i hprotocol
    refine ⟨gate_plain rfl, ?_⟩
    rintro bound _ rfl
    have hbound := hlog.snoc (.bindPort request.localPort) bound rfl
    cases bound with
    | error error => exact hfails _ _ hbound
    | ok listener =>
        refine ⟨hbound, fun _ => ⟨Decidable.not_not.mp hprotocol, fun wanted hwanted => ?_⟩⟩
        exact (hcleared wanted hwanted).mono (List.prefix_append _ _)

theorem runOutgoingPortForward_continues {log : List (Exchange (DaemonSig β κ))}
    {remotePort : UInt16} (turns : Nat)
    (h : Cleared config PORT_FEATURE_ID target log (.spawn (.forward target remotePort))) :
    (runOutgoingPortForward target remotePort turns : DaemonProg β κ Unit).All
      (Continues config log) := by
  induction turns with
  | zero => exact ⟨continues_plain rfl rfl rfl, fun response => Empty.elim response⟩
  | succ turns ih =>
      refine ⟨continues_plain rfl rfl rfl, fun turn => ?_⟩
      cases turn with
      | accepted =>
          refine ⟨⟨rfl, rfl, fun feature target' hopens => ?_⟩, fun _ => ih⟩
          obtain ⟨rfl, rfl⟩ := Prod.mk.inj (Option.some.inj hopens)
          exact h
      | read count =>
          cases count with
          | zero => trivial
          | succ count => exact ih
      | acceptFailed => trivial
      | readFailed => trivial

theorem handlePortControl_ensures (turns : Nat) (htoken : envelope.token = config.token)
    (hfeature : envelope.request.feature = PORT_FEATURE_ID) :
    (handlePortControl config.bodies turns localFeatures envelope.request.body :
      DaemonProg β κ _).Ensures (Gate config) Prog.heard (fun _ log => Answered config log)
        (opening envelope localFeatures) := by
  have hopening := unanswered_opening (κ := κ) envelope localFeatures
  unfold handlePortControl
  split
  · rename_i error hbody
    exact .inr ⟨hopening, envelope, List.mem_cons_self, htoken, error,
      .inr (.inl ⟨hfeature, hbody⟩)⟩
  · rename_i request hbody
    refine Prog.ensures_bind.mpr
      ((prepareOutgoingPortForward_ensures htoken hfeature hbody).mono ?_)
    rintro prepared log ⟨hlog, hcleared⟩
    cases prepared with
    | error message => exact reject_ensures hlog
    | ok listener =>
        obtain ⟨hprotocol, hcleared⟩ := hcleared rfl
        refine ⟨gate_ready hlog (hcleared .relay trivial), ?_⟩
        rintro sent _ rfl
        cases sent with
        | error error => exact answered_snoc hlog
        | ok done =>
            have hwants : Wants config envelope.request.body
                (.spawn (.forward request.target request.remotePort) : DaemonRequest κ) := by
              refine ⟨request.localPort, ?_⟩
              rw [hbody, ← hprotocol]
            refine session_ensures (session_snoc hlog) ?_
            refine (runOutgoingPortForward_continues turns ?_).bind fun _ => trivial
            exact (hcleared _ hwants).mono (List.prefix_append _ _)

end Handlers

section FileSend

/-- What a file transfer asks for once it has started, with its own messages to its target only. -/
def SendRequest.Through (config : SendConfig) (request : SendFilesRequest) : SendRequest → Prop
  | .isLocalFeatureEnabled | .isPeerFeatureEnabled _ | .connectedPeers | .sendResponse _ => False
  | .send «to» envelope _ => «to» = request.target ∧ Carries config request envelope
  | _ => True

theorem through_sendEnvelopes {config : SendConfig} {request : SendFilesRequest}
    {envelopes : List SendEnvelope}
    (henvelopes : ∀ envelope ∈ envelopes, Carries config request envelope) :
    (sendEnvelopes request.target envelopes).run.All (SendRequest.Through config request) := by
  induction envelopes with
  | nil => trivial
  | cons envelope envelopes ih =>
      have hsend : (transportSend request.target envelope none).run.All
          (SendRequest.Through config request) :=
        all_ask ⟨rfl, henvelopes envelope List.mem_cons_self⟩
      refine .tryBind (.bind hsend fun _ => trivial) fun _ => ih fun envelope hmem => ?_
      exact henvelopes envelope (List.mem_cons_of_mem _ hmem)

theorem through_sendTransfer (config : SendConfig) (request : SendFilesRequest) (turns : Nat)
    (cancel : Token) (waiter : WaiterId) :
    (sendTransfer config request turns cancel waiter).run.All
      (SendRequest.Through config request) := by
  have hprepares : ∀ asked : SendRequest, asked.Preparing →
      SendRequest.Through config request asked := by
    intro asked hasked
    cases asked <;> trivial
  have hwaits : ∀ asked : SendRequest, asked.Waiting →
      SendRequest.Through config request asked := by
    intro asked hasked
    cases asked <;> trivial
  have hcheck : (checkCancelled cancel).run.All (SendRequest.Through config request) :=
    (preparing_checkCancelled _).mono hprepares
  have hdelivers : ∀ payload : SendPayload, payload.transferId = request.transferId →
      payload.senderName = config.deviceName →
        (deliverPayload config request turns cancel waiter payload).run.All
          (SendRequest.Through config request) := by
    intro payload htransfer hsender
    refine .tryBind hcheck fun _ => .tryBind (.lift (all_ask trivial)) fun _ => ?_
    refine .tryBind hcheck fun _ => .tryBind (through_sendEnvelopes fun envelope hmem => ?_) ?_
    · exact ⟨payload, htransfer, hsender, hmem⟩
    · intro done
      exact .tryBind (.lift (all_ask trivial)) fun _ =>
        (waiting_waitForSendAck _ _ _).mono hwaits
  have hwithin : (sendTransfer config request turns cancel waiter).run.Within
      (SendRequest.Through config request) (fun _ _ => True) fun _ => True := by
    refine Prog.within_tryBind.mpr ?_
    refine ((within_prepare _ _ _ _ _ _ _).weaken hprepares).mono fun result hresult => ?_
    cases result with
    | error error => trivial
    | ok payload =>
        obtain ⟨htransfer, hsender⟩ := hresult payload rfl
        exact .of_all (hdelivers payload htransfer hsender) fun _ h => h
  exact hwithin.all

theorem through_runSession (config : SendConfig) (request : SendFilesRequest) (turns : Nat) :
    (runSession config request turns).All (SendRequest.Through config request) := by
  have hmarks : ∀ asked : SendRequest, asked.Marking →
      SendRequest.Through config request asked := by
    intro asked hasked
    cases asked <;> trivial
  refine .bind (all_ask trivial) fun cancel => .bind (all_ask trivial) fun _ => ?_
  refine .bind (all_ask trivial) fun _ => .bind (all_ask trivial) fun waiter => ?_
  refine .bind (through_sendTransfer config request turns cancel waiter) fun result => ?_
  refine .bind (.bind (all_ask trivial) fun cancelled => ?_) fun outcome => ?_
  · cases cancelled with
    | true => exact .bind (all_ask trivial) fun _ => trivial
    | false => trivial
  · cases outcome with
    | ok done => exact .bind ((marking_markSendComplete _).mono hmarks) fun _ => all_ask trivial
    | error message =>
        exact .bind ((marking_markSendFailed _ _).mono hmarks) fun _ => all_ask trivial

/-- What cancelling all transfers asks for before it answers. -/
def SendRequest.Counting : SendRequest → Prop
  | .listSendStates | .readSendState _ | .removeSendState _ | .pendingWaiters
  | .completeWaiter _ _ | .listReceiveStates | .readReceiveState _
  | .removeReceiveState _ => True
  | _ => False

theorem counting_cancelAllIncompleteSends :
    cancelAllIncompleteSends.run.All SendRequest.Counting := by
  have hread : ∀ transferIds, (readIncompleteSends transferIds).run.All
      SendRequest.Counting := by
    intro transferIds
    induction transferIds with
    | nil => trivial
    | cons transferId transferIds ih =>
        exact .tryBind (all_ask trivial) fun _ => .tryBind ih fun _ => trivial
  have hcancel : ∀ states, (cancelSends states).run.All SendRequest.Counting := by
    intro states
    induction states with
    | nil => trivial
    | cons state states ih =>
        exact .tryBind (.lift (all_ask trivial)) fun _ => .tryBind (all_ask trivial) fun _ => ih
  have hwaiters : ∀ transferIds, (cancelWaiters transferIds).All SendRequest.Counting := by
    intro transferIds
    induction transferIds with
    | nil => trivial
    | cons transferId transferIds ih => exact .bind (all_ask trivial) fun _ => ih
  refine .tryBind (.tryBind (all_ask trivial) fun _ => hread _) fun states => ?_
  refine .tryBind (hcancel states) fun _ => .tryBind (.lift (all_ask trivial)) fun waiting => ?_
  exact .tryBind (.lift (hwaiters waiting)) fun _ => trivial

theorem counting_cancelAllIncompleteReceives :
    cancelAllIncompleteReceives.run.All SendRequest.Counting := by
  have hread : ∀ transferIds, (readIncomplete transferIds).run.All SendRequest.Counting := by
    intro transferIds
    induction transferIds with
    | nil => trivial
    | cons transferId transferIds ih =>
        exact .tryBind (all_ask trivial) fun _ => .tryBind ih fun _ => trivial
  have hremove : ∀ states, (removeReceives states).run.All SendRequest.Counting := by
    intro states
    induction states with
    | nil => trivial
    | cons state states ih => exact .tryBind (all_ask trivial) fun _ => ih
  refine .tryBind (.tryBind (all_ask trivial) fun _ => hread _) fun states => ?_
  exact .tryBind (hremove states) fun _ => trivial

variable {β κ : Type} {config : ControlConfig β} {envelope : ControlEnvelope β}
  {localFeatures : Finset FeatureId} {log : List (Exchange (DaemonSig β κ))}

theorem plain_ensures {α : Type} {p : DaemonProg β κ α} (hlog : Unanswered log)
    (hp : p.All fun request => DaemonRequest.plain request = true) :
    p.Ensures (Gate config) Prog.heard (fun _ log' => Unanswered log') log := by
  refine Prog.Ensures.of_all (I := Unanswered) hp (fun _ _ _ => gate_plain) ?_
    (fun _ _ => id) hlog
  rintro request response log' _ hplain hquiet rfl
  simp only [DaemonRequest.plain, Bool.and_eq_true, Bool.not_eq_true'] at hplain
  exact hquiet.snoc request response hplain.1.1.2

theorem inConnection_bind {α γ : Type} (p : SendProg α) (f : α → SendProg γ) :
    (inConnection localFeatures (p >>= f) : DaemonProg β κ γ) =
      inConnection localFeatures p >>= fun value => inConnection localFeatures (f value) :=
  Prog.interp_bind p f

theorem rejectSend_ensures {message : String} (h : Unanswered log) :
    (inConnection localFeatures (rejectSend message) : DaemonProg β κ Bool).Ensures
      (Gate config) Prog.heard
      (fun valid log' => valid = false ∧ Answered config log') log := by
  refine ⟨gate_reply h ControlResponse.noConfusion, ?_⟩
  rintro sent _ rfl
  cases sent with
  | error error => exact ⟨rfl, answered_snoc h⟩
  | ok done => exact ⟨rfl, answered_snoc h⟩

theorem validatePreconditions_eq (target : DeviceId) :
    (inConnection localFeatures (validatePreconditions target) : DaemonProg β κ Bool) =
      (if SEND_FEATURE_ID ∉ localFeatures then
        inConnection localFeatures (rejectSend "file_send is not enabled on this device; enable it in the web UI or with `failsafe devices features`, then wait for the daemon to sync")
      else do
        if ← isFeatureEnabled target SEND_FEATURE_ID then
          if target ∈ (← demand (.peers .connectedPeers)) then Prog.ret true
          else
            inConnection localFeatures
              (rejectSend s!"device {Uuid.toText target.uuid} is offline or unreachable")
        else
          inConnection localFeatures
            (rejectSend s!"file_send is not enabled on device {Uuid.toText target.uuid}; enable it on both devices")) := by
  split
  · rename_i habsent
    change inConnection localFeatures
      (if decide (SEND_FEATURE_ID ∈ localFeatures) = true then _ else _) = _
    rw [if_neg (by simpa using habsent)]
  · rename_i hlocal
    change inConnection localFeatures
      (if decide (SEND_FEATURE_ID ∈ localFeatures) = true then _ else _) = _
    rw [if_pos (by simpa using hlocal)]
    change (isFeatureEnabled target SEND_FEATURE_ID >>= fun enabled =>
      inConnection localFeatures (if enabled = true then _ else _)) = _
    refine congrArg (isFeatureEnabled target SEND_FEATURE_ID >>= ·) (funext fun enabled => ?_)
    cases enabled with
    | false => rfl
    | true =>
        change (demand (.peers .connectedPeers) >>= fun connected : List DeviceId =>
          inConnection localFeatures (if target ∈ connected then _ else _)) = _
        refine congrArg (demand (.peers .connectedPeers) >>= ·) (funext fun connected => ?_)
        split
        · rfl
        · rfl

theorem validatePreconditions_ensures (htoken : envelope.token = config.token)
    (hfeature : envelope.request.feature = SEND_FEATURE_ID) {target : DeviceId}
    (hasks : Asks config.bodies envelope.request.body SEND_FEATURE_ID target) :
    (inConnection localFeatures (validatePreconditions target) : DaemonProg β κ Bool).Ensures
      (Gate config) Prog.heard
      (fun valid log => if valid then Unanswered log ∧
        ∀ wanted : DaemonRequest κ, Wants config envelope.request.body wanted →
          Cleared config SEND_FEATURE_ID target log wanted
        else Answered config log) (opening envelope localFeatures) := by
  have hrejects (message : String) (log : List (Exchange (DaemonSig β κ)))
      (hlog : Unanswered log) :
      (inConnection localFeatures (rejectSend message) : DaemonProg β κ Bool).Ensures
        (Gate config) Prog.heard (fun valid log => if valid then Unanswered log ∧
          ∀ wanted : DaemonRequest κ, Wants config envelope.request.body wanted →
            Cleared config SEND_FEATURE_ID target log wanted
          else Answered config log) log := by
    refine (rejectSend_ensures hlog).mono ?_
    rintro valid log' ⟨rfl, hanswered⟩
    exact hanswered
  rw [validatePreconditions_eq]
  refine checks_ensures htoken hfeature hasks
    (hrejects _ _ (unanswered_opening envelope localFeatures)) (hrejects _) (hrejects _) ?_
  intro log hlog hcleared
  exact ⟨hlog, hcleared⟩

theorem handleSendFiles_ensures {request : SendFilesRequest}
    (htoken : envelope.token = config.token)
    (hfeature : envelope.request.feature = SEND_FEATURE_ID)
    (hbody : config.bodies.send envelope.request.body = .ok (.sendFiles request)) :
    (inConnection localFeatures (handleSendFiles config.send request config.turns) :
      DaemonProg β κ Unit).Ensures (Gate config) Prog.heard (fun _ log => Answered config log)
        (opening envelope localFeatures) := by
  rw [handleSendFiles, inConnection_bind]
  have hasks : Asks config.bodies envelope.request.body SEND_FEATURE_ID request.target :=
    .inr (.inr ⟨rfl, request, hbody, rfl⟩)
  refine Prog.ensures_bind.mpr ((validatePreconditions_ensures htoken hfeature hasks).mono ?_)
  rintro valid log hvalid
  cases valid with
  | false => exact hvalid
  | true =>
      obtain ⟨hlog, hcleared⟩ := hvalid
      refine ⟨gate_ready hlog (hcleared .relay trivial), ?_⟩
      rintro sent _ rfl
      cases sent with
      | error error => exact answered_snoc hlog
      | ok done =>
          refine session_ensures (session_snoc hlog) ?_
          refine (through_runSession config.send request config.turns).interp ?_
          intro asked hasked
          cases asked with
          | send «to» envelope' receipt =>
              obtain ⟨rfl, hcarries⟩ := hasked
              refine ⟨⟨rfl, rfl, fun feature target hopens => ?_⟩, fun _ => trivial⟩
              obtain ⟨rfl, rfl⟩ := Prod.mk.inj (Option.some.inj hopens)
              have hwants : Wants config envelope.request.body
                  (.send (.send request.target envelope' receipt) : DaemonRequest κ) :=
                ⟨request, hbody, rfl, hcarries⟩
              exact (hcleared _ hwants).mono (List.prefix_append _ _)
          | isLocalFeatureEnabled => exact hasked.elim
          | isPeerFeatureEnabled => exact hasked.elim
          | connectedPeers => exact hasked.elim
          | sendResponse => exact hasked.elim
          | _ => exact ⟨continues_plain rfl rfl rfl, fun _ => trivial⟩

theorem handleCancelAll_ensures (hlog : Unanswered log) :
    (inConnection localFeatures handleCancelAll : DaemonProg β κ Unit).Ensures (Gate config)
      Prog.heard (fun _ log' => Answered config log') log := by
  have hcounting : ∀ asked : SendRequest, SendRequest.Counting asked →
      (sendRequest localFeatures asked : DaemonProg β κ _).All
        fun request => DaemonRequest.plain request = true := by
    intro asked hasked
    cases asked <;> first | exact hasked.elim | exact ⟨rfl, fun _ => trivial⟩
  have hcounts : (show SendTry String (Nat × Nat) from do
      let sends ← cancelAllIncompleteSends
      let receives ← cancelAllIncompleteReceives
      return (sends, receives)).run.All SendRequest.Counting := by
    refine .tryBind counting_cancelAllIncompleteSends fun sends => ?_
    exact .tryBind counting_cancelAllIncompleteReceives fun receives => trivial
  rw [handleCancelAll, inConnection_bind]
  refine Prog.ensures_bind.mpr ((plain_ensures hlog (hcounts.interp hcounting)).mono ?_)
  rintro counts log' hlog'
  cases counts with
  | error message =>
      refine ⟨gate_reply hlog' ControlResponse.noConfusion, ?_⟩
      rintro sent _ rfl
      cases sent with
      | error error => exact answered_snoc hlog'
      | ok done => exact answered_snoc hlog'
  | ok counts =>
      refine ⟨gate_reply hlog' ControlResponse.noConfusion, ?_⟩
      rintro sent _ rfl
      cases sent with
      | error error => exact answered_snoc hlog'
      | ok done => exact answered_snoc hlog'

theorem handleSendControl_ensures (htoken : envelope.token = config.token)
    (hfeature : envelope.request.feature = SEND_FEATURE_ID) :
    (handleSendControl config localFeatures envelope.request.body :
      DaemonProg β κ _).Ensures (Gate config) Prog.heard (fun _ log => Answered config log)
        (opening envelope localFeatures) := by
  have hopening := unanswered_opening (κ := κ) envelope localFeatures
  unfold handleSendControl
  split
  · rename_i error hbody
    exact .inr ⟨hopening, envelope, List.mem_cons_self, htoken, error,
      .inr (.inr ⟨hfeature, hbody⟩)⟩
  · rename_i request hbody
    exact Prog.ensures_bind.mpr (handleSendFiles_ensures htoken hfeature hbody)
  · exact Prog.ensures_bind.mpr (handleCancelAll_ensures hopening)

end FileSend

theorem dispatchTo_ensures {β κ : Type} {config : ControlConfig β} {envelope : ControlEnvelope β}
    {localFeatures : Finset FeatureId} {handlers : List (FeatureControl β κ)}
    (h : ∀ handler ∈ handlers, handler.controlId = envelope.request.feature →
      (handler.handleControl localFeatures envelope.request.body).Ensures (Gate config)
        Prog.heard (fun _ log => Answered config log) (opening envelope localFeatures)) :
    (dispatchTo localFeatures envelope.request handlers).Ensures (Gate config) Prog.heard
      (fun _ log => Answered config log) (opening envelope localFeatures) := by
  induction handlers with
  | nil =>
      have hopening := unanswered_opening (κ := κ) envelope localFeatures
      refine ⟨gate_reply hopening ControlResponse.noConfusion, ?_⟩
      rintro sent _ rfl
      exact answered_snoc hopening
  | cons handler handlers ih =>
      unfold dispatchTo
      split
      · exact ih fun other hmem => h other (List.mem_cons_of_mem handler hmem)
      · rename_i hfeature
        exact Prog.ensures_bind.mpr
          (h handler List.mem_cons_self (Decidable.not_not.mp hfeature))

/-- A connection is answered once, and opens sessions only where it was told that it may. -/
theorem handleConnection_ensures {β κ : Type} (config : ControlConfig β) :
    (handleConnection config : DaemonProg β κ Unit).Ensures (Gate config) Prog.heard
      (fun _ log => Answered config log) [] := by
  have hnothing : Unanswered ([] : List (Exchange (DaemonSig β κ))) := by
    intro exchange hmem
    cases hmem
  refine ⟨gate_plain rfl, ?_⟩
  rintro received _ rfl
  have hreceived := hnothing.snoc (.recvEnvelope) received rfl
  cases received with
  | error error =>
      refine ⟨gate_reply hreceived ControlResponse.noConfusion, ?_⟩
      rintro sent _ rfl
      exact answered_snoc hreceived
  | ok envelope =>
      change Prog.Ensures _ _ (if envelope.token = config.token then _ else _) _ _
      split
      · rename_i htoken
        refine ⟨gate_plain rfl, ?_⟩
        rintro localFeatures _ rfl
        refine dispatchTo_ensures fun handler hmem hfeature => ?_
        rcases List.mem_cons.mp hmem with rfl | hmem
        · exact handleShellControl_ensures htoken hfeature.symm
        rcases List.mem_cons.mp hmem with rfl | hmem
        · exact handlePortControl_ensures config.turns htoken hfeature.symm
        · obtain rfl := List.mem_singleton.mp hmem
          exact handleSendControl_ensures htoken hfeature.symm
      · refine ⟨gate_reply hreceived ControlResponse.noConfusion, ?_⟩
        rintro sent _ rfl
        exact answered_snoc hreceived

end Failsafe.Daemon
