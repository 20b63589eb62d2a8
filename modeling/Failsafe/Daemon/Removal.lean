import Failsafe.Daemon.ServerClient
import Failsafe.Server.Refusals

/-!
A running daemon together with the server, and what the daemon learns when its device is
removed from the account.
-/

namespace Failsafe.Daemon

open Failsafe.Core Failsafe.Lib Failsafe.Server

/-- A request that was sent: a task of the server has it, or it was turned away. -/
inductive Ticket (τ : Type) where
  | served (task : τ)
  | turnedAway (response : HttpResponse)
deriving DecidableEq

/-- The daemon beside the server. -/
structure DaemonState (τ : Type) where
  server : Pool ServerSig τ (ServerState τ)
  responses : τ → Option HttpResponse
  credentials : Credentials
  ticking : Bool
  stopped : Option DaemonError

inductive DaemonEvent (τ : Type) where
  -- a step of the server, for this daemon or for other clients
  | server (label : ServerLabel τ)
  -- the timer of the daemon, with a number for the turn
  | tick (turn : Nat)

abbrev DaemonLabel (τ : Type) := Label (ClientSig (Ticket τ)) Nat (DaemonEvent τ)

section World

variable {τ : Type} [DecidableEq τ] (ext : Externals) (isolation : Isolation)

/-- The responses to a request that does not come to its handler. -/
def turnsAway : HttpRequest → HttpResponse → Bool
  | .publicly _, response => response = rateLimited
  | .protectedly _ _, response =>
      response = ServerError.unauthorized.intoResponse ||
        response = (ServerError.auth .invalidToken).intoResponse ||
        response = (ServerError.database "").intoResponse

/-- The account of the token in a header. -/
def bearerAccount (authorization : Option String) : Option AccountId := do
  let token ← authorization.bind (stripPrefix "Bearer ")
  let claims ← ext.openJwt token
  claims.accountId.toOption

/-- The call that a request becomes at its handler. -/
def callOf : HttpRequest → Option Call
  | .publicly route => some (.publicly route)
  | .protectedly authorization route =>
      (bearerAccount ext authorization).map fun accountId => .protectedly accountId route

def serverStep (state : DaemonState τ) (label : ServerLabel τ) : Option (DaemonState τ) :=
  ((serverWorld ext isolation).step state.server label).map fun server => { state with server }

/-- The responses that have been sent, after a step of the server. -/
def respond (responses : τ → Option HttpResponse) :
    ServerLabel τ → τ → Option HttpResponse
  | .call task (.respond response) _ => Function.update responses task (some response)
  | _ => responses

def daemonPerform : (request : ClientRequest (Ticket τ)) → request.Response → DaemonState τ →
    Option (DaemonState τ)
  | .authToken, (token : String), state =>
      if token = state.credentials.authToken then some state else none
  | .refreshToken, (refreshToken : Option String), state =>
      if refreshToken = state.credentials.refreshToken then some state else none
  | .storeTokens token refreshToken, _, state =>
      some { state with credentials := { authToken := token, refreshToken := some refreshToken } }
  | .send request, .ok (.served task), state =>
      (callOf ext request).bind fun call => serverStep ext isolation state (.event ⟨task, call⟩)
  | .send request, .ok (.turnedAway response), state =>
      if turnsAway request response then some state else none
  | .receive (.served task), .ok response, state =>
      if state.responses task = some response then some state else none
  | .receive (.turnedAway response'), .ok response, state =>
      if response = response' then some state else none
  -- the connection may break at any time
  | .send _, .error _, state | .receive _, .error _, state => some state
  | .applyDevices _ _, _, state => some state
  | .shareFeatures, _, state | .answered _, _, state => some state
  | .ticked result, _, state =>
      some { state with
        ticking := false,
        stopped := match result with
          | .ok () => none
          | .error error => some error }

/-- One turn of the loop of the daemon. -/
def tick (deviceId : DeviceId) : ClientProg (Ticket τ) Unit := do
  let result ← (handleSyncTick deviceId).run
  perform (.ticked result)

def daemonEvent (deviceId : DeviceId) : DaemonEvent τ → DaemonState τ →
    Option (DaemonState τ × Option (Nat × ClientProg (Ticket τ) Unit))
  | .server label, state =>
      (serverStep ext isolation state label).map fun state =>
        ({ state with responses := respond state.responses label }, none)
  | .tick turn, state =>
      if state.ticking ∨ state.stopped.isSome then none
      else some ({ state with ticking := true }, some (turn, tick deviceId))

/-- The daemon of a device and the server, with other clients of the server. -/
def daemonWorld (deviceId : DeviceId) :
    World (ClientSig (Ticket τ)) Nat (DaemonEvent τ) (DaemonState τ) where
  perform _ := daemonPerform ext isolation
  event := daemonEvent ext isolation deviceId

end World

section Client

variable {κ : Type} {deviceId : DeviceId}

/-- A request was answered. -/
def Told (request : HttpRequest) (response : HttpResponse) (log : List (Exchange (ClientSig κ))) :
    Prop :=
  ∃ ticket, ⟨.send request, .ok ticket⟩ ∈ log ∧ ⟨.receive ticket, .ok response⟩ ∈ log

theorem Told.mono {request : HttpRequest} {response : HttpResponse}
    {log log' : List (Exchange (ClientSig κ))} (h : Told request response log)
    (hlog : log <+: log') : Told request response log' := by
  obtain ⟨ticket, hsend, hreceive⟩ := h
  exact ⟨ticket, hlog.subset hsend, hlog.subset hreceive⟩

/-- Some heartbeat got a response that says that the device is removed. -/
def ToldRemoved (deviceId : DeviceId) (log : List (Exchange (ClientSig κ))) : Prop :=
  ∃ authorization response,
    Told (.protectedly authorization (.heartbeatDevice deviceId.uuid)) response log ∧
      mapDeviceMutationResponse response "device heartbeat" = .error .deviceRemoved

/-- A turn only ends with a removal that it was told of. -/
def TickGuard (deviceId : DeviceId) (log : List (Exchange (ClientSig κ))) :
    ClientRequest κ → Prop
  | .ticked result => result = .error .deviceRemoved → ToldRemoved deviceId log
  | _ => True

variable {log : List (Exchange (ClientSig κ))}

theorem send_ensures {request : HttpRequest} :
    Prog.Ensures (S := ClientSig κ) (TickGuard deviceId) Prog.heard (send request).run
      (fun result log' => log <+: log' ∧
        ∀ response, result = .ok response → Told request response log') log := by
  refine Prog.ensures_tryBind.mpr ⟨trivial, ?_⟩
  rintro sent _ rfl
  cases sent with
  | error error => exact ⟨List.prefix_append _ _, by simp⟩
  | ok ticket =>
      refine ⟨trivial, ?_⟩
      rintro received _ rfl
      refine ⟨by simp, ?_⟩
      rintro response rfl
      exact ⟨ticket, by simp, by simp⟩

theorem ensures_grows {α : Type} {p : ClientProg κ α}
    (hp : p.All fun request => ∀ log, TickGuard deviceId log request) :
    Prog.Ensures (S := ClientSig κ) (TickGuard deviceId) Prog.heard p
      (fun _ log' => log <+: log') log := by
  refine Prog.Ensures.of_all (I := fun log' => log <+: log') hp (fun log' _ _ h => h log') ?_
    (fun _ _ => id) List.prefix_rfl
  rintro request response log' _ - hlog' rfl
  exact hlog'.trans (List.prefix_append _ _)

theorem send_free {request : HttpRequest} : (send (κ := κ) request).run.All
    fun request => ∀ log, TickGuard deviceId log request := by
  refine Prog.All.tryBind ⟨fun _ => trivial, fun _ => trivial⟩ fun ticket => ?_
  exact ⟨fun _ => trivial, fun _ => trivial⟩

theorem refreshed_free : (refreshed : ClientProg κ Bool).All
    fun request => ∀ log, TickGuard deviceId log request := by
  refine Prog.All.bind ?_ fun result => by cases result <;> trivial
  refine Prog.All.tryBind ⟨fun _ => trivial, fun _ => trivial⟩ fun refreshToken => ?_
  cases refreshToken with
  | none => trivial
  | some refreshToken =>
      refine Prog.All.tryBind (send_free.bind fun result => by cases result <;> trivial)
        fun response => ?_
      by_cases hstatus : response.status.isSuccess = true
      · rw [if_neg (by simp [hstatus])]
        cases decodeAuth response.body with
        | error error => trivial
        | ok body =>
            obtain ⟨token, refreshToken, mfaRequired, mfaToken⟩ := body
            cases token with
            | none => trivial
            | some token =>
                cases refreshToken with
                | none => trivial
                | some refreshToken =>
                    exact Prog.All.tryBind ⟨fun _ => trivial, fun _ => trivial⟩ fun _ => trivial
      · rw [if_pos (by simp [hstatus])]
        trivial

theorem sendAuthenticated_ensures {route : ProtectedRoute} :
    Prog.Ensures (S := ClientSig κ) (TickGuard deviceId) Prog.heard (sendAuthenticated route).run
      (fun result log' => log <+: log' ∧ ∀ response, result = .ok response →
        ∃ authorization, Told (.protectedly authorization route) response log') log := by
  refine Prog.ensures_tryBind.mpr ⟨trivial, ?_⟩
  rintro token _ rfl
  refine Prog.ensures_tryBind.mpr (send_ensures.mono ?_)
  rintro result log₁ ⟨hlog₁, htold⟩
  have hgrown := (List.prefix_append _ _).trans hlog₁
  cases result with
  | error error => exact ⟨hgrown, by simp⟩
  | ok response =>
      have hfirst : ∀ response', Except.ok response = (.ok response' : Except String _) →
          ∃ authorization, Told (.protectedly authorization route) response' log₁ := by
        rintro response' ⟨⟩
        exact ⟨_, htold response rfl⟩
      dsimp only
      by_cases hstatus : response.status = .unauthorized
      · rw [if_pos hstatus]
        refine Prog.ensures_tryBind.mpr (Prog.ensures_lift.mpr
          ((ensures_grows refreshed_free).mono ?_))
        rintro fresh log₂ hlog₂
        cases fresh with
        | false =>
            refine ⟨hgrown.trans hlog₂, fun response' h => ?_⟩
            obtain ⟨authorization, htold'⟩ := hfirst response' h
            exact ⟨authorization, htold'.mono hlog₂⟩
        | true =>
            refine Prog.ensures_tryBind.mpr ⟨trivial, ?_⟩
            rintro token' _ rfl
            refine send_ensures.mono ?_
            rintro result log₃ ⟨hlog₃, htold'⟩
            refine ⟨(hgrown.trans hlog₂).trans ((List.prefix_append _ _).trans hlog₃), ?_⟩
            exact fun response' h => ⟨_, htold' response' h⟩
      · rw [if_neg hstatus]
        exact ⟨hgrown, hfirst⟩

theorem heartbeatDevice_ensures :
    Prog.Ensures (S := ClientSig κ) (TickGuard deviceId) Prog.heard (heartbeatDevice deviceId).run
      (fun result log' => log <+: log' ∧
        (result = .error .deviceRemoved → ToldRemoved deviceId log')) log := by
  refine Prog.ensures_tryBind.mpr (Prog.ensures_bind.mpr (sendAuthenticated_ensures.mono ?_))
  rintro result log' ⟨hlog', htold⟩
  cases result with
  | error error => exact ⟨hlog', by simp⟩
  | ok response =>
      refine ⟨hlog', fun hremoved => ?_⟩
      obtain ⟨authorization, htold⟩ := htold response rfl
      exact ⟨authorization, response, htold, hremoved⟩

theorem syncFromServer_free : (syncFromServer (κ := κ) true).run.All
    fun request => ∀ log, TickGuard deviceId log request := by
  have hsend {request : HttpRequest} := @send_free κ deviceId request
  refine Prog.All.tryBind (Prog.All.tryBind (Prog.All.bind ?_ fun result => ?_) fun response => ?_)
    fun list => ⟨fun _ => trivial, fun _ => trivial⟩
  · refine Prog.All.tryBind ⟨fun _ => trivial, fun _ => trivial⟩ fun token => ?_
    refine Prog.All.tryBind hsend fun response => ?_
    by_cases hstatus : response.status = .unauthorized
    · rw [if_pos hstatus]
      refine Prog.All.tryBind (Prog.All.lift refreshed_free) fun fresh => ?_
      cases fresh with
      | false => trivial
      | true => exact Prog.All.tryBind ⟨fun _ => trivial, fun _ => trivial⟩ fun _ => hsend
    · rw [if_neg hstatus]
      trivial
  · cases result <;> trivial
  · trivial

theorem tick_ensures {τ : Type} :
    Prog.Ensures (TickGuard deviceId) Prog.heard (tick (τ := τ) deviceId) (fun _ _ => True) [] := by
  refine Prog.ensures_bind.mpr (Prog.ensures_tryBind.mpr (Prog.ensures_lift.mpr
    (heartbeatDevice_ensures.mono ?_)))
  rintro heartbeat log ⟨-, hremoved⟩
  dsimp only
  by_cases hheartbeat : heartbeat = .error .deviceRemoved
  · rw [if_pos hheartbeat]
    exact ⟨fun _ => hremoved hheartbeat, fun _ _ _ => trivial⟩
  · rw [if_neg hheartbeat]
    refine Prog.ensures_tryBind.mpr (Prog.ensures_lift.mpr
      ((ensures_grows syncFromServer_free).mono fun synced log' _ => ?_))
    dsimp only
    by_cases hsynced : synced = .ok ()
    · rw [if_pos hsynced]
      exact ⟨trivial, fun _ _ _ => ⟨by simp [TickGuard], fun _ _ _ => trivial⟩⟩
    · rw [if_neg hsynced]
      exact ⟨by simp [TickGuard], fun _ _ _ => trivial⟩

end Client

section Runs

variable {τ : Type} [DecidableEq τ] {ext : Externals} {isolation : Isolation}
  {deviceId : DeviceId} {pool pool' : Pool (ClientSig (Ticket τ)) Nat (DaemonState τ)}
  {labels : List (DaemonLabel τ)}

/-- A run of the daemon and the server. -/
abbrev DaemonRun (ext : Externals) (isolation : Isolation) (deviceId : DeviceId) :=
  (daemonWorld (τ := τ) ext isolation deviceId).Run fun _ _ => True

/-- Nothing is in progress. -/
structure AtRest (pool : Pool (ClientSig (Ticket τ)) Nat (DaemonState τ)) : Prop where
  tasks : ∀ task, pool.tasks task = none
  server : Idle pool.state.server
  responses : ∀ task, pool.state.responses task = none

/-- The step of the server in a step of both. -/
def serverLabel (ext : Externals) : DaemonLabel τ → Option (ServerLabel τ)
  | .event (.server label) => some label
  | .call _ (.send request) response =>
      match response with
      | .ok (.served task) => (callOf ext request).map fun call => .event ⟨task, call⟩
      | _ => none
  | _ => none

def serverLabels (ext : Externals) (labels : List (DaemonLabel τ)) : List (ServerLabel τ) :=
  labels.filterMap (serverLabel ext)

omit [DecidableEq τ] in
theorem serverLabels_snoc (label : DaemonLabel τ) : serverLabels ext (labels ++ [label]) =
    serverLabels ext labels ++ (serverLabel ext label).toList := by
  cases hlabel : serverLabel ext label <;> simp [serverLabels, hlabel]

theorem serverStep_some {state state' : DaemonState τ} {label : ServerLabel τ}
    (h : serverStep ext isolation state label = some state') :
    ∃ server, (serverWorld ext isolation).step state.server label = some server ∧
      state' = { state with server } := by
  obtain ⟨server, hserver, rfl⟩ := Option.map_eq_some_iff.mp h
  exact ⟨server, hserver, rfl⟩

/-- What a step leaves of the server and of its responses. -/
structure ServerMoves (ext : Externals) (isolation : Isolation) (label : DaemonLabel τ)
    (state state' : DaemonState τ) : Prop where
  server : serverLabel ext label = none ∧ state'.server = state.server ∨
    ∃ label', serverLabel ext label = some label' ∧
      (serverWorld ext isolation).step state.server label' = some state'.server
  responses : ∀ task response, state'.responses task = some response →
    state.responses task = some response ∨
      serverLabel ext label = some (.call task (.respond response) ())

theorem ServerMoves.still {label : DaemonLabel τ} {state state' : DaemonState τ}
    (hlabel : serverLabel ext label = none) (hserver : state'.server = state.server)
    (hresponses : state'.responses = state.responses) :
    ServerMoves ext isolation label state state' :=
  ⟨.inl ⟨hlabel, hserver⟩, fun _ _ h => .inl (hresponses ▸ h)⟩

theorem perform_moves {turn : Nat} {request : ClientRequest (Ticket τ)}
    {response : request.Response} {state state' : DaemonState τ}
    (h : daemonPerform ext isolation request response state = some state') :
    ServerMoves ext isolation (.call turn request response) state state' := by
  cases request with
  | send request =>
      cases response with
      | error error =>
          obtain rfl := Option.some.inj h
          exact .still rfl rfl rfl
      | ok ticket =>
          cases ticket with
          | turnedAway response =>
              obtain ⟨-, hstate⟩ := Option.ite_none_right_eq_some.mp h
              obtain rfl := Option.some.inj hstate
              exact .still rfl rfl rfl
          | served task =>
              obtain ⟨call, hcall, hstep⟩ := Option.bind_eq_some_iff.mp h
              obtain ⟨server, hserver, rfl⟩ := serverStep_some hstep
              refine ⟨.inr ⟨_, ?_, hserver⟩, fun _ _ => .inl⟩
              simp [serverLabel, hcall]
  | receive ticket =>
      cases ticket with
      | turnedAway response' | served task =>
          cases response with
          | error error =>
              obtain rfl := Option.some.inj h
              exact .still rfl rfl rfl
          | ok response =>
              obtain ⟨-, hstate⟩ := Option.ite_none_right_eq_some.mp h
              obtain rfl := Option.some.inj hstate
              exact .still rfl rfl rfl
  | authToken | refreshToken =>
      obtain ⟨-, hstate⟩ := Option.ite_none_right_eq_some.mp h
      obtain rfl := Option.some.inj hstate
      exact .still rfl rfl rfl
  | storeTokens | applyDevices | shareFeatures | answered | ticked =>
      obtain rfl := Option.some.inj h
      exact .still rfl rfl rfl

theorem event_moves {event : DaemonEvent τ} {state state' : DaemonState τ}
    {started : Option (Nat × ClientProg (Ticket τ) Unit)}
    (h : daemonEvent ext isolation deviceId event state = some (state', started)) :
    ServerMoves ext isolation (.event event) state state' := by
  cases event with
  | tick turn =>
      obtain ⟨-, hstate⟩ := Option.ite_none_left_eq_some.mp h
      obtain ⟨rfl, -⟩ := Prod.mk.inj (Option.some.inj hstate)
      exact .still rfl rfl rfl
  | server label =>
      obtain ⟨middle, hstep, hstate⟩ := Option.map_eq_some_iff.mp h
      obtain ⟨rfl, -⟩ := Prod.mk.inj hstate
      obtain ⟨server, hserver, rfl⟩ := serverStep_some hstep
      refine ⟨.inr ⟨label, rfl, hserver⟩, fun task response hresponse => ?_⟩
      simp only [respond] at hresponse
      split at hresponse
      · rename_i task' response' _
        by_cases heq : task = task'
        · subst heq
          rw [Function.update_self] at hresponse
          obtain rfl := Option.some.inj hresponse
          exact .inr rfl
        · rw [Function.update_of_ne heq] at hresponse
          exact .inl hresponse
      · exact .inl hresponse

theorem step_moves {label : DaemonLabel τ}
    (h : (daemonWorld ext isolation deviceId).step pool label = some pool') :
    ServerMoves ext isolation label pool.state pool'.state := by
  cases label with
  | call turn request response =>
      obtain ⟨next, state', -, hperform, rfl⟩ := World.step_call h
      exact perform_moves hperform
  | event event =>
      obtain ⟨state', started, hevent, hstarted⟩ := World.step_event h
      rcases hstarted with ⟨-, rfl⟩ | ⟨_, _, -, -, rfl⟩ <;> exact event_moves hevent

theorem DaemonRun.server (h : DaemonRun ext isolation deviceId pool labels pool') :
    ServerRun ext isolation (fun _ _ => True) pool.state.server (serverLabels ext labels)
      pool'.state.server := by
  induction h with
  | nil => exact .nil
  | snoc _ _ hstep ih =>
      rename_i label _ _
      rw [serverLabels_snoc]
      rcases (step_moves hstep).server with ⟨hlabel, hserver⟩ | ⟨label', hlabel, hserver⟩
      · rw [hlabel, hserver]
        simpa using ih
      · rw [hlabel]
        exact .snoc ih trivial hserver

theorem DaemonRun.responded (h : DaemonRun ext isolation deviceId pool labels pool')
    (hrest : AtRest pool) {task : τ} {response : HttpResponse}
    (hresponse : pool'.state.responses task = some response) :
    .call task (.respond response) () ∈ serverLabels ext labels := by
  induction h with
  | nil =>
      rw [hrest.responses] at hresponse
      cases hresponse
  | snoc _ _ hstep ih =>
      rw [serverLabels_snoc]
      rcases (step_moves hstep).responses _ _ hresponse with hold | hnew
      · exact List.mem_append_left _ (ih hold)
      · exact List.mem_append_right _ (by simp [hnew])

/-- A response that the client does not take for the removal of its device. -/
def NotRemoved (response : HttpResponse) : Prop :=
  mapDeviceMutationResponse response "device heartbeat" ≠ .error .deviceRemoved

theorem notRemoved_of_status {response : HttpResponse} (h : response.status ≠ .forbidden) :
    NotRemoved response := by
  unfold NotRemoved mapDeviceMutationResponse
  rw [if_neg h]
  split <;> simp

theorem notRemoved_forbidden : NotRemoved ServerError.forbidden.intoResponse := by
  have hplain : contains (bodyText ServerError.forbidden.intoResponse.body) "device removed" =
      false := by decide
  have hforbidden : ServerError.forbidden.intoResponse.status = .forbidden := rfl
  simp [NotRemoved, mapDeviceMutationResponse, hforbidden, hplain]

theorem heartbeat_answers {accountId : AccountId} {id : Uuid} :
    ((Call.protectedly accountId (.heartbeatDevice id)).run ext).Ensures (Answers NotRemoved)
      Prog.heard (fun _ _ => True) [] := by
  have : Fallible fun error => NotRemoved error.intoResponse :=
    ⟨fun _ => notRemoved_of_status (by simp [ServerError.intoResponse, ServerError.statusCode])⟩
  refine Handles.answers (.bind ((heartbeatDevice_fails ?_ ?_ ?_ []).mono ?_ fun _ _ h => h))
  · exact notRemoved_of_status (by decide)
  · exact notRemoved_forbidden
  · exact fun _ => notRemoved_of_status (by simp [ServerError.intoResponse, ServerError.statusCode])
  · exact fun _ _ _ => notRemoved_of_status (by simp [json])

theorem requireAuth_turnsAway {authorization : Option String} {route : ProtectedRoute} :
    FailsOnly (fun error => turnsAway (.protectedly authorization route) error.intoResponse = true)
      (requireAuth ext authorization) := by
  have : Fallible fun error =>
      turnsAway (.protectedly authorization route) error.intoResponse = true :=
    ⟨fun _ => by simp [turnsAway, ServerError.intoResponse, ServerError.statusCode,
      ServerError.apiError]⟩
  have hinvalid : turnsAway (.protectedly authorization route)
      (ServerError.auth .invalidToken).intoResponse = true := by simp [turnsAway]
  have hunauthorized : turnsAway (.protectedly authorization route)
      ServerError.unauthorized.intoResponse = true := by simp [turnsAway]
  unfold requireAuth
  split
  · exact .throw hunauthorized
  · rename_i token _
    refine .bind (.bind (.bind .now fun _ => .pure) fun time => ?_) fun accountId =>
      .bind .query fun account => ?_
    · cases decode ext time token with
      | none => exact .throw hinvalid
      | some claims =>
          refine .ite (fun _ => .throw hinvalid) fun _ => .liftExcept fun error herror => ?_
          unfold Claims.accountId at herror
          split at herror
          · cases herror
          · cases herror
            exact hinvalid
    · cases account with
      | none => exact .throw hunauthorized
      | some account => exact .pure

theorem notRemoved_of_turnsAway {request : HttpRequest} {response : HttpResponse}
    (h : turnsAway request response = true) : NotRemoved response := by
  refine notRemoved_of_status ?_
  cases request with
  | publicly =>
      rw [of_decide_eq_true h]
      decide
  | protectedly =>
      simp only [turnsAway, Bool.or_eq_true, decide_eq_true_eq] at h
      rcases h with (rfl | rfl) | rfl <;> decide

theorem DaemonRun.told (h : DaemonRun ext isolation deviceId pool labels pool')
    (hrest : AtRest pool) {turn : Nat} {authorization : Option String} {response : HttpResponse}
    (htold : Told (.protectedly authorization (.heartbeatDevice deviceId.uuid)) response
      (trace turn labels)) : NotRemoved response := by
  obtain ⟨ticket, hsend, hreceive⟩ := htold
  obtain ⟨before, after, hbefore⟩ := List.append_of_mem hsend
  obtain ⟨before', after', hbefore'⟩ := List.append_of_mem hreceive
  obtain ⟨earlier, later, pool₁, pool₂, hlabels, -, hearlier, -, hstep, -⟩ := h.split_trace hbefore
  obtain ⟨earlier', later', pool₃, pool₄, hlabels', -, hearlier', -, hstep', -⟩ :=
    h.split_trace hbefore'
  obtain ⟨_, state, -, hperform, -⟩ := World.step_call hstep
  obtain ⟨_, state', -, hperform', -⟩ := World.step_call hstep'
  cases ticket with
  | turnedAway answer =>
      obtain ⟨haway, -⟩ := Option.ite_none_right_eq_some.mp hperform
      obtain ⟨rfl, -⟩ := Option.ite_none_right_eq_some.mp hperform'
      exact notRemoved_of_turnsAway haway
  | served task =>
      obtain ⟨hresponse, -⟩ := Option.ite_none_right_eq_some.mp hperform'
      obtain ⟨call, hcall, -⟩ := Option.bind_eq_some_iff.mp hperform
      obtain ⟨accountId, haccount, rfl⟩ := Option.map_eq_some_iff.mp hcall
      have hserver := DaemonRun.server h
      have hevent : .event ⟨task, .protectedly accountId (.heartbeatDevice deviceId.uuid)⟩ ∈
          serverLabels ext labels := by
        rw [hlabels, serverLabels]
        refine List.mem_filterMap.mpr ⟨_, List.mem_append_right _ List.mem_cons_self, ?_⟩
        simp [serverLabel, hcall]
      have hresponded : .call task (.respond response) () ∈ serverLabels ext labels := by
        rw [hlabels', serverLabels, List.filterMap_append]
        exact List.mem_append_left _ (DaemonRun.responded hearlier' hrest hresponse)
      obtain ⟨first, rest, hsplit⟩ := List.append_of_mem hresponded
      rw [hsplit] at hserver hevent
      obtain ⟨_, _, hfirst, -, hrespond, -⟩ := hserver.split_inv
      exact ServerRun.asked_by hfirst hrest.server
        (ServerRun.call_mem_step hserver hrest.server hevent) hrespond heartbeat_answers

/-- A turn of the daemon has ended. -/
def Ticked (labels : List (DaemonLabel τ)) (turn : Nat) (result : Except DaemonError Unit) : Prop :=
  .call turn (.ticked result) () ∈ labels

/-- A heartbeat of this turn came to its handler, which found this row of the device. -/
def Processed (ext : Externals) (deviceId : DeviceId) (labels : List (DaemonLabel τ)) (turn : Nat)
    (existing : Device) : Prop :=
  ∃ authorization task,
    .call turn (.send (.protectedly authorization (.heartbeatDevice deviceId.uuid)))
      (.ok (.served task)) ∈ labels ∧
    ⟨.query .db (.findDevice deviceId.uuid), .ok (some existing)⟩ ∈
      trace task (serverLabels ext labels)

/-- The daemon learns from a heartbeat when its device is removed, and only then: a turn whose
heartbeat finds the row deleted, so in particular the first one, ends the daemon. -/
def RemovalTold (ext : Externals) (deviceId : DeviceId) (labels : List (DaemonLabel τ)) : Prop :=
  ∀ turn result, Ticked labels turn result →
    ((∃ existing, Processed ext deviceId labels turn existing ∧ existing.deletedAt.isSome = true) ↔
      result = .error .deviceRemoved)

theorem DaemonRun.not_removed (h : DaemonRun ext isolation deviceId pool labels pool')
    (hrest : AtRest pool) {turn : Nat} {result : Except DaemonError Unit}
    (hticked : Ticked labels turn result) : result ≠ .error .deviceRemoved := by
  intro hremoved
  obtain ⟨earlier, later, rfl⟩ := List.append_of_mem hticked
  obtain ⟨pool₁, pool₂, hearlier, -, hstep, -⟩ := h.split_inv
  obtain ⟨event, state, state', first, -, hevent, hguard⟩ :=
    World.Run.asked hearlier hrest.tasks hstep
  have hfirst : first = tick deviceId := by
    cases event with
    | server label =>
        obtain ⟨_, -, hnone⟩ := Option.map_eq_some_iff.mp hevent
        cases (Prod.mk.inj hnone).2
    | tick turn' =>
        obtain ⟨-, hstarted⟩ := Option.ite_none_left_eq_some.mp hevent
        obtain ⟨-, hstarted⟩ := Prod.mk.inj (Option.some.inj hstarted)
        exact (Prod.mk.inj (Option.some.inj hstarted)).2.symm
  subst hfirst
  obtain ⟨authorization, response, htold, hmap⟩ := hguard _ _ tick_ensures hremoved
  exact DaemonRun.told hearlier hrest htold hmap

/-- The daemon is told of the removal of its device just in the runs in which no turn has its
heartbeat processed while the row is deleted: the server then answers that there is no such
device, and the client looks for another answer. -/
theorem removal_told_iff (hrest : AtRest pool)
    (h : DaemonRun ext isolation deviceId pool labels pool') :
    RemovalTold ext deviceId labels ↔ ∀ turn result, Ticked labels turn result →
      ∀ existing, Processed ext deviceId labels turn existing → existing.deletedAt = none := by
  constructor
  · intro htold turn result hticked existing hprocessed
    rw [← Option.not_isSome_iff_eq_none]
    intro hdeleted
    exact DaemonRun.not_removed h hrest hticked
      ((htold turn result hticked).mp ⟨existing, hprocessed, hdeleted⟩)
  · intro hlive turn result hticked
    constructor
    · rintro ⟨existing, hprocessed, hdeleted⟩
      rw [hlive turn result hticked existing hprocessed] at hdeleted
      cases hdeleted
    · intro hremoved
      exact (DaemonRun.not_removed h hrest hticked hremoved).elim

end Runs

section Scripts

def sampleLaptop : DeviceUpsertRequest :=
  { deviceId := ⟨77⟩, name := "Laptop", irohPublicKey := "k1", enabledFeatures := [] }

/-- A device is registered, and removed if it is to be. -/
def sampleServer (remove : Bool) : List (Move Nat (Arrival Nat)) :=
  .event ⟨0, .publicly (.register { email := "a@b.c", password := "hunter22" })⟩ ::
    List.replicate 12 (.tick 0) ++
  .event ⟨1, .protectedly ⟨1⟩ (.upsertDevice 77 sampleLaptop)⟩ :: List.replicate 6 (.tick 1) ++
  if remove then
    .event ⟨2, .protectedly ⟨1⟩ (.deleteDevice 77)⟩ :: List.replicate 5 (.tick 2)
  else []

/-- The heartbeat at the server. -/
def sampleHeartbeat (remove : Bool) : List (Move Nat (Arrival Nat)) :=
  .event ⟨3, .protectedly ⟨1⟩ (.heartbeatDevice 77)⟩ ::
    List.replicate (if remove then 2 else 6) (.tick 3)

/-- The connection breaks after the heartbeat. -/
def sampleOracle (_ : Nat) (state : DaemonState Nat) :
    (request : ClientRequest (Ticket Nat)) → Option request.Response
  | .authToken => some state.credentials.authToken
  | .refreshToken => some state.credentials.refreshToken
  | .storeTokens _ _ | .applyDevices _ _ => some (.ok ())
  | .send (.protectedly _ (.heartbeatDevice _)) => some (.ok (.served 3))
  | .send _ => some (.error "offline")
  | .receive (.served task) => (state.responses task).map .ok
  | .receive (.turnedAway response) => some (.ok response)
  | .shareFeatures | .answered _ | .ticked _ => some ()

def samplePool : Pool (ClientSig (Ticket Nat)) Nat (DaemonState Nat) where
  state :=
    { server := idleServer .empty 0
      responses := fun _ => none
      credentials :=
        { authToken := "00000000-0000-0000-0000-000000000001|3600|0|", refreshToken := none }
      ticking := false
      stopped := none }
  tasks _ := none

theorem atRest_samplePool : AtRest samplePool :=
  ⟨fun _ => rfl, idle_idleServer _ _, fun _ => rfl⟩

/-- The server up to the heartbeat, a turn up to its heartbeat, the heartbeat at the server,
and the rest of the turn. -/
def sampleRun (remove : Bool) :
    Option (List (DaemonLabel Nat) × Pool (ClientSig (Ticket Nat)) Nat (DaemonState Nat)) :=
  let world := serverWorld sampleExternals .readCommitted
  let oracle := fun task state => ServerState.oblige .readCommitted task state
  (world.follow (fun _ _ => True) oracle (sampleServer remove) (idleServer .empty 0)).bind
    fun (before, middle) =>
      (world.follow (fun _ _ => True) oracle (sampleHeartbeat remove) middle).bind
        fun (during, _) =>
          (daemonWorld sampleExternals .readCommitted ⟨77⟩).follow (fun _ _ => True) sampleOracle
            (before.map (fun label => .event (.server label)) ++
              .event (.tick 0) :: List.replicate 2 (.tick 0) ++
              (during.drop 1).map (fun label => .event (.server label)) ++
              List.replicate 4 (.tick 0)) samplePool

theorem run_of_sampleRun {remove : Bool} {labels : List (DaemonLabel Nat)}
    {pool : Pool (ClientSig (Ticket Nat)) Nat (DaemonState Nat)}
    (h : sampleRun remove = some (labels, pool)) :
    DaemonRun sampleExternals .readCommitted ⟨77⟩ samplePool labels pool := by
  obtain ⟨_, -, hrest⟩ := Option.bind_eq_some_iff.mp h
  obtain ⟨_, -, hrest⟩ := Option.bind_eq_some_iff.mp hrest
  exact World.run_of_follow hrest

def isTicked : DaemonLabel Nat → Bool
  | .call 0 (.ticked _) _ => true
  | _ => false

def isHeartbeat : DaemonLabel Nat → Bool
  | .call 0 (.send (.protectedly _ (.heartbeatDevice 77))) (.ok (.served 3)) => true
  | _ => false

/-- A row of the device that a task has found, and whether it is deleted. -/
def foundDeleted : ServerLabel Nat → Option (Nat × Bool)
  | .call task (.query .db (.findDevice id)) response =>
      match response with
      | .ok (some row) => if id = 77 then some (task, row.deletedAt.isSome) else none
      | _ => none
  | _ => none

variable {labels : List (DaemonLabel Nat)}

theorem ticked_of_any (h : labels.any isTicked = true) : ∃ result, Ticked labels 0 result := by
  obtain ⟨label, hmem, hlabel⟩ := List.any_eq_true.mp h
  unfold isTicked at hlabel
  split at hlabel
  · exact ⟨_, hmem⟩
  · cases hlabel

theorem processed_of_found {deleted : Bool} (hsent : labels.any isHeartbeat = true)
    (hfound : (3, deleted) ∈ (serverLabels sampleExternals labels).filterMap foundDeleted) :
    ∃ existing, Processed sampleExternals ⟨77⟩ labels 0 existing ∧
      existing.deletedAt.isSome = deleted := by
  obtain ⟨label, hmem, hlabel⟩ := List.any_eq_true.mp hsent
  obtain ⟨label', hmem', hlabel'⟩ := List.mem_filterMap.mp hfound
  unfold isHeartbeat at hlabel
  unfold foundDeleted at hlabel'
  split at hlabel
  · split at hlabel'
    · split at hlabel'
      · rename_i task id _ existing
        obtain ⟨rfl, hrow⟩ := Option.ite_none_right_eq_some.mp hlabel'
        obtain ⟨rfl, hdeleted⟩ := Prod.mk.inj (Option.some.inj hrow)
        refine ⟨existing, ⟨_, 3, hmem, List.mem_filterMap.mpr ⟨_, hmem', ?_⟩⟩, hdeleted⟩
        simp [Label.exchange]
      · cases hlabel'
    · cases hlabel'
  · cases hlabel

theorem found_of_processed {turn : Nat} {existing : Device}
    (h : Processed sampleExternals ⟨77⟩ labels turn existing) :
    ∃ task, (task, existing.deletedAt.isSome) ∈
      (serverLabels sampleExternals labels).filterMap foundDeleted := by
  obtain ⟨-, task, -, hmem⟩ := h
  obtain ⟨label, hlabel, hexchange⟩ := List.mem_filterMap.mp hmem
  refine ⟨task, List.mem_filterMap.mpr ⟨label, hlabel, ?_⟩⟩
  cases label with
  | event => cases hexchange
  | call task' request response =>
      simp only [Label.exchange, Option.ite_none_right_eq_some, Option.some.injEq] at hexchange
      obtain ⟨rfl, hexchange⟩ := hexchange
      cases hexchange
      rfl

/-- The device is removed, the next turn sends a heartbeat, and the daemon goes on. -/
theorem daemon_keeps_running :
    ∃ labels pool, DaemonRun sampleExternals .readCommitted ⟨77⟩ samplePool labels pool ∧
      pool.state.stopped = none ∧ ¬RemovalTold sampleExternals ⟨77⟩ labels := by
  have hsome : (sampleRun true).any (fun result => result.2.state.stopped == none &&
      result.1.any isTicked && result.1.any isHeartbeat &&
      ((serverLabels sampleExternals result.1).filterMap foundDeleted).contains (3, true)) =
        true := by
    decide +kernel
  obtain ⟨⟨labels, pool⟩, hfollow, hend⟩ := (Option.any_eq_true _ _).mp hsome
  simp only [Bool.and_eq_true, beq_iff_eq] at hend
  obtain ⟨⟨⟨hstopped, hticked⟩, hsent⟩, hfound⟩ := hend
  have hrun := run_of_sampleRun hfollow
  refine ⟨labels, pool, hrun, hstopped, fun htold => ?_⟩
  obtain ⟨result, hresult⟩ := ticked_of_any hticked
  obtain ⟨existing, hprocessed, hdeleted⟩ :=
    processed_of_found hsent (List.contains_iff_mem.mp hfound)
  exact DaemonRun.not_removed hrun atRest_samplePool hresult
    ((htold 0 result hresult).mp ⟨existing, hprocessed, hdeleted⟩)

/-- A heartbeat that finds the device in place. -/
theorem device_in_place_told :
    ∃ labels pool, DaemonRun sampleExternals .readCommitted ⟨77⟩ samplePool labels pool ∧
      (∃ existing, Processed sampleExternals ⟨77⟩ labels 0 existing) ∧
      (∃ result, Ticked labels 0 result) ∧ RemovalTold sampleExternals ⟨77⟩ labels := by
  have hsome : (sampleRun false).any (fun result =>
      result.1.any isTicked && result.1.any isHeartbeat &&
      (serverLabels sampleExternals result.1).filterMap foundDeleted ==
        [(1, false), (3, false), (3, false)]) = true := by
    decide +kernel
  obtain ⟨⟨labels, pool⟩, hfollow, hend⟩ := (Option.any_eq_true _ _).mp hsome
  simp only [Bool.and_eq_true, beq_iff_eq] at hend
  obtain ⟨⟨hticked, hsent⟩, hfound⟩ := hend
  have hrun := run_of_sampleRun hfollow
  have hmem : (3, false) ∈ (serverLabels sampleExternals labels).filterMap foundDeleted := by
    rw [hfound]
    simp
  obtain ⟨existing, hprocessed, -⟩ := processed_of_found hsent hmem
  refine ⟨labels, pool, hrun, ⟨existing, hprocessed⟩, ticked_of_any hticked, ?_⟩
  refine (removal_told_iff atRest_samplePool hrun).mpr ?_
  intro turn result _ row hrow
  obtain ⟨task, htask⟩ := found_of_processed hrow
  rw [hfound] at htask
  simp only [List.mem_cons, Prod.mk.injEq, List.not_mem_nil, or_false] at htask
  have hlive : row.deletedAt.isSome = false := by
    rcases htask with ⟨-, hlive⟩ | ⟨-, hlive⟩ | ⟨-, hlive⟩ <;> exact hlive
  exact Option.isNone_iff_eq_none.mp (by simpa using hlive)

end Scripts

end Failsafe.Daemon
