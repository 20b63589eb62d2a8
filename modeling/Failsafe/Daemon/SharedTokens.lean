import Failsafe.Daemon.ServerClient
import Failsafe.Lib.Ending
import Failsafe.Server.Issuer

/-!
Clients of the server in several processes that were created from one file of credentials
(`failsafe/src/server.rs`, `cli/context.rs`).
-/

namespace Failsafe.Daemon

open Failsafe.Core Failsafe.Lib Failsafe.Server

/-- The clients beside the server, each with its own copy of the credentials. -/
structure Sharing where
  issuer : Issuer
  readiness : Readiness
  connected : Bool
  -- `credentials.toml`
  file : Credentials
  memory : Nat → Option Credentials

/-- The requests that the client makes with its token. -/
def clientRoute : ProtectedRoute → Bool
  | .createPairingCode | .upsertDevice _ _ | .heartbeatDevice _ | .patchDevice _ _
  | .deleteDevice _ | .listDevices => true
  | .me | .changePassword _ | .totpSetup | .totpEnable _ | .totpDisable _ => false

inductive SharingEvent where
  -- a process starts and reads the file
  | create (client : Nat)
  | call (client number : Nat) (route : ProtectedRoute)
  -- an access token expires
  | expire (token : String)
  | serverTurns (readiness : Readiness)
  | networkTurns (connected : Bool)

-- the server has come to its response when a request is given a ticket
abbrev SharingSig : Signature := ClientSig HttpResponse

instance : DecidableEq SharingSig.Request :=
  inferInstanceAs (DecidableEq (ClientRequest HttpResponse))

/-- A call under a number of its own, in one of the clients. -/
abbrev SharingLabel := Label SharingSig (Nat × Nat) SharingEvent

abbrev SharingLog := List (Exchange SharingSig)

/-- A call of `send_authenticated`, to its end. -/
def authenticatedCall (route : ProtectedRoute) : ClientProg HttpResponse Unit := do
  let result ← (sendAuthenticated route).run
  perform (.answered result)

def sharingPerform (task : Nat × Nat) : (request : ClientRequest HttpResponse) →
    request.Response → Sharing → Option Sharing
  | .authToken, (token : String), state =>
      if (state.memory task.1).map Credentials.authToken = some token then some state else none
  | .refreshToken, (refreshToken : Option String), state =>
      if (state.memory task.1).map Credentials.refreshToken = some refreshToken then some state
      else none
  | .storeTokens token refreshToken, saved, state =>
      let credentials := { authToken := token, refreshToken := some refreshToken }
      let memory := Function.update state.memory task.1 (some credentials)
      match saved with
      | .ok () => some { state with memory, file := credentials }
      | .error _ => some { state with memory }
  | .send request, .ok response, state =>
      if state.connected then
        (state.issuer.serve state.readiness request response).map fun issuer =>
          { state with issuer }
      else none
  | .receive response', .ok response, state =>
      if state.connected ∧ response = response' then some state else none
  -- what fails to be sent does not come to the server
  | .send _, .error _, state | .receive _, .error _, state =>
      if state.connected then none else some state
  | .answered _, _, state => some state
  | .applyDevices _ _, _, _ | .shareFeatures, _, _ | .ticked _, _, _ => none

def sharingEvent : SharingEvent → Sharing →
    Option (Sharing × Option ((Nat × Nat) × ClientProg HttpResponse Unit))
  | .create client, state =>
      match state.memory client with
      | some _ => none
      | none =>
          some ({ state with memory := Function.update state.memory client (some state.file) },
            none)
  | .call client number route, state =>
      if (state.memory client).isSome ∧ clientRoute route then
        some (state, some ((client, number), authenticatedCall route))
      else none
  | .expire token, state => some ({ state with issuer := state.issuer.expire token }, none)
  | .serverTurns readiness, state => some ({ state with readiness }, none)
  | .networkTurns connected, state => some ({ state with connected }, none)

def sharingWorld : World SharingSig (Nat × Nat) SharingEvent Sharing where
  perform := sharingPerform
  event := sharingEvent

abbrev SharingRun (pool : Pool SharingSig (Nat × Nat) Sharing) (labels : List SharingLabel)
    (pool' : Pool SharingSig (Nat × Nat) Sharing) : Prop :=
  sharingWorld.Run (fun _ _ => True) pool labels pool'

/-- No process is running, and the refresh token in the file works. -/
structure Paired (pool : Pool SharingSig (Nat × Nat) Sharing) : Prop where
  tasks : ∀ task, pool.tasks task = none
  memory : ∀ client, pool.state.memory client = none
  stored : ∃ raw ∈ pool.state.issuer.live, pool.state.file.refreshToken = some raw

def AllAnswered (labels : List SharingLabel) : Prop :=
  ∀ client number route, .event (.call client number route) ∈ labels →
    ∃ result, .call (client, number) (.answered result) () ∈ labels

/-- An answer of the server that is not 401. -/
def LetIn (result : Except String HttpResponse) : Prop :=
  ∃ response, result = .ok response ∧ response.status ≠ .unauthorized

/-- Every call is let in. -/
def NoneLockedOut (labels : List SharingLabel) : Prop :=
  ∀ task result, .call task (.answered result) () ∈ labels → LetIn result

section Guards

/-- The call has tried to refresh the tokens. -/
def Refreshing (log : SharingLog) : Prop :=
  ∃ request response, ⟨.send (.publicly (.refresh request)), response⟩ ∈ log

/-- The connection holds; a refresh comes to a server that is ready while its token works, and a
second try while its token is accepted; and new tokens are saved. -/
def Smooth (labels : List SharingLabel) (state : Sharing) : SharingLabel → Prop
  | .call _ (.send (.publicly (.refresh request))) _ =>
      state.connected = true ∧ state.readiness = .ready ∧
        request.refreshToken ∈ state.issuer.live
  | .call task (.send (.protectedly authorization _)) _ =>
      state.connected = true ∧
        (Refreshing (trace task labels) → state.issuer.accepts authorization = true)
  | .call _ (.receive _) _ => state.connected = true
  | .call _ (.storeTokens _ _) saved => saved = .ok ()
  | _ => True

def AllSmooth (start : Pool SharingSig (Nat × Nat) Sharing) (labels : List SharingLabel) : Prop :=
  ∀ before label after pool, labels = before ++ label :: after → SharingRun start before pool →
    Smooth before pool.state label

/-- The exchange leaves the call without an answer, or without tokens that work. -/
def Locks (before : SharingLog) : Exchange SharingSig → Prop
  | ⟨.refreshToken, refreshToken⟩ => refreshToken = none
  | ⟨.send (.publicly (.refresh _)), sent⟩ =>
      ∀ response, sent = .ok response → response.status.isSuccess = false
  | ⟨.storeTokens _ _, saved⟩ => saved ≠ .ok ()
  | ⟨.send (.protectedly _ _), sent⟩ =>
      ∀ response, sent = .ok response → Refreshing before ∧ response.status = .unauthorized
  | ⟨.receive _, received⟩ => ∀ response, received ≠ .ok response
  | _ => False

def LockedOut (log : SharingLog) : Prop :=
  ∃ before exchange after, log = before ++ exchange :: after ∧ Locks before exchange

/-- What the surroundings may answer. -/
def SharingAnswer : Exchange SharingSig → Prop
  | ⟨.send request, sent⟩ => ∀ response, sent = .ok response →
      ∀ refresh, request = .publicly (.refresh refresh) → response.status.isSuccess = true →
        ∃ body token refreshToken, response.body = .auth body ∧ body.token = some token ∧
          body.refreshToken = some refreshToken
  | ⟨.receive response, received⟩ => ∀ response', received = .ok response' → response' = response
  | _ => True

/-- What a call asks after its history. -/
def ClientGuard (log : SharingLog) : ClientRequest HttpResponse → Prop
  | .send (.publicly route) => ∃ request, route = .refresh request
  | .send (.protectedly _ route) => clientRoute route = true
  | .answered result => LetIn result ↔ ¬LockedOut log
  | _ => True

variable {log : SharingLog} {route : ProtectedRoute}

theorem lockedOut_snoc {exchange : Exchange SharingSig} :
    LockedOut (log ++ [exchange]) ↔ LockedOut log ∨ Locks log exchange := by
  constructor
  · rintro ⟨before, exchange', after, hsplit, hlocks⟩
    rcases concat_eq_split hsplit with ⟨rfl, rfl⟩ | ⟨middle, rfl⟩
    · exact .inr hlocks
    · exact .inl ⟨before, exchange', middle, rfl, hlocks⟩
  · rintro (⟨before, exchange', after, rfl, hlocks⟩ | hlocks)
    · exact ⟨before, exchange', after ++ [exchange], by simp, hlocks⟩
    · exact ⟨log, exchange, [], rfl, hlocks⟩

theorem not_lockedOut_nil : ¬LockedOut [] := by
  rintro ⟨before, exchange, after, hsplit, -⟩
  simp at hsplit

theorem refreshing_snoc {exchange : Exchange SharingSig} :
    Refreshing (log ++ [exchange]) ↔ Refreshing log ∨
      ∃ request response, exchange = ⟨.send (.publicly (.refresh request)), response⟩ := by
  simp only [Refreshing, List.mem_append, List.mem_singleton, exists_or]
  exact or_congr_right (exists_congr fun _ => exists_congr fun _ => eq_comm)

theorem send_answers {request : HttpRequest}
    {post : Except String HttpResponse → SharingLog → Prop}
    (hguard : ClientGuard log (.send request))
    (herror : ∀ error log', LockedOut log' → post (.error error) log')
    (h : ∀ response, SharingAnswer ⟨.send request, .ok response⟩ →
      post (.ok response)
        (log ++ [⟨.send request, .ok response⟩] ++ [⟨.receive response, .ok response⟩])) :
    Prog.Ensures (S := SharingSig) ClientGuard (Prog.heardOf SharingAnswer) (send request).run
      post log := by
  refine Prog.ensures_tryBind.mpr ⟨hguard, ?_⟩
  rintro sent _ ⟨rfl, hsound⟩
  cases sent with
  | error error =>
      refine herror error _ (lockedOut_snoc.mpr (.inr ?_))
      cases request with
      | publicly route =>
          obtain ⟨refresh, rfl⟩ := hguard
          exact nofun
      | protectedly authorization route => exact nofun
  | ok response =>
      refine ⟨trivial, ?_⟩
      rintro received _ ⟨rfl, hreceived⟩
      cases received with
      | error error => exact herror error _ (lockedOut_snoc.mpr (.inr nofun))
      | ok response' =>
          obtain rfl : response' = response := hreceived response' rfl
          exact h response' hsound

theorem refreshTokens_answers (hkept : ¬LockedOut log) :
    Prog.Ensures (S := SharingSig) ClientGuard (Prog.heardOf SharingAnswer) refreshTokens.run
      (fun result log' => if result = .ok true then Refreshing log' ∧ ¬LockedOut log'
        else LockedOut log') log := by
  refine Prog.ensures_tryBind.mpr (Prog.ensures_lift.mpr ⟨trivial, ?_⟩)
  rintro refreshToken _ ⟨rfl, -⟩
  cases refreshToken with
  | none => exact lockedOut_snoc.mpr (.inr rfl)
  | some raw =>
      refine Prog.ensures_tryBind.mpr (Prog.ensures_bind.mpr
        (send_answers ⟨_, rfl⟩ (fun error log' hlocked => hlocked) fun response hsound => ?_))
      by_cases hstatus : response.status.isSuccess = true
      · obtain ⟨body, token, newRaw, hbody, htoken, hraw⟩ := hsound _ rfl _ rfl hstatus
        refine Prog.ensures_ret.mpr ?_
        simp only [Except.mapError]
        rw [if_neg (by simp [hstatus]), hbody]
        simp only [decodeAuth, htoken, hraw]
        refine Prog.ensures_tryBind.mpr ⟨trivial, ?_⟩
        rintro saved _ ⟨rfl, -⟩
        cases saved with
        | error error => exact lockedOut_snoc.mpr (.inr (by simp [Locks]))
        | ok =>
            refine ⟨⟨{ refreshToken := raw }, .ok response, by simp⟩, ?_⟩
            rw [lockedOut_snoc, lockedOut_snoc, lockedOut_snoc, lockedOut_snoc]
            simp [Locks, hkept, hstatus]
      · refine Prog.ensures_ret.mpr ?_
        simp only [Except.mapError]
        rw [if_pos (by simp [hstatus])]
        refine lockedOut_snoc.mpr (.inl (lockedOut_snoc.mpr (.inr ?_)))
        rintro _ ⟨⟩
        simpa using hstatus

theorem refreshed_answers (hkept : ¬LockedOut log) :
    Prog.Ensures (S := SharingSig) ClientGuard (Prog.heardOf SharingAnswer) refreshed
      (fun fresh log' => if fresh = true then Refreshing log' ∧ ¬LockedOut log'
        else LockedOut log') log := by
  refine Prog.ensures_bind.mpr ((refreshTokens_answers hkept).mono fun result log' hresult => ?_)
  cases result with
  | error error => exact hresult
  | ok fresh =>
      cases fresh with
      | false => exact hresult
      | true => exact hresult

theorem letIn_ok {response : HttpResponse} :
    LetIn (.ok response) ↔ response.status ≠ .unauthorized :=
  ⟨fun ⟨_, hresponse, hstatus⟩ => by cases hresponse; exact hstatus, fun h => ⟨response, rfl, h⟩⟩

theorem not_letIn_error {error : String} : ¬LetIn (.error error) :=
  fun ⟨_, hresponse, _⟩ => nomatch hresponse

theorem sendAuthenticated_answers (hroute : clientRoute route = true) :
    Prog.Ensures (S := SharingSig) ClientGuard (Prog.heardOf SharingAnswer)
      (sendAuthenticated route).run (fun result log => ClientGuard log (.answered result)) [] := by
  have herror : ∀ (error : String) (log' : SharingLog), LockedOut log' →
      ClientGuard log' (.answered (.error error)) := fun error log' hlocked =>
    iff_of_false not_letIn_error fun hkept => hkept hlocked
  refine Prog.ensures_tryBind.mpr (Prog.ensures_lift.mpr ⟨trivial, ?_⟩)
  rintro token _ ⟨rfl, -⟩
  refine Prog.ensures_tryBind.mpr (send_answers hroute herror fun response hsound => ?_)
  have hkept : ¬LockedOut ([⟨.authToken, token⟩] ++
      [⟨.send (.protectedly (bearerAuth token) route), .ok response⟩] ++
      [⟨.receive response, .ok response⟩]) := by
    rw [lockedOut_snoc, lockedOut_snoc, ← List.nil_append [_], lockedOut_snoc]
    simp [Locks, not_lockedOut_nil, Refreshing]
  dsimp only
  by_cases hstatus : response.status = .unauthorized
  · rw [if_pos hstatus]
    refine Prog.ensures_tryBind.mpr (Prog.ensures_lift.mpr
      ((refreshed_answers hkept).mono fun fresh log hfresh => ?_))
    cases fresh with
    | false =>
        exact iff_of_false (fun hserved => letIn_ok.mp hserved hstatus) fun hkept => hkept hfresh
    | true =>
        obtain ⟨hrefreshing, hkept⟩ := hfresh
        refine Prog.ensures_tryBind.mpr (Prog.ensures_lift.mpr ⟨trivial, ?_⟩)
        rintro token' _ ⟨rfl, -⟩
        refine send_answers hroute herror fun response' _ => letIn_ok.trans ?_
        have hagain : Refreshing (log ++ [⟨.authToken, token'⟩]) :=
          refreshing_snoc.mpr (.inl hrefreshing)
        rw [lockedOut_snoc, lockedOut_snoc, lockedOut_snoc]
        simp [Locks, hkept, hagain]
  · rw [if_neg hstatus]
    exact iff_of_true (letIn_ok.mpr hstatus) hkept

theorem authenticatedCall_answers (hroute : clientRoute route = true) :
    Prog.Ensures (S := SharingSig)
      (fun log request => (∀ exchange ∈ log, SharingAnswer exchange) → ClientGuard log request)
      Prog.heard (authenticatedCall route) (fun _ _ => True) [] := by
  have hcall : Prog.Ensures (S := SharingSig) ClientGuard (Prog.heardOf SharingAnswer)
      (authenticatedCall route) (fun _ _ => True) [] := by
    refine Prog.ensures_bind.mpr ((sendAuthenticated_answers hroute).mono fun result log hend => ?_)
    exact ⟨hend, fun _ _ _ => trivial⟩
  exact (Prog.Ensures.of_sound fun _ => hcall).mono fun _ _ _ => trivial

/-- The requests of a call before it is answered. -/
def Calling : ClientRequest HttpResponse → Prop
  | .answered _ => False
  | _ => True

theorem send_calling {request : HttpRequest} :
    (send (κ := HttpResponse) request).run.All Calling :=
  .tryBind ⟨trivial, fun _ => trivial⟩ fun _ => ⟨trivial, fun _ => trivial⟩

theorem refreshTokens_calling : (refreshTokens (κ := HttpResponse)).run.All Calling := by
  refine .tryBind (.lift ⟨trivial, fun _ => trivial⟩) fun refreshToken => ?_
  cases refreshToken with
  | none => trivial
  | some raw =>
      refine .tryBind (send_calling.bind fun _ => trivial) fun response => ?_
      split
      · trivial
      · split
        · trivial
        · split
          · trivial
          · trivial
          · exact .tryBind ⟨trivial, fun _ => trivial⟩ fun _ => trivial

theorem sendAuthenticated_calling :
    (sendAuthenticated (κ := HttpResponse) route).run.All Calling := by
  refine .tryBind (.lift ⟨trivial, fun _ => trivial⟩) fun token => ?_
  refine .tryBind send_calling fun response => ?_
  split
  · refine .tryBind (.lift (refreshTokens_calling.bind fun result => ?_)) fun fresh => ?_
    · cases result <;> trivial
    · split
      · refine .tryBind (.lift ⟨trivial, fun _ => trivial⟩) fun token => ?_
        exact send_calling
      · trivial
  · trivial

end Guards

section Runs

variable {labels : List SharingLabel} {state state' : Sharing} {task : Nat × Nat}
  {request : ClientRequest HttpResponse} {response : request.Response}
  {start pool : Pool SharingSig (Nat × Nat) Sharing}

/-- Every copy of the credentials has a refresh token. -/
structure Equipped (state : Sharing) : Prop where
  file : state.file.refreshToken ≠ none
  memory : ∀ client credentials, state.memory client = some credentials →
    credentials.refreshToken ≠ none

theorem Equipped.update {client : Nat} {credentials : Credentials} (h : Equipped state)
    (hcredentials : credentials.refreshToken ≠ none) (client' : Nat) (credentials' : Credentials)
    (hmem : Function.update state.memory client (some credentials) client' = some credentials') :
    credentials'.refreshToken ≠ none := by
  by_cases hclient : client' = client
  · rw [hclient, Function.update_self] at hmem
    rwa [← Option.some.inj hmem]
  · rw [Function.update_of_ne hclient] at hmem
    exact h.memory client' credentials' hmem

theorem Equipped.perform (h : Equipped state)
    (hperform : sharingPerform task request response state = some state') : Equipped state' := by
  cases request with
  | authToken | refreshToken =>
      obtain ⟨-, hstate⟩ := Option.ite_none_right_eq_some.mp hperform
      rwa [← Option.some.inj hstate]
  | storeTokens token raw =>
      cases response with
      | ok saved =>
          obtain rfl := Option.some.inj hperform
          exact ⟨by simp, h.update (by simp)⟩
      | error error =>
          obtain rfl := Option.some.inj hperform
          exact ⟨h.file, h.update (by simp)⟩
  | send request =>
      cases response with
      | error error =>
          obtain ⟨-, hstate⟩ := Option.ite_none_left_eq_some.mp hperform
          rwa [← Option.some.inj hstate]
      | ok response =>
          obtain ⟨-, hserved⟩ := Option.ite_none_right_eq_some.mp hperform
          obtain ⟨issuer, -, rfl⟩ := Option.map_eq_some_iff.mp hserved
          exact ⟨h.file, h.memory⟩
  | receive ticket =>
      cases response with
      | error error =>
          obtain ⟨-, hstate⟩ := Option.ite_none_left_eq_some.mp hperform
          rwa [← Option.some.inj hstate]
      | ok response =>
          obtain ⟨-, hstate⟩ := Option.ite_none_right_eq_some.mp hperform
          rwa [← Option.some.inj hstate]
  | answered result =>
      obtain rfl := Option.some.inj hperform
      exact h
  | applyDevices | shareFeatures | ticked => cases hperform

theorem Equipped.event {event : SharingEvent}
    {started : Option ((Nat × Nat) × ClientProg HttpResponse Unit)} (h : Equipped state)
    (hevent : sharingEvent event state = some (state', started)) : Equipped state' := by
  cases event with
  | create client =>
      simp only [sharingEvent] at hevent
      split at hevent
      · cases hevent
      · obtain ⟨rfl, -⟩ := Prod.mk.inj (Option.some.inj hevent)
        exact ⟨h.file, h.update h.file⟩
  | call client number route =>
      obtain ⟨-, hstate⟩ := Option.ite_none_right_eq_some.mp hevent
      obtain ⟨rfl, -⟩ := Prod.mk.inj (Option.some.inj hstate)
      exact h
  | expire | serverTurns | networkTurns =>
      obtain ⟨rfl, -⟩ := Prod.mk.inj (Option.some.inj hevent)
      exact ⟨h.file, h.memory⟩

theorem SharingRun.equipped (h : SharingRun start labels pool) (hstart : Equipped start.state) :
    Equipped pool.state := by
  induction h with
  | nil => exact hstart
  | snoc hbefore hcond hstep ih =>
      rename_i middle last labels label
      cases label with
      | event event =>
          obtain ⟨_, _, hevent, hpool⟩ := World.step_event hstep
          rcases hpool with ⟨-, rfl⟩ | ⟨_, _, -, -, rfl⟩ <;> exact ih.event hevent
      | call task request response =>
          obtain ⟨_, _, -, hperform, rfl⟩ := World.step_call hstep
          exact ih.perform hperform

theorem Paired.equipped (h : Paired start) : Equipped start.state := by
  obtain ⟨raw, -, hraw⟩ := h.stored
  exact ⟨by simp [hraw], by simp [h.memory]⟩

theorem perform_answers (hperform : sharingPerform task request response state = some state') :
    SharingAnswer ⟨request, response⟩ := by
  cases request with
  | send request =>
      rintro response rfl refresh rfl hstatus
      obtain ⟨-, hserved⟩ := Option.ite_none_right_eq_some.mp hperform
      obtain ⟨issuer, hserve, -⟩ := Option.map_eq_some_iff.mp hserved
      rcases Issuer.serve_refresh hserve with
        ⟨body, token, newRaw, -, -, hbody, htoken, hraw, -⟩ | ⟨hrefused, -, -⟩
      · exact ⟨body, token, newRaw, hbody, htoken, hraw⟩
      · rw [hrefused] at hstatus
        cases hstatus
  | receive ticket =>
      rintro response rfl
      exact (Option.ite_none_right_eq_some.mp hperform).1.2
  | _ => trivial

theorem SharingRun.answers (h : SharingRun start labels pool) (task : Nat × Nat) :
    ∀ exchange ∈ trace task labels, SharingAnswer exchange := by
  intro exchange hmem
  obtain ⟨before, after, htrace⟩ := List.mem_iff_append.mp hmem
  obtain ⟨_, _, _, _, -, -, -, -, hstep, -⟩ := World.Run.split_trace h htrace
  obtain ⟨_, _, -, hperform, -⟩ := World.step_call hstep
  exact perform_answers hperform

theorem sharingEvent_starts {event : SharingEvent} {first : ClientProg HttpResponse Unit}
    (hevent : sharingEvent event state = some (state', some (task, first))) :
    ∃ route, event = .call task.1 task.2 route ∧ clientRoute route = true ∧
      first = authenticatedCall route := by
  cases event with
  | create client =>
      simp only [sharingEvent] at hevent
      split at hevent
      · cases hevent
      · cases hevent
  | call client number route =>
      obtain ⟨⟨-, hroute⟩, hstate⟩ := Option.ite_none_right_eq_some.mp hevent
      cases hstate
      exact ⟨route, rfl, hroute, rfl⟩
  | expire | serverTurns | networkTurns => cases hevent

theorem SharingRun.asked (h : SharingRun start labels pool)
    (hidle : ∀ task, start.tasks task = none) {pool' : Pool SharingSig (Nat × Nat) Sharing}
    (hstep : sharingWorld.step pool (.call task request response) = some pool') :
    (∃ route, .event (.call task.1 task.2 route) ∈ labels) ∧
      ClientGuard (trace task labels) request := by
  obtain ⟨event, _, _, first, hmem, hevent, hguard⟩ := World.Run.asked h hidle hstep
  obtain ⟨route, rfl, hroute, rfl⟩ := sharingEvent_starts hevent
  exact ⟨⟨route, hmem⟩, hguard _ _ (authenticatedCall_answers hroute) (h.answers task)⟩

theorem mayRefuse_clientRoute {route : ProtectedRoute} (h : clientRoute route = true) :
    mayRefuse route = false := by
  cases route with
  | me | changePassword | totpSetup | totpEnable | totpDisable => cases h
  | createPairingCode | upsertDevice | heartbeatDevice | patchDevice | deleteDevice
  | listDevices => rfl

/-- A step leaves its call without tokens just when it is not a smooth one. -/
theorem locks_iff (hequipped : Equipped state)
    (hguard : ClientGuard (trace task labels) request)
    (hperform : sharingPerform task request response state = some state') :
    Locks (trace task labels) ⟨request, response⟩ ↔
      ¬Smooth labels state (.call task request response) := by
  cases request with
  | refreshToken =>
      obtain ⟨hread, -⟩ := Option.ite_none_right_eq_some.mp hperform
      obtain ⟨credentials, hmem, rfl⟩ := Option.map_eq_some_iff.mp hread
      exact iff_of_false (hequipped.memory task.1 credentials hmem) fun hnot => hnot trivial
  | storeTokens token raw => exact Iff.rfl
  | receive ticket =>
      cases response with
      | error error =>
          refine iff_of_true (fun _ => nofun) fun hconnected => ?_
          exact (Option.ite_none_left_eq_some.mp hperform).1 hconnected
      | ok response =>
          have hconnected := (Option.ite_none_right_eq_some.mp hperform).1.1
          exact iff_of_false (fun hlocks => hlocks response rfl) fun hnot => hnot hconnected
  | send request =>
      cases response with
      | error error =>
          have hdown := (Option.ite_none_left_eq_some.mp hperform).1
          cases request with
          | publicly route =>
              obtain ⟨request, rfl⟩ := hguard
              exact iff_of_true nofun fun hsmooth => hdown hsmooth.1
          | protectedly authorization route =>
              exact iff_of_true nofun fun hsmooth => hdown hsmooth.1
      | ok response =>
          obtain ⟨hconnected, hserved⟩ := Option.ite_none_right_eq_some.mp hperform
          obtain ⟨issuer, hserve, -⟩ := Option.map_eq_some_iff.mp hserved
          cases request with
          | publicly route =>
              obtain ⟨request, rfl⟩ := hguard
              rcases Issuer.serve_refresh hserve with
                ⟨_, _, _, hready, hstatus, -, -, -, hrotate⟩ | ⟨hfailed, hdead, -⟩
              · refine iff_of_false (fun hlocks => ?_) fun hnot =>
                  hnot ⟨hconnected, hready, (Issuer.rotate_some hrotate).1⟩
                have hfailed := hlocks response rfl
                rw [hstatus] at hfailed
                cases hfailed
              · refine iff_of_true ?_ fun hsmooth => hdead hsmooth.2.1 hsmooth.2.2
                rintro _ ⟨⟩
                exact hfailed
          | protectedly authorization route =>
              have hanswer := Issuer.serve_unauthorized hserve (mayRefuse_clientRoute hguard)
              have hlocks : Locks (trace task labels)
                  ⟨.send (.protectedly authorization route), .ok response⟩ ↔
                    Refreshing (trace task labels) ∧ response.status = .unauthorized :=
                ⟨fun hlocks => hlocks response rfl, fun hrefused _ heq => by cases heq; exact hrefused⟩
              rw [hlocks, Smooth, not_and, Classical.not_imp]
              simp [hconnected, hanswer]
  | authToken | answered | applyDevices | shareFeatures | ticked =>
      exact iff_of_false (fun hlocks => hlocks) fun hnot => hnot trivial

theorem SharingRun.smooth_iff (h : SharingRun start labels pool) (hstart : Paired start) :
    AllSmooth start labels ↔ ∀ task, ¬LockedOut (trace task labels) := by
  constructor
  · rintro hsmooth task ⟨before, exchange, after, htrace, hlocks⟩
    obtain ⟨earlier, later, middle, _, hlabels, hearlier, hrun, -, hstep, -⟩ :=
      World.Run.split_trace h htrace
    obtain ⟨_, _, -, hperform, -⟩ := World.step_call hstep
    obtain ⟨-, hguard⟩ := SharingRun.asked hrun hstart.tasks hstep
    have hiff := locks_iff (SharingRun.equipped hrun hstart.equipped) hguard hperform
    rw [hearlier] at hiff
    exact hiff.mp hlocks (hsmooth earlier _ later middle hlabels hrun)
  · rintro hkept before label after middle rfl hrun
    by_contra hrough
    cases label with
    | event event => exact hrough trivial
    | call task request response =>
        obtain ⟨middle', _, hrun', -, hstep, -⟩ := World.Run.split_inv h
        obtain rfl := hrun.unique hrun'
        obtain ⟨_, _, -, hperform, -⟩ := World.step_call hstep
        obtain ⟨-, hguard⟩ := SharingRun.asked hrun hstart.tasks hstep
        have hiff := locks_iff (SharingRun.equipped hrun hstart.equipped) hguard hperform
        refine hkept task ⟨trace task before, _, trace task after, ?_, hiff.mpr hrough⟩
        simp [trace, Label.exchange]

theorem SharingRun.answered (h : SharingRun start labels pool) (hstart : Paired start)
    {result : Except String HttpResponse} {log after : SharingLog}
    (htrace : trace task labels = log ++ ⟨.answered result, ()⟩ :: after) :
    after = [] ∧ (LetIn result ↔ ¬LockedOut log) := by
  constructor
  · refine h.ends_at hstart.tasks ?_ htrace (fun hcalling : Calling _ => hcalling)
    intro event state state' task first hevent
    obtain ⟨route, -, -, rfl⟩ := sharingEvent_starts hevent
    exact Prog.ensures_only sendAuthenticated_calling fun result => ⟨.answered result, rfl⟩
  · obtain ⟨earlier, _, _, _, -, hearlier, hrun, -, hstep, -⟩ := World.Run.split_trace h htrace
    obtain ⟨-, hguard⟩ := SharingRun.asked hrun hstart.tasks hstep
    rwa [hearlier] at hguard

/-- No client is locked out just when every request gets through, every refresh and every second
try comes in time to a server that is ready, and new tokens are saved. -/
theorem none_locked_out_iff (hstart : Paired start) (h : SharingRun start labels pool)
    (hdone : AllAnswered labels) : NoneLockedOut labels ↔ AllSmooth start labels := by
  rw [h.smooth_iff hstart]
  constructor
  · intro hnone task hlocked
    obtain ⟨before, exchange, after, htrace, -⟩ := id hlocked
    obtain ⟨earlier, later, _, _, rfl, -, hrun, -, hstep, -⟩ := World.Run.split_trace h htrace
    obtain ⟨⟨route, hcalled⟩, -⟩ := SharingRun.asked hrun hstart.tasks hstep
    obtain ⟨result, hmem⟩ := hdone _ _ route (List.mem_append_left _ hcalled)
    obtain ⟨log, rest, hlog⟩ := List.mem_iff_append.mp (mem_trace.mpr hmem)
    obtain ⟨rfl, hserved⟩ := h.answered hstart hlog
    rw [hlog, lockedOut_snoc] at hlocked
    exact hserved.mp (hnone _ _ hmem) (hlocked.resolve_right fun hlocks => hlocks)
  · intro hkept task result hmem
    obtain ⟨log, rest, hlog⟩ := List.mem_iff_append.mp (mem_trace.mpr hmem)
    obtain ⟨rfl, hserved⟩ := h.answered hstart hlog
    refine hserved.mpr fun hlocked => hkept task ?_
    rw [hlog, lockedOut_snoc]
    exact .inl hlocked

end Runs

section Sample

/-- The file of a device whose tokens work. -/
def pairedPool : Pool SharingSig (Nat × Nat) Sharing where
  state :=
    { issuer := { issued := ["refresh"], live := ["refresh"], accepted := ["access"] }
      readiness := .ready
      connected := true
      file := { authToken := "access", refreshToken := some "refresh" }
      memory := fun _ => none }
  tasks _ := none

theorem paired_pairedPool : Paired pairedPool :=
  ⟨fun _ => rfl, fun _ => rfl, "refresh", List.mem_singleton_self _, rfl⟩

def refusal : HttpResponse := ServerError.unauthorized.intoResponse

/-- The answers of a server that has one new pair of tokens to give. -/
def sharingReply (issuer : Issuer) : HttpRequest → HttpResponse
  | .publicly (.refresh request) =>
      if request.refreshToken ∈ issuer.live then
        json (.auth { token := some "new access", refreshToken := some "new refresh"
                      mfaRequired := false, mfaToken := none })
      else refusal
  | .publicly _ => refusal
  | .protectedly authorization _ =>
      if issuer.accepts authorization then json (.deviceList { devices := [] }) else refusal

def sharingOracle (task : Nat × Nat) (state : Sharing) :
    (request : ClientRequest HttpResponse) → Option request.Response
  | .authToken => (state.memory task.1).map Credentials.authToken
  | .refreshToken => (state.memory task.1).map Credentials.refreshToken
  | .storeTokens _ _ => some (.ok ())
  | .send request => some (.ok (sharingReply state.issuer request))
  | .receive response => some (.ok response)
  | .answered _ | .shareFeatures | .ticked _ => some ()
  | .applyDevices _ _ => some (.ok ())

/-- The results of the calls. -/
def results (labels : List SharingLabel) : List ((Nat × Nat) × Except String HttpResponse) :=
  labels.filterMap fun
    | .call task (.answered result) _ => some (task, result)
    | _ => none

theorem mem_results {labels : List SharingLabel} {task : Nat × Nat}
    {result : Except String HttpResponse} :
    (task, result) ∈ results labels ↔ .call task (.answered result) () ∈ labels := by
  unfold results
  rw [List.mem_filterMap]
  constructor
  · rintro ⟨label, hmem, hlabel⟩
    split at hlabel
    · obtain ⟨rfl, rfl⟩ := Prod.mk.inj (Option.some.inj hlabel)
      exact hmem
    · cases hlabel
  · exact fun hmem => ⟨_, hmem, rfl⟩

/-- Every call of these labels is answered in them. -/
def answersAll (labels : List SharingLabel) : Bool :=
  labels.all fun
    | .event (.call client number _) =>
        (results labels).any fun result => result.1 = (client, number)
    | _ => true

theorem allAnswered_of_check {labels : List SharingLabel} (h : answersAll labels = true) :
    AllAnswered labels := by
  intro client number route hmem
  obtain ⟨⟨task, result⟩, hresult, htask⟩ :=
    List.any_eq_true.mp (List.all_eq_true.mp h _ hmem)
  obtain rfl : task = (client, number) := by simpa using htask
  exact ⟨result, mem_results.mp hresult⟩

/-- Two processes are started, and the access token expires. -/
def sharedStart : List (Move (Nat × Nat) SharingEvent) :=
  [.event (.create 0), .event (.create 1), .event (.expire "access")]

def sharedCall (client length : Nat) : List (Move (Nat × Nat) SharingEvent) :=
  .event (.call client 0 .listDevices) :: List.replicate length (.tick (client, 0))

def sampleShared (script : List (Move (Nat × Nat) SharingEvent)) :
    Option (List SharingLabel × Pool SharingSig (Nat × Nat) Sharing) :=
  sharingWorld.follow (fun _ _ => True) sharingOracle script pairedPool

/-- The first call of a process gets a new pair of tokens. -/
theorem first_refresh_smooth :
    ∃ labels pool, SharingRun pairedPool labels pool ∧ AllAnswered labels ∧
      results labels = [((1, 0), .ok (json (.deviceList { devices := [] })))] ∧
      (NoneLockedOut labels ↔ AllSmooth pairedPool labels) := by
  have hsome : (sampleShared (sharedStart ++ sharedCall 1 11)).any (fun result =>
      answersAll result.1 && decide (results result.1 =
        [((1, 0), .ok (json (.deviceList { devices := [] })))])) = true := by
    decide +kernel
  obtain ⟨⟨labels, pool⟩, hfollow, hend⟩ := (Option.any_eq_true _ _).mp hsome
  obtain ⟨hanswers, hresults⟩ := Bool.and_eq_true_iff.mp hend
  have hrun : SharingRun pairedPool labels pool := World.run_of_follow hfollow
  have hdone := allAnswered_of_check hanswers
  exact ⟨labels, pool, hrun, hdone, of_decide_eq_true hresults,
    none_locked_out_iff paired_pairedPool hrun hdone⟩

/-- The other process keeps its own copy of the old pair, and is locked out by it while the file
has one that works. -/
theorem second_process_locked_out :
    ∃ labels pool, Paired pairedPool ∧ SharingRun pairedPool labels pool ∧ AllAnswered labels ∧
      ¬NoneLockedOut labels ∧
      pool.state.memory 0 = some { authToken := "access", refreshToken := some "refresh" } ∧
      "refresh" ∉ pool.state.issuer.live ∧
      pool.state.file = { authToken := "new access", refreshToken := some "new refresh" } ∧
      "new refresh" ∈ pool.state.issuer.live := by
  have hsome : (sampleShared (sharedStart ++ sharedCall 1 11 ++ sharedCall 0 7)).any
      (fun result => answersAll result.1 && decide (((0, 0), .ok refusal) ∈ results result.1 ∧
        result.2.state.memory 0 =
          some { authToken := "access", refreshToken := some "refresh" } ∧
        "refresh" ∉ result.2.state.issuer.live ∧
        result.2.state.file =
          { authToken := "new access", refreshToken := some "new refresh" } ∧
        "new refresh" ∈ result.2.state.issuer.live)) = true := by
    decide +kernel
  obtain ⟨⟨labels, pool⟩, hfollow, hend⟩ := (Option.any_eq_true _ _).mp hsome
  obtain ⟨hanswers, hfinal⟩ := Bool.and_eq_true_iff.mp hend
  obtain ⟨hrefused, hmemory, hrest⟩ := of_decide_eq_true hfinal
  refine ⟨labels, pool, paired_pairedPool, World.run_of_follow hfollow,
    allAnswered_of_check hanswers, fun hnone => ?_, hmemory, hrest⟩
  obtain ⟨response, hresponse, haccepted⟩ := hnone _ _ (mem_results.mp hrefused)
  cases hresponse
  exact haccepted rfl

end Sample

end Failsafe.Daemon
