import Failsafe.Lib.Ending
import Failsafe.Lib.Within
import Failsafe.Web.Calls

/-!
Calls of the web page that run at the same time on one store of tokens.
-/

namespace Failsafe.Web

open Failsafe.Core Failsafe.Lib Failsafe.Server

/-- Whether the browser reaches the server, and gets what it answers. -/
inductive Link where
  | up
  | down
  -- a request is served, and its response is lost
  | lost (response : HttpResponse)
deriving DecidableEq, Repr

/-- The page beside the server. -/
structure Page where
  store : TokenStore
  issuer : Issuer
  readiness : Readiness
  link : Link
deriving DecidableEq, Repr

inductive PageEvent where
  -- the page makes a call, under a number of its own
  | call (number : Nat) (route : ProtectedRoute)
  | serverTurns (readiness : Readiness)
  | networkTurns (link : Link)

abbrev PageLabel := Label WebSig Nat PageEvent

def Page.serve (page : Page) (request : HttpRequest) (response : HttpResponse) : Option Page :=
  (page.issuer.serve page.readiness request response).map fun issuer => { page with issuer }

def pagePerform : (request : WebRequest) → request.Response → Page → Option Page
  | .getToken, (token : Option String), page =>
      if token = page.store.token then some page else none
  | .getRefreshToken, (refreshToken : Option String), page =>
      if refreshToken = page.store.refreshToken then some page else none
  | .setTokens token refreshToken, _, page =>
      some { page with store := { token := some token, refreshToken := some refreshToken } }
  | .clearToken, _, page => some { page with store := { token := none, refreshToken := none } }
  | .fetch request, .ok response, page =>
      if page.link = .up then page.serve request response else none
  | .fetch request, .error _, page =>
      match page.link with
      | .up => none
      | .down => some page
      | .lost response => page.serve request response
  | .emitUnauthorized, _, page | .returned _, _, page => some page

def pageEvent : PageEvent → Page → Option (Page × Option (Nat × WebProg Unit))
  | .call number route, page => some (page, some (number, callProgram route))
  | .serverTurns readiness, page => some ({ page with readiness }, none)
  | .networkTurns link, page => some ({ page with link }, none)

def pageWorld : World WebSig Nat PageEvent Page where
  perform _ := pagePerform
  event := pageEvent

abbrev PageRun (pool : Pool WebSig Nat Page) (labels : List PageLabel)
    (pool' : Pool WebSig Nat Page) : Prop :=
  pageWorld.Run (fun _ _ => True) pool labels pool'

/-- No call is running, and the refresh token in the store works. -/
structure SignedIn (pool : Pool WebSig Nat Page) : Prop where
  tasks : ∀ number, pool.tasks number = none
  stored : ∃ raw ∈ pool.state.issuer.live, pool.state.store.refreshToken = some raw ∧ raw ≠ ""
  issued : pool.state.issuer.live ⊆ pool.state.issuer.issued

/-- Every call that was started has returned. -/
def AllReturned (labels : List PageLabel) : Prop :=
  ∀ number route, .event (.call number route) ∈ labels →
    ∃ result, .call number (.returned result) () ∈ labels

/-- The session outlives the calls. -/
structure SessionKept (labels : List PageLabel) (page : Page) : Prop where
  kept : ∀ number, .call number .clearToken () ∉ labels
  quiet : ∀ number, .call number .emitUnauthorized () ∉ labels
  valid : (∃ number route, .event (.call number route) ∈ labels) →
    ∃ token ∈ page.issuer.accepted, ∃ raw ∈ page.issuer.live,
      page.store = { token := some token, refreshToken := some raw }

/-- A refresh whose answer arrives comes to a server that is ready while its token works, and one
whose answer is lost is not served; a second try is not refused with a token that is accepted; and
no request ends the other logins. -/
def Gentle (labels : List PageLabel) (page : Page) : PageLabel → Prop
  | .call _ (.fetch (.publicly (.refresh request))) _ =>
      match page.link with
      | .up => page.readiness = .ready ∧ request.refreshToken ∈ page.issuer.live
      | .down => True
      | .lost _ => page.readiness = .ready → request.refreshToken ∉ page.issuer.live
  | .call number (.fetch (.protectedly authorization route)) (.ok response) =>
      page.issuer.accepts authorization = true →
        (Attempted (trace number labels) → response.status ≠ .unauthorized) ∧
          (revokesTokens route = true → response.status.isSuccess = false)
  | .call _ (.fetch (.protectedly authorization route)) (.error _) =>
      ∀ response, page.link = .lost response → page.issuer.accepts authorization = true →
        revokesTokens route = true → response.status.isSuccess = false
  | _ => True

def Undisturbed (start : Pool WebSig Nat Page) (labels : List PageLabel) : Prop :=
  ∀ before label after pool, labels = before ++ label :: after → PageRun start before pool →
    Gentle before pool.state label

/-- A refresh gets through. -/
def Through (start : Pool WebSig Nat Page) (labels : List PageLabel) : Prop :=
  ∃ before number request answer after pool,
    labels = before ++ .call number (.fetch (.publicly (.refresh request))) answer :: after ∧
      PageRun start before pool ∧ pool.state.link = .up

/-- When a call is made, the access token works from the start, or a refresh gets through. -/
def Supplied (start : Pool WebSig Nat Page) (labels : List PageLabel) : Prop :=
  (∃ number route, .event (.call number route) ∈ labels) →
    (∃ token ∈ start.state.issuer.accepted, start.state.store.token = some token) ∨
      Through start labels

section Steps

variable {labels : List PageLabel} {page page' : Page} {number : Nat} {request : WebRequest}
  {response : request.Response}

/-- A refresh token was read from the store. -/
def Read (labels : List PageLabel) (raw : String) : Prop :=
  ∃ number, .call number .getRefreshToken (some raw) ∈ labels

/-- A call was given tokens that it has not stored yet. -/
def Pending (labels : List PageLabel) (number : Nat) (token raw : String) : Prop :=
  Granted (trace number labels) token raw ∧ ¬Stored (trace number labels)

/-- The refresh token that works is in the store, or one call has it. -/
structure RefreshHeld (labels : List PageLabel) (page : Page) : Prop where
  stored : ∃ raw ∈ page.issuer.issued, page.store.refreshToken = some raw ∧ raw ≠ ""
  issued : page.issuer.live ⊆ page.issuer.issued
  read : ∀ raw, Read labels raw → raw ∈ page.issuer.issued
  current : ∀ raw ∈ page.issuer.live, Read labels raw → page.store.refreshToken = some raw
  held : (∃ raw ∈ page.issuer.live, page.store.refreshToken = some raw) ∨
    ∃ number token raw, Pending labels number token raw
  pending : ∀ number token raw, Pending labels number token raw →
    token ∈ page.issuer.accepted ∧ raw ∈ page.issuer.live ∧ token ≠ "" ∧ raw ≠ "" ∧
      (∀ raw' ∈ page.issuer.live, page.store.refreshToken ≠ some raw') ∧
      ∀ number' token' raw', Pending labels number' token' raw' → number' = number

/-- The exchanges that neither bring nor store tokens. -/
def Quiet (exchange : Exchange WebSig) : Prop :=
  (∀ request response, exchange = ⟨.fetch (.publicly (.refresh request)), .ok response⟩ →
    response.status.isSuccess = false) ∧
  ∀ token refreshToken, exchange ≠ ⟨.setTokens token refreshToken, ()⟩

theorem pending_quiet (hquiet : Quiet ⟨request, response⟩) {number' : Nat} {token raw : String} :
    Pending (labels ++ [.call number request response]) number' token raw ↔
      Pending labels number' token raw := by
  unfold Pending
  rcases @trace_snoc_cases _ _ _ _ labels number' number request response with heq | ⟨-, heq⟩
  · rw [heq]
  · rw [heq]
    constructor
    · rintro ⟨hgranted, hstored⟩
      refine ⟨?_, fun h => hstored (h.mono (List.prefix_append _ _))⟩
      rcases granted_snoc hgranted with hold | ⟨_, _, _, hnew, hsuccess, -⟩
      · exact hold
      · rw [hquiet.1 _ _ hnew] at hsuccess
        cases hsuccess
    · rintro ⟨hgranted, hstored⟩
      refine ⟨hgranted.mono (List.prefix_append _ _), fun h => ?_⟩
      rcases stored_snoc h with hold | ⟨_, _, hnew⟩
      · exact hstored hold
      · exact hquiet.2 _ _ hnew

theorem pending_event {event : PageEvent} {number : Nat} {token raw : String} :
    Pending (labels ++ [.event event]) number token raw ↔ Pending labels number token raw := by
  unfold Pending
  rw [trace_snoc_event]

theorem RefreshHeld.frame {labels' : List PageLabel} (h : RefreshHeld labels page)
    (hstore : page'.store.refreshToken = page.store.refreshToken)
    (hissuer : page'.issuer = page.issuer)
    (hread : ∀ raw, Read labels' raw → Read labels raw ∨ page.store.refreshToken = some raw)
    (hpending : ∀ number token raw,
      Pending labels' number token raw ↔ Pending labels number token raw) :
    RefreshHeld labels' page' := by
  constructor
  · rw [hstore, hissuer]
    exact h.stored
  · rw [hissuer]
    exact h.issued
  · intro raw hmem
    rw [hissuer]
    rcases hread raw hmem with hold | hnow
    · exact h.read raw hold
    · obtain ⟨raw', hissued, hraw, -⟩ := h.stored
      rwa [Option.some.inj (hnow.symm.trans hraw)]
  · intro raw hlive hmem
    rw [hstore]
    rw [hissuer] at hlive
    exact (hread raw hmem).elim (h.current raw hlive) id
  · simpa only [hstore, hissuer, hpending] using h.held
  · simpa only [hstore, hissuer, hpending] using h.pending

theorem RefreshHeld.rotate {request : AuthRefreshRequest} {response : HttpResponse}
    {body : AuthResponse} {token newRaw : String} {issuer : Issuer} (h : RefreshHeld labels page)
    (hread : Read labels request.refreshToken) (hstored : ¬Stored (trace number labels))
    (hattempted : ¬Attempted (trace number labels))
    (hstatus : response.status = .ok) (hbody : response.body = .auth body)
    (htoken : body.token = some token) (hnew : body.refreshToken = some newRaw)
    (hrotate : page.issuer.rotate request.refreshToken token newRaw = some issuer) :
    RefreshHeld (labels ++ [.call number (.fetch (.publicly (.refresh request))) (.ok response)])
      { page with issuer } := by
  obtain ⟨hlive, hfresh, htoken', hraw', hissued, hlive', haccepted⟩ := Issuer.rotate_some hrotate
  have hcurrent := h.current _ hlive hread
  have hdead : ∀ raw ∈ issuer.live, page.store.refreshToken ≠ some raw := by
    intro raw hmem heq
    obtain rfl := Option.some.inj (hcurrent.symm.trans heq)
    rw [hlive'] at hmem
    rcases List.mem_cons.mp hmem with rfl | hold
    · exact hfresh (h.issued hlive)
    · simp at hold
  -- nothing else is on its way, for the store has a token that works
  have hnone : ∀ number token raw, ¬Pending labels number token raw := fun _ _ _ hpending =>
    (h.pending _ _ _ hpending).2.2.2.2.1 _ hlive hcurrent
  have hread' : ∀ raw, Read (labels ++ [.call number (.fetch (.publicly (.refresh request)))
      (.ok response)]) raw → Read labels raw := by
    rintro raw ⟨number', hmem⟩
    exact ⟨number', by simpa using hmem⟩
  have hgiven : Pending (labels ++ [.call number (.fetch (.publicly (.refresh request)))
      (.ok response)]) number token newRaw := by
    unfold Pending
    rw [trace_snoc_self]
    refine ⟨⟨request, response, body, by simp, by rw [hstatus]; rfl, hbody,
      htoken, hnew⟩, fun hnow => ?_⟩
    rcases stored_snoc hnow with hold | ⟨_, _, hother⟩
    · exact hstored hold
    · cases hother
  have honly : ∀ number' token' raw', Pending (labels ++ [.call number
      (.fetch (.publicly (.refresh request))) (.ok response)]) number' token' raw' →
      number' = number ∧ token' = token ∧ raw' = newRaw := by
    rintro number' token' raw' ⟨hgranted, hkept⟩
    rcases @trace_snoc_cases _ _ _ _ labels number' number
      (.fetch (.publicly (.refresh request))) (.ok response) with heq | ⟨rfl, heq⟩
    · rw [heq] at hgranted hkept
      exact (hnone _ _ _ ⟨hgranted, hkept⟩).elim
    · rw [heq] at hgranted
      rcases granted_snoc hgranted with hold | ⟨_, _, _, hexchange, -, hbody', htoken', hraw'⟩
      · exact (hattempted hold.attempted).elim
      · cases hexchange
        rw [hbody] at hbody'
        cases hbody'
        exact ⟨rfl, Option.some.inj (htoken'.symm.trans htoken),
          Option.some.inj (hraw'.symm.trans hnew)⟩
  constructor
  · obtain ⟨raw, hmem, hraw, hne⟩ := h.stored
    exact ⟨raw, by simp [hissued, hmem], hraw, hne⟩
  · rw [hissued, hlive']
    exact List.cons_subset_cons _ fun raw hmem => h.issued (List.mem_of_mem_filter hmem)
  · intro raw hmem
    rw [hissued]
    exact List.mem_cons_of_mem _ (h.read raw (hread' raw hmem))
  · intro raw hmem hraw
    have hraw := hread' raw hraw
    refine (hdead raw hmem ?_).elim
    rw [hlive'] at hmem
    rcases List.mem_cons.mp hmem with rfl | hold
    · exact (hfresh (h.read _ hraw)).elim
    · exact h.current raw (List.mem_of_mem_filter hold) hraw
  · exact .inr ⟨number, token, newRaw, hgiven⟩
  · intro number' token' raw' hpending
    obtain ⟨rfl, rfl, rfl⟩ := honly _ _ _ hpending
    refine ⟨by simp [haccepted], by simp [hlive'], htoken', hraw', hdead, ?_⟩
    exact fun _ _ _ hpending' => (honly _ _ _ hpending').1

theorem RefreshHeld.store {token raw : String} (h : RefreshHeld labels page)
    (hpending : Pending labels number token raw) :
    RefreshHeld (labels ++ [.call number (.setTokens token raw) ()])
      { page with store := { token := some token, refreshToken := some raw } } := by
  obtain ⟨-, hlive, -, hne, hdead, honly⟩ := h.pending _ _ _ hpending
  have hread : ∀ raw', Read (labels ++ [.call number (.setTokens token raw) ()]) raw' →
      Read labels raw' := by
    rintro raw' ⟨number', hmem⟩
    exact ⟨number', by simpa using hmem⟩
  have hnone : ∀ number' token' raw',
      ¬Pending (labels ++ [.call number (.setTokens token raw) ()]) number' token' raw' := by
    rintro number' token' raw' ⟨hgranted, hkept⟩
    rcases @trace_snoc_cases _ _ _ _ labels number' number (.setTokens token raw) () with
      heq | ⟨rfl, heq⟩
    · rw [heq] at hgranted hkept
      obtain rfl := honly _ _ _ ⟨hgranted, hkept⟩
      rw [trace_snoc_self] at heq
      simp at heq
    · rw [heq] at hkept
      exact hkept ⟨token, raw, by simp⟩
  constructor
  · exact ⟨raw, h.issued hlive, rfl, hne⟩
  · exact h.issued
  · exact fun raw' hmem => h.read raw' (hread raw' hmem)
  · exact fun raw' hmem hraw => (hdead raw' hmem (h.current raw' hmem (hread raw' hraw))).elim
  · exact .inl ⟨raw, hlive, rfl⟩
  · exact fun _ _ _ hnow => (hnone _ _ _ hnow).elim

/-- A token that the server accepts. -/
def FreshToken (page : Page) (token : Option String) : Prop :=
  ∃ value ∈ page.issuer.accepted, token = some value ∧ value ≠ ""

/-- A call has stored new tokens. -/
def Renewed (labels : List PageLabel) : Prop :=
  ∃ number, Stored (trace number labels)

/-- What is kept as long as nothing disturbs the session. -/
structure Kept (start : Option String) (labels : List PageLabel) (page : Page) : Prop where
  held : RefreshHeld labels page
  unrefused : ∀ number, ¬Refused (trace number labels)
  read : ∀ number refreshToken,
    ⟨.getRefreshToken, refreshToken⟩ ∈ trace number labels → truthy refreshToken ≠ none
  uncleared : ∀ number, ⟨.clearToken, ()⟩ ∉ trace number labels
  unemitted : ∀ number, ⟨.emitUnauthorized, ()⟩ ∉ trace number labels
  token : page.store.token = start ∨ Renewed labels
  renewed : Renewed labels → FreshToken page page.store.token
  again : ∀ number before token after,
    trace number labels = before ++ ⟨.getToken, token⟩ :: after → Stored before →
      FreshToken page token

theorem FreshToken.mono {token : Option String} (h : FreshToken page token)
    (hgrown : page.issuer.accepted ⊆ page'.issuer.accepted) : FreshToken page' token := by
  obtain ⟨value, hmem, hvalue⟩ := h
  exact ⟨value, hgrown hmem, hvalue⟩

theorem bearer_accepted {token : Option String} {issuer : Issuer} :
    issuer.accepts (bearer token) = true ↔
      ∃ value ∈ issuer.accepted, token = some value ∧ value ≠ "" := by
  rw [Issuer.accepts_iff]
  refine exists_congr fun value => and_congr_right fun _ => ?_
  constructor
  · intro hstripped
    cases htoken : truthy token with
    | none =>
        rw [bearer, htoken] at hstripped
        cases hstripped
    | some text =>
        rw [bearer, htoken] at hstripped
        obtain ⟨rfl, hne⟩ := truthy_some htoken
        have htext : some text = some value := (stripPrefix_append "Bearer " text).symm.trans hstripped
        obtain rfl := Option.some.inj htext
        exact ⟨rfl, hne⟩
  · rintro ⟨rfl, hne⟩
    rw [bearer, truthy_of_ne hne]
    exact stripPrefix_append "Bearer " value

theorem serve_some {request : HttpRequest} {response : HttpResponse}
    (h : page.serve request response = some page') :
    ∃ issuer, page.issuer.serve page.readiness request response = some issuer ∧
      page' = { page with issuer } := by
  obtain ⟨issuer, hserve, hpage⟩ := Option.map_eq_some_iff.mp h
  exact ⟨issuer, hserve, hpage.symm⟩

theorem perform_fetch {request : HttpRequest} {answer : Except String HttpResponse}
    (hperform : pagePerform (.fetch request) answer page = some page') :
    (∃ response, answer = .ok response ∧ page.link = .up ∧
      page.serve request response = some page') ∨
    ∃ error, answer = .error error ∧ (page.link = .down ∧ page' = page ∨
      ∃ response, page.link = .lost response ∧ page.serve request response = some page') := by
  cases answer with
  | ok response =>
      obtain ⟨hlink, hserve⟩ := Option.ite_none_right_eq_some.mp hperform
      exact .inl ⟨response, rfl, hlink, hserve⟩
  | error error =>
      refine .inr ⟨error, rfl, ?_⟩
      cases hlink : page.link with
      | up => simp [pagePerform, hlink] at hperform
      | down => exact .inl ⟨rfl, by simpa [pagePerform, hlink, eq_comm] using hperform⟩
      | lost response => exact .inr ⟨response, rfl, by simpa [pagePerform, hlink] using hperform⟩

theorem perform_ok {request : HttpRequest} {response : HttpResponse}
    (hperform : pagePerform (.fetch request) (.ok response) page = some page') :
    page.link = .up ∧ ∃ issuer, page.issuer.serve page.readiness request response = some issuer ∧
      page' = { page with issuer } := by
  obtain ⟨hlink, hserve⟩ := Option.ite_none_right_eq_some.mp hperform
  exact ⟨hlink, serve_some hserve⟩

theorem perform_served {request : HttpRequest} {answer : Except String HttpResponse}
    (hperform : pagePerform (.fetch request) answer page = some page') :
    page' = page ∨ ∃ response issuer,
      page.issuer.serve page.readiness request response = some issuer ∧
        page' = { page with issuer } := by
  rcases perform_fetch hperform with
    ⟨response, -, -, hserve⟩ | ⟨_, -, ⟨-, hsame⟩ | ⟨response, -, hserve⟩⟩
  · exact .inr ⟨response, serve_some hserve⟩
  · exact .inl hsame
  · exact .inr ⟨response, serve_some hserve⟩

theorem serve_accepted {issuer issuer' : Issuer} {readiness : Readiness} {request : HttpRequest}
    {response : HttpResponse} (h : issuer.serve readiness request response = some issuer') :
    issuer.accepted ⊆ issuer'.accepted := by
  cases request with
  | publicly route =>
      obtain ⟨request, rfl⟩ := Issuer.serve_publicly h
      rcases Issuer.serve_refresh h with ⟨_, token, _, _, _, _, _, _, hrotate⟩ | ⟨-, -, rfl⟩
      · rw [(Issuer.rotate_some hrotate).2.2.2.2.2.2]
        exact List.subset_cons_self _ _
      · exact List.Subset.refl _
  | protectedly authorization route =>
      rcases (Issuer.serve_protectedly h).2 with rfl | ⟨-, -, -, rfl⟩
      · exact List.Subset.refl _
      · exact List.Subset.refl _

theorem accepted_grows (hperform : pagePerform request response page = some page') :
    page.issuer.accepted ⊆ page'.issuer.accepted := by
  cases request with
  | getToken | getRefreshToken =>
      obtain ⟨-, hpage⟩ := Option.ite_none_right_eq_some.mp hperform
      obtain rfl := Option.some.inj hpage
      exact List.Subset.refl _
  | setTokens | clearToken | emitUnauthorized | returned =>
      obtain rfl := Option.some.inj hperform
      exact List.Subset.refl _
  | fetch request =>
      rcases perform_served hperform with rfl | ⟨response, issuer, hserve, rfl⟩
      · exact List.Subset.refl _
      · exact serve_accepted hserve

theorem Renewed.mono {labels' : List PageLabel} (h : Renewed labels) :
    Renewed (labels ++ labels') := by
  obtain ⟨number, hstored⟩ := h
  refine ⟨number, hstored.mono ?_⟩
  rw [trace_append]
  exact List.prefix_append _ _

theorem renewed_snoc (h : Renewed (labels ++ [.call number request response])) :
    Renewed labels ∨ ∃ token refreshToken, request = .setTokens token refreshToken := by
  obtain ⟨number', hstored⟩ := h
  rcases @trace_snoc_cases _ _ _ _ labels number' number request response with heq | ⟨-, heq⟩
  · rw [heq] at hstored
    exact .inl ⟨number', hstored⟩
  · rw [heq] at hstored
    rcases stored_snoc hstored with hold | ⟨token, refreshToken, hnew⟩
    · exact .inl ⟨number', hold⟩
    · exact .inr ⟨token, refreshToken, congrArg Exchange.request hnew⟩

theorem mem_trace_snoc {number' : Nat} {exchange : Exchange WebSig}
    (h : exchange ∈ trace number' (labels ++ [(.call number request response : PageLabel)])) :
    exchange ∈ trace number' labels ∨ number' = number ∧ exchange = ⟨request, response⟩ := by
  rcases @trace_snoc_cases _ _ _ _ labels number' number request response with heq | ⟨rfl, heq⟩
  · rw [heq] at h
    exact .inl h
  · rw [heq] at h
    exact (List.mem_append.mp h).imp_right fun hnew => ⟨rfl, List.mem_singleton.mp hnew⟩

theorem perform_store (hperform : pagePerform request response page = some page') :
    (page'.store = page.store ∧ ∀ token raw, request ≠ .setTokens token raw) ∨
      request = .clearToken ∨ ∃ token raw, request = .setTokens token raw ∧
        page'.store = { token := some token, refreshToken := some raw } := by
  cases request with
  | getToken | getRefreshToken =>
      obtain ⟨-, hpage⟩ := Option.ite_none_right_eq_some.mp hperform
      obtain rfl := Option.some.inj hpage
      exact .inl ⟨rfl, by simp⟩
  | setTokens token raw =>
      obtain rfl := Option.some.inj hperform
      exact .inr (.inr ⟨token, raw, rfl, rfl⟩)
  | clearToken => exact .inr (.inl rfl)
  | emitUnauthorized | returned =>
      obtain rfl := Option.some.inj hperform
      exact .inl ⟨rfl, by simp⟩
  | fetch request =>
      rcases perform_served hperform with rfl | ⟨response, issuer, -, rfl⟩
      · exact .inl ⟨rfl, by simp⟩
      · exact .inl ⟨rfl, by simp⟩

theorem read_snoc {raw : String} (hother : request ≠ .getRefreshToken)
    (h : Read (labels ++ [.call number request response]) raw) : Read labels raw := by
  obtain ⟨number', hmem⟩ := h
  rcases List.mem_append.mp hmem with hold | hnew
  · exact ⟨number', hold⟩
  · cases List.mem_singleton.mp hnew
    exact (hother rfl).elim

theorem Kept.not_cleared {start : Option String} (h : Kept start labels page)
    (hclean : Clean (trace number labels)) : ¬CallGuard (trace number labels) .clearToken := by
  intro hguard
  rcases hguard hclean with hrefused | ⟨refreshToken, hnone, hmem⟩
  · exact h.unrefused number hrefused
  · exact h.read number refreshToken hmem hnone

section Step

variable {start : Option String} (h : Kept start labels page)
  (hclean : Clean (trace number labels)) (hguard : CallGuard (trace number labels) request)
  (hgentle : Gentle labels page (.call number request response))
  (hperform : pagePerform request response page = some page')

include h in
theorem Kept.held_quiet (hquiet : Quiet ⟨request, response⟩) (hread : request ≠ .getRefreshToken)
    (hstore : page'.store = page.store) (hissuer : page'.issuer = page.issuer) :
    RefreshHeld (labels ++ [.call number request response]) page' :=
  h.held.frame (by rw [hstore]) hissuer (fun _ hmem => .inl (read_snoc hread hmem))
    fun _ _ _ => pending_quiet hquiet

include h hclean hguard hgentle hperform in
theorem Kept.held_step : RefreshHeld (labels ++ [.call number request response]) page' := by
  cases request with
  | getToken =>
      obtain ⟨-, hpage⟩ := Option.ite_none_right_eq_some.mp hperform
      obtain rfl := Option.some.inj hpage
      exact h.held_quiet (by simp [Quiet]) (by simp) rfl rfl
  | getRefreshToken =>
      obtain ⟨hread, hpage⟩ := Option.ite_none_right_eq_some.mp hperform
      obtain rfl := Option.some.inj hpage
      refine h.held.frame rfl rfl ?_ fun _ _ _ => pending_quiet (by simp [Quiet])
      rintro raw ⟨number', hmem⟩
      rcases List.mem_append.mp hmem with hold | hnew
      · exact .inl ⟨number', hold⟩
      · cases List.mem_singleton.mp hnew
        exact .inr hread.symm
  | setTokens token raw =>
      obtain rfl := Option.some.inj hperform
      exact h.held.store hguard
  | clearToken => exact (h.not_cleared hclean hguard).elim
  | emitUnauthorized => exact (h.uncleared number hguard).elim
  | returned result =>
      obtain rfl := Option.some.inj hperform
      exact h.held_quiet (by simp [Quiet]) (by simp) rfl rfl
  | fetch request =>
      have hunheard (error : String) : Quiet ⟨.fetch request, .error error⟩ := by simp [Quiet]
      rcases perform_fetch hperform with
        ⟨response, rfl, hlink, hpage⟩ | ⟨error, rfl, ⟨-, rfl⟩ | ⟨response, hlink, hpage⟩⟩
      · obtain ⟨issuer, hserve, rfl⟩ := serve_some hpage
        cases request with
        | publicly route =>
            obtain ⟨refreshToken, rfl, hread, hattempted, hstored⟩ := hguard
            simp only [Gentle, hlink] at hgentle
            rcases Issuer.serve_refresh hserve with
              ⟨body, token, newRaw, -, hstatus, hbody, htoken, hraw, hrotate⟩ | ⟨-, hdead, -⟩
            · exact h.held.rotate ⟨number, mem_trace.mp hread⟩ hstored hattempted hstatus hbody
                htoken hraw hrotate
            · exact (hdead hgentle.1 hgentle.2).elim
        | protectedly authorization route =>
            obtain ⟨-, rfl | ⟨haccepted, hrevokes, hsuccess, -⟩⟩ :=
              Issuer.serve_protectedly hserve
            · exact h.held_quiet (by simp [Quiet]) (by simp) rfl rfl
            · rw [(hgentle haccepted).2 hrevokes] at hsuccess
              cases hsuccess
      · exact h.held_quiet (hunheard error) (by simp) rfl rfl
      · -- the answer is lost, and the server has not changed
        obtain ⟨issuer, hserve, rfl⟩ := serve_some hpage
        refine h.held_quiet (hunheard error) (by simp) rfl ?_
        cases request with
        | publicly route =>
            obtain ⟨refreshToken, rfl, -⟩ := hguard
            simp only [Gentle, hlink] at hgentle
            rcases Issuer.serve_refresh hserve with ⟨_, _, _, hready, -, -, -, -, hrotate⟩ |
              ⟨-, -, hsame⟩
            · exact (hgentle hready (Issuer.rotate_some hrotate).1).elim
            · exact hsame
        | protectedly authorization route =>
            rcases (Issuer.serve_protectedly hserve).2 with hsame |
              ⟨haccepted, hrevokes, hsuccess, -⟩
            · exact hsame
            · rw [hgentle response hlink haccepted hrevokes] at hsuccess
              cases hsuccess

include h hguard hgentle hperform in
theorem Kept.unrefused_step (number' : Nat) :
    ¬Refused (trace number' (labels ++ [(.call number request response : PageLabel)])) := by
  intro hrefused
  rcases @trace_snoc_cases _ _ _ _ labels number' number request response with heq | ⟨rfl, heq⟩
  · rw [heq] at hrefused
    exact h.unrefused number' hrefused
  · rw [heq] at hrefused
    rcases refused_snoc hrefused with hold | ⟨refresh, answer, hnew, hfail⟩ |
      ⟨authorization, route, answer, hnew, hattempted, hstatus⟩
    · exact h.unrefused _ hold
    · cases hnew
      obtain ⟨hlink, issuer, hserve, -⟩ := perform_ok hperform
      simp only [Gentle, hlink] at hgentle
      rcases Issuer.serve_refresh hserve with ⟨_, _, _, -, hok, -⟩ | ⟨-, hdead, -⟩
      · rw [hok] at hfail
        cases hfail
      · exact hdead hgentle.1 hgentle.2
    · cases hnew
      obtain ⟨before, token, hlog, rfl, hstored⟩ := hguard
      have hbefore : Attempted before := by
        obtain ⟨refresh, answer, hmem⟩ := hattempted
        rw [hlog] at hmem
        exact ⟨refresh, answer, by simpa using hmem⟩
      -- the second try has a token of the store, where this call has put a new one
      have hfresh := h.again _ before token [] hlog (hstored hbefore)
      exact (hgentle (bearer_accepted.mpr hfresh)).1 hattempted hstatus

include h hperform in
theorem Kept.read_step (number' : Nat) (refreshToken : Option String)
    (hmem : ⟨.getRefreshToken, refreshToken⟩ ∈
      trace number' (labels ++ [(.call number request response : PageLabel)])) :
    truthy refreshToken ≠ none := by
  rcases mem_trace_snoc hmem with hold | ⟨-, hnew⟩
  · exact h.read number' refreshToken hold
  · cases hnew
    obtain ⟨rfl, -⟩ := Option.ite_none_right_eq_some.mp hperform
    obtain ⟨raw, -, hraw, hne⟩ := h.held.stored
    rw [hraw, truthy_of_ne hne]
    simp

include h hclean hguard in
theorem Kept.uncleared_step (number' : Nat) :
    ⟨.clearToken, ()⟩ ∉ trace number' (labels ++ [(.call number request response : PageLabel)]) := by
  intro hmem
  rcases mem_trace_snoc hmem with hold | ⟨-, hnew⟩
  · exact h.uncleared number' hold
  · cases hnew
    exact h.not_cleared hclean hguard

include h hguard in
theorem Kept.unemitted_step (number' : Nat) :
    ⟨.emitUnauthorized, ()⟩ ∉
      trace number' (labels ++ [(.call number request response : PageLabel)]) := by
  intro hmem
  rcases mem_trace_snoc hmem with hold | ⟨-, hnew⟩
  · exact h.unemitted number' hold
  · cases hnew
    exact h.uncleared number hguard

include h hclean hguard hperform in
theorem Kept.store_step : page'.store.token = page.store.token ∧
      (Renewed (labels ++ [.call number request response]) → Renewed labels) ∨
    Renewed (labels ++ [.call number request response]) ∧ FreshToken page' page'.store.token := by
  have hgrown := accepted_grows hperform
  rcases perform_store hperform with ⟨hstore, hother⟩ | rfl | ⟨token, raw, rfl, hstore⟩
  · refine .inl ⟨by rw [hstore], fun hrenewed => ?_⟩
    rcases renewed_snoc hrenewed with hold | ⟨token, raw, hset⟩
    · exact hold
    · exact (hother token raw hset).elim
  · exact (h.not_cleared hclean hguard).elim
  · obtain ⟨hmem, -, hne, -⟩ := h.held.pending _ _ _ hguard
    refine .inr ⟨⟨number, token, raw, ?_⟩, ?_⟩
    · rw [trace_snoc_self]
      exact List.mem_append_right _ (List.mem_singleton_self _)
    · rw [hstore]
      exact ⟨token, hgrown hmem, rfl, hne⟩

include h hclean hguard hgentle hperform in
theorem Kept.step : Kept start (labels ++ [.call number request response]) page' := by
  have hgrown := accepted_grows hperform
  have hstore := h.store_step hclean hguard hperform
  have hrenewed : Renewed (labels ++ [.call number request response]) →
      FreshToken page' page'.store.token := by
    intro hrenewed
    rcases hstore with ⟨htoken, hback⟩ | ⟨-, hfresh⟩
    · rw [htoken]
      exact (h.renewed (hback hrenewed)).mono hgrown
    · exact hfresh
  constructor
  · exact h.held_step hclean hguard hgentle hperform
  · exact h.unrefused_step hguard hgentle hperform
  · exact h.read_step hperform
  · exact h.uncleared_step hclean hguard
  · exact h.unemitted_step hguard
  · rcases hstore with ⟨htoken, -⟩ | ⟨hnew, -⟩
    · rw [htoken]
      exact h.token.imp_right Renewed.mono
    · exact .inr hnew
  · exact hrenewed
  · intro number' before token after hsplit hstored
    rcases @trace_snoc_cases _ _ _ _ labels number' number request response with heq | ⟨rfl, heq⟩
    · rw [heq] at hsplit
      exact (h.again number' before token after hsplit hstored).mono hgrown
    · rw [heq] at hsplit
      rcases concat_eq_split hsplit with ⟨rfl, hnew⟩ | ⟨middle, hold⟩
      · cases hnew
        obtain ⟨rfl, hpage⟩ := Option.ite_none_right_eq_some.mp hperform
        exact (h.renewed ⟨_, hstored⟩).mono hgrown
      · exact (h.again _ before token middle hold hstored).mono hgrown

end Step

theorem Gentle.accepted (hgentle : Gentle labels page (.call number request response))
    (hguard : CallGuard (trace number labels) request)
    (hnot : ∀ refresh, request = .fetch (.publicly (.refresh refresh)) → page.link ≠ .up)
    (hperform : pagePerform request response page = some page') :
    page'.issuer.accepted = page.issuer.accepted := by
  cases request with
  | getToken | getRefreshToken =>
      obtain ⟨-, hpage⟩ := Option.ite_none_right_eq_some.mp hperform
      obtain rfl := Option.some.inj hpage
      rfl
  | setTokens | clearToken | emitUnauthorized | returned =>
      obtain rfl := Option.some.inj hperform
      rfl
  | fetch request =>
      rcases perform_served hperform with rfl | ⟨answer, issuer, hserve, rfl⟩
      · rfl
      · cases request with
        | publicly route =>
            obtain ⟨refreshToken, rfl, -⟩ := hguard
            rcases Issuer.serve_refresh hserve with
              ⟨_, _, _, hready, -, -, -, -, hrotate⟩ | ⟨-, -, rfl⟩
            · cases hlink : page.link with
              | up => exact absurd hlink (hnot _ rfl)
              | down =>
                  rcases perform_fetch hperform with
                    ⟨_, -, hup, -⟩ | ⟨_, -, ⟨-, hsame⟩ | ⟨_, hlost, -⟩⟩
                  · cases hlink.symm.trans hup
                  · exact congrArg (fun page => page.issuer.accepted) hsame
                  · cases hlink.symm.trans hlost
              | lost =>
                  simp only [Gentle, hlink] at hgentle
                  exact absurd (Issuer.rotate_some hrotate).1 (hgentle hready)
            · rfl
        | protectedly authorization route =>
            rcases (Issuer.serve_protectedly hserve).2 with rfl | ⟨-, -, -, rfl⟩
            · rfl
            · rfl

theorem Kept.event {start : Option String} {event : PageEvent} (h : Kept start labels page)
    (hstore : page'.store = page.store) (hissuer : page'.issuer = page.issuer) :
    Kept start (labels ++ [.event event]) page' := by
  have hrenewed : Renewed (labels ++ [.event event]) ↔ Renewed labels := by
    simp only [Renewed, trace_snoc_event]
  have hfresh : ∀ token, FreshToken page token → FreshToken page' token := fun token h =>
    h.mono (by rw [hissuer]; exact List.Subset.refl _)
  constructor
  · refine h.held.frame (by rw [hstore]) hissuer ?_ fun _ _ _ => pending_event
    rintro raw ⟨number, hmem⟩
    exact .inl ⟨number, by simpa using hmem⟩
  · simpa only [trace_snoc_event] using h.unrefused
  · simpa only [trace_snoc_event] using h.read
  · simpa only [trace_snoc_event] using h.uncleared
  · simpa only [trace_snoc_event] using h.unemitted
  · simpa only [hrenewed, hstore] using h.token
  · rw [hrenewed, hstore]
    exact fun hold => hfresh _ (h.renewed hold)
  · intro number before token after hsplit hstored
    rw [trace_snoc_event] at hsplit
    exact hfresh _ (h.again number before token after hsplit hstored)

/-- No refresh token that works can come to the page any more. -/
structure Cut (labels : List PageLabel) (page : Page) : Prop where
  stored : ∀ raw, page.store.refreshToken = some raw → raw ∉ page.issuer.live
  read : ∀ raw, Read labels raw → raw ∉ page.issuer.live
  pending : ∀ number token raw, Pending labels number token raw → raw ∉ page.issuer.live

theorem Cut.of_dead (h : page.issuer.live = []) : Cut labels page := by
  constructor <;> simp [h]

theorem Cut.event {event : PageEvent} (h : Cut labels page)
    (hstore : page'.store = page.store) (hissuer : page'.issuer = page.issuer) :
    Cut (labels ++ [.event event]) page' := by
  constructor
  · rw [hstore, hissuer]
    exact h.stored
  · rintro raw ⟨number, hmem⟩
    rw [hissuer]
    exact h.read raw ⟨number, by simpa using hmem⟩
  · intro number token raw hpending
    rw [hissuer]
    exact h.pending number token raw (pending_event.mp hpending)

theorem Cut.quiet (h : Cut labels page) (hquiet : Quiet ⟨request, response⟩)
    (hread : request ≠ .getRefreshToken)
    (hstore : page'.store = page.store ∨ page'.store.refreshToken = none)
    (hissuer : page'.issuer.live ⊆ page.issuer.live) :
    Cut (labels ++ [.call number request response]) page' := by
  constructor
  · intro raw hraw hlive
    rcases hstore with hsame | hnone
    · rw [hsame] at hraw
      exact h.stored raw hraw (hissuer hlive)
    · cases hnone.symm.trans hraw
  · exact fun raw hmem hlive => h.read raw (read_snoc hread hmem) (hissuer hlive)
  · exact fun number' token raw hpending hlive =>
      h.pending number' token raw ((pending_quiet hquiet).mp hpending) (hissuer hlive)

theorem Cut.step (h : Cut labels page) (hguard : CallGuard (trace number labels) request)
    (hperform : pagePerform request response page = some page') :
    Cut (labels ++ [.call number request response]) page' := by
  cases request with
  | getToken =>
      obtain ⟨-, hpage⟩ := Option.ite_none_right_eq_some.mp hperform
      obtain rfl := Option.some.inj hpage
      exact h.quiet (by simp [Quiet]) (by simp) (.inl rfl) (List.Subset.refl _)
  | getRefreshToken =>
      obtain ⟨hread, hpage⟩ := Option.ite_none_right_eq_some.mp hperform
      obtain rfl := Option.some.inj hpage
      refine ⟨h.stored, ?_, fun number' token raw hpending => ?_⟩
      · rintro raw ⟨number', hmem⟩
        rcases List.mem_append.mp hmem with hold | hnew
        · exact h.read raw ⟨number', hold⟩
        · cases List.mem_singleton.mp hnew
          exact h.stored raw hread.symm
      · exact h.pending number' token raw ((pending_quiet (by simp [Quiet])).mp hpending)
  | setTokens token raw =>
      obtain rfl := Option.some.inj hperform
      have hdead := h.pending number token raw hguard
      refine ⟨?_, fun raw' hmem => h.read raw' (read_snoc (by simp) hmem), ?_⟩
      · rintro _ ⟨⟩
        exact hdead
      · rintro number' token' raw' ⟨hgranted, hstored⟩
        rcases @trace_snoc_cases _ _ _ _ labels number' number (.setTokens token raw) () with
          heq | ⟨rfl, heq⟩
        · rw [heq] at hgranted hstored
          exact h.pending number' token' raw' ⟨hgranted, hstored⟩
        · rw [heq] at hstored
          exact absurd ⟨token, raw, by simp⟩ hstored
  | clearToken =>
      obtain rfl := Option.some.inj hperform
      exact h.quiet (by simp [Quiet]) (by simp) (.inr rfl) (List.Subset.refl _)
  | emitUnauthorized | returned =>
      obtain rfl := Option.some.inj hperform
      exact h.quiet (by simp [Quiet]) (by simp) (.inl rfl) (List.Subset.refl _)
  | fetch request =>
      -- a refresh of a token that was read is not served
      have hserved : ∀ response issuer,
          page.issuer.serve page.readiness request response = some issuer →
            issuer.live ⊆ page.issuer.live ∧ ∀ refresh, request = .publicly (.refresh refresh) →
              response.status.isSuccess = false := by
        intro response issuer hserve
        cases request with
        | publicly route =>
            obtain ⟨refreshToken, rfl, hread, -⟩ := hguard
            rcases Issuer.serve_refresh hserve with ⟨_, _, _, -, -, -, -, -, hrotate⟩ |
              ⟨hfailed, -, rfl⟩
            · exact absurd (Issuer.rotate_some hrotate).1
                (h.read _ ⟨number, mem_trace.mp hread⟩)
            · exact ⟨List.Subset.refl _, fun _ _ => hfailed⟩
        | protectedly authorization route =>
            refine ⟨?_, fun _ h => by cases h⟩
            rcases (Issuer.serve_protectedly hserve).2 with rfl | ⟨-, -, -, rfl⟩
            · exact List.Subset.refl _
            · exact List.nil_subset _
      rcases perform_fetch hperform with
        ⟨response, rfl, -, hpage⟩ | ⟨error, rfl, ⟨-, rfl⟩ | ⟨response, -, hpage⟩⟩
      · obtain ⟨issuer, hserve, rfl⟩ := serve_some hpage
        obtain ⟨hlive, hfailed⟩ := hserved response issuer hserve
        refine h.quiet ⟨?_, by simp⟩ (by simp) (.inl rfl) hlive
        rintro refresh _ ⟨⟩
        exact hfailed refresh rfl
      · exact h.quiet (by simp [Quiet]) (by simp) (.inl rfl) (List.Subset.refl _)
      · obtain ⟨issuer, hserve, rfl⟩ := serve_some hpage
        exact h.quiet (by simp [Quiet]) (by simp) (.inl rfl) (hserved response issuer hserve).1

/-- A refresh that is served while its answer is lost cuts the page off. -/
theorem Kept.cut {start : Option String} {request : AuthRefreshRequest}
    {error token newRaw : String}
    {issuer : Issuer} (h : Kept start labels page) (hread : Read labels request.refreshToken)
    (hrotate : page.issuer.rotate request.refreshToken token newRaw = some issuer) :
    Cut (labels ++ [.call number (.fetch (.publicly (.refresh request))) (.error error)])
      { page with issuer } := by
  obtain ⟨hlive, hnew, -, -, -, hlive', -⟩ := Issuer.rotate_some hrotate
  have hcurrent := h.held.current _ hlive hread
  have hfresh : ∀ raw ∈ page.issuer.issued, raw ∈ issuer.live →
      raw ∈ page.issuer.live ∧ raw ≠ request.refreshToken := by
    intro raw hissued hmem
    rw [hlive'] at hmem
    rcases List.mem_cons.mp hmem with rfl | hold
    · exact absurd hissued hnew
    · simpa using hold
  constructor
  · intro raw hraw hmem
    obtain rfl := Option.some.inj (hcurrent.symm.trans hraw)
    exact (hfresh _ (h.held.issued hlive) hmem).2 rfl
  · intro raw hmem hnow
    have hold := read_snoc (by simp) hmem
    obtain ⟨hraw, hother⟩ := hfresh raw (h.held.read raw hold) hnow
    exact hother (Option.some.inj ((h.held.current raw hraw hold).symm.trans hcurrent))
  · intro number' token' raw hpending _
    have hold := (pending_quiet (by simp [Quiet])).mp hpending
    exact (h.held.pending _ _ _ hold).2.2.2.2.1 _ hlive hcurrent

end Steps

section Runs

variable {start pool : Pool WebSig Nat Page} {labels : List PageLabel} {number : Nat}

theorem SignedIn.kept (h : SignedIn start) : Kept start.state.store.token [] start.state := by
  obtain ⟨raw, hlive, hraw, hne⟩ := h.stored
  constructor
  · constructor
    · exact ⟨raw, h.issued hlive, hraw, hne⟩
    · exact h.issued
    · simp [Read]
    · simp [Read]
    · exact .inl ⟨raw, hlive, hraw⟩
    · simp [Pending, Granted, trace]
  · exact fun number hrefused => by simpa [trace, Attempted] using hrefused.attempted
  · simp [trace]
  · simp [trace]
  · simp [trace]
  · exact .inl rfl
  · simp [Renewed, Stored, trace]
  · simp [trace]

theorem PageRun.clean (h : PageRun start labels pool) (number : Nat) :
    Clean (trace number labels) := by
  induction h with
  | nil => simp [Clean, trace]
  | snoc hbefore hcond hstep ih =>
      rename_i middle last labels label
      cases label with
      | event event => rwa [trace_snoc_event]
      | call number' request response =>
          obtain ⟨_, page, -, hperform, -⟩ := World.step_call hstep
          intro request' answer hmem hstatus
          rcases mem_trace_snoc hmem with hold | ⟨-, hnew⟩
          · exact ih request' answer hold hstatus
          · cases hnew
            obtain ⟨-, issuer, hserve, -⟩ := perform_ok hperform
            rcases Issuer.serve_refresh hserve with
              ⟨body, token, newRaw, -, -, hbody, htoken, hraw, hrotate⟩ | ⟨hrefused, -, -⟩
            · obtain ⟨-, -, hne, hne', -⟩ := Issuer.rotate_some hrotate
              exact ⟨body, token, newRaw, hbody, htoken, hraw, hne, hne'⟩
            · rw [hrefused] at hstatus
              cases hstatus

theorem pageEvent_starts {event : PageEvent} {page page' : Page} {first : WebProg Unit}
    (hevent : pageEvent event page = some (page', some (number, first))) :
    ∃ route, event = .call number route ∧ first = callProgram route := by
  cases event with
  | call number' route =>
      obtain ⟨-, hstarted⟩ := Prod.mk.inj (Option.some.inj hevent)
      obtain ⟨rfl, rfl⟩ := Prod.mk.inj (Option.some.inj hstarted)
      exact ⟨route, rfl, rfl⟩
  | serverTurns | networkTurns =>
      obtain ⟨-, hnone⟩ := Prod.mk.inj (Option.some.inj hevent)
      cases hnone

theorem pageEvent_same {event : PageEvent} {page page' : Page}
    {started : Option (Nat × WebProg Unit)}
    (hevent : pageEvent event page = some (page', started)) :
    page'.store = page.store ∧ page'.issuer = page.issuer := by
  cases event with
  | call | serverTurns | networkTurns =>
      obtain ⟨rfl, -⟩ := Prod.mk.inj (Option.some.inj hevent)
      exact ⟨rfl, rfl⟩

theorem PageRun.asked (h : PageRun start labels pool) (hidle : ∀ number, start.tasks number = none)
    {request : WebRequest} {response : request.Response} {pool' : Pool WebSig Nat Page}
    (hstep : pageWorld.step pool (.call number request response) = some pool') :
    (∃ route, .event (.call number route) ∈ labels) ∧ CallGuard (trace number labels) request := by
  obtain ⟨event, _, _, first, hmem, hevent, hguard⟩ := World.Run.asked h hidle hstep
  obtain ⟨route, rfl, rfl⟩ := pageEvent_starts hevent
  exact ⟨⟨route, hmem⟩, hguard _ _ callProgram_ensures⟩

theorem Undisturbed.before {label : PageLabel} (h : Undisturbed start (labels ++ [label])) :
    Undisturbed start labels := by
  rintro before label' after middle rfl hrun
  exact h before label' (after ++ [label]) middle (by simp) hrun

theorem PageRun.kept (h : PageRun start labels pool) (hstart : SignedIn start)
    (hcalm : Undisturbed start labels) : Kept start.state.store.token labels pool.state := by
  induction h with
  | nil => exact hstart.kept
  | snoc hbefore hcond hstep ih =>
      rename_i middle last labels label
      have hkept := ih hcalm.before
      have hgentle := hcalm labels label [] middle rfl hbefore
      cases label with
      | event event =>
          obtain ⟨_, _, hevent, hpool⟩ := World.step_event hstep
          obtain ⟨hstore, hissuer⟩ := pageEvent_same hevent
          rcases hpool with ⟨-, rfl⟩ | ⟨_, _, -, -, rfl⟩ <;> exact hkept.event hstore hissuer
      | call number request response =>
          obtain ⟨_, page, -, hperform, rfl⟩ := World.step_call hstep
          obtain ⟨-, hguard⟩ := PageRun.asked hbefore hstart.tasks hstep
          exact hkept.step (PageRun.clean hbefore number) hguard hgentle hperform

theorem PageRun.returned (h : PageRun start labels pool)
    (hidle : ∀ number, start.tasks number = none) (hdone : AllReturned labels)
    {route : ProtectedRoute} (hcalled : .event (.call number route) ∈ labels) :
    ∃ log result, trace number labels = log ++ [⟨.returned result, ()⟩] ∧
      (⟨.clearToken, ()⟩ ∈ log ∨ ¬Refused log) ∧ Secured log := by
  obtain ⟨result, hmem⟩ := hdone number route hcalled
  obtain ⟨log, after, htrace⟩ := List.mem_iff_append.mp (mem_trace.mpr hmem)
  have hafter : after = [] := by
    refine World.Run.ends_at h hidle ?_ htrace (fun hworking : Working _ => hworking)
    intro event page page' number first hevent
    obtain ⟨route, -, rfl⟩ := pageEvent_starts hevent
    exact Prog.ensures_only authFetch_working fun result => ⟨.returned result, rfl⟩
  refine ⟨log, result, by rw [htrace, hafter], ?_⟩
  obtain ⟨earlier, _, _, _, -, hearlier, hrun, -, hstep, -⟩ := World.Run.split_trace h htrace
  obtain ⟨-, hguard⟩ := PageRun.asked hrun hidle hstep
  have hclean := PageRun.clean hrun number
  rw [hearlier] at hguard hclean
  exact hguard hclean

theorem PageRun.called (h : PageRun start labels pool)
    (hidle : ∀ number, start.tasks number = none) {exchange : Exchange WebSig}
    (hmem : exchange ∈ trace number labels) : ∃ route, .event (.call number route) ∈ labels := by
  obtain ⟨before, after, htrace⟩ := List.mem_iff_append.mp hmem
  obtain ⟨earlier, later, _, _, rfl, -, hrun, -, hstep, -⟩ := World.Run.split_trace h htrace
  obtain ⟨⟨route, hcalled⟩, -⟩ := PageRun.asked hrun hidle hstep
  exact ⟨route, List.mem_append_left _ hcalled⟩

theorem PageRun.refused_clears (h : PageRun start labels pool)
    (hidle : ∀ number, start.tasks number = none) (hdone : AllReturned labels)
    (hrefused : Refused (trace number labels)) : .call number .clearToken () ∈ labels := by
  obtain ⟨request, response, hmem⟩ := hrefused.attempted
  obtain ⟨route, hcalled⟩ := h.called hidle hmem
  obtain ⟨log, result, htrace, hcleared | hkept, -⟩ := h.returned hidle hdone hcalled
  · refine mem_trace.mp ?_
    rw [htrace]
    exact List.mem_append_left _ hcleared
  · rw [htrace] at hrefused
    exact absurd hrefused (not_refused_snoc hkept (by simp) (by simp))

theorem PageRun.secured (h : PageRun start labels pool)
    (hidle : ∀ number, start.tasks number = none) (hdone : AllReturned labels) (number : Nat) :
    Secured (trace number labels) := by
  intro token raw hgranted
  obtain ⟨request, response, hmem⟩ := hgranted.attempted
  obtain ⟨route, hcalled⟩ := h.called hidle hmem
  obtain ⟨log, result, htrace, -, hsecured⟩ := h.returned hidle hdone hcalled
  rw [htrace] at hgranted ⊢
  exact (hsecured.snoc (by simp)) token raw hgranted

theorem PageRun.cut {before after : List PageLabel} {middle : Pool WebSig Nat Page}
    (h : PageRun start before middle) (hidle : ∀ number, start.tasks number = none)
    (hcut : Cut before middle.state) (hafter : PageRun middle after pool) :
    Cut (before ++ after) pool.state := by
  induction hafter with
  | nil => simpa using hcut
  | snoc hrest hcond hstep ih =>
      rename_i middle' last labels label
      rw [← List.append_assoc]
      cases label with
      | event event =>
          obtain ⟨_, _, hevent, hpool⟩ := World.step_event hstep
          obtain ⟨hstore, hissuer⟩ := pageEvent_same hevent
          rcases hpool with ⟨-, rfl⟩ | ⟨_, _, -, -, rfl⟩ <;> exact ih.event hstore hissuer
      | call number request response =>
          obtain ⟨_, page, -, hperform, rfl⟩ := World.step_call hstep
          obtain ⟨-, hguard⟩ := PageRun.asked (h.append hrest) hidle hstep
          exact ih.step hguard hperform

theorem SessionKept.not_cut (h : SessionKept labels pool.state)
    (hcalled : ∃ number route, .event (.call number route) ∈ labels) : ¬Cut labels pool.state := by
  intro hcut
  obtain ⟨token, -, raw, hlive, hstore⟩ := h.valid hcalled
  exact hcut.stored raw (by rw [hstore]) hlive

theorem Undisturbed.snoc {label : PageLabel} (h : Undisturbed start labels)
    (hgentle : ∀ pool, PageRun start labels pool → Gentle labels pool.state label) :
    Undisturbed start (labels ++ [label]) := by
  intro before label' after middle hsplit hrun
  rcases concat_eq_split hsplit with ⟨rfl, rfl⟩ | ⟨between, rfl⟩
  · exact hgentle middle hrun
  · exact h before label' between middle rfl hrun

theorem PageRun.gentle {before after : List PageLabel} {label : PageLabel}
    {middle : Pool WebSig Nat Page} (hstart : SignedIn start)
    (h : PageRun start (before ++ label :: after) pool)
    (hdone : AllReturned (before ++ label :: after))
    (hkept : SessionKept (before ++ label :: after) pool.state)
    (hcalm : Undisturbed start before) (hbefore : PageRun start before middle) :
    Gentle before middle.state label := by
  have hrefused : ∀ number, ¬Refused (trace number (before ++ label :: after)) :=
    fun number hrefused => hkept.kept number (h.refused_clears hstart.tasks hdone hrefused)
  obtain ⟨middle', last, hbefore', -, hstep, hafter⟩ := World.Run.split_inv h
  obtain rfl := hbefore.unique hbefore'
  have hfirst : PageRun start (before ++ [label]) last := .snoc hbefore trivial hstep
  cases label with
  | event event => trivial
  | call number request response =>
      obtain ⟨_, page, -, hperform, rfl⟩ := World.step_call hstep
      obtain ⟨⟨route', hcalled⟩, hguard⟩ := PageRun.asked hbefore hstart.tasks hstep
      have huncut : ¬Cut (before ++ [.call number request response]) page := by
        intro hcut
        have hend := PageRun.cut hfirst hstart.tasks hcut hafter
        rw [List.append_assoc] at hend
        exact hkept.not_cut ⟨number, route', List.mem_append_left _ hcalled⟩ hend
      have hin : (⟨request, response⟩ : Exchange WebSig) ∈ trace number
          (before ++ .call number request response :: after) := mem_trace.mpr (by simp)
      cases request with
      | getToken | getRefreshToken | setTokens | clearToken | emitUnauthorized | returned => trivial
      | fetch request =>
          rcases perform_fetch hperform with
            ⟨response, rfl, hlink, hpage⟩ | ⟨error, rfl, ⟨hlink, -⟩ | ⟨response, hlink, hpage⟩⟩
          · obtain ⟨issuer, hserve, rfl⟩ := serve_some hpage
            cases request with
            | publicly route =>
                obtain ⟨refreshToken, rfl, -⟩ := hguard
                simp only [Gentle, hlink]
                rcases Issuer.serve_refresh hserve with
                  ⟨_, _, _, hready, _, _, _, _, hrotate⟩ | ⟨hfailed, -, -⟩
                · exact ⟨hready, (Issuer.rotate_some hrotate).1⟩
                · exact absurd (.inl ⟨_, response, hin, hfailed⟩) (hrefused number)
            | protectedly authorization route =>
                refine fun haccepted => ⟨fun hattempted hstatus => ?_, fun hrevokes => ?_⟩
                · refine hrefused number (.inr ⟨trace number before, trace number after,
                    authorization, route, response, ?_, hattempted, hstatus⟩)
                  simp [trace, Label.exchange]
                · by_contra hsuccess
                  refine huncut (.of_dead ?_)
                  exact congrArg Issuer.live
                    (Issuer.serve_revokes hserve haccepted hrevokes (by simpa using hsuccess))
          · cases request with
            | publicly route =>
                obtain ⟨refreshToken, rfl, -⟩ := hguard
                simp [Gentle, hlink]
            | protectedly authorization route =>
                intro response hlost
                cases hlink.symm.trans hlost
          · obtain ⟨issuer, hserve, rfl⟩ := serve_some hpage
            cases request with
            | publicly route =>
                obtain ⟨refreshToken, rfl, hread, -⟩ := hguard
                simp only [Gentle, hlink]
                intro hready hlive
                rcases Issuer.serve_refresh hserve with
                  ⟨_, _, _, -, _, _, _, _, hrotate⟩ | ⟨-, hdead, -⟩
                · refine huncut (Kept.cut (hbefore.kept hstart hcalm) ?_ hrotate)
                  exact ⟨number, mem_trace.mp hread⟩
                · exact hdead hready hlive
            | protectedly authorization route =>
                intro response' hlost haccepted hrevokes
                obtain rfl := Link.lost.inj (hlink.symm.trans hlost)
                by_contra hsuccess
                refine huncut (.of_dead ?_)
                exact congrArg Issuer.live
                  (Issuer.serve_revokes hserve haccepted hrevokes (by simpa using hsuccess))

theorem PageRun.undisturbed (hstart : SignedIn start) (h : PageRun start labels pool)
    (hdone : AllReturned labels) (hkept : SessionKept labels pool.state) :
    Undisturbed start labels := by
  have hprefix : ∀ before after, labels = before ++ after → Undisturbed start before := by
    intro before
    induction before using List.reverseRecOn with
    | nil =>
        rintro after - earlier label later middle hsplit
        simp at hsplit
    | append_singleton before label ih =>
        rintro after rfl
        have hcalm := ih (label :: after) (by simp)
        refine hcalm.snoc fun middle hbefore => ?_
        rw [List.append_assoc, List.singleton_append] at h hdone hkept
        exact PageRun.gentle hstart h hdone hkept hcalm hbefore
  exact hprefix labels [] (by simp)

theorem PageRun.accepted (h : PageRun start labels pool) (hstart : SignedIn start)
    (hcalm : Undisturbed start labels) :
    pool.state.issuer.accepted = start.state.issuer.accepted ∨ Through start labels := by
  induction h with
  | nil => exact .inl rfl
  | snoc hbefore hcond hstep ih =>
      rename_i middle last labels label
      have hlater : Through start labels → Through start (labels ++ [label]) := by
        rintro ⟨before, number, request, answer, after, pool, rfl, hrun, hlink⟩
        exact ⟨before, number, request, answer, after ++ [label], pool, by simp, hrun, hlink⟩
      have hold := (ih hcalm.before).imp_right hlater
      have hgentle := hcalm labels label [] middle rfl hbefore
      cases label with
      | event event =>
          obtain ⟨_, _, hevent, hpool⟩ := World.step_event hstep
          obtain ⟨-, hissuer⟩ := pageEvent_same hevent
          rcases hpool with ⟨-, rfl⟩ | ⟨_, _, -, -, rfl⟩ <;> rwa [← hissuer] at hold
      | call number request response =>
          obtain ⟨_, page, -, hperform, rfl⟩ := World.step_call hstep
          obtain ⟨-, hguard⟩ := PageRun.asked hbefore hstart.tasks hstep
          refine hold.elim (fun hsame => ?_) .inr
          by_cases hthrough : ∃ refresh, request = .fetch (.publicly (.refresh refresh)) ∧
              middle.state.link = .up
          · obtain ⟨refresh, rfl, hlink⟩ := hthrough
            exact .inr ⟨labels, number, refresh, response, [], middle, rfl, hbefore, hlink⟩
          · refine .inl (Eq.trans ?_ hsame)
            exact hgentle.accepted hguard (fun refresh hrefresh hlink =>
              hthrough ⟨refresh, hrefresh, hlink⟩) hperform

theorem PageRun.accepted_grows (h : PageRun start labels pool) :
    start.state.issuer.accepted ⊆ pool.state.issuer.accepted := by
  refine World.Run.state_inv (I := fun page : Page =>
    start.state.issuer.accepted ⊆ page.issuer.accepted) h (List.Subset.refl _) ?_ ?_
  · intro _ _ _ page page' hgrown hperform
    exact List.Subset.trans hgrown (Web.accepted_grows hperform)
  · intro event page page' started hgrown hevent
    rwa [(pageEvent_same hevent).2]

theorem PageRun.through (h : PageRun start labels pool)
    (hidle : ∀ number, start.tasks number = none) (hrenewed : Renewed labels) :
    Through start labels := by
  obtain ⟨number, token, raw, hmem⟩ := hrenewed
  obtain ⟨before, after, htrace⟩ := List.mem_iff_append.mp hmem
  obtain ⟨earlier, later, middle, _, rfl, -, hrun, -, hstep, -⟩ := World.Run.split_trace h htrace
  obtain ⟨-, ⟨request, response, _, hgiven, -⟩, -⟩ := PageRun.asked hrun hidle hstep
  obtain ⟨before', after', htrace'⟩ := List.mem_iff_append.mp hgiven
  obtain ⟨first, rest, pool₁, _, rfl, -, hfirst, -, hfetch, -⟩ := World.Run.split_trace hrun htrace'
  obtain ⟨_, _, -, hperform, -⟩ := World.step_call hfetch
  exact ⟨first, number, request, .ok response,
    rest ++ .call number (.setTokens token raw) () :: later, pool₁, by simp, hfirst,
    (perform_ok hperform).1⟩

theorem PageRun.renewed (h : PageRun start labels pool) (hcalm : Undisturbed start labels)
    (hsecured : ∀ number, Secured (trace number labels)) (hthrough : Through start labels) :
    Renewed labels := by
  obtain ⟨before, number, request, answer, after, middle, rfl, hbefore, hlink⟩ := hthrough
  have hgentle := hcalm before _ after middle rfl hbefore
  obtain ⟨middle', _, hbefore', -, hstep, -⟩ := World.Run.split_inv h
  obtain rfl := hbefore.unique hbefore'
  obtain ⟨_, page, -, hperform, -⟩ := World.step_call hstep
  simp only [Gentle, hlink] at hgentle
  rcases perform_fetch hperform with
    ⟨response, rfl, -, hpage⟩ | ⟨_, -, ⟨hdown, -⟩ | ⟨_, hlost, -⟩⟩
  · obtain ⟨issuer, hserve, -⟩ := serve_some hpage
    rcases Issuer.serve_refresh hserve with
      ⟨body, token, raw, -, hstatus, hbody, htoken, hraw, -⟩ | ⟨-, hdead, -⟩
    · refine ⟨number, hsecured number token raw ⟨request, response, body, ?_, ?_, hbody, htoken,
        hraw⟩⟩
      · exact mem_trace.mpr (by simp)
      · rw [hstatus]
        rfl
    · exact absurd hgentle.2 (hdead hgentle.1)
  · cases hlink.symm.trans hdown
  · cases hlink.symm.trans hlost

/-- The calls keep the session just when nothing disturbs it, and it has or gets an access token
that works. -/
theorem session_kept_iff (hstart : SignedIn start) (h : PageRun start labels pool)
    (hdone : AllReturned labels) :
    SessionKept labels pool.state ↔ Undisturbed start labels ∧ Supplied start labels := by
  constructor
  · intro hkept
    have hcalm := PageRun.undisturbed hstart h hdone hkept
    refine ⟨hcalm, fun hcalled => ?_⟩
    obtain ⟨token, haccepted, raw, -, hstore⟩ := hkept.valid hcalled
    rcases h.accepted hstart hcalm with hsame | hthrough
    · rcases (h.kept hstart hcalm).token with htoken | hrenewed
      · refine .inl ⟨token, hsame ▸ haccepted, ?_⟩
        rw [← htoken, hstore]
      · exact .inr (h.through hstart.tasks hrenewed)
    · exact .inr hthrough
  · rintro ⟨hcalm, hsupplied⟩
    have hkept := h.kept hstart hcalm
    have hsecured := fun number => h.secured hstart.tasks hdone number
    constructor
    · exact fun number hmem => hkept.uncleared number (mem_trace.mpr hmem)
    · exact fun number hmem => hkept.unemitted number (mem_trace.mpr hmem)
    · intro hcalled
      have hfresh : ∃ token ∈ pool.state.issuer.accepted, pool.state.store.token = some token := by
        have hrenewed : Renewed labels →
            ∃ token ∈ pool.state.issuer.accepted, pool.state.store.token = some token := by
          intro hrenewed
          obtain ⟨token, haccepted, htoken, -⟩ := hkept.renewed hrenewed
          exact ⟨token, haccepted, htoken⟩
        rcases hsupplied hcalled with ⟨token, haccepted, htoken⟩ | hthrough
        · rcases hkept.token with hsame | hnew
          · exact ⟨token, h.accepted_grows haccepted, hsame.trans htoken⟩
          · exact hrenewed hnew
        · exact hrenewed (h.renewed hcalm hsecured hthrough)
      obtain ⟨token, haccepted, htoken⟩ := hfresh
      rcases hkept.held.held with ⟨raw, hlive, hraw⟩ | ⟨number', token', raw, hgranted, hpending⟩
      · refine ⟨token, haccepted, raw, hlive, ?_⟩
        rw [← htoken, ← hraw]
      · exact absurd (hsecured number' token' raw hgranted) hpending

end Runs

section Sample

/-- The access token has expired, and the refresh token works. -/
def expiredPage : Pool WebSig Nat Page where
  state :=
    { store := { token := some "access", refreshToken := some "refresh" }
      issuer := { issued := ["refresh"], live := ["refresh"], accepted := [] }
      readiness := .ready
      link := .up }
  tasks _ := none

theorem signedIn_expiredPage : SignedIn expiredPage where
  tasks _ := rfl
  stored := ⟨"refresh", List.mem_singleton_self _, rfl, by decide⟩
  issued := List.Subset.refl _

def unauthorized : HttpResponse := ServerError.unauthorized.intoResponse

/-- The answers of the server, which has one new pair of tokens to give. -/
def sampleAnswer (issuer : Issuer) : HttpRequest → HttpResponse
  | .publicly (.refresh request) =>
      if request.refreshToken ∈ issuer.live then
        json (.auth { token := some "new access", refreshToken := some "new refresh"
                      mfaRequired := false, mfaToken := none })
      else unauthorized
  | .publicly _ => unauthorized
  | .protectedly authorization _ =>
      if issuer.accepts authorization then json (.deviceList { devices := [] })
      else unauthorized

def sampleOracle (_ : Nat) (page : Page) : (request : WebRequest) → Option request.Response
  | .getToken => some page.store.token
  | .getRefreshToken => some page.store.refreshToken
  | .setTokens _ _ | .clearToken | .emitUnauthorized | .returned _ => some ()
  | .fetch request => some (.ok (sampleAnswer page.issuer request))

/-- Every call of these labels returns in them. -/
def returnsAll (labels : List PageLabel) : Bool :=
  labels.all fun
    | .event (.call number _) => labels.any fun
        | .call number' (.returned _) _ => number' = number
        | _ => false
    | _ => true

theorem allReturned_of_check {labels : List PageLabel} (h : returnsAll labels = true) :
    AllReturned labels := by
  intro number route hmem
  obtain ⟨label, hlabel, hreturned⟩ := List.any_eq_true.mp (List.all_eq_true.mp h _ hmem)
  split at hreturned
  · rename_i number' result _
    obtain rfl : number' = number := by simpa using hreturned
    exact ⟨result, hlabel⟩
  · cases hreturned

def samplePage (script : List (Move Nat PageEvent)) :
    Option (List PageLabel × Pool WebSig Nat Page) :=
  pageWorld.follow (fun _ _ => True) sampleOracle script expiredPage

/-- The access token of a lone call has expired. -/
theorem lone_call_keeps :
    ∃ labels pool, PageRun expiredPage labels pool ∧ AllReturned labels ∧
      pool.state.store = { token := some "new access", refreshToken := some "new refresh" } ∧
      (SessionKept labels pool.state ↔
        Undisturbed expiredPage labels ∧ Supplied expiredPage labels) := by
  have hsome : (samplePage (.event (.call 0 .listDevices) :: List.replicate 8 (.tick 0))).any
      (fun result => returnsAll result.1 && result.2.state.store ==
        { token := some "new access", refreshToken := some "new refresh" }) = true := by
    decide +kernel
  obtain ⟨⟨labels, pool⟩, hfollow, hend⟩ := (Option.any_eq_true _ _).mp hsome
  obtain ⟨hreturns, hstore⟩ := Bool.and_eq_true_iff.mp hend
  have hrun : PageRun expiredPage labels pool := World.run_of_follow hfollow
  have hdone := allReturned_of_check hreturns
  exact ⟨labels, pool, hrun, hdone, eq_of_beq hstore,
    session_kept_iff signedIn_expiredPage hrun hdone⟩

/-- Two calls have read one refresh token, and the second to come to the server clears the
tokens that the first one has stored. -/
theorem second_refresh_clears :
    ∃ labels pool, SignedIn expiredPage ∧ expiredPage.state.issuer.accepted = [] ∧
      PageRun expiredPage labels pool ∧ AllReturned labels ∧
      ¬SessionKept labels pool.state := by
  have hsome : (samplePage
      (.event (.call 0 .listDevices) :: .event (.call 1 .me) :: List.replicate 2 (.tick 0) ++
        List.replicate 2 (.tick 1) ++ .tick 0 :: .tick 1 :: List.replicate 5 (.tick 0) ++
        List.replicate 4 (.tick 1))).any
      (fun result => returnsAll result.1 && result.2.state.store ==
        { token := none, refreshToken := none }) = true := by
    decide +kernel
  obtain ⟨⟨labels, pool⟩, hfollow, hend⟩ := (Option.any_eq_true _ _).mp hsome
  obtain ⟨hreturns, hstore⟩ := Bool.and_eq_true_iff.mp hend
  refine ⟨labels, pool, signedIn_expiredPage, rfl, World.run_of_follow hfollow,
    allReturned_of_check hreturns, fun hkept => ?_⟩
  have hcalled : .event (.call 0 .listDevices) ∈ labels :=
    World.event_of_follow hfollow List.mem_cons_self
  obtain ⟨token, -, raw, -, hvalid⟩ := hkept.valid ⟨0, _, hcalled⟩
  rw [eq_of_beq hstore] at hvalid
  cases hvalid

end Sample

end Failsafe.Web
