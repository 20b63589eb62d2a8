import Failsafe.Lib.Split
import Failsafe.Server.App

/-!
The rate limiter and its middleware (`rate_limit.rs`).
-/

namespace Failsafe.Server

open Failsafe.Core Failsafe.Lib

structure RateLimiter where
  maxRequests : Nat
  window : Nat
deriving DecidableEq, Repr

/-- The history of each key. -/
abbrev Histories := String → List Nat

/-- A call of `allow`, with the time that it reads. -/
structure AllowCall where
  key : String
  now : Nat
deriving DecidableEq, Repr

structure AllowAnswer where
  call : AllowCall
  allowed : Bool
deriving DecidableEq, Repr

namespace RateLimiter

variable (limiter : RateLimiter)

/-- What `retain` keeps. -/
def recent (now instant : Nat) : Bool := decide (now - instant < limiter.window)

def allow (key : String) (now : Nat) (entries : Histories) : Bool × Histories :=
  let history := (entries key).filter (limiter.recent now)
  if limiter.maxRequests ≤ history.length then (false, Function.update entries key history)
  else (true, Function.update entries key (history ++ [now]))

def step (state : Histories × List AllowAnswer) (call : AllowCall) :
    Histories × List AllowAnswer :=
  let (allowed, entries) := limiter.allow call.key call.now state.1
  (entries, state.2 ++ [{ call, allowed }])

/-- The calls in their order, from an empty limiter on. -/
def run (calls : List AllowCall) : Histories × List AllowAnswer :=
  calls.foldl limiter.step (fun _ => [], [])

def entries (calls : List AllowCall) : Histories := (limiter.run calls).1

def answers (calls : List AllowCall) : List AllowAnswer := (limiter.run calls).2

end RateLimiter

/-- The times at which the calls of a key were allowed. -/
def allowedTimes (key : String) (answers : List AllowAnswer) : List Nat :=
  (answers.filter fun answer => answer.call.key = key ∧ answer.allowed).map (·.call.now)

/-- No window has more allowed calls of a key than the limit, a call is turned away only when
the window that ends with it is full, and the calls of other keys have no influence. -/
structure ExactWindow (limiter : RateLimiter) (calls : List AllowCall) : Prop where
  atMost : ∀ key start, ((allowedTimes key (limiter.answers calls)).countP fun time =>
    start ≤ time ∧ time < start + limiter.window) ≤ limiter.maxRequests
  atMost' : ∀ key start, ((allowedTimes key (limiter.answers calls)).countP fun time =>
    start < time ∧ time ≤ start + limiter.window) ≤ limiter.maxRequests
  full : ∀ earlier later call, limiter.answers calls = earlier ++ ⟨call, false⟩ :: later →
    ((allowedTimes call.key earlier).countP fun time =>
      call.now < time + limiter.window ∧ time ≤ call.now) = limiter.maxRequests
  independent : ∀ key, (limiter.answers calls).filter (fun answer => answer.call.key = key) =
    limiter.answers (calls.filter fun call => call.key = key)

section Window

variable {limiter : RateLimiter} {calls : List AllowCall} {call : AllowCall} {key : String}

theorem allow_of_ne (h : call.key ≠ key) (entries : Histories) :
    (limiter.allow call.key call.now entries).2 key = entries key := by
  unfold RateLimiter.allow
  dsimp only
  split <;> exact Function.update_of_ne (Ne.symm h) _ _

theorem allow_congr {entries entries' : Histories} (h : entries key = entries' key)
    (now : Nat) :
    (limiter.allow key now entries).1 = (limiter.allow key now entries').1 ∧
      (limiter.allow key now entries).2 key = (limiter.allow key now entries').2 key := by
  unfold RateLimiter.allow
  rw [h]
  dsimp only
  split <;> simp

theorem entries_snoc : limiter.entries (calls ++ [call]) =
    (limiter.allow call.key call.now (limiter.entries calls)).2 := by
  simp [RateLimiter.entries, RateLimiter.run, RateLimiter.step]

theorem answers_snoc : limiter.answers (calls ++ [call]) = limiter.answers calls ++
    [⟨call, (limiter.allow call.key call.now (limiter.entries calls)).1⟩] := by
  simp [RateLimiter.answers, RateLimiter.entries, RateLimiter.run, RateLimiter.step]

theorem allowedTimes_snoc (answers : List AllowAnswer) (answer : AllowAnswer) :
    allowedTimes key (answers ++ [answer]) = allowedTimes key answers ++
      if answer.call.key = key ∧ answer.allowed then [answer.call.now] else [] := by
  unfold allowedTimes
  rw [List.filter_append, List.map_append]
  congr 1
  split
  · rename_i h
    simp [h]
  · rename_i h
    simp only [List.filter_cons, List.filter_nil]
    rw [if_neg (by simpa using h)]
    rfl

theorem answers_filter : limiter.entries calls key =
      limiter.entries (calls.filter fun call => call.key = key) key ∧
    (limiter.answers calls).filter (fun answer => answer.call.key = key) =
      limiter.answers (calls.filter fun call => call.key = key) := by
  induction calls using List.reverseRecOn with
  | nil => exact ⟨rfl, rfl⟩
  | append_singleton calls call ih =>
      obtain ⟨hentries, hanswers⟩ := ih
      by_cases hkey : call.key = key
      · subst hkey
        obtain ⟨hanswer, hleft⟩ := @allow_congr limiter _ _ _ hentries call.now
        rw [List.filter_append, List.filter_singleton, decide_eq_true rfl, cond_true]
        rw [entries_snoc, entries_snoc, answers_snoc, answers_snoc, List.filter_append, hanswers]
        refine ⟨hleft, ?_⟩
        simp [hanswer]
      · rw [List.filter_append, List.filter_singleton, decide_eq_false hkey, cond_false,
          List.append_nil]
        rw [entries_snoc, answers_snoc, allow_of_ne hkey, List.filter_append, hanswers]
        exact ⟨hentries, by simp [hkey]⟩

theorem mem_allowedTimes {answers : List AllowAnswer} {time : Nat}
    (h : time ∈ allowedTimes key answers) : ∃ answer ∈ answers, answer.call.now = time := by
  obtain ⟨answer, hmem, rfl⟩ := List.mem_map.mp h
  exact ⟨answer, List.mem_of_mem_filter hmem, rfl⟩

theorem answers_calls : (limiter.answers calls).map (·.call) = calls := by
  induction calls using List.reverseRecOn with
  | nil => rfl
  | append_singleton calls call ih => rw [answers_snoc, List.map_append, ih]; rfl

theorem allowedTimes_le {now : Nat} (h : ∀ call ∈ calls, call.now ≤ now) :
    ∀ time ∈ allowedTimes key (limiter.answers calls), time ≤ now := by
  intro time htime
  obtain ⟨answer, hmem, rfl⟩ := mem_allowedTimes htime
  refine h answer.call ?_
  rw [← @answers_calls limiter calls]
  exact List.mem_map_of_mem hmem

theorem filter_recent {times : List Nat} {earlier now : Nat} (h : earlier ≤ now) :
    (times.filter (limiter.recent earlier)).filter (limiter.recent now) =
      times.filter (limiter.recent now) := by
  rw [List.filter_filter]
  refine List.filter_congr fun time _ => ?_
  simp only [RateLimiter.recent, Bool.and_eq_left_iff_imp, decide_eq_true_eq]
  omega

theorem entries_recent (hclock : (calls.map (·.now)).Pairwise (· ≤ ·)) {now : Nat}
    (hnow : ∀ call ∈ calls, call.now ≤ now) :
    (limiter.entries calls key).filter (limiter.recent now) =
      (allowedTimes key (limiter.answers calls)).filter (limiter.recent now) := by
  induction calls using List.reverseRecOn generalizing now with
  | nil => rfl
  | append_singleton calls call ih =>
      rw [List.map_append, List.pairwise_append] at hclock
      have hbefore : ∀ earlier ∈ calls, earlier.now ≤ call.now := fun earlier hmem =>
        hclock.2.2 _ (List.mem_map_of_mem hmem) _ (by simp)
      have hcall : call.now ≤ now := hnow call (by simp)
      rw [entries_snoc, answers_snoc, allowedTimes_snoc, List.filter_append]
      by_cases hkey : call.key = key
      · subst hkey
        have hkept := ih hclock.1 hbefore
        unfold RateLimiter.allow
        dsimp only
        split
        · dsimp only
          rw [Function.update_self, filter_recent hcall]
          simpa using ih hclock.1 fun earlier hmem => hnow earlier (by simp [hmem])
        · dsimp only
          rw [Function.update_self, List.filter_append, filter_recent hcall,
            ih hclock.1 fun earlier hmem => hnow earlier (by simp [hmem])]
          simp
      · rw [allow_of_ne hkey, ih hclock.1 fun earlier hmem => hnow earlier (by simp [hmem])]
        simp [hkey]

/-- Times that all lie within one window are at most as many as the limit. -/
theorem countP_window (hclock : (calls.map (·.now)).Pairwise (· ≤ ·)) {within : Nat → Bool}
    (hwithin : ∀ time time', within time → within time' → time' - time < limiter.window) :
    (allowedTimes key (limiter.answers calls)).countP within ≤ limiter.maxRequests := by
  induction calls using List.reverseRecOn with
  | nil => exact Nat.zero_le _
  | append_singleton calls call ih =>
      rw [List.map_append, List.pairwise_append] at hclock
      have hbefore : ∀ earlier ∈ calls, earlier.now ≤ call.now := fun earlier hmem =>
        hclock.2.2 _ (List.mem_map_of_mem hmem) _ (by simp)
      have hcount := ih hclock.1
      rw [answers_snoc, allowedTimes_snoc, List.countP_append]
      split
      · rename_i hallowed
        obtain ⟨hkey, hallowed⟩ := hallowed
        obtain rfl : call.key = key := hkey
        by_cases hnow : within call.now = true
        · -- all of them count at this call, which was allowed
          have hsub : (allowedTimes call.key (limiter.answers calls)).countP within ≤
              ((limiter.entries calls call.key).filter (limiter.recent call.now)).length := by
            rw [entries_recent hclock.1 hbefore, ← List.countP_eq_length_filter]
            refine List.countP_mono_left fun time _ htime => ?_
            exact decide_eq_true (hwithin time call.now htime hnow)
          have hfree : ¬limiter.maxRequests ≤
              ((limiter.entries calls call.key).filter (limiter.recent call.now)).length := by
            intro hfull
            simp [RateLimiter.allow, hfull] at hallowed
          rw [List.countP_singleton, if_pos hnow]
          omega
        · simpa [hnow] using hcount
      · simpa using hcount

theorem answers_split {earlier later : List AllowAnswer} {answer : AllowAnswer}
    (h : limiter.answers calls = earlier ++ answer :: later) :
    ∃ before, before ++ [answer.call] <+: calls ∧ earlier = limiter.answers before ∧
      answer.allowed =
        (limiter.allow answer.call.key answer.call.now (limiter.entries before)).1 := by
  induction calls using List.reverseRecOn generalizing later with
  | nil => simp [RateLimiter.answers, RateLimiter.run] at h
  | append_singleton calls call ih =>
      rw [answers_snoc] at h
      rcases concat_eq_split h with ⟨rfl, hanswer⟩ | ⟨middle, hmiddle⟩
      · obtain rfl := hanswer
        exact ⟨calls, List.prefix_rfl, rfl, rfl⟩
      · obtain ⟨before, hahead, hearlier, hallowed⟩ := ih hmiddle
        exact ⟨before, hahead.trans (List.prefix_append _ _), hearlier, hallowed⟩

theorem full_of_refused (hclock : (calls.map (·.now)).Pairwise (· ≤ ·))
    {earlier later : List AllowAnswer}
    (h : limiter.answers calls = earlier ++ ⟨call, false⟩ :: later) :
    ((allowedTimes call.key earlier).countP fun time =>
      call.now < time + limiter.window ∧ time ≤ call.now) = limiter.maxRequests := by
  obtain ⟨before, hahead, rfl, hallowed⟩ := answers_split h
  have hclock' : ((before ++ [call]).map (·.now)).Pairwise (· ≤ ·) :=
    hclock.sublist (hahead.sublist.map _)
  rw [List.map_append, List.pairwise_append] at hclock'
  have hbefore : ∀ earlier ∈ before, earlier.now ≤ call.now := fun earlier hmem =>
    hclock'.2.2 _ (List.mem_map_of_mem hmem) _ (by simp)
  apply Nat.le_antisymm
  · refine countP_window hclock'.1 fun time time' htime htime' => ?_
    simp only [decide_eq_true_eq] at htime htime'
    omega
  · have hfull : limiter.maxRequests ≤
        ((limiter.entries before call.key).filter (limiter.recent call.now)).length := by
      by_contra hfree
      simp [RateLimiter.allow, hfree] at hallowed
    rw [entries_recent hclock'.1 hbefore, ← List.countP_eq_length_filter] at hfull
    refine hfull.trans (List.countP_mono_left fun time hmem htime => ?_)
    have hle := allowedTimes_le hbefore time hmem
    have hrecent := of_decide_eq_true htime
    simp only [decide_eq_true_eq]
    omega

theorem exact_window (hclock : (calls.map (·.now)).Pairwise (· ≤ ·)) :
    ExactWindow limiter calls := by
  constructor
  · intro key start
    refine countP_window hclock fun time time' htime htime' => ?_
    simp only [decide_eq_true_eq] at htime htime'
    omega
  · intro key start
    refine countP_window hclock fun time time' htime htime' => ?_
    simp only [decide_eq_true_eq] at htime htime'
    omega
  · exact fun _ _ _ => full_of_refused hclock
  · exact fun _ => answers_filter.2

/-- Two calls in a window of ten, a third that is turned away, and another key. -/
def sampleCalls : List AllowCall :=
  [⟨"/login", 0⟩, ⟨"/login", 4⟩, ⟨"/refresh", 5⟩, ⟨"/login", 9⟩, ⟨"/login", 10⟩]

theorem sampleCalls_window :
    (sampleCalls.map (·.now)).Pairwise (· ≤ ·) ∧
      (RateLimiter.answers ⟨2, 10⟩ sampleCalls).map (·.allowed) = [true, true, true, false, true] ∧
      ExactWindow ⟨2, 10⟩ sampleCalls := by
  have hclock : (sampleCalls.map (·.now)).Pairwise (· ≤ ·) := by decide
  exact ⟨hclock, by decide, exact_window hclock⟩

end Window

section Middleware

/-- A limiter of the application. -/
def Limiter.rateLimiter (limiter : Limiter) : RateLimiter :=
  { maxRequests := limiter.maxRequests, window := limiter.window }

/-- The world of the handlers remembers of a key what its limiter does. -/
theorem limiter_allow (limiter : Limiter) (key : String) (now : Nat) (entries : Histories) :
    limiter.allow now (entries key) = ((limiter.rateLimiter.allow key now entries).1,
      (limiter.rateLimiter.allow key now entries).2 key) := by
  unfold Limiter.allow RateLimiter.allow Limiter.rateLimiter RateLimiter.recent
  dsimp only
  split <;> simp

def HttpRequest.limiter : HttpRequest → Option (Limiter × String)
  | .publicly route => route.limiter
  | .protectedly _ _ => none

/-- A request that comes to the server from an address. -/
structure ClientVisit where
  address : String
  request : HttpRequest
  now : Nat
deriving DecidableEq

abbrev AppHistories := Limiter → Histories

/-- Whether a request is let through to its handler. -/
def rateLimitVisit (state : AppHistories) (visit : ClientVisit) : Bool × AppHistories :=
  match visit.request.limiter with
  | none => (true, state)
  | some (limiter, key) =>
      let (allowed, entries) := limiter.rateLimiter.allow key visit.now (state limiter)
      (allowed, Function.update state limiter entries)

def visitStep (state : AppHistories × List (ClientVisit × Bool)) (visit : ClientVisit) :
    AppHistories × List (ClientVisit × Bool) :=
  let (letThrough, histories) := rateLimitVisit state.1 visit
  (histories, state.2 ++ [(visit, letThrough)])

/-- The requests to a server in the order in which its limiters see them. -/
def visitRun (visits : List ClientVisit) : AppHistories × List (ClientVisit × Bool) :=
  visits.foldl visitStep (fun _ _ => [], [])

def letThrough (visits : List ClientVisit) : List (ClientVisit × Bool) := (visitRun visits).2

variable {visits visits' : List ClientVisit} {visit : ClientVisit}

theorem visitRun_snoc : visitRun (visits ++ [visit]) =
    ((rateLimitVisit (visitRun visits).1 visit).2,
      (visitRun visits).2 ++ [(visit, (rateLimitVisit (visitRun visits).1 visit).1)]) := by
  simp [visitRun, visitStep]

theorem rateLimitVisit_of_ne {state : AppHistories} {limiter : Limiter} {key : String}
    (h : visit.request.limiter ≠ some (limiter, key)) :
    (rateLimitVisit state visit).2 limiter key = state limiter key := by
  unfold rateLimitVisit
  split
  · rfl
  · rename_i limiter' key' hlimiter
    dsimp only
    by_cases heq : limiter = limiter'
    · subst heq
      have hkey : key' ≠ key := by
        rintro rfl
        exact h hlimiter
      rw [Function.update_self]
      exact @allow_of_ne _ ⟨key', visit.now⟩ key hkey _
    · rw [Function.update_of_ne heq]

theorem rateLimitVisit_congr {state state' : AppHistories} {limiter : Limiter} {key : String}
    (hlimiter : visit.request.limiter = some (limiter, key))
    (h : state limiter key = state' limiter key) :
    (rateLimitVisit state visit).1 = (rateLimitVisit state' visit).1 ∧
      (rateLimitVisit state visit).2 limiter key = (rateLimitVisit state' visit).2 limiter key := by
  unfold rateLimitVisit
  rw [hlimiter]
  dsimp only
  rw [Function.update_self, Function.update_self]
  exact allow_congr h visit.now

theorem letThrough_filter {keep seen : ClientVisit → Bool} {watched : Limiter × String → Prop}
    (hseen : ∀ visit ∈ visits, seen visit = true → keep visit = true ∧
      ∀ path, visit.request.limiter = some path → watched path)
    (hdropped : ∀ visit ∈ visits, keep visit = false →
      ∀ path, visit.request.limiter = some path → ¬watched path) :
    (∀ path, watched path →
      (visitRun visits).1 path.1 path.2 = (visitRun (visits.filter keep)).1 path.1 path.2) ∧
    (letThrough visits).filter (fun entry => seen entry.1) =
      (letThrough (visits.filter keep)).filter fun entry => seen entry.1 := by
  unfold letThrough
  induction visits using List.reverseRecOn with
  | nil => exact ⟨fun _ _ => rfl, rfl⟩
  | append_singleton visits visit ih =>
      obtain ⟨hhistory, hlog⟩ := ih (fun other hmem => hseen other (by simp [hmem]))
        fun other hmem => hdropped other (by simp [hmem])
      have hseen := hseen visit (by simp)
      have hdropped := hdropped visit (by simp)
      rw [visitRun_snoc, List.filter_append, List.filter_append, hlog, List.filter_singleton]
      cases hkeep : keep visit with
      | false =>
          have hnot : seen visit = false := by
            by_contra hsee
            have hkept := (hseen (by simpa using hsee)).1
            rw [hkeep] at hkept
            cases hkept
          rw [cond_false, List.append_nil]
          refine ⟨fun path hwatched => ?_, by simp [hnot]⟩
          rw [← hhistory path hwatched]
          exact rateLimitVisit_of_ne fun hlimiter => hdropped hkeep path hlimiter hwatched
      | true =>
          rw [cond_true, visitRun_snoc, List.filter_append]
          constructor
          · intro path hwatched
            by_cases hlimiter : visit.request.limiter = some path
            · exact (rateLimitVisit_congr hlimiter (hhistory path hwatched)).2
            · dsimp only
              rw [rateLimitVisit_of_ne hlimiter, rateLimitVisit_of_ne hlimiter]
              exact hhistory path hwatched
          · congr 1
            cases hsee : seen visit with
            | false => simp [hsee]
            | true =>
                have hanswer : (rateLimitVisit (visitRun visits).1 visit).1 =
                    (rateLimitVisit (visitRun (visits.filter keep)).1 visit).1 := by
                  cases hlimiter : visit.request.limiter with
                  | none => simp [rateLimitVisit, hlimiter]
                  | some path =>
                      exact (rateLimitVisit_congr hlimiter
                        (hhistory path ((hseen hsee).2 path hlimiter))).1
                rw [hanswer]

/-- Two runs differ only in what a client does. -/
def SameBut (address : String) (visits visits' : List ClientVisit) : Prop :=
  visits.filter (fun visit => visit.address ≠ address) =
    visits'.filter fun visit => visit.address ≠ address

/-- The visits of other clients to paths that a client does not visit. -/
def apart (address : String) (visits : List ClientVisit) (visit : ClientVisit) : Bool :=
  decide (visit.address ≠ address) && visits.all fun other =>
    other.address ≠ address || other.request.limiter ≠ visit.request.limiter ||
      visit.request.limiter = none

/-- A client cannot use up the limit of the others on the paths that it does not visit. -/
theorem letThrough_apart {address : String} (h : SameBut address visits visits') :
    (letThrough visits).filter (fun entry => apart address (visits ++ visits') entry.1) =
      (letThrough visits').filter fun entry => apart address (visits ++ visits') entry.1 := by
  have hpath : ∀ list, list ⊆ visits ++ visits' →
      (letThrough list).filter (fun entry => apart address (visits ++ visits') entry.1) =
        (letThrough (list.filter fun visit => visit.address ≠ address)).filter
          fun entry => apart address (visits ++ visits') entry.1 := by
    intro list hlist
    let watched (path : Limiter × String) : Prop :=
      ∀ other ∈ visits ++ visits', other.address = address → other.request.limiter ≠ some path
    refine (@letThrough_filter _ _ _ watched ?_ ?_).2
    · intro visit hmem happart
      obtain ⟨haddress, hall⟩ := Bool.and_eq_true_iff.mp happart
      refine ⟨haddress, fun path hlimiter other hother hsame => ?_⟩
      have hne := List.all_eq_true.mp hall other hother
      simpa [hsame, hlimiter] using hne
    · intro visit hmem hdropped path hlimiter hwatched
      exact hwatched visit (hlist hmem) (by simpa using hdropped) hlimiter
  rw [hpath visits (List.subset_append_left _ _), hpath visits' (List.subset_append_right _ _), h]

def sampleLogin (address : String) (now : Nat) : ClientVisit :=
  { address, request := .publicly (.login { email := "a@b.c", password := "hunter22" }), now }

/-- A client that logs in as often as it may, then another client. -/
def busyVisits : List ClientVisit :=
  List.replicate 20 (sampleLogin "10.0.0.1" 0) ++ [sampleLogin "10.0.0.2" 1]

/-- The login of one client is turned away because of another one. -/
theorem clients_share_limit : ¬∀ address visits visits', SameBut address visits visits' →
    (letThrough visits).filter (fun entry => entry.1.address ≠ address) =
      (letThrough visits').filter fun entry => entry.1.address ≠ address := by
  intro h
  have hsame := h "10.0.0.1" busyVisits [sampleLogin "10.0.0.2" 1]
    (by unfold SameBut; decide +kernel)
  revert hsame
  decide +kernel

def sampleRefresh : ClientVisit :=
  { address := "10.0.0.2", request := .publicly (.refresh ⟨"r"⟩), now := 2 }

/-- Logins of one client and a refresh of another. -/
def refreshVisits : List ClientVisit :=
  List.replicate 20 (sampleLogin "10.0.0.1" 0) ++ [sampleRefresh]

/-- A refresh of one client passes, however often another one logs in. -/
theorem refresh_beside_logins :
    apart "10.0.0.1" (refreshVisits ++ [sampleRefresh]) sampleRefresh = true ∧
      (letThrough refreshVisits).filter
          (fun entry => apart "10.0.0.1" (refreshVisits ++ [sampleRefresh]) entry.1) =
        (letThrough [sampleRefresh]).filter
          fun entry => apart "10.0.0.1" (refreshVisits ++ [sampleRefresh]) entry.1 :=
  ⟨by decide +kernel, letThrough_apart (by unfold SameBut; decide +kernel)⟩

end Middleware

end Failsafe.Server
