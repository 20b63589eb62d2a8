import Failsafe.Server.Footprint

/-!
Proof rules for what the handlers share: loading an account, its second factor, and
issuing tokens.
-/

namespace Failsafe.Server

open Failsafe.Core Failsafe.Lib

variable {ext : Externals} {guard : Log → ServerRequest → Prop} [Lenient guard] {log : Log}

theorem issueAuthResponse_handles {accountId : AccountId}
    (hinsert : ∀ log' new, guard log' (.query .db (.insertRefreshToken new))) :
    Handles guard (issueAuthResponse ext accountId) (fun _ _ => True)
      (fun error _ => error.statusCode = .internalServerError) log := by
  refine .bind (.bind (.bind (.now fun time => .pure (.askTry ⟨Lenient.allow _ _ rfl, ?_⟩))))
  rintro token _ rfl
  cases token with
  | error message => rfl
  | ok token =>
      refine .bind (.bind (.ask (Lenient.allow _ _ rfl) fun raw => .bind ?_))
      refine .bind (.now fun time' => .bind (.newUuid fun id => .pure (.bind ?_)))
      refine .insertReturning (.query (hinsert _ _) (fun _ => .read rfl ?_ fun _ => rfl)
        fun _ => rfl)
      exact fun row => ⟨fun _ _ => trivial, fun _ _ => rfl⟩


theorem validateMfaPending_quiet {token : String} :
    (validateMfaPending ext token).run.All fun request : ServerRequest =>
      request.isQuiet = true := by
  refine Prog.All.tryBind (Prog.All.tryBind ⟨rfl, fun _ => trivial⟩ fun _ => trivial) fun _ => ?_
  split
  · trivial
  · split <;> trivial

theorem loadAccount_obeys {accountId : AccountId} {post : Account → Log → Prop}
    (h : ∀ account,
      post account (log ++ [⟨.query .db (.findAccount accountId.uuid), .ok (some account)⟩])) :
    Obeys guard (loadAccount accountId) post log := by
  refine .bind (.read rfl fun account => ?_)
  cases account with
  | none => exact .throw
  | some account => exact .pure (h account)

/-- The account shows its second factor by a code that its secret accepts at a time that
was read from the clock. -/
def TotpAccepted (ext : Externals) (account : Account) (code : String) (log : Log) : Prop :=
  ∃ stored secret time, account.totpSecret = some stored ∧
    decryptSecret ext stored = .ok secret ∧ ⟨.now, time⟩ ∈ log ∧
    ext.checkTotp secret time (trimmed code) = true

/-- The account shows its second factor by an unused recovery code, which is used. -/
def RecoveryAccepted (ext : Externals) (accountId : AccountId) (code : String) (log : Log) :
    Prop :=
  ∃ time count, ⟨.query .db (.useRecoveryCode accountId.uuid (hashRecoveryCode ext code) time),
    .ok count⟩ ∈ log ∧ 0 < count

theorem TotpAccepted.mono {account : Account} {code : String} {log' : Log}
    (h : TotpAccepted ext account code log) (hlog : log ⊆ log') :
    TotpAccepted ext account code log' := by
  obtain ⟨stored, secret, time, hstored, hsecret, hnow, hcheck⟩ := h
  exact ⟨stored, secret, time, hstored, hsecret, hlog hnow, hcheck⟩

theorem RecoveryAccepted.mono {accountId : AccountId} {code : String} {log' : Log}
    (h : RecoveryAccepted ext accountId code log) (hlog : log ⊆ log') :
    RecoveryAccepted ext accountId code log' := by
  obtain ⟨time, count, hused, hcount⟩ := h
  exact ⟨time, count, hlog hused, hcount⟩

theorem verifyTotp_obeys {email secret code : String} {post : Unit → Log → Prop}
    (h : ∀ time : Timestamp, ext.checkTotp secret time (trimmed code) = true →
      post () (log ++ [⟨.now, time⟩])) :
    Obeys guard (verifyTotp ext email secret code) post log := by
  refine .bind (.liftExcept fun _ _ => .ite (fun _ => .bind .throw) fun _ => ?_)
  exact .bind (.now fun time => .ite (fun hcheck => .pure (h time hcheck)) fun _ => .throw)

theorem acceptsTotp_obeys {account : Account} {code : String} :
    Obeys guard (acceptsTotp ext account code) (fun accepted log' =>
      accepted = true → TotpAccepted ext account code log') log := by
  unfold acceptsTotp
  split
  · exact .pure nofun
  · rename_i stored hstored
    refine .bind (.liftExcept fun secret hsecret => .bind ?_)
    have hverify : Obeys guard (verifyTotp ext account.email secret code)
        (fun _ log' => TotpAccepted ext account code log') log :=
      verifyTotp_obeys fun time hcheck =>
        ⟨stored, secret, time, hstored, hsecret, by simp, hcheck⟩
    refine Prog.ensures_lift.mpr (Prog.Ensures.mono hverify fun result log' hresult => ?_)
    cases result with
    | ok value => exact .pure fun _ => hresult
    | error error => exact .pure nofun

theorem verifyTotpOrRecovery_obeys {accountId : AccountId} {account : Account} {code : String}
    (huse : ∀ log' time, guard log'
      (.query .db (.useRecoveryCode accountId.uuid (hashRecoveryCode ext code) time))) :
    Obeys guard (verifyTotpOrRecovery ext accountId account code) (fun _ log' =>
      TotpAccepted ext account code log' ∨ RecoveryAccepted ext accountId code log') log := by
  refine .bind (acceptsTotp_obeys.mono fun accepted log' haccepted => ?_)
  refine .ite (fun htotp => .pure (.inl (haccepted htotp))) fun _ => ?_
  refine .bind (.bind (.now fun time => .bind (.query (huse _ time) fun count => .pure ?_)))
  refine .ite (fun hcount => .pure (.inr ⟨time, count, by simp, ?_⟩)) fun _ => .throw
  exact of_decide_eq_true hcount

end Failsafe.Server
