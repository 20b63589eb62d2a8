import Failsafe.Server.Footprint
import Failsafe.Server.Rules

/-!
The errors that handlers fail with.
-/

namespace Failsafe.Server

open Failsafe.Core Failsafe.Lib

/-- The handler fails with errors of a kind only. -/
def FailsOnly {α : Type} (kind : ServerError → Prop) (p : ServerTry α) : Prop :=
  ∀ log, Handles anything p (fun _ _ => True) (fun error _ => kind error) log

/-- A call to the database may always fail. -/
class Fallible (kind : ServerError → Prop) : Prop where
  database : ∀ message, kind (.database message)

namespace FailsOnly

variable {α β ρ : Type} {kind : ServerError → Prop}

theorem bind {p : ServerTry α} {f : α → ServerTry β} (hp : FailsOnly kind p)
    (hf : ∀ value, FailsOnly kind (f value)) : FailsOnly kind (p >>= f) :=
  fun log => .bind ((hp log).mono (fun value log' _ => hf value log') fun _ _ => id)

theorem pure {value : α} : FailsOnly kind (Pure.pure value) :=
  fun _ => .pure trivial

theorem throw {error : ServerError} (h : kind error) :
    FailsOnly (α := α) kind (throw error) :=
  fun _ => .throw h

theorem ite {condition : Prop} [Decidable condition] {p q : ServerTry α}
    (hp : condition → FailsOnly kind p) (hq : ¬condition → FailsOnly kind q) :
    FailsOnly kind (if condition then p else q) :=
  fun log => .ite (fun h => hp h log) fun h => hq h log

theorem liftExcept {result : Except ServerError α}
    (h : ∀ error, result = .error error → kind error) : FailsOnly kind (liftExcept result) :=
  fun _ => .liftExcept (fun _ _ => trivial) h

theorem lift {p : ServerProg α} : FailsOnly kind (liftM p : ServerTry α) := by
  intro log
  refine Prog.ensures_lift.mpr ?_
  induction p generalizing log with
  | ret value => trivial
  | call request next ih => exact ⟨trivial, fun response log' _ => ih response log'⟩

theorem now : FailsOnly kind now :=
  lift

theorem newUuid : FailsOnly kind newUuid :=
  lift

theorem check {condition : Prop} [Decidable condition] {error : ServerError} {p : ServerTry α}
    (h : kind error) (hp : FailsOnly kind p) :
    FailsOnly kind
      (if condition then (MonadExcept.throw error : ServerTry PUnit) >>= fun _ => p else p) :=
  ite (fun _ => bind (throw h) fun _ => hp) fun _ => hp

variable [Fallible kind]

theorem query {conn : Conn} {statement : Statement} : FailsOnly kind (query conn statement) :=
  fun _ => .query trivial (fun _ => trivial) fun _ => Fallible.database _

theorem insertReturning {insert : ServerTry Unit} {select : ServerTry (Option ρ)}
    (hinsert : FailsOnly kind insert) (hselect : FailsOnly kind select) :
    FailsOnly kind (insertReturning insert select) := by
  refine bind hinsert fun _ => bind hselect fun row => ?_
  cases row with
  | some row => exact pure
  | none => exact throw (Fallible.database _)

theorem updateReturning {update : ServerTry Nat} {select : ServerTry (Option ρ)}
    (hupdate : FailsOnly kind update) (hselect : FailsOnly kind select) :
    FailsOnly kind (updateReturning update select) := by
  refine bind hupdate fun count => check (Fallible.database _) (bind hselect fun row => ?_)
  cases row with
  | some row => exact pure
  | none => exact throw (Fallible.database _)

theorem withTransaction {body : ServerTry α} (hbody : FailsOnly kind body) :
    FailsOnly kind (withTransaction body) := by
  refine fun _ => .withTransaction (fun _ => Fallible.database _) ((hbody _).mono ?_ fun _ _ => id)
  exact fun _ _ _ => ⟨trivial, trivial, fun _ => Fallible.database _⟩

theorem insertDevice {conn : Conn} {row : Device} : FailsOnly kind (insertDevice conn row) :=
  insertReturning query query

theorem updateDevice {conn : Conn} {id : Uuid} {active : Device.ActiveModel} :
    FailsOnly kind (updateDevice conn id active) :=
  updateReturning query query

end FailsOnly

/-- A call only answers with responses of a kind. -/
def Answers (good : HttpResponse → Prop) (_ : Log) : ServerRequest → Prop
  | .respond response => good response
  | _ => True

theorem Handles.answers {ext : Externals} {call : Call} {good : HttpResponse → Prop}
    (h : Handles anything (handle ext call) (fun response _ => good response)
      (fun error _ => good error.intoResponse) []) :
    (call.run ext).Ensures (Answers good) Prog.heard (fun _ _ => True) [] := by
  refine Handles.run (Prog.Ensures.weaken_all h (handle_touches ext call) ?_)
  intro log request htouches _
  cases request with
  | respond => exact htouches.elim
  | _ => trivial

section Devices

variable {ext : Externals} {kind : ServerError → Prop} {accountId : AccountId} {deviceId : Uuid}

theorem modelToInfo_fails {model : Device} (hinternal : ∀ message, kind (.internal message)) :
    FailsOnly kind (modelToInfo ext model) := by
  unfold modelToInfo
  cases model.enabledFeatures.toFeatures with
  | none => exact .throw (hinternal _)
  | some features => exact .bind .now fun _ => .pure

variable [Fallible kind]

theorem loadActiveDevice_fails (hmissing : kind .notFound) (hforeign : kind .forbidden) :
    FailsOnly kind (loadActiveDevice deviceId accountId) := by
  refine .bind .query fun existing => ?_
  cases existing with
  | none => exact .throw hmissing
  | some existing =>
      exact .check hforeign (.check hmissing .pure)

theorem heartbeatDevice_fails (hmissing : kind .notFound) (hforeign : kind .forbidden)
    (hinternal : ∀ message, kind (.internal message)) :
    FailsOnly kind (heartbeatDevice ext accountId deviceId) :=
  .bind (loadActiveDevice_fails hmissing hforeign) fun _ => .bind .now fun _ =>
    .bind .updateDevice fun _ => modelToInfo_fails hinternal

end Devices

end Failsafe.Server
