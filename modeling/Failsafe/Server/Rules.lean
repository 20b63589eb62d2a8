import Failsafe.Server.Runs

/-!
Proof rules for handlers: which requests a handler makes after what it was told.
-/

namespace Failsafe.Server

open Failsafe.Core Failsafe.Lib

/-- The handler only asks what `guard` allows after its history; `post` holds if it
succeeds and `fails` if it does not. -/
def Handles {α : Type} (guard : Log → ServerRequest → Prop) (p : ServerTry α)
    (post : α → Log → Prop) (fails : ServerError → Log → Prop) (log : Log) : Prop :=
  Prog.Ensures (S := ServerSig) guard Prog.heard p.run (fun result log' => match result with
    | .ok value => post value log'
    | .error error => fails error log') log

/-- The handler only asks what `guard` allows after its history, and `post` holds if it
succeeds. -/
def Obeys {α : Type} (guard : Log → ServerRequest → Prop) (p : ServerTry α)
    (post : α → Log → Prop) (log : Log) : Prop :=
  Handles guard p post (fun _ _ => True) log

/-- Quiet requests are always allowed. -/
class Lenient (guard : Log → ServerRequest → Prop) : Prop where
  allow : ∀ log request, request.isQuiet = true → guard log request

/-- The guard that allows every request. -/
abbrev anything : Log → ServerRequest → Prop := fun _ _ => True

instance : Lenient anything := ⟨fun _ _ _ => trivial⟩

namespace Handles

variable {α β ρ : Type} {guard : Log → ServerRequest → Prop} {log : Log}
  {fails : ServerError → Log → Prop}

theorem bind {p : ServerTry α} {f : α → ServerTry β} {post : β → Log → Prop}
    (h : Handles guard p (fun value => Handles guard (f value) post fails) fails log) :
    Handles guard (p >>= f) post fails log := by
  refine Prog.ensures_tryBind.mpr (Prog.Ensures.mono h fun result log' hresult => ?_)
  cases result <;> exact hresult

theorem mono {p : ServerTry α} {post post' : α → Log → Prop}
    {fails' : ServerError → Log → Prop} (h : Handles guard p post fails log)
    (hpost : ∀ value log', post value log' → post' value log')
    (hfails : ∀ error log', fails error log' → fails' error log') :
    Handles guard p post' fails' log := by
  refine Prog.Ensures.mono h fun result log' hresult => ?_
  cases result with
  | ok value => exact hpost _ _ hresult
  | error error => exact hfails _ _ hresult

theorem grows {p : ServerTry α} {post : α → Log → Prop} (h : Handles guard p post fails log) :
    Handles guard p (fun value log' => post value log' ∧ log <+: log')
      (fun error log' => fails error log' ∧ log <+: log') log := by
  refine Prog.Ensures.mono (Prog.Ensures.grows h) fun result log' hresult => ?_
  cases result <;> exact hresult

theorem keeping {p : ServerTry α} {post : α → Log → Prop} {I : Log → Prop}
    {kind : ServerRequest → Prop} (h : Handles guard p post fails log) (hp : p.run.All kind)
    (hI : ∀ log (request : ServerRequest) response, kind request → I log →
      I (log ++ [⟨request, response⟩])) (hlog : I log) :
    Handles guard p (fun value log' => post value log' ∧ I log')
      (fun error log' => fails error log' ∧ I log') log := by
  refine Prog.Ensures.mono (Prog.Ensures.keeping (I := I) h hp ?_ hlog)
    fun result log' hresult => ?_
  · rintro request response log _ hkind hlog' rfl
    exact hI log request response hkind hlog'
  · cases result <;> exact hresult

theorem pure {value : α} {post : α → Log → Prop} (h : post value log) :
    Handles guard (Pure.pure value) post fails log := h

theorem throw {error : ServerError} {post : α → Log → Prop} (h : fails error log) :
    Handles guard (throw error) post fails log := h

theorem ite {condition : Prop} [Decidable condition] {p q : ServerTry α}
    {post : α → Log → Prop} (hp : condition → Handles guard p post fails log)
    (hq : ¬condition → Handles guard q post fails log) :
    Handles guard (if condition then p else q) post fails log := by
  split
  · exact hp ‹_›
  · exact hq ‹_›

theorem liftExcept {result : Except ServerError α} {post : α → Log → Prop}
    (h : ∀ value, result = .ok value → post value log)
    (hfails : ∀ error, result = .error error → fails error log) :
    Handles guard (liftExcept result) post fails log := by
  cases result with
  | ok value => exact h value rfl
  | error error => exact hfails error rfl

theorem ask {request : ServerRequest} {post : request.Response → Log → Prop}
    (hguard : guard log request)
    (hpost : ∀ response, post response (log ++ [⟨request, response⟩])) :
    Handles guard (liftM (Server.ask request)) post fails log :=
  ⟨hguard, fun response _ hlog => hlog ▸ hpost response⟩

theorem askTry {p : ServerProg (Except String α)} {error : String → ServerError}
    {post : α → Log → Prop}
    (h : Prog.Ensures (S := ServerSig) guard Prog.heard p (fun result log' => match result with
      | .ok value => post value log'
      | .error message => fails (error message) log') log) :
    Handles guard (askTry error p) post fails log := by
  refine Prog.ensures_bind.mpr (Prog.Ensures.mono h fun result log' hresult => ?_)
  cases result <;> exact hresult

theorem query {conn : Conn} {statement : Statement} {post : statement.Result → Log → Prop}
    (hguard : guard log (.query conn statement))
    (hpost : ∀ result, post result (log ++ [⟨.query conn statement, .ok result⟩]))
    (hfails : ∀ message,
      fails (.database message) (log ++ [⟨.query conn statement, .error message⟩])) :
    Handles guard (query conn statement) post fails log := by
  refine askTry ⟨hguard, fun response log' hlog => ?_⟩
  subst hlog
  cases response with
  | ok result => exact hpost result
  | error message => exact hfails message

theorem insertReturning {insert : ServerTry Unit} {select : ServerTry (Option ρ)}
    {post : ρ → Log → Prop}
    (h : Handles guard insert (fun _ => Handles guard select (fun row log' =>
      (∀ row', row = some row' → post row' log') ∧
        ∀ message, row = none → fails (.database message) log') fails) fails log) :
    Handles guard (insertReturning insert select) post fails log := by
  refine bind (h.mono (fun _ log' hinsert => bind (hinsert.mono (fun row log'' hrow => ?_)
    fun _ _ => id)) fun _ _ => id)
  cases row with
  | some row' => exact hrow.1 row' rfl
  | none => exact throw (hrow.2 _ rfl)

theorem updateReturning {update : ServerTry Nat} {select : ServerTry (Option ρ)}
    {post : ρ → Log → Prop}
    (h : Handles guard update (fun count log' =>
      (∀ message, count = 0 → fails (.database message) log') ∧
      (count ≠ 0 → Handles guard select (fun row log'' =>
        (∀ row', row = some row' → post row' log'') ∧
          ∀ message, row = none → fails (.database message) log'') fails log')) fails log) :
    Handles guard (updateReturning update select) post fails log := by
  refine bind (h.mono (fun count log' hupdate => ?_) fun _ _ => id)
  refine ite (fun hzero => bind (throw (hupdate.1 _ hzero))) fun hcount => ?_
  refine bind ((hupdate.2 hcount).mono (fun row log'' hrow => ?_) fun _ _ => id)
  cases row with
  | some row' => exact hrow.1 row' rfl
  | none => exact throw (hrow.2 _ rfl)

variable [Lenient guard]

theorem read {conn : Conn} {statement : Statement} {post : statement.Result → Log → Prop}
    (hread : statement.isWrite = false)
    (hpost : ∀ result, post result (log ++ [⟨.query conn statement, .ok result⟩]))
    (hfails : ∀ message,
      fails (.database message) (log ++ [⟨.query conn statement, .error message⟩])) :
    Handles guard (Server.query conn statement) post fails log :=
  query (Lenient.allow _ _ (by simp [ServerRequest.isQuiet, hread])) hpost hfails

theorem now {post : Timestamp → Log → Prop}
    (h : ∀ time : Timestamp, post time (log ++ [⟨.now, time⟩])) :
    Handles guard now post fails log :=
  ask (Lenient.allow _ _ rfl) h

theorem newUuid {post : Uuid → Log → Prop}
    (h : ∀ id : Uuid, post id (log ++ [⟨.newUuid, id⟩])) : Handles guard newUuid post fails log :=
  ask (Lenient.allow _ _ rfl) h

theorem withTransaction {body : ServerTry α} {post : α → Log → Prop}
    (hbegin : ∀ message, fails (.database message) (log ++ [⟨.begin, .error message⟩]))
    (hbody : Handles guard body (fun value log' => guard log' .commit ∧
        post value (log' ++ [⟨.commit, .ok ()⟩]) ∧
        ∀ message, fails (.database message) (log' ++ [⟨.commit, .error message⟩]))
      (fun error log' => fails error (log' ++ [⟨.rollback, ()⟩])) (log ++ [⟨.begin, .ok ()⟩])) :
    Handles guard (withTransaction body) post fails log := by
  refine bind (askTry ⟨Lenient.allow _ _ rfl, fun response log' hlog => ?_⟩)
  subst hlog
  cases response with
  | error message => exact hbegin message
  | ok value =>
      refine bind (Prog.ensures_lift.mpr (Prog.Ensures.mono hbody fun result log' hresult => ?_))
      cases result with
      | ok value' =>
          refine bind (askTry ⟨hresult.1, fun response log'' hlog => ?_⟩)
          subst hlog
          cases response with
          | ok value'' => exact hresult.2.1
          | error message => exact hresult.2.2 message
      | error error => exact bind (ask (Lenient.allow _ _ rfl) fun _ => throw hresult)

end Handles

namespace Obeys

variable {α β ρ : Type} {guard : Log → ServerRequest → Prop} {log : Log}

theorem bind {p : ServerTry α} {f : α → ServerTry β} {post : β → Log → Prop}
    (h : Obeys guard p (fun value => Obeys guard (f value) post) log) :
    Obeys guard (p >>= f) post log :=
  Handles.bind h

theorem mono {p : ServerTry α} {post post' : α → Log → Prop} (h : Obeys guard p post log)
    (hpost : ∀ value log', post value log' → post' value log') : Obeys guard p post' log :=
  Handles.mono h hpost fun _ _ _ => trivial

theorem grows {p : ServerTry α} {post : α → Log → Prop} (h : Obeys guard p post log) :
    Obeys guard p (fun value log' => post value log' ∧ log <+: log') log :=
  Handles.mono (Handles.grows h) (fun _ _ h => h) fun _ _ _ => trivial

theorem pure {value : α} {post : α → Log → Prop} (h : post value log) :
    Obeys guard (Pure.pure value) post log := h

theorem throw {error : ServerError} {post : α → Log → Prop} :
    Obeys guard (throw error) post log := trivial

theorem ite {condition : Prop} [Decidable condition] {p q : ServerTry α}
    {post : α → Log → Prop} (hp : condition → Obeys guard p post log)
    (hq : ¬condition → Obeys guard q post log) :
    Obeys guard (if condition then p else q) post log :=
  Handles.ite hp hq

theorem liftExcept {result : Except ServerError α} {post : α → Log → Prop}
    (h : ∀ value, result = .ok value → post value log) :
    Obeys guard (liftExcept result) post log :=
  Handles.liftExcept h fun _ _ => trivial

theorem ask {request : ServerRequest} {post : request.Response → Log → Prop}
    (hguard : guard log request)
    (hpost : ∀ response, post response (log ++ [⟨request, response⟩])) :
    Obeys guard (liftM (Server.ask request)) post log :=
  Handles.ask hguard hpost

theorem askTry {p : ServerProg (Except String α)} {error : String → ServerError}
    {post : α → Log → Prop}
    (h : Prog.Ensures (S := ServerSig) guard Prog.heard p (fun result log' => match result with
      | .ok value => post value log'
      | .error _ => True) log) :
    Obeys guard (askTry error p) post log :=
  Handles.askTry h

theorem query {conn : Conn} {statement : Statement} {post : statement.Result → Log → Prop}
    (hguard : guard log (.query conn statement))
    (hpost : ∀ result, post result (log ++ [⟨.query conn statement, .ok result⟩])) :
    Obeys guard (query conn statement) post log :=
  Handles.query hguard hpost fun _ => trivial

theorem insertReturning {insert : ServerTry Unit} {select : ServerTry (Option ρ)}
    {post : ρ → Log → Prop}
    (h : Obeys guard insert (fun _ => Obeys guard select fun row log' =>
      ∀ row', row = some row' → post row' log') log) :
    Obeys guard (insertReturning insert select) post log := by
  refine Handles.insertReturning
    (h.mono fun _ log' hinsert => hinsert.mono fun row log'' hrow => ?_)
  exact ⟨hrow, fun _ _ => trivial⟩

theorem updateReturning {update : ServerTry Nat} {select : ServerTry (Option ρ)}
    {post : ρ → Log → Prop}
    (h : Obeys guard update (fun _ => Obeys guard select fun row log' =>
      ∀ row', row = some row' → post row' log') log) :
    Obeys guard (updateReturning update select) post log := by
  refine Handles.updateReturning (h.mono fun _ log' hupdate => ⟨fun _ _ => trivial, fun _ => ?_⟩)
  exact hupdate.mono fun row log'' hrow => ⟨hrow, fun _ _ => trivial⟩

theorem of_all {p : ServerTry α} {kind : ServerRequest → Prop} (hp : p.run.All kind)
    (hguard : ∀ log request, kind request → guard log request) :
    Obeys guard p (fun _ _ => True) log := by
  refine Prog.Ensures.of_all (I := fun _ => True) hp (fun log request _ => hguard log request)
    (fun _ _ _ _ _ _ _ => trivial) (fun result _ _ => ?_) trivial
  cases result <;> trivial

variable [Lenient guard]

theorem read {conn : Conn} {statement : Statement} {post : statement.Result → Log → Prop}
    (hread : statement.isWrite = false)
    (hpost : ∀ result, post result (log ++ [⟨.query conn statement, .ok result⟩])) :
    Obeys guard (Server.query conn statement) post log :=
  query (Lenient.allow _ _ (by simp [ServerRequest.isQuiet, hread])) hpost

theorem now {post : Timestamp → Log → Prop}
    (h : ∀ time : Timestamp, post time (log ++ [⟨.now, time⟩])) :
    Obeys guard now post log :=
  ask (Lenient.allow _ _ rfl) h

theorem newUuid {post : Uuid → Log → Prop}
    (h : ∀ id : Uuid, post id (log ++ [⟨.newUuid, id⟩])) : Obeys guard newUuid post log :=
  ask (Lenient.allow _ _ rfl) h

theorem quiet {p : ServerTry α}
    (hp : p.run.All fun request : ServerRequest => request.isQuiet = true) {I : Log → Prop}
    (h : I log)
    (hI : ∀ log (request : ServerRequest) response, request.isQuiet = true → I log →
      I (log ++ [⟨request, response⟩])) :
    Obeys guard p (fun _ => I) log := by
  refine Prog.Ensures.of_all (I := I) hp
    (fun log request _ hquiet => Lenient.allow log request hquiet) ?_ ?_ h
  · rintro request response log _ hquiet hlog rfl
    exact hI log request response hquiet hlog
  · intro result log' hlog
    cases result with
    | ok value => exact hlog
    | error error => trivial

theorem updateAccount {conn : Conn} {id : Uuid} {active : Account.ActiveModel}
    {post : Account → Log → Prop} (hguard : guard log (.query conn (.updateAccount id active)))
    (hpost : ∀ count row, post row (log ++ [⟨.query conn (.updateAccount id active), .ok count⟩] ++
      [⟨.query conn (.findAccount id), .ok (some row)⟩])) :
    Obeys guard (updateAccount conn id active) post log := by
  refine updateReturning (query hguard fun count => read rfl fun row => ?_)
  rintro row' rfl
  exact hpost count row'

theorem updateDevice {conn : Conn} {id : Uuid} {active : Device.ActiveModel}
    {post : Device → Log → Prop} (hguard : guard log (.query conn (.updateDevice id active)))
    (hpost : ∀ count row, post row (log ++ [⟨.query conn (.updateDevice id active), .ok count⟩] ++
      [⟨.query conn (.findDevice id), .ok (some row)⟩])) :
    Obeys guard (updateDevice conn id active) post log := by
  refine updateReturning (query hguard fun count => read rfl fun row => ?_)
  rintro row' rfl
  exact hpost count row'

theorem updateRefreshToken {conn : Conn} {id : Uuid} {active : RefreshToken.ActiveModel}
    {post : RefreshToken → Log → Prop}
    (hguard : guard log (.query conn (.updateRefreshToken id active)))
    (hpost : ∀ count row, post row
      (log ++ [⟨.query conn (.updateRefreshToken id active), .ok count⟩] ++
        [⟨.query conn (.findRefreshToken id), .ok (some row)⟩])) :
    Obeys guard (updateRefreshToken conn id active) post log := by
  refine updateReturning (query hguard fun count => read rfl fun row => ?_)
  rintro row' rfl
  exact hpost count row'

theorem insertAccount {conn : Conn} {new : Account} {post : Account → Log → Prop}
    (hguard : guard log (.query conn (.insertAccount new)))
    (hpost : ∀ row, post row (log ++ [⟨.query conn (.insertAccount new), .ok ()⟩] ++
      [⟨.query conn (.findAccount new.id), .ok (some row)⟩])) :
    Obeys guard (insertAccount conn new) post log := by
  refine insertReturning (query hguard fun _ => read rfl fun row => ?_)
  rintro row' rfl
  exact hpost row'

theorem insertDevice {conn : Conn} {new : Device} {post : Device → Log → Prop}
    (hguard : guard log (.query conn (.insertDevice new)))
    (hpost : ∀ row, post row (log ++ [⟨.query conn (.insertDevice new), .ok ()⟩] ++
      [⟨.query conn (.findDevice new.deviceId), .ok (some row)⟩])) :
    Obeys guard (insertDevice conn new) post log := by
  refine insertReturning (query hguard fun _ => read rfl fun row => ?_)
  rintro row' rfl
  exact hpost row'

theorem insertPairingCode {conn : Conn} {new : PairingCode} {post : PairingCode → Log → Prop}
    (hguard : guard log (.query conn (.insertPairingCode new)))
    (hpost : ∀ row, post row (log ++ [⟨.query conn (.insertPairingCode new), .ok ()⟩] ++
      [⟨.query conn (.findPairingCode new.id), .ok (some row)⟩])) :
    Obeys guard (insertPairingCode conn new) post log := by
  refine insertReturning (query hguard fun _ => read rfl fun row => ?_)
  rintro row' rfl
  exact hpost row'

theorem insertRecoveryCode {conn : Conn} {new : RecoveryCode} {post : RecoveryCode → Log → Prop}
    (hguard : guard log (.query conn (.insertRecoveryCode new)))
    (hpost : ∀ row, post row (log ++ [⟨.query conn (.insertRecoveryCode new), .ok ()⟩] ++
      [⟨.query conn (.findRecoveryCode new.id), .ok (some row)⟩])) :
    Obeys guard (insertRecoveryCode conn new) post log := by
  refine insertReturning (query hguard fun _ => read rfl fun row => ?_)
  rintro row' rfl
  exact hpost row'

theorem insertRefreshToken {conn : Conn} {new : RefreshToken} {post : RefreshToken → Log → Prop}
    (hguard : guard log (.query conn (.insertRefreshToken new)))
    (hpost : ∀ row, post row (log ++ [⟨.query conn (.insertRefreshToken new), .ok ()⟩] ++
      [⟨.query conn (.findRefreshToken new.id), .ok (some row)⟩])) :
    Obeys guard (insertRefreshToken conn new) post log := by
  refine insertReturning (query hguard fun _ => read rfl fun row => ?_)
  rintro row' rfl
  exact hpost row'

theorem withTransaction {body : ServerTry α} {post : α → Log → Prop}
    (hbody : Obeys guard body (fun value log' => guard log' .commit ∧
      post value (log' ++ [⟨.commit, .ok ()⟩])) (log ++ [⟨.begin, .ok ()⟩])) :
    Obeys guard (withTransaction body) post log := by
  refine Handles.withTransaction (fun _ => trivial) (hbody.mono fun value log' hvalue => ?_)
  exact ⟨hvalue.1, hvalue.2, fun _ => trivial⟩

end Obeys

theorem Handles.run {ext : Externals} {call : Call} {guard : Log → ServerRequest → Prop}
    (h : Handles guard (handle ext call) (fun response log => guard log (.respond response))
      (fun error log => guard log (.respond error.intoResponse)) []) :
    (call.run ext).Ensures guard Prog.heard (fun _ _ => True) [] := by
  refine Prog.ensures_bind.mpr (Prog.ensures_bind.mpr (Prog.Ensures.mono h ?_))
  intro result log' hresult
  cases result <;> exact ⟨hresult, fun _ _ _ => trivial⟩

theorem Obeys.run {ext : Externals} {call : Call} {guard : Log → ServerRequest → Prop}
    (h : Obeys guard (handle ext call) (fun _ _ => True) [])
    (hrespond : ∀ log response, guard log (.respond response)) :
    (call.run ext).Ensures guard Prog.heard (fun _ _ => True) [] := by
  exact Handles.run (Handles.mono h (fun _ _ _ => hrespond _ _) fun _ _ _ => hrespond _ _)

end Failsafe.Server
