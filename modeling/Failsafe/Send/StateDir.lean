import Failsafe.Lib.Trace
import Failsafe.Send.Control
import Failsafe.Send.StateFile

/-!
Directories of state files: `list_incomplete_sends` and `list_incomplete_receives`
(`failsafe-send/src/transfer_state.rs`), and the passes over what they return.
-/

namespace Failsafe.Send

open Failsafe.Core Failsafe.Clipboard Failsafe.Lib

/-- The bytes of a file name. -/
abbrev FileName := List UInt8

/-- `Path::extension`: what follows the last dot, unless that is the first character. -/
def FileName.extension (name : FileName) : Option (List UInt8) :=
  let dot : UInt8 := 46
  if name = [dot, dot] then none
  else
    match name.reverse.dropWhile (· ≠ dot) with
    | [] => none
    | _ :: before =>
        if before = [] then none else some (name.reverse.takeWhile (· ≠ dot)).reverse

def FileName.isJson (name : FileName) : Bool :=
  name.extension = some "json".toUTF8.toList

/-- A directory while it is listed: whether it is there and can be opened, what `next_entry`
gives in turn, and what reading a file gives when its turn comes. -/
structure StateDir (State : Type) where
  exists_ : Bool
  opened : Except String Unit
  entries : List (Except String FileName)
  read : FileName → Except String State

namespace StateDir

variable {State : Type}

/-- The loop of `list_incomplete_sends` and its sibling. -/
def readEntries (noun : String) (complete : State → Bool) (dir : StateDir State) :
    List (Except String FileName) → Except String (List State)
  | [] => .ok []
  | .error error :: _ => .error s!"failed to read {noun} transfer entry: {error}"
  | .ok name :: entries =>
      if name.isJson then do
        let state ← dir.read name
        let states ← dir.readEntries noun complete entries
        return if complete state then states else state :: states
      else dir.readEntries noun complete entries

def listIncomplete (noun : String) (complete : State → Bool) (dir : StateDir State) :
    Except String (List State) :=
  if dir.exists_ then
    match dir.opened with
    | .error error => .error s!"failed to read {noun} transfer dir: {error}"
    | .ok () => dir.readEntries noun complete dir.entries
  else .ok []

def listIncompleteSends (dir : StateDir SendTransferState) :
    Except String (List SendTransferState) :=
  dir.listIncomplete "send" fun state => state.stage = .complete

def listIncompleteReceives (dir : StateDir ReceiveTransferState) :
    Except String (List ReceiveTransferState) :=
  dir.listIncomplete "receive" fun state => state.stage = .complete

/-- The directory has a well-formed file of an incomplete transfer. -/
def Has (complete : State → Bool) (dir : StateDir State) (state : State) : Prop :=
  dir.exists_ = true ∧ complete state = false ∧
    ∃ name, .ok name ∈ dir.entries ∧ name.isJson = true ∧ dir.read name = .ok state

/-- `next_entry` gives a name, and what has to be read can be. -/
def Reads (dir : StateDir State) (entry : Except String FileName) : Prop :=
  ∃ name, entry = .ok name ∧ (name.isJson = true → ∃ state, dir.read name = .ok state)

/-- Nothing goes wrong on the way through the directory. -/
def Readable (dir : StateDir State) : Prop :=
  dir.opened = .ok () ∧ ∀ entry ∈ dir.entries, dir.Reads entry

variable {noun : String} {complete : State → Bool} {dir : StateDir State}

theorem readEntries_ok {entries : List (Except String FileName)}
    (hreads : ∀ entry ∈ entries, dir.Reads entry) :
    ∃ states, dir.readEntries noun complete entries = .ok states ∧
      ∀ state name, complete state = false → .ok name ∈ entries → name.isJson = true →
        dir.read name = .ok state → state ∈ states := by
  induction entries with
  | nil => exact ⟨[], rfl, by simp⟩
  | cons entry entries ih =>
      obtain ⟨states, hstates, hmem⟩ := ih fun other h => hreads other (List.mem_cons_of_mem _ h)
      obtain ⟨name, rfl, hread⟩ := hreads entry List.mem_cons_self
      cases hjson : name.isJson with
      | false =>
          refine ⟨states, by simpa [readEntries, hjson] using hstates, ?_⟩
          intro state other hcomplete hother hother' hstate
          rcases List.mem_cons.mp hother with hsame | hother
          · obtain rfl := Except.ok.inj hsame
            exact absurd hother' (by simp [hjson])
          · exact hmem state other hcomplete hother hother' hstate
      | true =>
          obtain ⟨first, hfirst⟩ := hread hjson
          have hlist : dir.readEntries noun complete (.ok name :: entries) =
              .ok (if complete first then states else first :: states) := by
            rw [readEntries, if_pos hjson, hfirst, hstates]
            rfl
          refine ⟨_, hlist, ?_⟩
          intro state other hcomplete hother hother' hstate
          rcases List.mem_cons.mp hother with hsame | hother
          · obtain rfl := Except.ok.inj hsame
            obtain rfl := Except.ok.inj (hfirst.symm.trans hstate)
            simp [hcomplete]
          · have hkept := hmem state other hcomplete hother hother' hstate
            split
            · exact hkept
            · exact List.mem_cons_of_mem _ hkept

theorem readEntries_error {entries : List (Except String FileName)}
    {entry : Except String FileName} (hmem : entry ∈ entries) (hreads : ¬dir.Reads entry) :
    ∃ error, dir.readEntries noun complete entries = .error error := by
  induction entries with
  | nil => cases hmem
  | cons first entries ih =>
      rcases first with error | name
      · exact ⟨_, rfl⟩
      · have hrest : .ok name ≠ entry →
            ∃ error, dir.readEntries noun complete entries = .error error := by
          intro hne
          exact ih ((List.mem_cons.mp hmem).resolve_left hne.symm)
        cases hjson : name.isJson with
        | false =>
            have hne : .ok name ≠ entry := by
              rintro rfl
              exact hreads ⟨name, rfl, fun h => absurd h (by simp [hjson])⟩
            rw [readEntries, if_neg (by simp [hjson])]
            exact hrest hne
        | true =>
            rw [readEntries, if_pos hjson]
            cases hread : dir.read name with
            | error error => exact ⟨error, rfl⟩
            | ok state =>
                have hne : .ok name ≠ entry := by
                  rintro rfl
                  exact hreads ⟨name, rfl, fun _ => ⟨state, hread⟩⟩
                obtain ⟨error, herror⟩ := hrest hne
                rw [herror]
                exact ⟨error, rfl⟩

/-- Every transfer that the directory has a file of is listed. -/
def Lists (noun : String) (complete : State → Bool) (dir : StateDir State) : Prop :=
  ∀ state, dir.Has complete state →
    ∃ states, dir.listIncomplete noun complete = .ok states ∧ state ∈ states

theorem lists_iff : dir.Lists noun complete ↔ dir.Readable ∨ ¬∃ state, dir.Has complete state := by
  constructor
  · intro hlists
    by_contra hnot
    obtain ⟨hunreadable, hhas⟩ := not_or.mp hnot
    obtain ⟨state, hstate⟩ := not_not.mp hhas
    obtain ⟨states, hlisted, -⟩ := hlists state hstate
    rw [listIncomplete, if_pos hstate.1] at hlisted
    split at hlisted
    · cases hlisted
    · next hopened =>
        refine hunreadable ⟨hopened, fun entry hmem => ?_⟩
        by_contra hreads
        obtain ⟨error, herror⟩ := @readEntries_error _ noun complete _ _ _ hmem hreads
        rw [herror] at hlisted
        cases hlisted
  · rintro (⟨hopened, hreads⟩ | hnone) state hstate
    · obtain ⟨states, hstates, hmem⟩ := @readEntries_ok _ noun complete _ _ hreads
      obtain ⟨hexists, hcomplete, name, hname, hjson, hread⟩ := hstate
      refine ⟨states, ?_, hmem state name hcomplete hname hjson hread⟩
      rw [listIncomplete, if_pos hexists, hopened]
      exact hstates
    · exact absurd ⟨state, hstate⟩ hnone

end StateDir

/-- `cancel_all_incomplete_sends` after its listing. -/
def cancelListedSends (listed : Except String (List SendTransferState)) :
    SendTry String Nat := do
  let states ← .mk (.ret listed)
  cancelSends states
  cancelWaiters (← pendingWaiters)
  return states.length

def cancelListedReceives (listed : Except String (List ReceiveTransferState)) :
    SendTry String Nat := do
  let states ← .mk (.ret listed)
  removeReceives states
  return states.length

/-- `resume_incomplete_receives` after its listing. -/
def resumeReceives (limits : ClipboardLimits) :
    Except String (List ReceiveTransferState) → SendProg Unit
  | .error _ => return ()
  | .ok [] => return ()
  | .ok states => do
      let connected ← connectedPeers
      resumeEach limits connected states

theorem cancelAllIncompleteSends_eq : cancelAllIncompleteSends.run =
    listIncompleteSends.run >>= fun listed => (cancelListedSends listed).run := by
  rw [cancelAllIncompleteSends, ExceptT.run_bind]
  rfl

theorem cancelAllIncompleteReceives_eq : cancelAllIncompleteReceives.run =
    listIncompleteReceives.run >>= fun listed => (cancelListedReceives listed).run := by
  rw [cancelAllIncompleteReceives, ExceptT.run_bind]
  rfl

theorem resumeIncompleteReceives_eq (limits : ClipboardLimits) :
    resumeIncompleteReceives limits =
      listIncompleteReceives.run >>= resumeReceives limits := by
  rw [resumeIncompleteReceives]
  congr 1

/-- Files that were listed can be removed, and these devices are connected. -/
def passing (connected : List DeviceId) :
    (request : SendSig.Request) → SendSig.Response request → Prop
  | .connectedPeers, answer => answer = connected
  | .removeSendState _, (answer : Except String Unit) => answer = .ok ()
  | .removeReceiveState _, (answer : Except String Unit) => answer = .ok ()
  | _, _ => True

/-- The waiter of the transfer is told, and its file is removed. -/
def CancelsSend (transferId : Uuid) (log : List (Exchange SendSig)) : Prop :=
  ⟨.completeWaiter transferId (.error "transfer cancelled"), ()⟩ ∈ log ∧
    ⟨.removeSendState transferId, (.ok () : Except String Unit)⟩ ∈ log

def CancelsReceive (transferId : Uuid) (log : List (Exchange SendSig)) : Prop :=
  ⟨.removeReceiveState transferId, (.ok () : Except String Unit)⟩ ∈ log

/-- The receive is run again, from this state. -/
def ResumesReceive (state : ReceiveTransferState) (log : List (Exchange SendSig)) : Prop :=
  ∃ lock, ⟨.lockAcquire lock (some state), ()⟩ ∈ log

section Passes

variable {connected : List DeviceId} {log : List (Exchange SendSig)}

theorem cancelSends_trace {states : List SendTransferState} {result : Except String Unit}
    (h : Prog.Trace (passing connected) (cancelSends states).run log result) :
    result = .ok () ∧ ∀ state ∈ states, CancelsSend state.transferId log := by
  induction states generalizing log with
  | nil =>
      cases h
      exact ⟨rfl, by simp⟩
  | cons first states ih =>
      obtain ⟨(told : Unit), rest, rfl, -, h⟩ := Prog.Trace.liftAsk_inv h
      obtain ⟨response, rest, rfl, hremoved, h⟩ := Prog.Trace.ask_inv h
      obtain rfl : response = (.ok () : Except String Unit) := hremoved
      obtain ⟨hresult, hrest⟩ := ih h
      refine ⟨hresult, fun state hmem => ?_⟩
      rcases List.mem_cons.mp hmem with rfl | hmem
      · exact ⟨List.mem_cons_self, List.mem_cons_of_mem _ List.mem_cons_self⟩
      · obtain ⟨htold, hgone⟩ := hrest state hmem
        exact ⟨by simp [htold], by simp [hgone]⟩

theorem removeReceives_trace {states : List ReceiveTransferState} {result : Except String Unit}
    (h : Prog.Trace (passing connected) (removeReceives states).run log result) :
    result = .ok () ∧ ∀ state ∈ states, CancelsReceive state.transferId log := by
  induction states generalizing log with
  | nil =>
      cases h
      exact ⟨rfl, by simp⟩
  | cons first states ih =>
      obtain ⟨response, rest, rfl, hremoved, h⟩ := Prog.Trace.ask_inv h
      obtain rfl : response = (.ok () : Except String Unit) := hremoved
      obtain ⟨hresult, hrest⟩ := ih h
      refine ⟨hresult, fun state hmem => ?_⟩
      rcases List.mem_cons.mp hmem with rfl | hmem
      · exact List.mem_cons_self
      · exact List.mem_cons_of_mem _ (hrest state hmem)

theorem resumeReceive_trace {limits : ClipboardLimits} {state : ReceiveTransferState}
    {result : Except String Unit}
    (h : Prog.Trace (passing connected) (resumeReceive limits state).run log result) :
    ResumesReceive state log := by
  obtain ⟨lock, rest, rfl, -, h⟩ := Prog.Trace.ask_inv h
  obtain ⟨body, rest, _, _, rfl, h, -⟩ := Prog.Exec.bind_inv h
  obtain ⟨_, rest, rfl, -, -⟩ := Prog.Trace.ask_inv h
  exact ⟨lock, List.mem_cons_of_mem _ (List.mem_append_left _ List.mem_cons_self)⟩

theorem resumeEach_trace {limits : ClipboardLimits} {states : List ReceiveTransferState}
    (h : Prog.Trace (passing connected) (resumeEach limits connected states) log ()) :
    ∀ state ∈ states, state.sender ∈ connected → ResumesReceive state log := by
  induction states generalizing log with
  | nil => simp
  | cons first states ih =>
      obtain ⟨begun, rest, _, _, rfl, hfirst, hrest⟩ := Prog.Exec.bind_inv h
      intro state hmem hsender
      rcases List.mem_cons.mp hmem with rfl | hmem
      · rw [resumeListed, if_pos hsender] at hfirst
        obtain ⟨received, rest', _, _, rfl, hreceived, -⟩ := Prog.Exec.bind_inv hfirst
        obtain ⟨lock, hlock⟩ := resumeReceive_trace hreceived
        exact ⟨lock, List.mem_append_left _ (List.mem_append_left _ hlock)⟩
      · obtain ⟨lock, hlock⟩ := ih hrest state hmem hsender
        exact ⟨lock, List.mem_append_right _ hlock⟩

end Passes

/-- Every incomplete send with a well-formed file is listed, and cancelled with all others. -/
def SendsIndependent (dir : StateDir SendTransferState) : Prop :=
  ∀ state, dir.Has (fun state => state.stage = .complete) state →
    (∃ states, dir.listIncompleteSends = .ok states ∧ state ∈ states) ∧
    ∀ connected log result, Prog.Trace (passing connected)
      (cancelListedSends dir.listIncompleteSends).run log result →
        CancelsSend state.transferId log

/-- Every incomplete receive with a well-formed file is listed, resumed when its sender is
connected, and cancelled with all others. -/
def ReceivesIndependent (limits : ClipboardLimits) (dir : StateDir ReceiveTransferState) : Prop :=
  ∀ state, dir.Has (fun state => state.stage = .complete) state →
    (∃ states, dir.listIncompleteReceives = .ok states ∧ state ∈ states) ∧
    (∀ connected log, Prog.Trace (passing connected)
      (resumeReceives limits dir.listIncompleteReceives) log () →
        state.sender ∈ connected → ResumesReceive state log) ∧
    ∀ connected log result, Prog.Trace (passing connected)
      (cancelListedReceives dir.listIncompleteReceives).run log result →
        CancelsReceive state.transferId log

theorem sendsIndependent_iff {dir : StateDir SendTransferState} : SendsIndependent dir ↔
    dir.Readable ∨ ¬∃ state, dir.Has (fun state => state.stage = .complete) state := by
  rw [← @StateDir.lists_iff _ "send"]
  refine ⟨fun h state hstate => (h state hstate).1, fun h state hstate => ⟨h state hstate, ?_⟩⟩
  intro connected log result htrace
  obtain ⟨states, hstates, hmem⟩ := h state hstate
  have hlisted : dir.listIncompleteSends = .ok states := hstates
  rw [hlisted] at htrace
  have htrace : Prog.Trace (passing connected) (cancelSends states >>= fun _ =>
      liftM pendingWaiters >>= fun waiters => liftM (cancelWaiters waiters) >>= fun _ =>
        pure states.length : SendTry String Nat).run log result := htrace
  rcases Prog.Trace.tryBind_inv htrace with ⟨error, hfailed, -⟩ | ⟨first, rest, _, rfl, hdone, -⟩
  · cases (cancelSends_trace hfailed).1
  · obtain ⟨htold, hgone⟩ := (cancelSends_trace hdone).2 state hmem
    exact ⟨List.mem_append_left _ htold, List.mem_append_left _ hgone⟩

theorem receivesIndependent_iff (limits : ClipboardLimits)
    {dir : StateDir ReceiveTransferState} : ReceivesIndependent limits dir ↔
      dir.Readable ∨ ¬∃ state, dir.Has (fun state => state.stage = .complete) state := by
  rw [← @StateDir.lists_iff _ "receive"]
  refine ⟨fun h state hstate => (h state hstate).1, fun h state hstate => ?_⟩
  obtain ⟨states, hstates, hmem⟩ := h state hstate
  have hlisted : dir.listIncompleteReceives = .ok states := hstates
  refine ⟨⟨states, hlisted, hmem⟩, ?_, ?_⟩
  · intro connected log htrace hsender
    rw [hlisted] at htrace
    cases states with
    | nil => cases hmem
    | cons first states =>
        obtain ⟨answer, rest, rfl, hconnected, hresumed⟩ := Prog.Trace.ask_inv htrace
        obtain rfl : answer = connected := hconnected
        obtain ⟨lock, hlock⟩ := resumeEach_trace hresumed state hmem hsender
        exact ⟨lock, List.mem_cons_of_mem _ hlock⟩
  · intro connected log result htrace
    rw [hlisted] at htrace
    have htrace : Prog.Trace (passing connected) (removeReceives states >>= fun _ =>
        pure states.length : SendTry String Nat).run log result := htrace
    rcases Prog.Trace.tryBind_inv htrace with ⟨error, hfailed, -⟩ | ⟨first, rest, _, rfl, hdone, -⟩
    · cases (removeReceives_trace hfailed).1
    · exact List.mem_append_left _ ((removeReceives_trace hdone).2 state hmem)

/-- No file hides another transfer exactly if nothing goes wrong on the way through its
directory, or there is nothing to hide. -/
theorem transfers_independent_iff (limits : ClipboardLimits) (sends : StateDir SendTransferState)
    (receives : StateDir ReceiveTransferState) :
    SendsIndependent sends ∧ ReceivesIndependent limits receives ↔
      (sends.Readable ∨ ¬∃ state, sends.Has (fun state => state.stage = .complete) state) ∧
      (receives.Readable ∨
        ¬∃ state, receives.Has (fun state => state.stage = .complete) state) :=
  and_congr sendsIndependent_iff (receivesIndependent_iff limits)

/-- A directory with an empty file beside that of a transfer. -/
def crowded : StateDir SendTransferState :=
  let broken := "0.json".toUTF8.toList
  { exists_ := true
    opened := .ok ()
    entries := [.ok broken, .ok "7.json".toUTF8.toList]
    read := fun name =>
      if name = broken then
        .error "failed to decode transfer state: EOF while parsing a value at line 1 column 0"
      else .ok waitingState }

/-- The empty file hides the transfer. -/
theorem broken_file_hides :
    crowded.Has (fun state => state.stage = .complete) waitingState ∧
      crowded.listIncompleteSends.isOk = false ∧ ¬SendsIndependent crowded := by
  have hhas : crowded.Has (fun state => state.stage = .complete) waitingState :=
    ⟨rfl, rfl, "7.json".toUTF8.toList, by simp [crowded], by decide +kernel, by decide +kernel⟩
  have hlist : crowded.listIncompleteSends.isOk = false := by decide +kernel
  refine ⟨hhas, hlist, fun h => ?_⟩
  obtain ⟨⟨states, hstates, -⟩, -⟩ := h waitingState hhas
  rw [hstates] at hlist
  cases hlist

end Failsafe.Send
