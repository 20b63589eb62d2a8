import Failsafe.Send.Import
import Failsafe.Send.Restart
import Failsafe.Send.TransferSizes

/-!
The progress that a receiver reports: `run_receive` of `failsafe-send/src/feature.rs` over
`download_collection` of `failsafe-transport/src/blobs/iroh.rs`, over all attempts on a transfer.
-/

namespace Failsafe.Send

open Failsafe.Core Failsafe.Clipboard Failsafe.Lib

inductive DownloadProgressItem where
  | progress (bytes : UInt64)
  | downloadError
  | error (message : String)
  | other
deriving DecidableEq, Repr

/-- How the store answers a download, up to the last question that is asked. -/
structure DownloadAnswers where
  parsedHash : Except String Unit
  localBefore : Except String Bool
  provider : Except String Unit
  stream : Except String (List DownloadProgressItem)
  localAfter : Except String Bool

/-- The loop of `download_collection` over the stream. -/
def drainDownload (totalBytes : UInt64) :
    List DownloadProgressItem → List BlobProgress × Except String Unit
  | [] => ([], .ok ())
  | .progress bytes :: items =>
      let (reports, result) := drainDownload totalBytes items
      -- `bytes.min(total_bytes)`
      (⟨if bytes ≤ totalBytes then bytes else totalBytes, totalBytes, none⟩ :: reports, result)
  | .downloadError :: _ => ([], .error (storeError "download failed"))
  | .error message :: _ => ([], .error (storeError message))
  | .other :: items => drainDownload totalBytes items

/-- `download_collection`: the calls of `progress`, and the result. -/
def DownloadAnswers.download (answers : DownloadAnswers) (totalBytes : UInt64) :
    List BlobProgress × Except String Unit :=
  match answers.parsedHash with
  | .error message => ([], .error ("invalid blob hash: " ++ message))
  | .ok () =>
      match answers.localBefore with
      | .error message => ([], .error (storeError message))
      | .ok true => ([⟨totalBytes, totalBytes, none⟩], .ok ())
      | .ok false =>
          match answers.provider with
          | .error message => ([], .error message)
          | .ok () =>
              match answers.stream with
              | .error message => ([], .error (storeError message))
              | .ok items =>
                  match drainDownload totalBytes items with
                  | (reports, .error message) => (reports, .error message)
                  | (reports, .ok ()) =>
                      match answers.localAfter with
                      | .error message => (reports, .error (storeError message))
                      | .ok false =>
                          (reports,
                            .error (storeError "download ended before collection was complete"))
                      | .ok true => (reports ++ [⟨totalBytes, totalBytes, none⟩], .ok ())

/-- The download of the bytes of a collection shows no more than all of them. -/
def BlobProgress.Within (totalBytes : UInt64) (report : BlobProgress) : Prop :=
  report.bytesTotal = totalBytes ∧ report.bytesDone ≤ totalBytes

theorem within_drainDownload (totalBytes : UInt64) (items : List DownloadProgressItem) :
    ∀ report ∈ (drainDownload totalBytes items).1, report.Within totalBytes := by
  induction items with
  | nil => exact nofun
  | cons item items ih =>
      cases item with
      | progress bytes =>
          intro report hreport
          rcases List.mem_cons.mp hreport with rfl | hrest
          · refine ⟨rfl, ?_⟩
            dsimp only
            split
            · assumption
            · exact UInt64.le_refl _
          · exact ih report hrest
      | downloadError => exact nofun
      | error message => exact nofun
      | other => exact ih

theorem DownloadAnswers.within (answers : DownloadAnswers) (totalBytes : UInt64) :
    ∀ report ∈ (answers.download totalBytes).1, report.Within totalBytes := by
  have hlast : BlobProgress.Within totalBytes ⟨totalBytes, totalBytes, none⟩ :=
    ⟨rfl, UInt64.le_refl _⟩
  unfold DownloadAnswers.download
  split
  · exact nofun
  · split
    · exact nofun
    · exact List.forall_mem_singleton.mpr hlast
    · split
      · exact nofun
      · split
        · exact nofun
        · rename_i items _
          have hitems := within_drainDownload totalBytes items
          split
          · rename_i reports message hdrain
            rwa [hdrain] at hitems
          · rename_i reports hdrain
            rw [hdrain] at hitems
            split
            · exact hitems
            · exact hitems
            · exact List.forall_mem_append.mpr ⟨hitems, List.forall_mem_singleton.mpr hlast⟩

/-- The total is that of the entries. -/
def ReceiveTransferState.Tallied (state : ReceiveTransferState) : Prop :=
  state.bytesTotal = Send.bytesTotal state.entries

/-- The state that `run_receive` begins with, if the exchange is its first. -/
def begun : Exchange SendSig → Option ReceiveTransferState
  | ⟨.saveReceiveState state, (.ok () : Except String Unit)⟩ =>
      if state.stage = .downloading then some state else none
  | _ => none

/-- The state of the `run_receive` that a task is in. -/
def receiving (history : List (Exchange SendSig)) : Option ReceiveTransferState :=
  (history.filterMap begun).getLast?

/-- Nothing but the first save of `run_receive` was done. -/
def Begins (history : List (Exchange SendSig)) (state : ReceiveTransferState) : Prop :=
  ∃ before exchange, history = before ++ [exchange] ∧ begun exchange = some state

/-- `run_receive` has made its first report. -/
structure Going (history : List (Exchange SendSig)) (state : ReceiveTransferState) : Prop where
  receiving : receiving history = some state
  begins : ∃ before «to» progress response after,
    history = before ++ ⟨.forwardProgress «to» progress, response⟩ :: after ∧
      Begins before state ∧ ∀ exchange ∈ after, begun exchange = none

/-- What a report has to do with the state of the receive that makes it. -/
def Shows (history : List (Exchange SendSig)) (progress : SendProgress) : Prop :=
  ∃ state : ReceiveTransferState, state.Tallied ∧ progress.bytesTotal = state.bytesTotal ∧
    (Begins history state ∧ progress.bytesDone = state.bytesDone ∨
      Going history state ∧ progress.bytesDone ≤ progress.bytesTotal)

def ReportRule (history : List (Exchange SendSig)) : SendRequest → Prop
  | .saveReceiveState state => state.Tallied
  | .forwardProgress _ progress => Shows history progress
  | _ => True

/-- The state files agree with themselves, and downloads with `download_collection`. -/
def SoundAnswer : Exchange SendSig → Prop
  | ⟨.loadReceiveState _, (.ok state : Except String ReceiveTransferState)⟩ => state.Tallied
  | ⟨.readReceiveState _, (.ok state : Except String ReceiveTransferState)⟩ => state.Tallied
  | ⟨.downloadCollection _ _ totalBytes, answer⟩ =>
      ∃ answers : DownloadAnswers, answers.download totalBytes = answer
  | _ => True

section Programs

variable {history : List (Exchange SendSig)} {state : ReceiveTransferState}

theorem receiving_snoc (history : List (Exchange SendSig)) (exchange : Exchange SendSig) :
    receiving (history ++ [exchange]) = (begun exchange).or (receiving history) := by
  rw [receiving, List.filterMap_append]
  cases hbegun : begun exchange with
  | none => simp [hbegun, receiving]
  | some state => simp [hbegun]

theorem Begins.receiving (h : Begins history state) : receiving history = some state := by
  obtain ⟨before, exchange, rfl, hbegun⟩ := h
  rw [receiving_snoc, hbegun, Option.some_or]

theorem Shows.receiving {progress : SendProgress} (h : Shows history progress) :
    ∃ state, Failsafe.Send.receiving history = some state := by
  obtain ⟨state, -, -, ⟨hbegins, -⟩ | ⟨hgoing, -⟩⟩ := h
  · exact ⟨state, hbegins.receiving⟩
  · exact ⟨state, hgoing.receiving⟩

theorem Going.snoc (h : Going history state) {exchange : Exchange SendSig}
    (hexchange : begun exchange = none) : Going (history ++ [exchange]) state := by
  refine ⟨?_, ?_⟩
  · rw [receiving_snoc, hexchange, Option.none_or]
    exact h.receiving
  · obtain ⟨before, target, progress, response, after, rfl, hbegins, hafter⟩ := h.begins
    refine ⟨before, target, progress, response, after ++ [exchange], by simp, hbegins, ?_⟩
    exact List.forall_mem_append.mpr ⟨hafter, List.forall_mem_singleton.mpr hexchange⟩

theorem Begins.reported (h : Begins history state) (target : DeviceId) (progress : SendProgress)
    (response : Unit) :
    Going (history ++ [⟨.forwardProgress target progress, response⟩]) state := by
  refine ⟨?_, history, target, progress, response, [], rfl, h, nofun⟩
  rw [receiving_snoc]
  exact h.receiving

end Programs

def Daemon.Tallied (daemon : Daemon) : Prop :=
  ∀ filed state, daemon.receiveFiles.lookup filed = some state → state.Tallied

section Runs

variable {config : DaemonConfig} {start daemon daemon' : Daemon}
  {labels : List (Label SendSig TaskId DaemonEvent)} {pool : Pool SendSig TaskId Daemon}

theorem Daemon.Tallied.perform {task : TaskId} {request : SendRequest}
    {response : request.Response} {history : List (Exchange SendSig)} (h : daemon.Tallied)
    (hrule : ReportRule history request)
    (hperform : Daemon.perform task request response daemon = some daemon') :
    daemon'.Tallied := by
  by_cases hundirected : request.Undirected
  · have hnone := perform_undirected hundirected hperform
    exact fun filed state hlookup => h filed state (hnone.files filed state hlookup)
  · cases request with
    | saveReceiveState saved =>
        obtain rfl := Option.some.inj hperform
        cases response with
        | error error => exact h
        | ok _ =>
            intro filed state hlookup
            by_cases hfiled : filed = saved.transferId
            · subst hfiled
              have hsaved : some saved = some state :=
                (AList.lookup_insert daemon.receiveFiles).symm.trans hlookup
              obtain rfl := Option.some.inj hsaved
              exact hrule
            · exact h filed state ((AList.lookup_insert_ne hfiled).symm.trans hlookup)
    | exportCollection exported root destDir =>
        obtain rfl := Option.some.inj hperform
        exact h
    | _ => exact absurd trivial hundirected

theorem Daemon.Tallied.sound {task : TaskId} {request : SendRequest}
    {response : request.Response} (h : daemon.Tallied)
    (hdownload : ∀ peer root totalBytes answer,
      (⟨request, response⟩ : Exchange SendSig) =
          ⟨.downloadCollection peer root totalBytes, answer⟩ →
        ∃ answers : DownloadAnswers, answers.download totalBytes = answer)
    (hperform : Daemon.perform task request response daemon = some daemon') :
    SoundAnswer ⟨request, response⟩ := by
  have hread : ∀ {filed : Uuid} {state : ReceiveTransferState},
      Daemon.readFile daemon.receiveFiles filed (.ok state) = true → state.Tallied :=
    fun hfile => h _ _ (of_decide_eq_true hfile)
  cases request with
  | loadReceiveState filed =>
      cases response with
      | error error => trivial
      | ok state => exact hread (Option.ite_none_right_eq_some.mp hperform).1
  | readReceiveState filed =>
      cases response with
      | error error => trivial
      | ok state => exact hread (Option.ite_none_right_eq_some.mp hperform).1
  | downloadCollection peer root totalBytes => exact hdownload peer root totalBytes response rfl
  | _ => trivial

/-- Every report shows no more than all, and all are the entries of the receive that makes it. -/
def ReportsFit (labels : List (Label SendSig TaskId DaemonEvent)) : Prop :=
  ∀ before task target progress response after,
    labels = before ++ .call task (.forwardProgress target progress) response :: after →
      ∃ state, receiving (trace task before) = some state ∧
        progress.bytesDone ≤ progress.bytesTotal ∧
        progress.bytesTotal.toNat = exactTotal state.entries

theorem ReceiveTransferState.Tallied.exact_iff {state : ReceiveTransferState}
    (h : state.Tallied) :
    state.bytesTotal.toNat = exactTotal state.entries ↔ exactTotal state.entries < 2 ^ 64 := by
  rw [h]
  exact bytesTotal_exact_iff

theorem Begins.unique {history : List (Exchange SendSig)} {state state' : ReceiveTransferState}
    (h : Begins history state) (hreceiving : Failsafe.Send.receiving history = some state') :
    state = state' :=
  Option.some.inj (h.receiving.symm.trans hreceiving)

end Runs

section Attempts

/-- The reports of a run. -/
def shownReports (labels : List (Label SendSig TaskId DaemonEvent)) : List SendProgress :=
  labels.filterMap fun
    | .call _ (.forwardProgress _ progress) _ => some progress
    | _ => none

theorem ReportsFit.shown {labels : List (Label SendSig TaskId DaemonEvent)}
    (h : ReportsFit labels) :
    ∀ progress ∈ shownReports labels, progress.bytesDone ≤ progress.bytesTotal := by
  intro progress hprogress
  obtain ⟨label, hmem, hlabel⟩ := List.mem_filterMap.mp hprogress
  obtain ⟨before, after, hsplit⟩ := List.append_of_mem hmem
  split at hlabel
  · rename_i task target shown response
    obtain rfl := Option.some.inj hlabel
    obtain ⟨-, -, hdone, -⟩ := h before task target shown response after hsplit
    exact hdone
  · cases hlabel

end Attempts

end Failsafe.Send
