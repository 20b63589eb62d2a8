import Failsafe.Send.ReceiveDir

/-!
A daemon that stops at any point and starts again with its state files, and the directories
that it exports a transfer into over all its runs.
-/

namespace Failsafe.Send

open Failsafe.Core Failsafe.Clipboard Failsafe.Lib

/-- What a daemon that stopped starts again with: its files, and what it has done. -/
def Daemon.reboot (daemon : Daemon) : Daemon :=
  { Daemon.empty with
    receiveFiles := daemon.receiveFiles
    sendFiles := daemon.sendFiles
    exports := daemon.exports
    removedReceives := daemon.removedReceives
    outbox := daemon.outbox
    controlEvents := daemon.controlEvents }

/-- Runs of a daemon, one after the other; each may stop anywhere. -/
inductive Lives (config : DaemonConfig) :
    Daemon → List (List (Label SendSig TaskId DaemonEvent)) → Daemon → Prop
  | nil {daemon : Daemon} : Lives config daemon [] daemon
  | snoc {first middle : Daemon} {lives : List (List (Label SendSig TaskId DaemonEvent))}
      {labels : List (Label SendSig TaskId DaemonEvent)} {pool : Pool SendSig TaskId Daemon} :
      Lives config first lives middle →
      (daemonWorld config).Run (fun _ _ => True) (idle middle.reboot) labels pool →
      Lives config first (lives ++ [labels]) pool.state

def Daemon.ExportedTo (daemon : Daemon) (transferId : Uuid) (dir : String) : Prop :=
  ∃ call ∈ daemon.exports, call.transferId = transferId ∧ call.destDir = dir

def Daemon.OneDirectory (daemon : Daemon) (transferId : Uuid) : Prop :=
  ∀ dir dir', daemon.ExportedTo transferId dir → daemon.ExportedTo transferId dir' → dir = dir'

/-- What `receive_dir` read for an export that a step begins. -/
def readingAt (transferId : Uuid) (before : List (Label SendSig TaskId DaemonEvent)) :
    Label SendSig TaskId DaemonEvent → Option DirReading
  | .call task (.exportCollection exported _ _) _ =>
      if exported = transferId then lastReading (trace task before) else none
  | _ => none

theorem readingAt_export (transferId : Uuid)
    (before : List (Label SendSig TaskId DaemonEvent)) (task : TaskId) (exported : Uuid)
    (root destDir : String)
    (response : SendRequest.Response (.exportCollection exported root destDir)) :
    readingAt transferId before (.call task (.exportCollection exported root destDir) response) =
      if exported = transferId then lastReading (trace task before) else none := rfl

def readingsFrom (transferId : Uuid) (before : List (Label SendSig TaskId DaemonEvent)) :
    List (Label SendSig TaskId DaemonEvent) → List DirReading
  | [] => []
  | label :: labels =>
      (readingAt transferId before label).toList ++
        readingsFrom transferId (before ++ [label]) labels

/-- What `receive_dir` read for the exports of a transfer in a run. -/
def exportReadings (transferId : Uuid) (labels : List (Label SendSig TaskId DaemonEvent)) :
    List DirReading :=
  readingsFrom transferId [] labels

theorem exportReadings_snoc (transferId : Uuid)
    (labels : List (Label SendSig TaskId DaemonEvent))
    (label : Label SendSig TaskId DaemonEvent) :
    exportReadings transferId (labels ++ [label]) =
      exportReadings transferId labels ++ (readingAt transferId labels label).toList := by
  have hfrom : ∀ before, readingsFrom transferId before (labels ++ [label]) =
      readingsFrom transferId before labels ++
        (readingAt transferId (before ++ labels) label).toList := by
    induction labels with
    | nil => intro before; simp [readingsFrom]
    | cons first labels ih => intro before; simp [readingsFrom, ih]
  exact hfrom []

section Tasks

variable {transferId : Uuid} {history : List (Exchange SendSig)}

theorem kind_ensures {kind : SendRequest → Prop} {α : Type} {p : SendProg α}
    (hp : p.All kind) (hkind : ∀ request, kind request → request.Undirected) :
    p.Ensures (DirGuard transferId) Prog.heard (fun _ _ => True) history :=
  (undirected_ensures (hp.mono hkind)).mono fun _ _ _ => trivial

theorem started_ensures {config : DaemonConfig} {event : DaemonEvent}
    {daemon daemon' : Daemon} {task : TaskId} {program : SendProg Unit}
    (h : event.apply config daemon = some (daemon', some (task, program))) :
    program.Ensures (DirGuard transferId) Prog.heard (fun _ _ => True) [] := by
  rcases DaemonEvent.started_cases h with
    ⟨sender, payload, rfl⟩ | rfl | ⟨request, turns, rfl⟩ | rfl | ⟨child, -, turns, rfl⟩
  · exact Prog.ensures_bind.mpr (handleTransfer_ensures _ _ _)
  · exact resumeIncompleteReceives_ensures _
  · refine kind_ensures (inSession_handleSendFiles _ _ _) fun request hkind => ?_
    cases request <;> first | exact hkind.elim | trivial
  · refine kind_ensures cancelling_handleCancelAll fun request hkind => ?_
    cases request <;> first | exact hkind.elim | trivial
  · refine kind_ensures (watching_disconnectWatcher _ turns) fun request hkind => ?_
    cases request <;> first | exact hkind.elim | trivial

end Tasks

section Steps

variable {daemon daemon' : Daemon} {transferId : Uuid}

/-- No export is made, and no state file is written. -/
structure NoNewDir (daemon daemon' : Daemon) : Prop where
  exports : daemon'.exports = daemon.exports
  files : ∀ filed state, daemon'.receiveFiles.lookup filed = some state →
    daemon.receiveFiles.lookup filed = some state

theorem NoNewDir.of_same (h : SameReceiving daemon daemon') : NoNewDir daemon daemon' :=
  ⟨h.exports, fun _ _ hlookup => h.receiveFiles ▸ hlookup⟩

theorem perform_undirected {task : TaskId} {request : SendRequest}
    {response : request.Response} (hundirected : request.Undirected)
    (h : Daemon.perform task request response daemon = some daemon') :
    NoNewDir daemon daemon' := by
  by_cases hquiet : request.Quiet
  · exact .of_same (Daemon.perform_quiet hquiet h)
  · cases request with
    | saveReceiveState | exportCollection => exact hundirected.elim
    | removeReceiveState removed =>
        obtain rfl := Option.some.inj h
        cases response with
        | error error => exact ⟨rfl, fun _ _ hlookup => hlookup⟩
        | ok _ =>
            simp only [Daemon.removeReceive]
            split
            · refine ⟨rfl, fun filed state hlookup => ?_⟩
              by_cases hfiled : filed = removed
              · subst hfiled
                simp at hlookup
              · exact (AList.lookup_erase_ne hfiled).symm.trans hlookup
            · exact ⟨rfl, fun _ _ hlookup => hlookup⟩
    | lockEntry | lockAcquire =>
        obtain ⟨locks, -, rfl⟩ := Option.map_eq_some_iff.mp h
        exact ⟨rfl, fun _ _ hlookup => hlookup⟩
    | lockRelease | removeUnusedEntry | dropLock =>
        obtain rfl := Option.some.inj h
        exact ⟨rfl, fun _ _ hlookup => hlookup⟩
    | _ => exact absurd trivial hquiet

theorem event_undirected {config : DaemonConfig} {event : DaemonEvent}
    {started : Option (TaskId × SendProg Unit)}
    (h : event.apply config daemon = some (daemon', started)) : NoNewDir daemon daemon' := by
  have hrefl : NoNewDir daemon daemon := ⟨rfl, fun _ _ hlookup => hlookup⟩
  cases event with
  | receive task sender envelope receipt =>
      obtain ⟨rfl, -⟩ := Prod.mk.inj (Option.some.inj h)
      exact .of_same (daemon.receive_cases config.limits sender envelope receipt).1
  | chunkTimeout timed =>
      simp only [DaemonEvent.apply, Option.ite_none_right_eq_some, Option.some.injEq,
        Prod.mk.injEq] at h
      obtain ⟨-, rfl, -⟩ := h
      exact ⟨rfl, fun _ _ hlookup => hlookup⟩
  | resumePass | sendFiles | cancelAll =>
      obtain ⟨rfl, -⟩ := Prod.mk.inj (Option.some.inj h)
      exact hrefl
  | watch task turns =>
      simp only [DaemonEvent.apply] at h
      split at h
      · cases h
      · obtain ⟨rfl, -⟩ := Prod.mk.inj (Option.some.inj h)
        exact ⟨rfl, fun _ _ hlookup => hlookup⟩

theorem Daemon.ExportedTo.mono {dir : String} (h : daemon.ExportedTo transferId dir)
    (hexports : daemon.exports <+: daemon'.exports) : daemon'.ExportedTo transferId dir := by
  obtain ⟨call, hmem, hcall⟩ := h
  exact ⟨call, hexports.subset hmem, hcall⟩

theorem exportedTo_iff_of_eq (hexports : daemon'.exports = daemon.exports) (dir : String) :
    daemon'.ExportedTo transferId dir ↔ daemon.ExportedTo transferId dir := by
  rw [Daemon.ExportedTo, Daemon.ExportedTo, hexports]

theorem exportedTo_exported {exported : Uuid} {root destDir dir : String} {ok : Bool} :
    (daemon.exported exported root destDir ok).ExportedTo transferId dir ↔
      daemon.ExportedTo transferId dir ∨ exported = transferId ∧ destDir = dir := by
  constructor
  · rintro ⟨call, hmem, hcall⟩
    rcases List.mem_append.mp hmem with hmem | hmem
    · exact .inl ⟨call, hmem, hcall⟩
    · obtain rfl := List.mem_singleton.mp hmem
      exact .inr hcall
  · rintro (h | hcall)
    · exact h.mono (List.prefix_append _ _)
    · exact ⟨_, List.mem_append_right _ (List.mem_singleton.mpr rfl), hcall⟩

/-- The directories that state files name are those of exports. -/
def Daemon.Remembers (daemon : Daemon) (transferId : Uuid) : Prop :=
  ∀ filed state dir, daemon.receiveFiles.lookup filed = some state →
    state.transferId = transferId → state.receiveDir = some dir →
    daemon.ExportedTo transferId dir

theorem Daemon.Remembers.noNewDir (h : daemon.Remembers transferId)
    (hnone : NoNewDir daemon daemon') : daemon'.Remembers transferId := by
  intro filed state dir hlookup hid hdir
  exact (exportedTo_iff_of_eq hnone.exports dir).mpr
    (h filed state dir (hnone.files _ _ hlookup) hid hdir)

theorem exportedTo_of_heard {task : TaskId} {request : SendRequest}
    {response : request.Response} {history : List (Exchange SendSig)} {dir : String}
    (hfiles : daemon.Remembers transferId)
    (hperform : Daemon.perform task request response daemon = some daemon')
    (hheard : DirHeard transferId (history ++ [⟨request, response⟩]) dir) :
    DirHeard transferId history dir ∨ daemon.ExportedTo transferId dir := by
  obtain ⟨filed, state, hread, hid, hdir⟩ := hheard
  have hlooked : ∀ {read : ReceiveTransferState},
      Daemon.readFile daemon.receiveFiles filed (.ok read) = true →
        daemon.receiveFiles.lookup filed = some read := fun h => of_decide_eq_true h
  rcases hread with hmem | hmem
  · rcases List.mem_append.mp hmem with hmem | hmem
    · exact .inl ⟨filed, state, .inl hmem, hid, hdir⟩
    · cases List.mem_singleton.mp hmem
      have hfile := (Option.ite_none_right_eq_some.mp hperform).1
      exact .inr (hfiles filed state dir (hlooked hfile) hid hdir)
  · rcases List.mem_append.mp hmem with hmem | hmem
    · exact .inl ⟨filed, state, .inr hmem, hid, hdir⟩
    · cases List.mem_singleton.mp hmem
      have hfile := (Option.ite_none_right_eq_some.mp hperform).1
      exact .inr (hfiles filed state dir (hlooked hfile) hid hdir)

end Steps

section Runs

/-- What is known of the directories of a transfer in the course of a run. -/
structure Directed (transferId : Uuid) (start : Daemon)
    (labels : List (Label SendSig TaskId DaemonEvent)) (daemon : Daemon) : Prop where
  files : daemon.Remembers transferId
  heard : ∀ task dir, DirHeard transferId (trace task labels) dir →
    daemon.ExportedTo transferId dir
  asked : ∀ task dir, DirExported transferId (trace task labels) dir →
    daemon.ExportedTo transferId dir
  exported : ∀ dir, daemon.ExportedTo transferId dir ↔ start.ExportedTo transferId dir ∨
    ∃ reading ∈ exportReadings transferId labels, reading.path transferId = dir

variable {transferId : Uuid} {start daemon daemon' : Daemon}
  {labels : List (Label SendSig TaskId DaemonEvent)}

theorem Directed.nil (h : start.Remembers transferId) : Directed transferId start [] start where
  files := h
  heard := by
    rintro task dir ⟨_, _, hmem | hmem, -⟩ <;> exact absurd hmem (List.not_mem_nil)
  asked := by
    rintro task dir ⟨_, _, hmem⟩
    exact absurd hmem (List.not_mem_nil)
  exported dir := by simp [exportReadings, readingsFrom]

theorem Directed.event (h : Directed transferId start labels daemon) {event : DaemonEvent}
    (hnone : NoNewDir daemon daemon') :
    Directed transferId start (labels ++ [.event event]) daemon' := by
  refine ⟨h.files.noNewDir hnone, ?_, ?_, fun dir => ?_⟩
  · intro task dir hheard
    rw [trace_snoc_event] at hheard
    exact (exportedTo_iff_of_eq hnone.exports dir).mpr (h.heard task dir hheard)
  · intro task dir hasked
    rw [trace_snoc_event] at hasked
    exact (exportedTo_iff_of_eq hnone.exports dir).mpr (h.asked task dir hasked)
  · rw [exportedTo_iff_of_eq hnone.exports, h.exported, exportReadings_snoc]
    simp [readingAt]

section Calls

variable {task : TaskId} {request : SendRequest} {response : request.Response}

theorem Directed.perform_files (h : Directed transferId start labels daemon)
    (hguard : DirGuard transferId (trace task labels) request)
    (hperform : Daemon.perform task request response daemon = some daemon') :
    daemon'.Remembers transferId ∧ daemon.exports <+: daemon'.exports := by
  by_cases hundirected : request.Undirected
  · have hnone := perform_undirected hundirected hperform
    exact ⟨h.files.noNewDir hnone, hnone.exports ▸ List.prefix_rfl⟩
  · cases request with
    | saveReceiveState state =>
        obtain rfl := Option.some.inj hperform
        cases response with
        | error error => exact ⟨h.files, List.prefix_rfl⟩
        | ok _ =>
            refine ⟨fun filed found dir hlookup hid hdir => ?_, List.prefix_rfl⟩
            by_cases hfiled : filed = state.transferId
            · subst hfiled
              have hfound : some state = some found :=
                (AList.lookup_insert daemon.receiveFiles).symm.trans hlookup
              obtain rfl := Option.some.inj hfound
              rcases hguard dir hid hdir with hheard | hasked
              · exact h.heard task dir hheard
              · exact h.asked task dir hasked
            · have hkept : daemon.receiveFiles.lookup filed = some found :=
                (AList.lookup_insert_ne hfiled).symm.trans hlookup
              exact h.files filed found dir hkept hid hdir
    | exportCollection exported root destDir =>
        obtain rfl := Option.some.inj hperform
        refine ⟨fun filed found dir hlookup hid hdir => ?_, List.prefix_append _ _⟩
        exact (h.files filed found dir hlookup hid hdir).mono (List.prefix_append _ _)
    | _ => exact absurd trivial hundirected

theorem Directed.perform_exported (h : Directed transferId start labels daemon)
    (hguard : DirGuard transferId (trace task labels) request)
    (hperform : Daemon.perform task request response daemon = some daemon') (dir : String) :
    daemon'.ExportedTo transferId dir ↔ daemon.ExportedTo transferId dir ∨
      ∃ reading ∈ readingAt transferId labels (.call task request response),
        reading.path transferId = dir := by
  by_cases hundirected : request.Undirected
  · rw [exportedTo_iff_of_eq (perform_undirected hundirected hperform).exports]
    cases request with
    | exportCollection => exact hundirected.elim
    | _ => simp [readingAt]
  · cases request with
    | saveReceiveState state =>
        obtain rfl := Option.some.inj hperform
        rw [exportedTo_iff_of_eq (by cases response <;> rfl)]
        simp [readingAt]
    | exportCollection exported root destDir =>
        obtain rfl := Option.some.inj hperform
        rw [exportedTo_exported]
        have hat := readingAt_export transferId labels task exported root destDir response
        by_cases hexported : exported = transferId
        · have hsource := hguard hexported
          rw [if_pos hexported] at hat
          rw [hat]
          cases hreading : lastReading (trace task labels) with
          | some reading =>
              rw [hreading] at hsource
              simp [hexported, show destDir = reading.path transferId from hsource]
          | none =>
              rw [hreading] at hsource
              have hbefore := h.heard task destDir hsource
              constructor
              · rintro (hdir | ⟨-, rfl⟩)
                · exact .inl hdir
                · exact .inl hbefore
              · rintro (hdir | ⟨_, hnone, -⟩)
                · exact .inl hdir
                · cases hnone
        · rw [if_neg hexported] at hat
          rw [hat]
          simp [hexported]
    | _ => exact absurd trivial hundirected

theorem Directed.call (h : Directed transferId start labels daemon)
    (hguard : DirGuard transferId (trace task labels) request)
    (hperform : Daemon.perform task request response daemon = some daemon') :
    Directed transferId start (labels ++ [.call task request response]) daemon' := by
  obtain ⟨hfiles, hgrown⟩ := h.perform_files hguard hperform
  refine ⟨hfiles, fun other dir hheard => ?_, fun other dir hasked => ?_, fun dir => ?_⟩
  · by_cases hother : task = other
    · subst hother
      rw [trace_snoc_self (S := SendSig) task request response] at hheard
      rcases exportedTo_of_heard h.files hperform hheard with hold | hnew
      · exact (h.heard task dir hold).mono hgrown
      · exact hnew.mono hgrown
    · rw [trace_snoc_of_ne (S := SendSig) hother request response] at hheard
      exact (h.heard other dir hheard).mono hgrown
  · by_cases hother : task = other
    · subst hother
      rw [trace_snoc_self (S := SendSig) task request response] at hasked
      obtain ⟨root, told, hmem⟩ := hasked
      rcases List.mem_append.mp hmem with hmem | hmem
      · exact (h.asked task dir ⟨root, told, hmem⟩).mono hgrown
      · cases List.mem_singleton.mp hmem
        obtain rfl := Option.some.inj hperform
        exact exportedTo_exported.mpr (.inr ⟨rfl, rfl⟩)
    · rw [trace_snoc_of_ne (S := SendSig) hother request response] at hasked
      exact (h.asked other dir hasked).mono hgrown
  · rw [h.perform_exported hguard hperform, h.exported, exportReadings_snoc, or_assoc]
    refine or_congr_right ?_
    simp only [List.mem_append, Option.mem_toList, Option.mem_def, or_and_right, exists_or]

end Calls

/-- The directories of a transfer after a run: those from before, and those that `receive_dir`
gave for an export. -/
theorem Directed.run {config : DaemonConfig} {pool : Pool SendSig TaskId Daemon}
    (hfiles : start.Remembers transferId)
    (hrun : (daemonWorld config).Run (fun _ _ => True) (idle start) labels pool) :
    Directed transferId start labels pool.state := by
  have hidle : ∀ task, (idle start).tasks task = none := fun _ => rfl
  induction hrun with
  | nil => exact .nil hfiles
  | @snoc middle last labels label hbefore _ hstep ih =>
      cases label with
      | call task request response =>
          obtain ⟨_, _, _, _, _, hevent, hensures⟩ := hbefore.asked hidle hstep
          have hguard : DirGuard transferId (trace task labels) request :=
            hensures _ _ (started_ensures hevent)
          obtain ⟨_, _, _, hperform, rfl⟩ := World.step_call hstep
          exact ih.call hguard hperform
      | event event =>
          obtain ⟨state, started, hevent, hstarted⟩ := World.step_event hstep
          have hnone := event_undirected hevent
          rcases hstarted with ⟨-, rfl⟩ | ⟨task, program, -, -, rfl⟩
          · exact ih.event hnone
          · exact ih.event hnone

theorem lives_exported {config : DaemonConfig}
    {lives : List (List (Label SendSig TaskId DaemonEvent))}
    (hlives : Lives config start lives daemon) (hfiles : start.Remembers transferId) :
    daemon.Remembers transferId ∧
      ∀ dir, daemon.ExportedTo transferId dir ↔ start.ExportedTo transferId dir ∨
        ∃ reading ∈ lives.flatMap (exportReadings transferId), reading.path transferId = dir := by
  induction hlives with
  | nil => exact ⟨hfiles, by simp⟩
  | @snoc middle lives labels pool hbefore hrun ih =>
      obtain ⟨hmiddle, hexported⟩ := ih
      have hkept : middle.reboot.Remembers transferId := hmiddle
      have hrebooted := Directed.run hkept hrun
      refine ⟨hrebooted.files, fun dir => ?_⟩
      rw [hrebooted.exported, List.flatMap_append, List.flatMap_singleton]
      simp only [List.mem_append, or_and_right, exists_or, ← or_assoc]
      exact or_congr_left (hexported dir)

/-- A transfer keeps to one directory over crashes and restarts, exactly as long as
`receive_dir` gives the same path each time that an export has to ask it. -/
theorem one_directory_iff (config : DaemonConfig) (transferId : Uuid)
    {lives : List (List (Label SendSig TaskId DaemonEvent))} {daemon : Daemon}
    (hlives : Lives config .empty lives daemon) :
    daemon.OneDirectory transferId ↔
      ∀ reading ∈ lives.flatMap (exportReadings transferId),
        ∀ reading' ∈ lives.flatMap (exportReadings transferId),
          reading.path transferId = reading'.path transferId := by
  have hempty : Daemon.empty.Remembers transferId := fun _ _ _ hlookup => nomatch hlookup
  have hexported : ∀ dir, daemon.ExportedTo transferId dir ↔
      ∃ reading ∈ lives.flatMap (exportReadings transferId),
        reading.path transferId = dir := by
    intro dir
    rw [(lives_exported hlives hempty).2]
    exact or_iff_right fun ⟨_, hmem, _⟩ => absurd hmem (List.not_mem_nil)
  constructor
  · intro hone reading hreading reading' hreading'
    exact hone _ _ ((hexported _).mpr ⟨reading, hreading, rfl⟩)
      ((hexported _).mpr ⟨reading', hreading', rfl⟩)
  · intro hsame dir dir' hdir hdir'
    obtain ⟨reading, hreading, rfl⟩ := (hexported dir).mp hdir
    obtain ⟨reading', hreading', rfl⟩ := (hexported dir').mp hdir'
    exact hsame reading hreading reading' hreading'

/-- The runs that scripts stand for, each with its own clock. -/
def followLives : List (String × List (Move TaskId DaemonEvent)) → Daemon →
    Option (List (List (Label SendSig TaskId DaemonEvent)) × Daemon)
  | [], daemon => some ([], daemon)
  | (clock, script) :: scripts, daemon =>
      ((daemonWorld deskConfig).follow (fun _ _ => True)
          (fun _ => Daemon.oblige { laptop with clock }) script (idle daemon.reboot)).bind
        fun (labels, pool) =>
          (followLives scripts pool.state).map fun (lives, last) => (labels :: lives, last)

theorem lives_of_follow {scripts : List (String × List (Move TaskId DaemonEvent))}
    {before lives : List (List (Label SendSig TaskId DaemonEvent))} {middle last : Daemon}
    (hbefore : Lives deskConfig start before middle)
    (h : followLives scripts middle = some (lives, last)) :
    Lives deskConfig start (before ++ lives) last := by
  induction scripts generalizing before middle lives with
  | nil =>
      obtain ⟨rfl, rfl⟩ := Prod.mk.inj (Option.some.inj h)
      rwa [List.append_nil]
  | cons script scripts ih =>
      simp only [followLives, Option.bind_eq_some_iff, Option.map_eq_some_iff, Prod.exists,
        Prod.mk.injEq] at h
      obtain ⟨labels, pool, hfollow, rest, last', hrest, rfl, rfl⟩ := h
      have hlife := ih (.snoc hbefore (World.run_of_follow hfollow)) hrest
      rwa [List.append_assoc] at hlife

/-- A receive that stops while it exports, and the pass that resumes it in the next run. -/
def stopAndResume (clock clock' : String) : List (String × List (Move TaskId DaemonEvent)) :=
  [(clock, .event (.receive 1 ⟨2⟩ (.transfer emptyPayload) none) :: List.replicate 10 (.tick 1)),
    (clock', .event (.resumePass 1) :: List.replicate 14 (.tick 1))]

end Runs

/-- A pass in the same second goes on in the same directory. -/
theorem resumed_at_once :
    ∃ lives daemon, Lives deskConfig .empty lives daemon ∧ daemon.exports.length = 2 ∧
      daemon.OneDirectory 7 := by
  have hsome : (followLives (stopAndResume "20240101-000000" "20240101-000000") .empty).any
      (fun result => result.2.exports.length == 2 &&
        decide (∀ reading ∈ result.1.flatMap (exportReadings 7),
          ∀ reading' ∈ result.1.flatMap (exportReadings 7),
            reading.path 7 = reading'.path 7)) = true := by
    decide +kernel
  obtain ⟨⟨lives, daemon⟩, hfollow, hresult⟩ := (Option.any_eq_true _ _).mp hsome
  simp only [Bool.and_eq_true, beq_iff_eq, decide_eq_true_eq] at hresult
  have hlives := lives_of_follow .nil hfollow
  exact ⟨lives, daemon, hlives, hresult.1, (one_directory_iff deskConfig 7 hlives).mpr hresult.2⟩

/-- A pass a minute later exports into a second directory. -/
theorem resumed_elsewhere :
    ¬∀ config lives daemon transferId, Lives config .empty lives daemon →
      daemon.OneDirectory transferId := by
  intro hall
  have hsome : (followLives (stopAndResume "20240101-000000" "20240101-000100") .empty).any
      (fun result => result.2.exports.map (fun call => (call.transferId, call.destDir)) ==
        [(7, "downloads/laptop/20240101-000000-00000000"),
          (7, "downloads/laptop/20240101-000100-00000000")]) = true := by
    decide +kernel
  obtain ⟨⟨lives, daemon⟩, hfollow, hresult⟩ := (Option.any_eq_true _ _).mp hsome
  have hexports := beq_iff_eq.mp hresult
  have hto : ∀ dir, (7, dir) ∈ daemon.exports.map (fun call => (call.transferId, call.destDir)) →
      daemon.ExportedTo 7 dir := by
    intro dir hmem
    obtain ⟨call, hcall, heq⟩ := List.mem_map.mp hmem
    obtain ⟨hid, hdir⟩ := Prod.mk.inj heq
    exact ⟨call, hcall, hid, hdir⟩
  have hone := hall _ _ _ 7 (lives_of_follow .nil hfollow) _ _
    (hto "downloads/laptop/20240101-000000-00000000" (by rw [hexports]; simp))
    (hto "downloads/laptop/20240101-000100-00000000" (by rw [hexports]; simp))
  exact absurd hone (by decide)

end Failsafe.Send
