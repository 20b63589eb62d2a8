import Failsafe.Lib.Files
import Failsafe.Send.TransferState
import Failsafe.Send.Wire

/-!
Writers of one state file: `write_state` (`failsafe-send/src/transfer_state.rs`) in steps,
for any number of calls at the same time.
-/

namespace Failsafe.Send

open Failsafe.Core Failsafe.Lib

/-- The state file of a transfer, and the name that it is written under first. -/
inductive StatePath where
  | json
  | jsonTmp
deriving DecidableEq

abbrev SaveId := Nat

/-- How far a call of `write_state` is.  `refused` and `broken` are errors, or calls that ended
with the process: the first after all bytes were written, the second before. -/
inductive SavePhase where
  | writing (inode : Inode) (offset : Nat)
  | written
  | saved
  | refused
  | broken
deriving DecidableEq

/-- The temporary file holds all that the call had to write. -/
def SavePhase.complete : SavePhase → Bool
  | .written | .saved | .refused => true
  | .writing _ _ | .broken => false

/-- `write_all` is done when nothing is left. -/
def SavePhase.advance (payload : List UInt8) (inode : Inode) (offset : Nat) : SavePhase :=
  if payload.length ≤ offset then .written else .writing inode offset

/-- What a process that stops leaves of a call. -/
def SavePhase.stop : SavePhase → SavePhase
  | .writing _ _ => .broken
  | .written => .refused
  | phase => phase

/-- The files and the calls; `created` lists the calls that have opened the temporary file, in
that order. -/
structure Saves where
  files : Files StatePath UInt8
  phase : SaveId → Option SavePhase
  created : List SaveId

inductive SaveStep where
  | create (call : SaveId)
  | write (call : SaveId) (count : Nat)
  | fail (call : SaveId)
  | rename (call : SaveId)
  | stop
  | remove
deriving DecidableEq

namespace Saves

def start (files : Files StatePath UInt8) : Saves :=
  { files, phase := fun _ => none, created := [] }

def put (saves : Saves) (call : SaveId) (phase : SavePhase) : Saves :=
  { saves with phase := Function.update saves.phase call (some phase) }

/-- `payload` is what each call is to write, encoded. -/
def step (payload : SaveId → List UInt8) (saves : Saves) : SaveStep → Option Saves
  | .create call =>
      match saves.phase call with
      | none =>
          let (inode, files) := saves.files.create .jsonTmp
          some ({ saves with files, created := saves.created ++ [call] }.put call
            (.advance (payload call) inode 0))
      | some _ => none
  | .write call count =>
      match saves.phase call with
      | some (.writing inode offset) =>
          let bytes := ((payload call).drop offset).take count
          some ({ saves with files := saves.files.writeAt 0 inode offset bytes }.put call
            (.advance (payload call) inode (offset + bytes.length)))
      | _ => none
  -- the directory, the encoder, the open, a write or the rename may fail
  | .fail call =>
      match saves.phase call with
      | none | some (.writing _ _) => some (saves.put call .broken)
      | some .written => some (saves.put call .refused)
      | _ => none
  | .rename call =>
      match saves.phase call with
      | some .written =>
          match saves.files.rename .jsonTmp .json with
          | some files => some ({ saves with files }.put call .saved)
          | none => some (saves.put call .refused)
      | _ => none
  | .stop => some { saves with phase := fun call => (saves.phase call).map SavePhase.stop }
  | .remove => some { saves with files := saves.files.remove .json }

/-- A call opens the temporary file when no other is in the middle of its writes, and renames
it when the call that opened it last has written all of its bytes. -/
def Apart (saves : Saves) : SaveStep → Prop
  | .create _ => ∀ other inode offset, saves.phase other ≠ some (.writing inode offset)
  | .rename _ => ∀ inode owner, saves.files.names .jsonTmp = some inode →
      saves.created.getLast? = some owner → (saves.phase owner).any SavePhase.complete = true
  | _ => True

/-- Runs whose every step meets a condition on the state before it. -/
inductive Run (payload : SaveId → List UInt8) (cond : Saves → SaveStep → Prop) :
    Saves → List SaveStep → Saves → Prop
  | nil {saves : Saves} : Run payload cond saves [] saves
  | snoc {first saves saves' : Saves} {steps : List SaveStep} {next : SaveStep} :
      Run payload cond first steps saves → cond saves next →
      saves.step payload next = some saves' → Run payload cond first (steps ++ [next]) saves'

@[simp] theorem put_files (saves : Saves) (call : SaveId) (phase : SavePhase) :
    (saves.put call phase).files = saves.files := rfl

@[simp] theorem put_created (saves : Saves) (call : SaveId) (phase : SavePhase) :
    (saves.put call phase).created = saves.created := rfl

@[simp] theorem put_phase_self (saves : Saves) (call : SaveId) (phase : SavePhase) :
    (saves.put call phase).phase call = some phase := by
  simp [put]

theorem put_phase_ne (saves : Saves) {call other : SaveId} (hne : other ≠ call)
    (phase : SavePhase) : (saves.put call phase).phase other = saves.phase other := by
  simp [put, hne]

/-- While writes stay apart, the temporary file is what its last writer has come to, and the
state file is complete. -/
structure Sound (payload : SaveId → List UInt8) (earlier : List UInt8 → Prop) (saves : Saves) :
    Prop where
  files : saves.files.Sound
  opened : ∀ call, saves.phase call = some .written → call ∈ saves.created
  writing : ∀ call inode offset, saves.phase call = some (.writing inode offset) →
    saves.files.names .jsonTmp = some inode ∧ saves.created.getLast? = some call ∧
      saves.files.contents inode = (payload call).take offset ∧ offset ≤ (payload call).length
  complete : ∀ inode owner, saves.files.names .jsonTmp = some inode →
    saves.created.getLast? = some owner → (saves.phase owner).any SavePhase.complete = true →
      saves.files.contents inode = payload owner
  saved : ∀ inode, saves.files.names .json = some inode →
    earlier (saves.files.contents inode) ∨
      ∃ call ∈ saves.created, saves.files.contents inode = payload call

variable {payload : SaveId → List UInt8} {earlier : List UInt8 → Prop} {saves saves' : Saves}

theorem sound_start {files : Files StatePath UInt8} (hfiles : files.Sound)
    (hearlier : ∀ inode, files.names .json = some inode → earlier (files.contents inode)) :
    (start files).Sound payload earlier where
  files := hfiles
  opened _ h := by cases h
  writing _ _ _ h := by cases h
  complete _ _ _ h := by cases h
  saved inode h := .inl (hearlier inode h)

theorem advance_written {bytes : List UInt8} {inode : Inode} {offset : Nat}
    (h : SavePhase.complete (.advance bytes inode offset) = true) : bytes.length ≤ offset := by
  rw [SavePhase.advance] at h
  split at h
  · next hdone => exact hdone
  · cases h

theorem advance_writing {bytes : List UInt8} {inode inode' : Inode} {offset offset' : Nat}
    (h : SavePhase.advance bytes inode offset = .writing inode' offset') :
    inode' = inode ∧ offset' = offset ∧ offset ≤ bytes.length := by
  rw [SavePhase.advance] at h
  split at h
  · cases h
  · next hrest =>
      obtain ⟨rfl, rfl⟩ := SavePhase.writing.inj h
      exact ⟨rfl, rfl, (Nat.lt_of_not_le hrest).le⟩

theorem Sound.create (h : saves.Sound payload earlier) {call : SaveId}
    (hapart : saves.Apart (.create call))
    (hstep : saves.step payload (.create call) = some saves') : saves'.Sound payload earlier := by
  simp only [step] at hstep
  split at hstep
  · obtain rfl := Option.some.inj hstep
    have hne : StatePath.json ≠ .jsonTmp := nofun
    have hjson : ∀ inode, saves.files.names .json = some inode →
        inode ≠ (saves.files.create .jsonTmp).1 := fun inode => h.files.create_ne hne
    constructor
    · exact h.files.create .jsonTmp
    · intro other hother
      by_cases hself : other = call
      · simp [hself]
      · rw [put_phase_ne _ hself] at hother
        exact List.mem_append_left _ (h.opened other hother)
    · intro other inode offset hother
      by_cases hself : other = call
      · subst hself
        rw [put_phase_self] at hother
        obtain ⟨rfl, rfl, hle⟩ := advance_writing (Option.some.inj hother)
        refine ⟨Files.create_name, by simp, ?_, hle⟩
        simp [Files.create_contents]
      · rw [put_phase_ne _ hself] at hother
        exact absurd hother (hapart other inode offset)
    · intro inode owner hname howner hcomplete
      obtain rfl : call = owner := by simpa using howner
      rw [put_phase_self] at hcomplete
      have hempty := advance_written hcomplete
      have hinode : (saves.files.create .jsonTmp).2.names .jsonTmp = some inode := hname
      rw [Files.create_name] at hinode
      obtain rfl := Option.some.inj hinode
      rw [put_files, Files.create_contents, if_pos rfl, List.eq_nil_of_length_eq_zero
        (Nat.le_zero.mp hempty)]
    · intro inode hname
      have hname' : (saves.files.create .jsonTmp).2.names .json = some inode := hname
      rw [Files.create_names_ne hne] at hname'
      have hkept : (saves.files.create .jsonTmp).2.contents inode =
          saves.files.contents inode := by
        rw [Files.create_contents, if_neg (hjson inode hname')]
      rw [put_files, hkept]
      refine (h.saved inode hname').imp_right fun ⟨other, hmem, hother⟩ => ⟨other, ?_, hother⟩
      exact List.mem_append_left _ hmem
  · cases hstep

theorem Sound.write (h : saves.Sound payload earlier) {call : SaveId} {count : Nat}
    (hstep : saves.step payload (.write call count) = some saves') :
    saves'.Sound payload earlier := by
  simp only [step] at hstep
  split at hstep
  · next inode offset hphase =>
      obtain rfl := Option.some.inj hstep
      obtain ⟨htemp, hlast, hcontents, hle⟩ := h.writing call inode offset hphase
      -- nobody else writes, and the state file is another file
      have hothers : ∀ other, other ≠ call → ∀ inode' offset',
          saves.phase other ≠ some (.writing inode' offset') := by
        intro other hne inode' offset' hother
        exact hne (Option.some.inj ((h.writing _ _ _ hother).2.1.symm.trans hlast))
      have hwritten : (saves.files.writeAt 0 inode offset
          (((payload call).drop offset).take count)).contents inode =
            (payload call).take (offset + (((payload call).drop offset).take count).length) := by
        rw [Files.writeAt_contents, hcontents, Files.splice_take _ _ hle]
        refine List.take_eq_take_iff.mpr ?_
        simp only [List.length_take, List.length_drop]
        omega
      constructor
      · exact h.files.writeAt _ _ _ _
      · intro other hother
        by_cases hself : other = call
        · subst hself
          exact List.mem_of_getLast? hlast
        · rw [put_phase_ne _ hself] at hother
          exact h.opened other hother
      · intro other inode' offset' hother
        by_cases hself : other = call
        · subst hself
          rw [put_phase_self] at hother
          obtain ⟨rfl, rfl, hle'⟩ := advance_writing (Option.some.inj hother)
          exact ⟨htemp, hlast, hwritten, hle'⟩
        · rw [put_phase_ne _ hself] at hother
          exact absurd hother (hothers other hself inode' offset')
      · intro inode' owner hname howner hcomplete
        obtain rfl : inode = inode' := Option.some.inj (htemp.symm.trans hname)
        obtain rfl : call = owner := Option.some.inj (hlast.symm.trans howner)
        rw [put_phase_self] at hcomplete
        have hdone := advance_written hcomplete
        rw [put_files, hwritten, List.take_of_length_le hdone]
      · intro inode' hname
        have hne : inode' ≠ inode := by
          rintro rfl
          exact nomatch h.files.injective _ _ _ hname htemp
        rw [put_files, Files.writeAt_contents_ne hne]
        exact h.saved inode' hname
  · cases hstep

theorem Sound.put (h : saves.Sound payload earlier) {call : SaveId} {phase : SavePhase}
    (hphase : phase = .broken ∨ phase = .refused ∧ saves.phase call = some .written) :
    (saves.put call phase).Sound payload earlier where
  files := h.files
  opened other hother := by
    by_cases hself : other = call
    · subst hself
      rw [put_phase_self] at hother
      rcases hphase with rfl | ⟨rfl, -⟩ <;> cases hother
    · rw [put_phase_ne _ hself] at hother
      exact h.opened other hother
  writing other inode offset hother := by
    by_cases hself : other = call
    · subst hself
      rw [put_phase_self] at hother
      rcases hphase with rfl | ⟨rfl, -⟩ <;> cases hother
    · rw [put_phase_ne _ hself] at hother
      exact h.writing other inode offset hother
  complete inode owner hname howner hcomplete := by
    refine h.complete inode owner hname howner ?_
    by_cases hself : owner = call
    · subst hself
      rw [put_phase_self] at hcomplete
      rcases hphase with rfl | ⟨rfl, hwritten⟩
      · cases hcomplete
      · rw [hwritten]
        rfl
    · rwa [put_phase_ne _ hself] at hcomplete
  saved := h.saved

theorem Sound.rename (h : saves.Sound payload earlier) {call : SaveId}
    (hapart : saves.Apart (.rename call))
    (hstep : saves.step payload (.rename call) = some saves') :
    saves'.Sound payload earlier := by
  simp only [step] at hstep
  split at hstep
  · next hphase =>
      split at hstep
      · next files hrename =>
          obtain rfl := Option.some.inj hstep
          obtain ⟨inode, htemp, hjson, hcontents, -, hgone, -⟩ := Files.rename_names hrename
          have hgone : files.names .jsonTmp = none := hgone nofun
          -- the last writer is done, so nobody writes
          have hidle : ∀ other inode offset, saves.phase other ≠ some (.writing inode offset) := by
            intro other inode' offset hother
            have hdone := hapart inode other htemp (h.writing _ _ _ hother).2.1
            rw [hother] at hdone
            cases hdone
          constructor
          · exact h.files.rename hrename
          · intro other hother
            by_cases hself : other = call
            · subst hself
              exact h.opened other hphase
            · rw [put_phase_ne _ hself] at hother
              exact h.opened other hother
          · intro other inode' offset hother
            by_cases hself : other = call
            · subst hself
              rw [put_phase_self] at hother
              cases hother
            · rw [put_phase_ne _ hself] at hother
              exact absurd hother (hidle other inode' offset)
          · intro inode' owner hname
            rw [put_files, hgone] at hname
            cases hname
          · intro inode' hname
            rw [put_files, hjson] at hname
            obtain rfl := Option.some.inj hname
            obtain ⟨owner, howner⟩ := Option.isSome_iff_exists.mp
              (List.getLast?_isSome.mpr (List.ne_nil_of_mem (h.opened call hphase)))
            have hcomplete := h.complete inode owner htemp howner (hapart inode owner htemp howner)
            refine .inr ⟨owner, List.mem_of_getLast? howner, ?_⟩
            rw [put_files, hcontents, hcomplete]
      · obtain rfl := Option.some.inj hstep
        exact h.put (.inr ⟨rfl, hphase⟩)
  · cases hstep

theorem Sound.fail (h : saves.Sound payload earlier) {call : SaveId}
    (hstep : saves.step payload (.fail call) = some saves') : saves'.Sound payload earlier := by
  simp only [step] at hstep
  split at hstep
  · obtain rfl := Option.some.inj hstep
    exact h.put (.inl rfl)
  · obtain rfl := Option.some.inj hstep
    exact h.put (.inl rfl)
  · next hphase =>
      obtain rfl := Option.some.inj hstep
      exact h.put (.inr ⟨rfl, hphase⟩)
  · cases hstep

theorem complete_stop (phase : SavePhase) : phase.stop.complete = phase.complete := by
  cases phase <;> rfl

theorem Sound.stop (h : saves.Sound payload earlier) :
    ({ saves with phase := fun call => (saves.phase call).map SavePhase.stop } :
      Saves).Sound payload earlier := by
  refine { h with opened := ?_, writing := ?_, complete := ?_ }
  · intro call hcall
    obtain ⟨phase, -, hstopped⟩ := Option.map_eq_some_iff.mp hcall
    cases phase <;> cases hstopped
  · intro call inode offset hcall
    obtain ⟨phase, -, hstopped⟩ := Option.map_eq_some_iff.mp hcall
    cases phase <;> cases hstopped
  · intro inode owner hname howner hcomplete
    refine h.complete inode owner hname howner ?_
    rw [Option.any_map] at hcomplete
    simpa only [Function.comp_def, complete_stop] using hcomplete

theorem Sound.remove (h : saves.Sound payload earlier) :
    ({ saves with files := saves.files.remove .json } : Saves).Sound payload earlier := by
  have htemp : (saves.files.remove .json).names .jsonTmp = saves.files.names .jsonTmp := by
    simp [Files.remove]
  refine ⟨h.files.remove _, h.opened, ?_, ?_, ?_⟩
  · intro call inode offset hcall
    rw [htemp]
    exact h.writing call inode offset hcall
  · intro inode owner hname
    rw [htemp] at hname
    exact h.complete inode owner hname
  · intro inode hname
    have hnone : (saves.files.remove .json).names .json = none := by simp [Files.remove]
    rw [hnone] at hname
    cases hname

theorem Sound.step (h : saves.Sound payload earlier) {next : SaveStep}
    (hapart : saves.Apart next) (hstep : saves.step payload next = some saves') :
    saves'.Sound payload earlier := by
  cases next with
  | create call => exact h.create hapart hstep
  | write call count => exact h.write hstep
  | fail call => exact h.fail hstep
  | rename call => exact h.rename hapart hstep
  | stop =>
      obtain rfl := Option.some.inj hstep
      exact h.stop
  | remove =>
      obtain rfl := Option.some.inj hstep
      exact h.remove

theorem Sound.run {first : Saves} {steps : List SaveStep} (h : first.Sound payload earlier)
    (hrun : Run payload Apart first steps saves) : saves.Sound payload earlier := by
  induction hrun with
  | nil => exact h
  | snoc _ hapart hstep ih => exact ih.step hapart hstep

theorem Sound.apart_create (h : saves.Sound payload earlier) {owner : SaveId}
    (hlast : saves.created.getLast? = some owner)
    (hdone : (saves.phase owner).any SavePhase.complete = true) (call : SaveId) :
    saves.Apart (.create call) := by
  intro other inode offset hother
  obtain rfl := Option.some.inj (hlast.symm.trans (h.writing _ _ _ hother).2.1)
  rw [hother] at hdone
  cases hdone

/-- A call that reports success has put its own state there, or that of a call that opened the
temporary file after it did. -/
theorem Sound.reported (h : saves.Sound payload earlier) {call : SaveId}
    (hapart : saves.Apart (.rename call))
    (hstep : saves.step payload (.rename call) = some saves')
    (hsaved : saves'.phase call = some .saved) :
    ∃ inode owner before after, saves'.files.names .json = some inode ∧
      saves.created = before ++ call :: after ∧ owner ∈ call :: after ∧
      saves'.files.contents inode = payload owner := by
  simp only [Saves.step] at hstep
  split at hstep
  · next hphase =>
      split at hstep
      · next files hrename =>
          obtain rfl := Option.some.inj hstep
          obtain ⟨inode, htemp, hjson, hcontents, -, -, -⟩ := Files.rename_names hrename
          obtain ⟨before, after, hcreated⟩ := List.append_of_mem (h.opened call hphase)
          obtain ⟨owner, howner⟩ := Option.isSome_iff_exists.mp
            (List.getLast?_isSome.mpr (List.cons_ne_nil call after))
          have hlast : saves.created.getLast? = some owner := by
            rw [hcreated, List.getLast?_append, howner]
            rfl
          refine ⟨inode, owner, before, after, hjson, hcreated, List.mem_of_getLast? howner, ?_⟩
          rw [put_files, hcontents]
          exact h.complete inode owner htemp hlast (hapart inode owner htemp hlast)
      · obtain rfl := Option.some.inj hstep
        rw [put_phase_self] at hsaved
        cases hsaved
  · cases hstep

end Saves

/-- In a run in which the writes of the calls stay apart, the state file is always that of one of
the states that were saved, and a call that reports success has put its own state there, or that
of a call that was saving at the same time. -/
theorem state_file_complete {State : Type} (encode : State → List UInt8)
    (passed : SaveId → State) {earlier : List State} {files : Files StatePath UInt8}
    {steps : List SaveStep} {saves : Saves} (hfiles : files.Sound)
    (hearlier : ∀ inode, files.names .json = some inode →
      ∃ state ∈ earlier, files.contents inode = encode state)
    (hrun : Saves.Run (fun call => encode (passed call)) Saves.Apart (.start files) steps saves) :
    (∀ inode, saves.files.names .json = some inode →
      ∃ state, (state ∈ earlier ∨ ∃ call ∈ saves.created, state = passed call) ∧
        saves.files.contents inode = encode state) ∧
    ∀ call saves', saves.Apart (.rename call) →
      saves.step (fun call => encode (passed call)) (.rename call) = some saves' →
      saves'.phase call = some .saved →
      ∃ inode owner before after, saves'.files.names .json = some inode ∧
        saves.created = before ++ call :: after ∧ owner ∈ call :: after ∧
        saves'.files.contents inode = encode (passed owner) := by
  have hsound := (@Saves.sound_start _
    (fun content => ∃ state ∈ earlier, content = encode state) _ hfiles hearlier).run hrun
  refine ⟨fun inode hname => ?_, fun call saves' hapart hstep hsaved =>
    hsound.reported hapart hstep hsaved⟩
  rcases hsound.saved inode hname with ⟨state, hmem, hcontent⟩ | ⟨call, hmem, hcontent⟩
  · exact ⟨state, .inl hmem, hcontent⟩
  · exact ⟨passed call, .inr ⟨call, hmem, rfl⟩, hcontent⟩

section Encoding

open Failsafe.Lib.JsonText

def SendStage.text : SendStage → String
  | .importing => "importing"
  | .readyToSend => "ready_to_send"
  | .waitingAck => "waiting_ack"
  | .complete => "complete"
  | .failed => "failed"

/-- `serde_json::to_vec_pretty` of a state. -/
def SendTransferState.toVecPretty (state : SendTransferState) : List UInt8 :=
  let text (value : String) (_ : Nat) := writeString value
  let number (value : UInt64) (_ : Nat) := writeNat value.toNat
  utf8 (prettyObject ([
    ("transfer_id", text (Uuid.toText state.transferId)),
    ("target", text (Uuid.toText state.target.uuid)),
    ("paths", prettyArray (state.paths.map fun path =>
      prettyObject [("local", text path.local), ("label", text path.label)])),
    ("stage", text state.stage.text),
    ("collection_hash", match state.collectionHash with
      | some hash => text hash
      | none => fun _ => ['n', 'u', 'l', 'l']),
    ("entries", prettyArray (state.entries.map fun entry =>
      prettyObject [("name", text entry.name), ("size", number entry.size)])),
    ("bytes_done", number state.bytesDone),
    ("bytes_total", number state.bytesTotal)] ++
    match state.error with
    | some error => [("error", text error)]
    | none => []) 0)

/-- A send that waits for its acknowledgement, and that has failed. -/
def waitingState : SendTransferState :=
  { transferId := 7
    target := ⟨2⟩
    paths := [{ «local» := "/photos/cat.png", label := "cat.png" }]
    stage := .waitingAck
    collectionHash := some "h1"
    entries := [⟨"cat.png", 5⟩]
    bytesDone := 5
    bytesTotal := 5
    error := none }

def failedState : SendTransferState :=
  { waitingState with stage := .failed, error := some "transfer cancelled" }

/-- A session saves its state, and then that it has failed. -/
def twoStates (call : SaveId) : SendTransferState :=
  if call = 0 then waitingState else failedState

end Encoding

namespace Saves

/-- Where steps lead, condition or not. -/
def after (payload : SaveId → List UInt8) (steps : List SaveStep) (saves : Saves) :
    Option Saves :=
  steps.foldlM (fun saves next => saves.step payload next) saves

theorem run_of_after {payload : SaveId → List UInt8} {steps : List SaveStep}
    {first saves : Saves} (h : after payload steps first = some saves) :
    Run payload (fun _ _ => True) first steps saves := by
  induction steps using List.reverseRecOn generalizing saves with
  | nil =>
      obtain rfl := Option.some.inj h
      exact .nil
  | append_singleton steps next ih =>
      rw [after, List.foldlM_append] at h
      obtain ⟨middle, hbefore, hnext⟩ := Option.bind_eq_some_iff.mp h
      obtain ⟨last, hstep, hlast⟩ := Option.bind_eq_some_iff.mp hnext
      obtain rfl := Option.some.inj hlast
      exact .snoc (ih hbefore) trivial hstep

end Saves

/-- Two sessions save in turn, and the first renames when the second has written: the state file
is that of the second. -/
theorem overlapping_saves_complete :
    ∃ steps saves saves', Saves.Run (fun call => (twoStates call).toVecPretty) Saves.Apart
        (.start .empty) steps saves ∧ saves.created = [0, 1] ∧
      saves.step (fun call => (twoStates call).toVecPretty) (.rename 0) = some saves' ∧
      ∃ inode owner before after, saves'.files.names .json = some inode ∧
        saves.created = before ++ 0 :: after ∧ owner ∈ 0 :: after ∧
        saves'.files.contents inode = (twoStates owner).toVecPretty := by
  let payload (call : SaveId) := (twoStates call).toVecPretty
  have hsome : (((Saves.start .empty).step payload (.create 0)).any fun opened =>
      (opened.step payload (.write 0 100)).any fun half =>
        (half.step payload (.write 0 1000)).any fun whole =>
          whole.created == [0] && whole.phase 0 == some .written &&
            (whole.step payload (.create 1)).any fun again =>
              (again.step payload (.write 1 1000)).any fun both =>
                both.created == [0, 1] && both.phase 1 == some .written &&
                  (both.step payload (.rename 0)).any fun last => last.phase 0 == some .saved) =
      true := by
    decide +kernel
  obtain ⟨opened, hopened, hsome⟩ := (Option.any_eq_true _ _).mp hsome
  obtain ⟨half, hhalf, hsome⟩ := (Option.any_eq_true _ _).mp hsome
  obtain ⟨whole, hwhole, hsome⟩ := (Option.any_eq_true _ _).mp hsome
  simp only [Bool.and_eq_true, beq_iff_eq] at hsome
  obtain ⟨⟨hfirst, hwritten⟩, hsome⟩ := hsome
  obtain ⟨again, hagain, hsome⟩ := (Option.any_eq_true _ _).mp hsome
  obtain ⟨both, hboth, hsome⟩ := (Option.any_eq_true _ _).mp hsome
  simp only [Bool.and_eq_true, beq_iff_eq] at hsome
  obtain ⟨⟨hcreated, hdone⟩, hlast⟩ := hsome
  obtain ⟨last, hlast, hsaved⟩ := (Option.any_eq_true _ _).mp hlast
  have hrun : Saves.Run payload Saves.Apart (.start .empty)
      ([] ++ [.create 0] ++ [.write 0 100] ++ [.write 0 1000]) whole :=
    .snoc (.snoc (.snoc .nil (fun _ _ _ h => nomatch h) hopened) trivial hhalf) trivial hwhole
  have hnew : ∀ inode, (Files.empty : Files StatePath UInt8).names .json = some inode →
      ∃ state ∈ ([] : List SendTransferState),
        (Files.empty : Files StatePath UInt8).contents inode = state.toVecPretty :=
    fun _ h => nomatch h
  have hsound := (@Saves.sound_start _ (fun content => ∃ state ∈ ([] : List SendTransferState),
    content = state.toVecPretty) _ Files.sound_empty hnew).run hrun
  have howner : whole.created.getLast? = some 0 := by rw [hfirst]; rfl
  have hclear : whole.Apart (.create 1) :=
    hsound.apart_create howner (by rw [hwritten]; rfl) 1
  have hrun : Saves.Run payload Saves.Apart (.start .empty)
      ([] ++ [.create 0] ++ [.write 0 100] ++ [.write 0 1000] ++ [.create 1] ++ [.write 1 1000])
      both := .snoc (.snoc hrun hclear hagain) trivial hboth
  have hapart : both.Apart (.rename 0) := by
    intro inode owner _ howner
    obtain rfl : 1 = owner := by simpa [hcreated] using howner
    rw [hdone]
    rfl
  have hcomplete := state_file_complete SendTransferState.toVecPretty twoStates Files.sound_empty
    hnew hrun
  exact ⟨_, both, last, hrun, hcreated, hlast,
    hcomplete.2 0 last hapart hlast (beq_iff_eq.mp hsaved)⟩

/-- One session writes on through the temporary file that another has renamed: the state file is
that of neither, and the other has reported success. -/
theorem interleaved_saves_corrupt :
    ∃ steps saves inode, Saves.Run (fun call => (twoStates call).toVecPretty) (fun _ _ => True)
        (.start .empty) steps saves ∧
      saves.phase 1 = some .saved ∧ saves.files.names .json = some inode ∧
      ∀ state, saves.files.contents inode = SendTransferState.toVecPretty state →
        ∀ call, state ≠ twoStates call := by
  have hsome : (Saves.after (fun call => (twoStates call).toVecPretty)
      [.create 0, .write 0 100, .create 1, .write 1 1000, .rename 1, .write 0 1000]
      (.start .empty)).any (fun saves => saves.phase 1 == some .saved &&
        (saves.files.names .json).any fun inode =>
          saves.files.contents inode != waitingState.toVecPretty &&
            saves.files.contents inode != failedState.toVecPretty) = true := by
    decide +kernel
  obtain ⟨saves, hafter, hended⟩ := (Option.any_eq_true _ _).mp hsome
  obtain ⟨hsaved, hfile⟩ := Bool.and_eq_true_iff.mp hended
  obtain ⟨inode, hname, hcontents⟩ := (Option.any_eq_true _ _).mp hfile
  obtain ⟨hwaiting, hfailed⟩ := Bool.and_eq_true_iff.mp hcontents
  refine ⟨_, saves, inode, Saves.run_of_after hafter, beq_iff_eq.mp hsaved, hname, ?_⟩
  rintro state hstate call rfl
  by_cases hcall : call = 0
  · rw [twoStates, if_pos hcall] at hstate
    exact bne_iff_ne.mp hwaiting hstate
  · rw [twoStates, if_neg hcall] at hstate
    exact bne_iff_ne.mp hfailed hstate

end Failsafe.Send
