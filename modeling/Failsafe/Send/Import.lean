import Failsafe.Clipboard.Limits
import Failsafe.Lib.Fallible
import Failsafe.Lib.Machine
import Failsafe.Send.Effects

/-!
`import_sources` (`failsafe-transport/src/blobs/iroh.rs`): the tasks that import the files, and
the loop that takes their messages.
-/

namespace Failsafe.Send

open Failsafe.Clipboard Failsafe.Lib

def MAX_CONCURRENT_IMPORTS : Nat := 16

/-- Offsets that wait for the loop. -/
def IMPORT_PROGRESS_CAPACITY : Nat := 256

/-- `BlobError::Store`, as it is shown. -/
def storeError (message : String) : String :=
  "blob store error: " ++ message

inductive AddProgressItem where
  | size (size : UInt64)
  | copyProgress (offset : UInt64)
  | copyDone
  | outboardProgress (offset : UInt64)
  | error (cause : String)
  | done (hash : String)
deriving DecidableEq, Repr

/-- A source, the size that `metadata` has for it, and what the store streams of its import. -/
structure ImportSource where
  name : String
  path : String
  metadata : Option UInt64
  stream : List AddProgressItem
deriving DecidableEq, Repr

/-- What `import_source_file` returns. -/
structure ImportedBlob where
  name : String
  hash : String
  size : UInt64
deriving DecidableEq, Repr

abbrev ImportResult := Except String ImportedBlob

namespace ImportSource

def streamEnded (source : ImportSource) : String :=
  storeError ("import stream ended before completion for " ++ source.path)

def importFailed (source : ImportSource) (cause : String) : String :=
  storeError ("failed to import " ++ source.path ++ ": " ++ cause)

/-- The loop of `import_source_file` over the rest of the stream. -/
def importFrom (source : ImportSource) : UInt64 → List AddProgressItem → ImportResult
  | _, [] => .error source.streamEnded
  | _, .size size :: items => source.importFrom size items
  | fileSize, .copyProgress _ :: items => source.importFrom fileSize items
  | fileSize, .copyDone :: items => source.importFrom fileSize items
  | fileSize, .outboardProgress _ :: items => source.importFrom fileSize items
  | _, .error cause :: _ => .error (source.importFailed cause)
  | fileSize, .done hash :: _ => .ok ⟨source.name, hash, fileSize⟩

/-- `import_source_file`, without its progress. -/
def importSourceFile (source : ImportSource) : ImportResult :=
  source.importFrom 0 source.stream

end ImportSource

structure FileImportState where
  name : String
  size : UInt64
  offset : UInt64
  done : Bool
deriving DecidableEq, Repr

/-- The loop of `aggregate_import_progress`. -/
def aggregateFrom : UInt64 × Option String → List FileImportState → UInt64 × Option String
  | shown, [] => shown
  | (bytesDone, currentFile), state :: states =>
      if state.done then aggregateFrom (saturatingAdd bytesDone state.size, currentFile) states
      else
        aggregateFrom
          (saturatingAdd bytesDone state.offset,
            if state.offset < state.size && currentFile.isNone then some state.name
            else currentFile)
          states

def aggregateImportProgress (states : List FileImportState) (totalBytes : UInt64) :
    BlobProgress :=
  let (bytesDone, currentFile) := aggregateFrom (0, none) states
  { bytesDone, bytesTotal := totalBytes, currentFile }

/-- Where the task of a source is. -/
inductive ImportTask where
  -- for a permit of `import_slots`
  | waiting
  | reading (fileSize : UInt64) (items : List AddProgressItem)
  | reporting (fileSize offset : UInt64) (items : List AddProgressItem)
  | returning (result : ImportResult)
  | sent (result : ImportResult)
  /-- It returned after it had sent a result, or was stopped before. -/
  | ended (result : Option ImportResult)
deriving DecidableEq

namespace ImportTask

/-- The task goes on with the next item of the stream. -/
def read (source : ImportSource) (fileSize : UInt64) : List AddProgressItem → ImportTask
  | [] => .returning (.error source.streamEnded)
  | .size size :: items => .reporting size 0 items
  | .copyProgress offset :: items => .reporting fileSize offset items
  | .copyDone :: items => .reporting fileSize fileSize items
  | .outboardProgress offset :: items => .reporting fileSize offset items
  | .error cause :: _ => .returning (.error (source.importFailed cause))
  | .done hash :: _ => .returning (.ok ⟨source.name, hash, fileSize⟩)

/-- The result that the task has sent. -/
def sent? : ImportTask → Option ImportResult
  | .sent result => some result
  | .ended result => result
  | _ => none

/-- A permit is held from the start to the end. -/
def holdsPermit : ImportTask → Bool
  | .waiting | .ended _ => false
  | _ => true

def hasEnded : ImportTask → Bool
  | .ended _ => true
  | _ => false

end ImportTask

/-- What `import_sources` returns: the entries of the collection that is stored, and the files. -/
abbrev ImportedSources := List (String × String) × List FileEntry

inductive ImportPhase where
  | looping
  -- `while join_set.join_next().await.is_some()`
  | joining
  | returned (result : Except String ImportedSources)

/-- A call of `import_sources`: its tasks, the two channels, and its own variables. -/
structure Importing where
  tasks : List ImportTask
  progress : List (Nat × UInt64)
  finished : List (Nat × ImportResult)
  states : List FileImportState
  results : List (Option ImportedBlob)
  completed : Nat
  reports : List BlobProgress
  phase : ImportPhase

inductive ImportStep where
  | start (index : Nat)
  | read (index : Nat)
  | report (index : Nat)
  | send (index : Nat)
  | finish (index : Nat)
  | kill (index : Nat)
  | takeProgress
  | takeResult
  -- both channels are closed
  | closed
  | joined
deriving DecidableEq, Repr

namespace Importing

def initialState (source : ImportSource) : FileImportState :=
  { name := source.name, size := source.metadata.getD 0, offset := 0, done := false }

def totalBytes (importing : Importing) : UInt64 :=
  (importing.states.map FileImportState.size).foldl (· + ·) 0

def start (sources : List ImportSource) : Importing :=
  let states := sources.map initialState
  { tasks := sources.map fun _ => .waiting
    progress := []
    finished := []
    states
    results := sources.map fun _ => none
    completed := 0
    reports :=
      if sources = [] then []
      else [aggregateImportProgress states ((states.map FileImportState.size).foldl (· + ·) 0)]
    phase :=
      if sources = [] then .returned (.error (storeError "no import sources")) else .looping }

def put (importing : Importing) (index : Nat) (task : ImportTask) : Importing :=
  { importing with tasks := importing.tasks.set index task }

/-- `progress(aggregate_import_progress(&states, total_bytes))`. -/
def report (importing : Importing) : Importing :=
  { importing with
    reports := importing.reports ++
      [aggregateImportProgress importing.states importing.totalBytes] }

def setOffset (importing : Importing) (index : Nat) (offset : UInt64) : Importing :=
  { importing with
    states := importing.states.modify index fun state => { state with offset } }

/-- A file is imported. -/
def complete (importing : Importing) (index : Nat) (blob : ImportedBlob) : Importing :=
  { importing with
    states := importing.states.modify index fun state =>
      { state with done := true, offset := blob.size }
    results := importing.results.set index (some blob)
    completed := importing.completed + 1
    phase := if importing.completed + 1 < importing.tasks.length then .looping else .joining }

/-- The collection and the list of the files, once all are there. -/
def collected (importing : Importing) : ImportedSources :=
  let blobs := importing.results.filterMap id
  (blobs.map fun blob => (blob.name, blob.hash), blobs.map fun blob => ⟨blob.name, blob.size⟩)

/-- `import_sources`, after all tasks were joined. -/
def join (importing : Importing) : Importing :=
  if importing.completed ≠ importing.tasks.length then
    { importing with
      phase := .returned (.error (storeError "import ended before all files completed")) }
  else
    { importing with
      reports := importing.reports ++ [⟨importing.totalBytes, importing.totalBytes, none⟩]
      phase := .returned (.ok importing.collected) }

def AllEnded (importing : Importing) : Prop :=
  ∀ task ∈ importing.tasks, task.hasEnded = true

instance (importing : Importing) : Decidable importing.AllEnded :=
  inferInstanceAs (Decidable (∀ _ ∈ _, _))

def permits (importing : Importing) : Nat :=
  MAX_CONCURRENT_IMPORTS - importing.tasks.countP ImportTask.holdsPermit

/-- A step of the task of a source. -/
def taskStep (sources : List ImportSource) (importing : Importing) :
    ImportStep → Option Importing
  | .start index =>
      match sources[index]?, importing.tasks[index]? with
      | some source, some .waiting =>
          if 0 < importing.permits then some (importing.put index (.reading 0 source.stream))
          else none
      | _, _ => none
  | .read index =>
      match sources[index]?, importing.tasks[index]? with
      | some source, some (.reading fileSize items) =>
          some (importing.put index (.read source fileSize items))
      | _, _ => none
  | .report index =>
      match importing.tasks[index]? with
      | some (.reporting fileSize offset items) =>
          if importing.progress.length < IMPORT_PROGRESS_CAPACITY then
            some { importing.put index (.reading fileSize items) with
              progress := importing.progress ++ [(index, offset)] }
          else none
      | _ => none
  | .send index =>
      match importing.tasks[index]? with
      | some (.returning result) =>
          if importing.finished.length < importing.tasks.length then
            some { importing.put index (.sent result) with
              finished := importing.finished ++ [(index, result)] }
          else none
      | _ => none
  | .finish index =>
      match importing.tasks[index]? with
      | some (.sent result) => some (importing.put index (.ended (some result)))
      | _ => none
  -- a panic, or the end of the runtime
  | .kill index =>
      match importing.tasks[index]? with
      | some (.ended _) => none
      | some task => some (importing.put index (.ended task.sent?))
      | none => none
  | _ => none

/-- A branch of the loop, and what comes after it. -/
def loopStep (importing : Importing) : ImportStep → Option Importing
  | .takeProgress =>
      match importing.phase, importing.progress with
      | .looping, (index, offset) :: progress =>
          some ({ importing with progress }.setOffset index offset).report
      | _, _ => none
  | .takeResult =>
      match importing.phase, importing.finished with
      | .looping, (index, .ok blob) :: finished =>
          some ({ importing with finished }.complete index blob).report
      | .looping, (_, .error error) :: finished =>
          some { importing with finished, phase := .returned (.error error) }
      | _, _ => none
  | .closed =>
      match importing.phase, importing.progress, importing.finished with
      | .looping, [], [] =>
          if importing.AllEnded then some { importing with phase := .joining } else none
      | _, _, _ => none
  | .joined =>
      match importing.phase with
      | .joining => if importing.AllEnded then some importing.join else none
      | _ => none
  | _ => none

/-- Dropping the `JoinSet` aborts the tasks that are left when the call returns. -/
def step (sources : List ImportSource) (importing : Importing) (input : ImportStep) :
    Option Importing :=
  match importing.phase with
  | .returned _ => none
  | _ => (taskStep sources importing input).or (loopStep importing input)

/-- The result that the task of a source has sent. -/
def sentBy (importing : Importing) (index : Nat) : Option ImportResult :=
  importing.tasks[index]?.bind ImportTask.sent?

def Succeeded (importing : Importing) : Prop :=
  ∀ task ∈ importing.tasks, ∃ blob, task = .ended (some (.ok blob))

end Importing

theorem ImportSource.importFrom_read (source : ImportSource) (fileSize : UInt64)
    (items : List AddProgressItem) :
    (∃ fileSize' offset rest, ImportTask.read source fileSize items =
        .reporting fileSize' offset rest ∧
      source.importFrom fileSize items = source.importFrom fileSize' rest) ∨
      ImportTask.read source fileSize items = .returning (source.importFrom fileSize items) := by
  cases items with
  | nil => exact .inr rfl
  | cons item rest =>
      cases item with
      | size size => exact .inl ⟨_, _, _, rfl, rfl⟩
      | copyProgress offset => exact .inl ⟨_, _, _, rfl, rfl⟩
      | copyDone => exact .inl ⟨_, _, _, rfl, rfl⟩
      | outboardProgress offset => exact .inl ⟨_, _, _, rfl, rfl⟩
      | error cause => exact .inr rfl
      | done hash => exact .inr rfl

/-- The task is on its way to what `import_source_file` returns. -/
def ImportTask.Follows (source : ImportSource) : ImportTask → Prop
  | .waiting | .ended none => True
  | .reading fileSize items | .reporting fileSize _ items =>
      source.importFrom fileSize items = source.importSourceFile
  | .returning result | .sent result | .ended (some result) => result = source.importSourceFile

theorem ImportTask.Follows.read {source : ImportSource} {fileSize : UInt64}
    {items : List AddProgressItem} (h : (ImportTask.reading fileSize items).Follows source) :
    (ImportTask.read source fileSize items).Follows source := by
  rcases source.importFrom_read fileSize items with ⟨fileSize', offset, rest, hread, hrest⟩ | hread
  · rw [hread]
    exact hrest.symm.trans h
  · rw [hread]
    exact h

namespace Importing

/-- All that a step can do. -/
inductive Change (sources : List ImportSource) (importing : Importing) : Importing → Prop where
  | quiet (index : Nat) {task : ImportTask} (task' : ImportTask) (progress : List (Nat × UInt64))
      (htask : importing.tasks[index]? = some task) (hended : task.hasEnded = false)
      (hsent : task'.sent? = task.sent?)
      (hfollows : ∀ source, sources[index]? = some source → task.Follows source →
        task'.Follows source) :
      Change sources importing { importing.put index task' with progress }
  | send (index : Nat) (result : ImportResult)
      (htask : importing.tasks[index]? = some (.returning result)) :
      Change sources importing
        { importing.put index (.sent result) with
          finished := importing.finished ++ [(index, result)] }
  | takeProgress (index : Nat) (offset : UInt64) (progress : List (Nat × UInt64))
      (hphase : importing.phase = .looping)
      (hprogress : importing.progress = (index, offset) :: progress) :
      Change sources importing ({ importing with progress }.setOffset index offset).report
  | takeOk (index : Nat) (blob : ImportedBlob) (finished : List (Nat × ImportResult))
      (hphase : importing.phase = .looping)
      (hfinished : importing.finished = (index, .ok blob) :: finished) :
      Change sources importing ({ importing with finished }.complete index blob).report
  | takeError (index : Nat) (error : String) (finished : List (Nat × ImportResult))
      (hphase : importing.phase = .looping)
      (hfinished : importing.finished = (index, .error error) :: finished) :
      Change sources importing { importing with finished, phase := .returned (.error error) }
  | closed (hphase : importing.phase = .looping) (hfinished : importing.finished = [])
      (hended : importing.AllEnded) :
      Change sources importing { importing with phase := .joining }
  | joined (hphase : importing.phase = .joining) (hended : importing.AllEnded) :
      Change sources importing importing.join

section

variable {sources : List ImportSource} {importing importing' : Importing} {input : ImportStep}

theorem taskStep_change (h : taskStep sources importing input = some importing') :
    Change sources importing importing' := by
  cases input with
  | start index =>
      simp only [taskStep] at h
      split at h
      · rename_i source hsource htask
        split at h
        · obtain rfl := Option.some.inj h
          refine .quiet index (.reading 0 source.stream) importing.progress htask rfl rfl ?_
          intro other hother _
          obtain rfl := Option.some.inj (hsource.symm.trans hother)
          rfl
        · cases h
      · cases h
  | read index =>
      simp only [taskStep] at h
      split at h
      · rename_i source fileSize items hsource htask
        obtain rfl := Option.some.inj h
        refine .quiet index _ importing.progress htask rfl ?_ ?_
        · rcases source.importFrom_read fileSize items with ⟨_, _, _, hread, -⟩ | hread
          · rw [hread]
            rfl
          · rw [hread]
            rfl
        · intro other hother hfollows
          obtain rfl := Option.some.inj (hsource.symm.trans hother)
          exact hfollows.read
      · cases h
  | report index =>
      simp only [taskStep] at h
      split at h
      · rename_i fileSize offset items htask
        split at h
        · obtain rfl := Option.some.inj h
          exact .quiet index (.reading fileSize items) _ htask rfl rfl fun _ _ h => h
        · cases h
      · cases h
  | send index =>
      simp only [taskStep] at h
      split at h
      · rename_i result htask
        split at h
        · obtain rfl := Option.some.inj h
          exact .send index result htask
        · cases h
      · cases h
  | finish index =>
      simp only [taskStep] at h
      split at h
      · rename_i result htask
        obtain rfl := Option.some.inj h
        exact .quiet index (.ended (some result)) importing.progress htask rfl rfl fun _ _ h => h
      · cases h
  | kill index =>
      simp only [taskStep] at h
      split at h
      · cases h
      · rename_i task hended htask
        obtain rfl := Option.some.inj h
        refine .quiet index (.ended task.sent?) importing.progress htask ?_ rfl ?_
        · cases task with
          | ended result => exact (hended result rfl).elim
          | _ => rfl
        · intro source _ hfollows
          cases task with
          | sent result => exact hfollows
          | ended result => exact hfollows
          | _ => trivial
      · cases h
  | takeProgress => cases h
  | takeResult => cases h
  | closed => cases h
  | joined => cases h

theorem loopStep_change (h : loopStep importing input = some importing') :
    Change sources importing importing' := by
  cases input with
  | takeProgress =>
      simp only [loopStep] at h
      split at h
      · rename_i index offset progress hphase hprogress
        obtain rfl := Option.some.inj h
        exact .takeProgress index offset progress hphase hprogress
      · cases h
  | takeResult =>
      simp only [loopStep] at h
      split at h
      · rename_i index blob finished hphase hfinished
        obtain rfl := Option.some.inj h
        exact .takeOk index blob finished hphase hfinished
      · rename_i index error finished hphase hfinished
        obtain rfl := Option.some.inj h
        exact .takeError index error finished hphase hfinished
      · cases h
  | closed =>
      simp only [loopStep] at h
      split at h
      · rename_i hphase _ hfinished
        split at h
        · rename_i hended
          obtain rfl := Option.some.inj h
          exact .closed hphase hfinished hended
        · cases h
      · cases h
  | joined =>
      simp only [loopStep] at h
      split at h
      · rename_i hphase
        split at h
        · rename_i hended
          obtain rfl := Option.some.inj h
          exact .joined hphase hended
        · cases h
      · cases h
  | _ => cases h

theorem step_change (h : step sources importing input = some importing') :
    Change sources importing importing' ∧ ∀ result, importing.phase ≠ .returned result := by
  unfold step at h
  split at h
  · cases h
  · rename_i hopen
    refine ⟨?_, fun result hreturned => hopen result hreturned⟩
    rcases Option.or_eq_some_iff.mp h with htask | ⟨-, hloop⟩
    · exact taskStep_change htask
    · exact loopStep_change hloop

end

/-- The messages in flight, the slots and the counter agree with what the tasks have sent. -/
structure Tracked (sources : List ImportSource) (importing : Importing) : Prop where
  tasks : importing.tasks.length = sources.length
  results : importing.results.length = sources.length
  follows : ∀ (index : Nat) (source : ImportSource) (task : ImportTask),
    sources[index]? = some source → importing.tasks[index]? = some task →
      task.Follows source
  queued : ∀ message ∈ importing.finished, importing.sentBy message.1 = some message.2 ∧
    importing.results[message.1]? = some none
  nodup : (importing.finished.map Prod.fst).Nodup
  filled : ∀ index blob, importing.results[index]? = some (some blob) →
    importing.sentBy index = some (.ok blob)
  counted : importing.completed = importing.results.countP Option.isSome

/-- No result is lost. -/
def Kept (importing : Importing) : Prop :=
  ∀ index result, importing.sentBy index = some result →
    (index, result) ∈ importing.finished ∨
      ∃ blob, result = .ok blob ∧ importing.results[index]? = some (some blob)

/-- What each phase of the call says about its tasks. -/
def PhaseHolds (importing : Importing) : Prop :=
  match importing.phase with
  | .looping => importing.Kept ∧ importing.completed < importing.tasks.length
  | .joining =>
      importing.Kept ∧ (importing.completed = importing.tasks.length ∨
        importing.AllEnded ∧ importing.finished = [])
  | .returned (.ok imported) =>
      importing.Succeeded ∧ importing.completed = importing.tasks.length ∧
        imported = importing.collected
  | .returned (.error _) => ¬importing.Succeeded

section

variable {sources : List ImportSource} {importing importing' : Importing} {input : ImportStep}
  {index : Nat} {task task' : ImportTask}

theorem sentBy_eq (htask : importing.tasks[index]? = some task) :
    importing.sentBy index = task.sent? := by
  rw [sentBy, htask]
  rfl

theorem sentBy_put (htask : importing.tasks[index]? = some task) (task' : ImportTask) :
    (importing.put index task').sentBy index = task'.sent? := by
  obtain ⟨hlt, -⟩ := List.getElem?_eq_some_iff.mp htask
  exact sentBy_eq (List.getElem?_set_self hlt)

theorem sentBy_put_ne (task' : ImportTask) {other : Nat} (hother : index ≠ other) :
    (importing.put index task').sentBy other = importing.sentBy other := by
  rw [sentBy, put, List.getElem?_set_ne hother]
  rfl

theorem sentBy_put_same (htask : importing.tasks[index]? = some task)
    (hsent : task'.sent? = task.sent?) (other : Nat) :
    (importing.put index task').sentBy other = importing.sentBy other := by
  rcases eq_or_ne index other with rfl | hother
  · rw [sentBy_put htask, sentBy_eq htask, hsent]
  · exact sentBy_put_ne task' hother

theorem follows_put {source : ImportSource}
    (hfollows : ∀ (index : Nat) (source : ImportSource) (task : ImportTask),
      sources[index]? = some source → importing.tasks[index]? = some task → task.Follows source)
    (htask' : ∀ source, sources[index]? = some source → task'.Follows source)
    {other : Nat} (hsource : sources[other]? = some source)
    (htask : (importing.put index task').tasks[other]? = some task) : task.Follows source := by
  rcases eq_or_ne index other with rfl | hother
  · have hlt := (List.getElem?_eq_some_iff.mp htask).choose
    rw [put, List.getElem?_set_self (by simpa [put] using hlt)] at htask
    obtain rfl := Option.some.inj htask
    exact htask' source hsource
  · rw [put, List.getElem?_set_ne hother] at htask
    exact hfollows other source task hsource htask

theorem Tracked.unsent (htracked : Tracked sources importing)
    (hnone : importing.sentBy index = none) :
    index ∉ importing.finished.map Prod.fst := by
  intro hmem
  obtain ⟨message, hmessage, rfl⟩ := List.mem_map.mp hmem
  rw [(htracked.queued message hmessage).1] at hnone
  cases hnone

theorem Tracked.empty_slot (htracked : Tracked sources importing)
    (htask : importing.tasks[index]? = some task) (hnone : task.sent? = none) :
    importing.results[index]? = some none := by
  obtain ⟨hlt, -⟩ := List.getElem?_eq_some_iff.mp htask
  rw [htracked.tasks, ← htracked.results] at hlt
  rw [List.getElem?_eq_getElem hlt]
  cases hslot : importing.results[index] with
  | none => rfl
  | some blob =>
      have hsent := htracked.filled index blob (by rw [List.getElem?_eq_getElem hlt, hslot])
      rw [sentBy_eq htask, hnone] at hsent
      cases hsent

theorem Tracked.put (htracked : Tracked sources importing)
    (htask : importing.tasks[index]? = some task) (hsent : task'.sent? = task.sent?)
    (hfollows : ∀ source, sources[index]? = some source → task'.Follows source) :
    Tracked sources (importing.put index task') :=
  { tasks := (List.length_set ..).trans htracked.tasks
    results := htracked.results
    follows := fun _ _ _ hsource h => follows_put htracked.follows hfollows hsource h
    queued := by
      intro message hmessage
      rw [sentBy_put_same htask hsent]
      exact htracked.queued message hmessage
    nodup := htracked.nodup
    filled := by
      intro other blob hblob
      rw [sentBy_put_same htask hsent]
      exact htracked.filled other blob hblob
    counted := htracked.counted }

theorem Tracked.send {result : ImportResult} (htracked : Tracked sources importing)
    (htask : importing.tasks[index]? = some (.returning result)) :
    Tracked sources
      { importing.put index (.sent result) with
        finished := importing.finished ++ [(index, result)] } := by
  have hnew := htracked.unsent (sentBy_eq htask)
  constructor
  · exact (List.length_set ..).trans htracked.tasks
  · exact htracked.results
  · intro other source task hsource h
    refine follows_put htracked.follows ?_ hsource h
    intro source hsource
    have hreturning := htracked.follows index source (.returning result) hsource htask
    exact hreturning
  · intro message hmessage
    rcases List.mem_append.mp hmessage with hbefore | hlast
    · have hne : index ≠ message.1 := by
        rintro rfl
        exact hnew (List.mem_map_of_mem hbefore)
      obtain ⟨hsent, hslot⟩ := htracked.queued message hbefore
      exact ⟨(sentBy_put_ne _ hne).trans hsent, hslot⟩
    · obtain rfl := List.mem_singleton.mp hlast
      exact ⟨sentBy_put htask _, htracked.empty_slot htask rfl⟩
  · rw [List.map_append, List.nodup_append']
    refine ⟨htracked.nodup, List.nodup_singleton _, ?_⟩
    exact List.disjoint_singleton.mpr hnew
  · intro other blob hblob
    have hne : index ≠ other := by
      rintro rfl
      have hslot := htracked.empty_slot htask rfl
      rw [show importing.results[index]? = some (some blob) from hblob] at hslot
      cases hslot
    exact (sentBy_put_ne _ hne).trans (htracked.filled other blob hblob)
  · exact htracked.counted

theorem Tracked.complete {blob : ImportedBlob} {finished : List (Nat × ImportResult)}
    (htracked : Tracked sources importing)
    (hfinished : importing.finished = (index, .ok blob) :: finished) :
    Tracked sources ({ importing with finished }.complete index blob).report := by
  have hqueued := htracked.queued
  have hnodup := htracked.nodup
  rw [hfinished] at hqueued hnodup
  obtain ⟨hsent, hslot⟩ := hqueued _ List.mem_cons_self
  obtain ⟨hlt, hempty⟩ := List.getElem?_eq_some_iff.mp hslot
  constructor
  · exact htracked.tasks
  · exact (List.length_set ..).trans htracked.results
  · exact htracked.follows
  · intro message hmessage
    have hrest : message ∈ finished := hmessage
    have hindex : message.1 ∈ finished.map Prod.fst := List.mem_map_of_mem hrest
    have hne : index ≠ message.1 := by
      rintro rfl
      exact (List.nodup_cons.mp hnodup).1 hindex
    obtain ⟨hother, hnone⟩ := hqueued message (List.mem_cons_of_mem _ hrest)
    exact ⟨hother, (List.getElem?_set_ne hne).trans hnone⟩
  · exact (List.nodup_cons.mp hnodup).2
  · intro other found hfound
    rcases eq_or_ne index other with rfl | hother
    · have hset : (importing.results.set index (some blob))[index]? = some (some blob) :=
        List.getElem?_set_self hlt
      obtain rfl := Option.some.inj (Option.some.inj (hset.symm.trans hfound))
      exact hsent
    · exact htracked.filled other found ((List.getElem?_set_ne hother).symm.trans hfound)
  · have hcount := List.countP_set (p := Option.isSome) (a := some blob) hlt
    rw [hempty] at hcount
    exact (congrArg (· + 1) htracked.counted).trans hcount.symm

theorem Tracked.dropError {error : String} {finished : List (Nat × ImportResult)}
    (htracked : Tracked sources importing)
    (hfinished : importing.finished = (index, .error error) :: finished) :
    Tracked sources { importing with finished, phase := .returned (.error error) } := by
  have hqueued := htracked.queued
  have hnodup := htracked.nodup
  rw [hfinished] at hqueued hnodup
  exact { htracked with
    queued := fun message hmessage => hqueued message (List.mem_cons_of_mem _ hmessage)
    nodup := (List.nodup_cons.mp hnodup).2 }

theorem tracked_join (htracked : Tracked sources importing) : Tracked sources importing.join := by
  unfold join
  split
  · exact { htracked with }
  · exact { htracked with }

theorem Tracked.step (htracked : Tracked sources importing)
    (h : step sources importing input = some importing') : Tracked sources importing' := by
  cases (step_change h).1 with
  | quiet index task' progress htask hended hsent hfollows =>
      have hput := htracked.put htask hsent fun source hsource =>
        hfollows source hsource (htracked.follows index source _ hsource htask)
      exact { hput with }
  | send index result htask => exact htracked.send htask
  | takeProgress index offset progress hphase hprogress => exact { htracked with }
  | takeOk index blob finished hphase hfinished => exact htracked.complete hfinished
  | takeError index error finished hphase hfinished => exact htracked.dropError hfinished
  | closed hphase hfinished hended => exact { htracked with }
  | joined hphase hended => exact tracked_join htracked

theorem not_allEnded (htask : importing.tasks[index]? = some task)
    (hended : task.hasEnded = false) : ¬importing.AllEnded := by
  intro hall
  rw [hall task (List.mem_of_getElem? htask)] at hended
  cases hended

theorem Succeeded.sent (hsucceeded : importing.Succeeded) {result : ImportResult}
    (hsent : importing.sentBy index = some result) : ∃ blob, result = .ok blob := by
  obtain ⟨task, htask, hresult⟩ := Option.bind_eq_some_iff.mp hsent
  obtain ⟨blob, rfl⟩ := hsucceeded task (List.mem_of_getElem? htask)
  exact ⟨blob, (Option.some.inj hresult).symm⟩

theorem Tracked.complete_of_succeeded (htracked : Tracked sources importing)
    (hkept : importing.Kept) (hsucceeded : importing.Succeeded)
    (hfinished : importing.finished = []) : importing.completed = importing.tasks.length := by
  rw [htracked.counted, htracked.tasks, ← htracked.results, List.countP_eq_length]
  intro slot hslot
  obtain ⟨index, hlt, rfl⟩ := List.getElem_of_mem hslot
  have hindex : index < importing.tasks.length := by
    rwa [htracked.tasks, ← htracked.results]
  obtain ⟨blob, hblob⟩ := hsucceeded _ (List.getElem_mem hindex)
  have hsent : importing.sentBy index = some (.ok blob) := by
    rw [sentBy_eq (List.getElem?_eq_getElem hindex), hblob]
    rfl
  rcases hkept index _ hsent with hqueued | ⟨other, -, hfilled⟩
  · rw [hfinished] at hqueued
    cases hqueued
  · rw [List.getElem?_eq_getElem hlt] at hfilled
    rw [Option.some.inj hfilled]
    rfl

theorem Tracked.succeeded (htracked : Tracked sources importing)
    (hcompleted : importing.completed = importing.tasks.length) (hended : importing.AllEnded) :
    importing.Succeeded := by
  rw [htracked.counted, htracked.tasks, ← htracked.results, List.countP_eq_length] at hcompleted
  intro task htask
  obtain ⟨index, hlt, rfl⟩ := List.getElem_of_mem htask
  have hindex : index < importing.results.length := by
    rwa [htracked.results, ← htracked.tasks]
  obtain ⟨blob, hblob⟩ := Option.isSome_iff_exists.mp
    (hcompleted _ (List.getElem_mem hindex))
  have hsent := htracked.filled index blob (by rw [List.getElem?_eq_getElem hindex, hblob])
  rw [sentBy_eq (List.getElem?_eq_getElem hlt)] at hsent
  have hdone := hended _ (List.getElem_mem hlt)
  refine ⟨blob, ?_⟩
  cases htask' : importing.tasks[index] with
  | ended result =>
      rw [htask'] at hsent
      exact congrArg ImportTask.ended hsent
  | waiting =>
      rw [htask'] at hdone
      cases hdone
  | reading fileSize items =>
      rw [htask'] at hdone
      cases hdone
  | reporting fileSize offset items =>
      rw [htask'] at hdone
      cases hdone
  | returning result =>
      rw [htask'] at hdone
      cases hdone
  | sent result =>
      rw [htask'] at hdone
      cases hdone

theorem Kept.put (hkept : importing.Kept) (htask : importing.tasks[index]? = some task)
    (hsent : task'.sent? = task.sent?) : (importing.put index task').Kept := by
  intro other result hresult
  rw [sentBy_put_same htask hsent] at hresult
  exact hkept other result hresult

theorem Kept.send {result : ImportResult} (hkept : importing.Kept)
    (htask : importing.tasks[index]? = some (.returning result)) :
    Kept { importing.put index (.sent result) with
      finished := importing.finished ++ [(index, result)] } := by
  intro other found hfound
  rcases eq_or_ne index other with rfl | hother
  · have hsent : (importing.put index (.sent result)).sentBy index = some result :=
      sentBy_put htask _
    obtain rfl := Option.some.inj (hsent.symm.trans hfound)
    exact .inl (List.mem_append_right _ (List.mem_singleton_self _))
  · have hbefore := (sentBy_put_ne (.sent result) hother).symm.trans hfound
    rcases hkept other found hbefore with hqueued | hfilled
    · exact .inl (List.mem_append_left _ hqueued)
    · exact .inr hfilled

theorem Kept.complete {blob : ImportedBlob} {finished : List (Nat × ImportResult)}
    (hkept : importing.Kept) (htracked : Tracked sources importing)
    (hfinished : importing.finished = (index, .ok blob) :: finished) :
    ({ importing with finished }.complete index blob).report.Kept := by
  have hslot := (htracked.queued (index, .ok blob) (by rw [hfinished]; exact List.mem_cons_self)).2
  obtain ⟨hlt, -⟩ := List.getElem?_eq_some_iff.mp hslot
  have hset : (importing.results.set index (some blob))[index]? = some (some blob) :=
    List.getElem?_set_self hlt
  intro other result hresult
  rcases hkept other result hresult with hqueued | ⟨found, hok, hfilled⟩
  · rw [hfinished] at hqueued
    rcases List.mem_cons.mp hqueued with hfirst | hrest
    · obtain ⟨rfl, rfl⟩ := Prod.mk.inj hfirst
      exact .inr ⟨blob, rfl, hset⟩
    · exact .inl hrest
  · have hne : index ≠ other := by
      rintro rfl
      rw [hslot] at hfilled
      cases hfilled
    exact .inr ⟨found, hok, (List.getElem?_set_ne hne).trans hfilled⟩

theorem PhaseHolds.step (hholds : importing.PhaseHolds) (htracked : Tracked sources importing)
    (h : step sources importing input = some importing') : importing'.PhaseHolds := by
  obtain ⟨hchange, hopen⟩ := step_change h
  cases hchange with
  | quiet index task' progress htask hended hsent hfollows =>
      have hnot := not_allEnded htask hended
      unfold PhaseHolds at hholds ⊢
      cases hphase : importing.phase with
      | looping =>
          rw [hphase] at hholds
          simp only [put, hphase, List.length_set]
          exact ⟨hholds.1.put htask hsent, hholds.2⟩
      | joining =>
          rw [hphase] at hholds
          simp only [put, hphase, List.length_set]
          exact ⟨hholds.1.put htask hsent, .inl (hholds.2.resolve_right fun h => hnot h.1)⟩
      | returned result => exact absurd hphase (hopen result)
  | send index result htask =>
      have hnot := not_allEnded htask rfl
      unfold PhaseHolds at hholds ⊢
      cases hphase : importing.phase with
      | looping =>
          rw [hphase] at hholds
          simp only [put, hphase, List.length_set]
          exact ⟨hholds.1.send htask, hholds.2⟩
      | joining =>
          rw [hphase] at hholds
          simp only [put, hphase, List.length_set]
          exact ⟨hholds.1.send htask, .inl (hholds.2.resolve_right fun h => hnot h.1)⟩
      | returned result => exact absurd hphase (hopen result)
  | takeProgress index offset progress hphase hprogress =>
      unfold PhaseHolds at hholds ⊢
      rw [hphase] at hholds
      simp only [report, setOffset, hphase]
      exact hholds
  | takeOk index blob finished hphase hfinished =>
      unfold PhaseHolds at hholds ⊢
      rw [hphase] at hholds
      have hkept := hholds.1.complete htracked hfinished
      have hlt := hholds.2
      by_cases hmore : importing.completed + 1 < importing.tasks.length
      · simp only [report, Importing.complete, if_pos hmore] at hkept ⊢
        exact ⟨hkept, hmore⟩
      · simp only [report, Importing.complete, if_neg hmore] at hkept ⊢
        exact ⟨hkept, .inl (by omega)⟩
  | takeError index error finished hphase hfinished =>
      intro hsucceeded
      have hsent := (htracked.queued (index, .error error)
        (by rw [hfinished]; exact List.mem_cons_self)).1
      obtain ⟨blob, hblob⟩ := @Succeeded.sent importing index hsucceeded _ hsent
      cases hblob
  | closed hphase hfinished hended =>
      unfold PhaseHolds at hholds
      rw [hphase] at hholds
      exact ⟨hholds.1, .inr ⟨hended, hfinished⟩⟩
  | joined hphase hended =>
      unfold PhaseHolds at hholds
      rw [hphase] at hholds
      unfold join
      split
      · rename_i hshort
        intro hsucceeded
        have hfinished := (hholds.2.resolve_left hshort).2
        exact hshort (htracked.complete_of_succeeded hholds.1 hsucceeded hfinished)
      · rename_i hfull
        have hcompleted := not_not.mp hfull
        exact ⟨htracked.succeeded hcompleted hended, hcompleted, rfl⟩

end

theorem tracked_start (sources : List ImportSource) : Tracked sources (start sources) := by
  have hnone : ∀ index, (start sources).sentBy index = none := by
    intro index
    simp only [sentBy, start, List.getElem?_map]
    cases sources[index]? <;> rfl
  constructor
  · exact List.length_map _
  · exact List.length_map _
  · intro index source task _ htask
    obtain ⟨_, _, rfl⟩ := Option.map_eq_some_iff.mp ((List.getElem?_map ..).symm.trans htask)
    trivial
  · exact nofun
  · exact .nil
  · intro index blob hblob
    obtain ⟨_, _, hslot⟩ := Option.map_eq_some_iff.mp ((List.getElem?_map ..).symm.trans hblob)
    cases hslot
  · refine (List.countP_eq_zero.mpr ?_).symm
    intro slot hslot
    obtain ⟨_, _, rfl⟩ := List.mem_map.mp hslot
    exact Bool.false_ne_true

theorem phaseHolds_start {sources : List ImportSource} (hsources : sources ≠ []) :
    (start sources).PhaseHolds := by
  have hkept : (start sources).Kept := by
    intro index result hsent
    obtain ⟨task, htask, hresult⟩ := Option.bind_eq_some_iff.mp hsent
    obtain ⟨_, _, rfl⟩ := Option.map_eq_some_iff.mp ((List.getElem?_map ..).symm.trans htask)
    cases hresult
  have hlength : 0 < (start sources).tasks.length := by
    simpa [start] using List.length_pos_iff.mpr hsources
  have hphase : (start sources).phase = .looping := if_neg hsources
  unfold PhaseHolds
  rw [hphase]
  exact ⟨hkept, hlength⟩

theorem holds_run {sources : List ImportSource} (hsources : sources ≠ []) {steps : List ImportStep}
    {importing : Importing} (h : runSteps (step sources) (start sources) steps = some importing) :
    Tracked sources importing ∧ importing.PhaseHolds :=
  runSteps_inv (A := fun _ _ => True)
    (I := fun importing => Tracked sources importing ∧ importing.PhaseHolds)
    (fun _ _ _ hmiddle _ hstep => ⟨hmiddle.1.step hstep, hmiddle.2.step hmiddle.1 hstep⟩)
    ⟨tracked_start sources, phaseHolds_start hsources⟩ (fun _ _ _ _ _ _ => trivial) h

/-- How many steps the loop has left, when no task takes any. -/
def remaining (importing : Importing) : Nat :=
  match importing.phase with
  | .looping => importing.progress.length + importing.finished.length + 2
  | .joining => 1
  | .returned _ => 0

theorem remaining_step {sources : List ImportSource} {importing importing' : Importing}
    {input : ImportStep} (hended : importing.AllEnded)
    (h : step sources importing input = some importing') :
    importing'.AllEnded ∧ importing'.remaining < importing.remaining := by
  cases (step_change h).1 with
  | quiet index task' progress htask hopen hsent hfollows =>
      exact absurd hended (not_allEnded htask hopen)
  | send index result htask => exact absurd hended (not_allEnded htask rfl)
  | takeProgress index offset progress hphase hprogress =>
      refine ⟨hended, ?_⟩
      simp only [remaining, report, setOffset, hphase, hprogress, List.length_cons]
      omega
  | takeOk index blob finished hphase hfinished =>
      refine ⟨hended, ?_⟩
      by_cases hmore : importing.completed + 1 < importing.tasks.length
      · simp only [remaining, report, Importing.complete, if_pos hmore, hphase, hfinished,
          List.length_cons]
        omega
      · simp only [remaining, report, Importing.complete, if_neg hmore, hphase]
        omega
  | takeError index error finished hphase hfinished =>
      refine ⟨hended, ?_⟩
      simp only [remaining, hphase]
      omega
  | closed hphase hfinished hall =>
      refine ⟨hended, ?_⟩
      simp only [remaining, hphase]
      omega
  | joined hphase hall =>
      unfold join
      split
      · refine ⟨hended, ?_⟩
        simp only [remaining, hphase]
        omega
      · refine ⟨hended, ?_⟩
        simp only [remaining, hphase]
        omega

theorem remaining_run {sources : List ImportSource} {importing importing' : Importing}
    {steps : List ImportStep} (hended : importing.AllEnded)
    (h : runSteps (step sources) importing steps = some importing') :
    importing'.AllEnded ∧ steps.length ≤ importing.remaining := by
  induction steps generalizing importing with
  | nil =>
      obtain rfl := Option.some.inj h
      exact ⟨hended, Nat.zero_le _⟩
  | cons input steps ih =>
      obtain ⟨middle, hstep, hrest⟩ := runSteps_cons_iff.mp h
      obtain ⟨hmiddle, hless⟩ := remaining_step hended hstep
      obtain ⟨hlast, hbound⟩ := ih hmiddle hrest
      refine ⟨hlast, ?_⟩
      rw [List.length_cons]
      omega

theorem exists_step (sources : List ImportSource) {importing : Importing}
    (hended : importing.AllEnded) (hopen : ∀ result, importing.phase ≠ .returned result) :
    ∃ input, (step sources importing input).isSome := by
  have hloop : ∀ {input}, taskStep sources importing input = none →
      (loopStep importing input).isSome → (step sources importing input).isSome := by
    intro input htask hstep
    unfold step
    split
    · rename_i result hphase
      exact absurd hphase (hopen result)
    · rwa [htask, Option.none_or]
  cases hphase : importing.phase with
  | looping =>
      cases hfinished : importing.finished with
      | cons message finished =>
          obtain ⟨index, error | blob⟩ := message
          · exact ⟨.takeResult, hloop rfl (by simp only [loopStep, hphase, hfinished]; rfl)⟩
          · exact ⟨.takeResult, hloop rfl (by simp only [loopStep, hphase, hfinished]; rfl)⟩
      | nil =>
          cases hprogress : importing.progress with
          | cons message progress =>
              obtain ⟨index, offset⟩ := message
              exact ⟨.takeProgress, hloop rfl (by simp only [loopStep, hphase, hprogress]; rfl)⟩
          | nil =>
              refine ⟨.closed, hloop rfl ?_⟩
              simp only [loopStep, hphase, hprogress, hfinished]
              rw [if_pos hended]
              rfl
  | joining =>
      refine ⟨.joined, hloop rfl ?_⟩
      simp only [loopStep, hphase]
      rw [if_pos hended]
      rfl
  | returned result => exact absurd hphase (hopen result)

/-- The slots hold what `import_source_file` returns for each source, in the order of the
sources. -/
theorem Tracked.collected {sources : List ImportSource} {importing : Importing}
    (htracked : Tracked sources importing) (hsucceeded : importing.Succeeded)
    (hcompleted : importing.completed = importing.tasks.length) :
    List.Forall₂ (fun source blob => source.importSourceFile = .ok blob) sources
      (importing.results.filterMap id) := by
  rw [htracked.counted, htracked.tasks, ← htracked.results, List.countP_eq_length] at hcompleted
  have hslots : (importing.results.filterMap id).map some = importing.results := by
    rw [List.map_filterMap_some_eq_filter_map_isSome, List.map_id,
      List.filter_eq_self.mpr hcompleted]
  have hlength := congrArg List.length hslots
  rw [List.length_map, htracked.results] at hlength
  refine List.forall₂_iff_get.mpr ⟨hlength.symm, ?_⟩
  intro index hsource hblob
  have hslot : importing.results[index]? =
      some (some (importing.results.filterMap id)[index]) := by
    have hget := congrArg (fun slots : List (Option ImportedBlob) => slots[index]?) hslots
    refine hget.symm.trans ?_
    rw [List.getElem?_map, List.getElem?_eq_getElem hblob]
    rfl
  have hsent := htracked.filled index _ hslot
  have htask : index < importing.tasks.length := by rwa [htracked.tasks]
  obtain ⟨blob, hended⟩ := hsucceeded _ (List.getElem_mem htask)
  have hfollows := htracked.follows index _ _ (List.getElem?_eq_getElem hsource)
    (List.getElem?_eq_getElem htask)
  rw [hended] at hfollows
  rw [sentBy_eq (List.getElem?_eq_getElem htask), hended] at hsent
  exact hfollows.symm.trans (Option.some.inj hsent)

end Importing

theorem ImportSource.importFrom_name {source : ImportSource} {fileSize : UInt64}
    {items : List AddProgressItem} {blob : ImportedBlob}
    (h : source.importFrom fileSize items = .ok blob) : blob.name = source.name := by
  induction items generalizing fileSize with
  | nil => cases h
  | cons item items ih =>
      cases item with
      | size size => exact ih h
      | copyProgress offset => exact ih h
      | copyDone => exact ih h
      | outboardProgress offset => exact ih h
      | error cause => cases h
      | done hash =>
          obtain rfl := Except.ok.inj h
          rfl

theorem names_of_imports {sources : List ImportSource} {blobs : List ImportedBlob}
    (h : List.Forall₂ (fun source blob => source.importSourceFile = .ok blob) sources blobs) :
    blobs.map ImportedBlob.name = sources.map ImportSource.name := by
  induction h with
  | nil => rfl
  | cons himport _ ih =>
      rw [List.map_cons, List.map_cons, ih, ImportSource.importFrom_name himport]

open Importing in
/-- The loop of `import_sources` ends once its tasks have ended. It returns the files and the
collection that the imports have one after the other if every task has succeeded, and an error
otherwise. -/
theorem import_as_sequential {sources : List ImportSource} (hsources : sources ≠ [])
    {steps : List ImportStep} {importing : Importing}
    (h : runSteps (step sources) (start sources) steps = some importing) :
    (importing.AllEnded → ∀ later importing',
      runSteps (step sources) importing later = some importing' →
        later.length ≤ importing.remaining ∧
          ((∀ input, step sources importing' input = none) →
            ∃ result, importing'.phase = .returned result)) ∧
      ∀ result, importing.phase = .returned result →
        ((∃ imported, result = .ok imported) ↔ importing.Succeeded) ∧
          ∀ imported, result = .ok imported → ∃ blobs,
            sources.mapM ImportSource.importSourceFile = .ok blobs ∧
              blobs.map ImportedBlob.name = sources.map ImportSource.name ∧
              imported = (blobs.map fun blob => (blob.name, blob.hash),
                blobs.map fun blob => ⟨blob.name, blob.size⟩) := by
  obtain ⟨htracked, hholds⟩ := holds_run hsources h
  constructor
  · intro hended later importing' hlater
    obtain ⟨hlast, hbound⟩ := remaining_run hended hlater
    refine ⟨hbound, fun hstuck => ?_⟩
    by_contra hopen
    obtain ⟨input, hstep⟩ := exists_step sources hlast fun result hresult =>
      hopen ⟨result, hresult⟩
    rw [hstuck input] at hstep
    cases hstep
  · intro result hphase
    unfold PhaseHolds at hholds
    rw [hphase] at hholds
    cases result with
    | error error =>
        constructor
        · constructor
          · rintro ⟨imported, himported⟩
            cases himported
          · intro hsucceeded
            exact absurd hsucceeded hholds
        · intro imported himported
          cases himported
    | ok imported =>
        obtain ⟨hsucceeded, hcompleted, rfl⟩ := hholds
        constructor
        · exact iff_of_true ⟨_, rfl⟩ hsucceeded
        · rintro _ ⟨rfl⟩
          have himports := htracked.collected hsucceeded hcompleted
          exact ⟨_, mapM_eq_ok himports, names_of_imports himports, rfl⟩

/-- Two files; the second one is done before the first. -/
def twoSources : List ImportSource :=
  [⟨"a", "/tmp/a", some 3, [.size 3, .copyDone, .done "ha"]⟩,
    ⟨"b", "/tmp/b", some 5, [.size 5, .done "hb"]⟩]

def twoImports : List ImportStep :=
  [.start 0, .start 1, .read 1, .read 0, .report 0, .report 1, .takeProgress, .read 1, .send 1,
    .takeResult, .read 0, .report 0, .finish 1, .read 0, .send 0, .finish 0, .takeResult, .joined]

theorem twoImports_collected :
    ∃ importing, runSteps (Importing.step twoSources) (.start twoSources) twoImports =
        some importing ∧
      importing.phase =
        .returned (.ok ([("a", "ha"), ("b", "hb")], [⟨"a", 3⟩, ⟨"b", 5⟩])) ∧
      importing.Succeeded :=
  ⟨_, rfl, rfl, ((@import_as_sequential twoSources (by decide) twoImports _ rfl).2 _ rfl).1.mp
    ⟨_, rfl⟩⟩

end Failsafe.Send
