import Failsafe.Clipboard.Payload
import Failsafe.Lib.Split
import Mathlib.Data.List.Induction

/-!
The clipboard watcher and the handler of inbound messages, one step for each stretch
between two awaits (`failsafe-clipboard/src/feature/watcher.rs` and `mod.rs`).
-/

namespace Failsafe.Clipboard

open Failsafe.Lib

/-- Where `watch_clipboard` waits. -/
inductive WatcherStage where
  | idle
  | reading
  | building (content : ClipboardContent)
  | comparing (payload : ClipboardPayload)
  | emitting (payload : ClipboardPayload)
  | publishing (payload : ClipboardPayload)
deriving DecidableEq, Repr

/-- Where `handle_message` waits. -/
inductive InboundStage where
  | idle
  | resolving (payload : ClipboardPayload)
  | writing (payload : ClipboardPayload) (content : ClipboardContent)
  | recording (payload : ClipboardPayload)
deriving DecidableEq, Repr

/-- `ClipboardState`, the clipboard itself, and what was handed to the publisher. -/
structure ClipboardDevice where
  clipboard : Option ClipboardContent
  lastEmitted : Option String
  lastFailed : Option String
  applyingRemote : Bool
  watcher : WatcherStage
  inbound : InboundStage
  published : List ClipboardPayload
deriving DecidableEq, Repr

inductive ClipboardStep where
  | tick
  | read (ok : Bool)
  | build (surroundings : ClipboardSurroundings)
  | compare
  | emit
  | publish
  | deliver (payload : ClipboardPayload)
  | resolve (surroundings : ClipboardSurroundings)
  | write (ok : Bool)
  | record
  | copy (content : ClipboardContent)

namespace ClipboardDevice

/-- `fingerprint_content`; `digest` as for payloads. -/
def fingerprintContent (digest : List UInt8 → String) (content : ClipboardContent) : String :=
  let seed := match content with
    | .text text => "text:" ++ text
    | .html html plain => "html:" ++ html ++ "\x00" ++ plain
    | .image image =>
        s!"image:{image.width}x{image.height}:" ++ digest image.rgba
    | .files paths => "files:" ++ "\x00".intercalate (paths.map Utf8.lossy)
  digest seed.toUTF8.toList

variable (digest : List UInt8 → String) (limits : ClipboardLimits)

def step (device : ClipboardDevice) : ClipboardStep → Option ClipboardDevice
  | .tick =>
      match device.watcher with
      | .idle =>
          if device.applyingRemote then some device
          else some { device with watcher := .reading }
      | _ => none
  | .read ok =>
      match device.watcher with
      | .reading =>
          match device.clipboard with
          | some content =>
              if ok then some { device with watcher := .building content }
              else some { device with watcher := .idle }
          | none => some { device with watcher := .idle }
      | _ => none
  | .build surroundings =>
      match device.watcher with
      | .building content =>
          match contentToPayload limits surroundings content with
          | .ok payload =>
              some { device with lastFailed := none, watcher := .comparing payload }
          -- a failure that was seen before is not printed again
          | .error _ =>
              some { device with
                lastFailed := some (fingerprintContent digest content)
                watcher := .idle }
      | _ => none
  | .compare =>
      match device.watcher with
      | .comparing payload =>
          if device.lastEmitted = some (payload.fingerprint digest) then
            some { device with watcher := .idle }
          else some { device with watcher := .emitting payload }
      | _ => none
  | .emit =>
      match device.watcher with
      | .emitting payload =>
          some { device with
            lastEmitted := some (payload.fingerprint digest)
            watcher := .publishing payload }
      | _ => none
  | .publish =>
      match device.watcher with
      | .publishing payload =>
          some { device with
            published := device.published ++ [payload]
            watcher := .idle }
      | _ => none
  -- the feature handles one message at a time
  | .deliver payload =>
      match device.inbound with
      | .idle => some { device with inbound := .resolving payload }
      | _ => none
  | .resolve surroundings =>
      match device.inbound with
      | .resolving payload =>
          match resolvePayloadToContent limits surroundings payload with
          | .ok content =>
              some { device with applyingRemote := true, inbound := .writing payload content }
          | .error _ => some { device with inbound := .idle }
      | _ => none
  | .write ok =>
      match device.inbound with
      | .writing payload content =>
          let device := { device with inbound := .recording payload }
          if ok then some { device with clipboard := some content } else some device
      | _ => none
  | .record =>
      match device.inbound with
      | .recording payload =>
          some { device with
            lastEmitted := some (payload.fingerprint digest)
            applyingRemote := false
            inbound := .idle }
      | _ => none
  | .copy content => some { device with clipboard := some content }

def run (device : ClipboardDevice) (steps : List ClipboardStep) : Option ClipboardDevice :=
  steps.foldlM (fun device step => device.step digest limits step) device

/-- Nothing was published, and nothing is on its way to the publisher. -/
def Silent (device : ClipboardDevice) : Prop :=
  device.published = [] ∧
    match device.watcher with
    | .emitting _ | .publishing _ => False
    | _ => True

end ClipboardDevice

/-- The payloads that a run is judged by: of the message that is being handled, of what was
last written to the clipboard, of the message recorded last, and of what the tick under way
has read.  There is none before the first content. -/
structure ClipboardLedger where
  incoming : Option ClipboardPayload
  written : Option ClipboardPayload
  recorded : Option ClipboardPayload
  seen : Option ClipboardPayload

namespace ClipboardLedger

/-- `own` was emitted for the content that the user copied, while the message `incoming` was
being handled. -/
def start (own incoming : Option ClipboardPayload) : ClipboardLedger :=
  { incoming, written := own, recorded := own, seen := own }

def note (ledger : ClipboardLedger) : ClipboardStep → ClipboardLedger
  | .deliver payload => { ledger with incoming := some payload }
  | .write _ => { ledger with written := ledger.incoming }
  | .record => { ledger with recorded := ledger.incoming }
  | .read _ => { ledger with seen := ledger.written }
  | _ => ledger

def after (ledger : ClipboardLedger) (steps : List ClipboardStep) : ClipboardLedger :=
  steps.foldl note ledger

@[simp] theorem after_snoc (ledger : ClipboardLedger) (steps : List ClipboardStep)
    (step : ClipboardStep) : ledger.after (steps ++ [step]) = (ledger.after steps).note step := by
  simp [after]

end ClipboardLedger

/-- Whenever a tick compares, the message recorded last is the one that had been written to
the clipboard when the tick read it, or carries the same payload. -/
def InStep (digest : List UInt8 → String) (ledger : ClipboardLedger)
    (steps : List ClipboardStep) : Prop :=
  ∀ before after, steps = before ++ .compare :: after →
    (ledger.after before).seen.map (ClipboardPayload.fingerprint digest) =
      (ledger.after before).recorded.map (ClipboardPayload.fingerprint digest)

/-- The user copies nothing, writes succeed, and messages are inline. -/
def ClipboardStep.Quiet : ClipboardStep → Prop
  | .copy _ | .write false => False
  | .deliver payload => payload.Inline
  | _ => True

/-- Whatever payload a tick of these steps makes of a content is the given one. -/
def Makes (limits : ClipboardLimits) (steps : List ClipboardStep)
    (content : ClipboardContent) (payload : ClipboardPayload) : Prop :=
  ∀ surroundings made, .build surroundings ∈ steps →
    contentToPayload limits surroundings content = .ok made → made = payload

/-- The message that is being handled, if any, is `incoming`. -/
def Handles (limits : ClipboardLimits) (steps : List ClipboardStep)
    (incoming : Option ClipboardPayload) : InboundStage → Prop
  | .idle => True
  | .resolving payload => incoming = some payload ∧ payload.Inline
  | .writing payload content => incoming = some payload ∧ Makes limits steps content payload
  | .recording payload => incoming = some payload

/-- The content of the clipboard was emitted, and the next tick has not begun. -/
structure Emitted (digest : List UInt8 → String) (limits : ClipboardLimits)
    (steps : List ClipboardStep) (own incoming : Option ClipboardPayload)
    (device : ClipboardDevice) : Prop where
  watcher : device.watcher = .idle
  inbound : Handles limits steps incoming device.inbound
  published : device.published = []
  emitted : device.lastEmitted = own.map (ClipboardPayload.fingerprint digest)
  content : ∀ content, device.clipboard = some content →
    ∃ payload, own = some payload ∧ Makes limits steps content payload

variable {digest : List UInt8 → String} {limits : ClipboardLimits}
  {steps before : List ClipboardStep} {move : ClipboardStep}
  {ledger : ClipboardLedger} {device device' : ClipboardDevice}

theorem ClipboardDevice.Silent.of_step (hsilent : device'.Silent)
    (h : device.step digest limits move = some device') : device.Silent := by
  obtain ⟨hpublished, hwatcher⟩ := hsilent
  cases move with
  | tick =>
      simp only [ClipboardDevice.step] at h
      split at h
      · next hidle =>
          have hsame : device'.published = device.published := by
            split at h <;>
              · obtain rfl := Option.some.inj h
                rfl
          exact ⟨hsame ▸ hpublished, by rw [hidle]; trivial⟩
      · cases h
  | read ok =>
      simp only [ClipboardDevice.step] at h
      split at h
      · next hreading =>
          have hsame : device'.published = device.published := by
            split at h
            · split at h <;>
                · obtain rfl := Option.some.inj h
                  rfl
            · obtain rfl := Option.some.inj h
              rfl
          exact ⟨hsame ▸ hpublished, by rw [hreading]; trivial⟩
      · cases h
  | build surroundings =>
      simp only [ClipboardDevice.step] at h
      split at h
      · next hbuilding =>
          have hsame : device'.published = device.published := by
            split at h <;>
              · obtain rfl := Option.some.inj h
                rfl
          exact ⟨hsame ▸ hpublished, by rw [hbuilding]; trivial⟩
      · cases h
  | compare =>
      simp only [ClipboardDevice.step] at h
      split at h
      · next hcomparing =>
          have hsame : device'.published = device.published := by
            split at h <;>
              · obtain rfl := Option.some.inj h
                rfl
          exact ⟨hsame ▸ hpublished, by rw [hcomparing]; trivial⟩
      · cases h
  | emit =>
      simp only [ClipboardDevice.step] at h
      split at h
      · obtain rfl := Option.some.inj h
        exact hwatcher.elim
      · cases h
  | publish =>
      simp only [ClipboardDevice.step] at h
      split at h
      · obtain rfl := Option.some.inj h
        simp at hpublished
      · cases h
  | deliver payload =>
      simp only [ClipboardDevice.step] at h
      split at h
      · obtain rfl := Option.some.inj h
        exact ⟨hpublished, hwatcher⟩
      · cases h
  | resolve surroundings =>
      simp only [ClipboardDevice.step] at h
      split at h
      · split at h <;>
          · obtain rfl := Option.some.inj h
            exact ⟨hpublished, hwatcher⟩
      · cases h
  | write ok =>
      simp only [ClipboardDevice.step] at h
      split at h
      · split at h <;>
          · obtain rfl := Option.some.inj h
            exact ⟨hpublished, hwatcher⟩
      · cases h
  | record =>
      simp only [ClipboardDevice.step] at h
      split at h
      · obtain rfl := Option.some.inj h
        exact ⟨hpublished, hwatcher⟩
      · cases h
  | copy content =>
      obtain rfl := Option.some.inj h
      exact ⟨hpublished, hwatcher⟩

/-- After the steps `before` of a run, the device is where the ledger says and silent. -/
structure Kept (digest : List UInt8 → String) (limits : ClipboardLimits)
    (steps : List ClipboardStep) (ledger : ClipboardLedger) (device : ClipboardDevice) :
    Prop where
  published : device.published = []
  emitted : device.lastEmitted = ledger.recorded.map (ClipboardPayload.fingerprint digest)
  content : ∀ content, device.clipboard = some content →
    ∃ payload, ledger.written = some payload ∧ Makes limits steps content payload
  inbound : Handles limits steps ledger.incoming device.inbound
  watcher : match device.watcher with
    | .idle | .reading => True
    | .building content => ∃ payload, ledger.seen = some payload ∧
        Makes limits steps content payload
    | .comparing payload => ledger.seen = some payload
    | .emitting _ | .publishing _ => False

theorem Emitted.kept {own incoming : Option ClipboardPayload}
    (h : Emitted digest limits steps own incoming device) :
    Kept digest limits steps (.start own incoming) device where
  published := h.published
  emitted := h.emitted
  content := h.content
  inbound := h.inbound
  watcher := by rw [h.watcher]; trivial

theorem Kept.silent (h : Kept digest limits steps ledger device) :
    device.Silent := by
  refine ⟨h.published, ?_⟩
  have hwatcher := h.watcher
  split
  · next hstage => rwa [hstage] at hwatcher
  · next hstage => rwa [hstage] at hwatcher
  · trivial

theorem Kept.step (hkept : Kept digest limits steps ledger device)
    (hmem : move ∈ steps) (hquiet : move.Quiet)
    (hcompare : move = .compare → ledger.seen.map (ClipboardPayload.fingerprint digest) =
      ledger.recorded.map (ClipboardPayload.fingerprint digest))
    (h : device.step digest limits move = some device') :
    Kept digest limits steps (ledger.note move) device' := by
  have hwatcher := hkept.watcher
  have hinbound := hkept.inbound
  cases move with
  | tick =>
      simp only [ClipboardDevice.step] at h
      split at h
      · split at h <;>
          · obtain rfl := Option.some.inj h
            exact { hkept with watcher := by first | exact hwatcher | trivial }
      · cases h
  | read ok =>
      simp only [ClipboardDevice.step] at h
      split at h
      · split at h
        · next content hcontent =>
            split at h
            · obtain rfl := Option.some.inj h
              exact { hkept with watcher := hkept.content content hcontent }
            · obtain rfl := Option.some.inj h
              exact { hkept with watcher := trivial }
        · obtain rfl := Option.some.inj h
          exact { hkept with watcher := trivial }
      · cases h
  | build surroundings =>
      simp only [ClipboardDevice.step] at h
      split at h
      · next content hbuilding =>
          rw [hbuilding] at hwatcher
          obtain ⟨payload, hseen, hmakes⟩ := hwatcher
          split at h
          · next made hmade =>
              obtain rfl := Option.some.inj h
              refine { hkept with watcher := ?_ }
              rw [hmakes surroundings made hmem hmade]
              exact hseen
          · obtain rfl := Option.some.inj h
            exact { hkept with watcher := trivial }
      · cases h
  | compare =>
      simp only [ClipboardDevice.step] at h
      split at h
      · next payload hcomparing =>
          rw [hcomparing] at hwatcher
          have hsame : device.lastEmitted = some (payload.fingerprint digest) := by
            rw [hkept.emitted, ← hcompare rfl, hwatcher, Option.map_some]
          rw [if_pos hsame] at h
          obtain rfl := Option.some.inj h
          exact { hkept with watcher := trivial }
      · cases h
  | emit =>
      simp only [ClipboardDevice.step] at h
      split at h
      · next hemitting =>
          rw [hemitting] at hwatcher
          exact hwatcher.elim
      · cases h
  | publish =>
      simp only [ClipboardDevice.step] at h
      split at h
      · next hpublishing =>
          rw [hpublishing] at hwatcher
          exact hwatcher.elim
      · cases h
  | deliver payload =>
      simp only [ClipboardDevice.step] at h
      split at h
      · obtain rfl := Option.some.inj h
        exact { hkept with inbound := ⟨rfl, hquiet⟩ }
      · cases h
  | resolve surroundings =>
      simp only [ClipboardDevice.step] at h
      split at h
      · next payload hresolving =>
          rw [hresolving] at hinbound
          obtain ⟨hincoming, hinline⟩ := hinbound
          split at h
          · next content hcontent =>
              obtain rfl := Option.some.inj h
              refine { hkept with inbound := ⟨hincoming, ?_⟩ }
              intro surroundings' made _ hmade
              rw [contentToPayload_of_resolve hinline hcontent] at hmade
              exact (Except.ok.inj hmade).symm
          · obtain rfl := Option.some.inj h
            exact { hkept with inbound := trivial }
      · cases h
  | write ok =>
      simp only [ClipboardDevice.step] at h
      split at h
      · next payload content hwriting =>
          rw [hwriting] at hinbound
          obtain ⟨hincoming, hmakes⟩ := hinbound
          cases ok with
          | false => exact hquiet.elim
          | true =>
              obtain rfl := Option.some.inj h
              refine { hkept with content := ?_, inbound := hincoming }
              rintro _ ⟨⟩
              exact ⟨payload, hincoming, hmakes⟩
      · cases h
  | record =>
      simp only [ClipboardDevice.step] at h
      split at h
      · next payload hrecording =>
          rw [hrecording] at hinbound
          obtain rfl := Option.some.inj h
          have hincoming : ledger.incoming = some payload := hinbound
          refine { hkept with emitted := ?_, inbound := trivial }
          simp [ClipboardLedger.note, hincoming]
      · cases h
  | copy content => exact hquiet.elim

theorem InStep.of_snoc (h : InStep digest ledger (before ++ [move])) :
    InStep digest ledger before := by
  rintro first rest rfl
  exact h first (rest ++ [move]) (by simp)

/-- In step, a run follows its ledger. -/
theorem Kept.run (hkept : Kept digest limits steps ledger device)
    (hsub : ∀ move ∈ before, move ∈ steps) (hquiet : ∀ move ∈ before, move.Quiet)
    (h : device.run digest limits before = some device') (hinstep : InStep digest ledger before) :
    Kept digest limits steps (ledger.after before) device' := by
  induction before using List.reverseRecOn generalizing device' with
  | nil =>
      obtain rfl := Option.some.inj h
      exact hkept
  | append_singleton before last ih =>
      rw [ClipboardDevice.run, List.foldlM_append] at h
      obtain ⟨middle, hmiddle, hlast⟩ := Option.bind_eq_some_iff.mp h
      obtain ⟨final, hstep, hfinal⟩ := Option.bind_eq_some_iff.mp hlast
      obtain rfl := Option.some.inj hfinal
      have hprefix := ih (fun move hmem => hsub move (List.mem_append_left _ hmem))
        (fun move hmem => hquiet move (List.mem_append_left _ hmem)) hmiddle hinstep.of_snoc
      have hmem : last ∈ before ++ [last] := List.mem_append_right _ (List.mem_singleton_self _)
      rw [ClipboardLedger.after_snoc]
      refine hprefix.step (hsub _ hmem) (hquiet _ hmem) ?_ hstep
      rintro rfl
      exact hinstep before [] rfl

theorem Kept.compared (hkept : Kept digest limits steps ledger device)
    (h : device.step digest limits .compare = some device') (hsilent : device'.Silent) :
    ledger.seen.map (ClipboardPayload.fingerprint digest) =
      ledger.recorded.map (ClipboardPayload.fingerprint digest) := by
  have hwatcher := hkept.watcher
  simp only [ClipboardDevice.step] at h
  split at h
  · next payload hcomparing =>
      rw [hcomparing] at hwatcher
      split at h
      · next hsame => rw [hwatcher, ← hkept.emitted, hsame, Option.map_some]
      · obtain rfl := Option.some.inj h
        exact hsilent.2.elim
  · cases h

theorem inStep_of_silent (hkept : Kept digest limits steps ledger device)
    (hsub : ∀ move ∈ before, move ∈ steps) (hquiet : ∀ move ∈ before, move.Quiet)
    (h : device.run digest limits before = some device') (hsilent : device'.Silent) :
    InStep digest ledger before := by
  induction before using List.reverseRecOn generalizing device' with
  | nil =>
      intro first rest hsteps
      simp at hsteps
  | append_singleton before last ih =>
      rw [ClipboardDevice.run, List.foldlM_append] at h
      obtain ⟨middle, hmiddle, hlast⟩ := Option.bind_eq_some_iff.mp h
      obtain ⟨final, hstep, hfinal⟩ := Option.bind_eq_some_iff.mp hlast
      obtain rfl := Option.some.inj hfinal
      have hsub' := fun move hmem => hsub move (List.mem_append_left [last] hmem)
      have hquiet' := fun move hmem => hquiet move (List.mem_append_left [last] hmem)
      have hinstep := ih hsub' hquiet' hmiddle (hsilent.of_step hstep)
      have hprefix := hkept.run hsub' hquiet' hmiddle hinstep
      intro first rest hsteps
      rcases concat_eq_split hsteps with ⟨rfl, rfl⟩ | ⟨middle, hearlier⟩
      · exact hprefix.compared hstep hsilent
      · exact hinstep first middle hearlier

/-- A watcher whose clipboard content was emitted publishes nothing exactly if its ticks and
the messages stay in step. -/
theorem watcher_silent_iff {own incoming : Option ClipboardPayload}
    (hemitted : Emitted digest limits steps own incoming device)
    (hquiet : ∀ move ∈ steps, move.Quiet)
    (h : device.run digest limits steps = some device') :
    device'.Silent ↔ InStep digest (.start own incoming) steps :=
  ⟨inStep_of_silent hemitted.kept (fun _ hmem => hmem) hquiet h,
    fun hinstep => (hemitted.kept.run (fun _ hmem => hmem) hquiet h hinstep).silent⟩

def textPayload (text : String) : ClipboardPayload :=
  { version := CLIPBOARD_PAYLOAD_VERSION, content := .text text }

/-- Nothing can be read, fetched or stored. -/
def cutOff : ClipboardSurroundings where
  storeBytes _ := .error "offline"
  storeFiles _ := .error "offline"
  fetchBytes _ := .error "offline"
  fetchCollectionFiles _ := .error "offline"
  pathExists _ := false
  readFile _ := .error "offline"
  writeReceivedFiles _ := .error "offline"
  writePng _ := .error "offline"
  loadImage _ := .error "offline"

/-- A digest without collisions. -/
def plainDigest (bytes : List UInt8) : String :=
  String.ofList (bytes.map fun byte => Char.ofNat byte.toNat)

/-- The user has copied a text, and it was emitted. -/
def copied (text : String) : ClipboardDevice :=
  { clipboard := some (.text text)
    lastEmitted := some ((textPayload text).fingerprint plainDigest)
    lastFailed := none
    applyingRemote := false
    watcher := .idle
    inbound := .idle
    published := [] }

theorem emitted_copied (steps : List ClipboardStep) (text : String) :
    Emitted plainDigest .default steps (some (textPayload text)) none (copied text) where
  watcher := rfl
  inbound := trivial
  published := rfl
  emitted := rfl
  content := by
    rintro content ⟨⟩
    exact ⟨_, rfl, fun _ _ _ h => (Except.ok.inj h).symm⟩

/-- A peer's text arrives between two ticks. -/
def receivedBetweenTicks : List ClipboardStep :=
  [.deliver (textPayload "new"), .resolve cutOff, .write true, .record,
    .tick, .read true, .build cutOff, .compare]

theorem received_between_ticks :
    ∃ device, (copied "old").run plainDigest .default receivedBetweenTicks = some device ∧
      device.clipboard = some (.text "new") ∧
      (device.Silent ↔ InStep plainDigest (.start (some (textPayload "old")) none)
        receivedBetweenTicks) := by
  have hrun : (copied "old").run plainDigest .default receivedBetweenTicks =
      some { copied "new" with watcher := .idle } := by
    decide +kernel
  have hquiet : ∀ move ∈ receivedBetweenTicks, move.Quiet := by
    simp [receivedBetweenTicks, ClipboardStep.Quiet, ClipboardPayload.Inline, textPayload]
  exact ⟨_, hrun, rfl, watcher_silent_iff (emitted_copied _ _) hquiet hrun⟩

/-- A peer's text arrives after a tick has read the clipboard. -/
def receivedDuringTick : List ClipboardStep :=
  [.tick, .read true, .build cutOff, .deliver (textPayload "new"), .resolve cutOff,
    .write true, .record, .compare, .emit, .publish]

theorem old_text_republished :
    Emitted plainDigest .default receivedDuringTick (some (textPayload "old")) none
        (copied "old") ∧
      (∀ move ∈ receivedDuringTick, move.Quiet) ∧
      ∃ device, (copied "old").run plainDigest .default receivedDuringTick = some device ∧
        device.clipboard = some (.text "new") ∧ device.published = [textPayload "old"] := by
  have hrun : (copied "old").run plainDigest .default receivedDuringTick =
      some { copied "old" with
        clipboard := some (.text "new"), published := [textPayload "old"] } := by
    decide +kernel
  refine ⟨emitted_copied _ _, ?_, _, hrun, rfl, rfl⟩
  simp [receivedDuringTick, ClipboardStep.Quiet, ClipboardPayload.Inline, textPayload]

end Failsafe.Clipboard
