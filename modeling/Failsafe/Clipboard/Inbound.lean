import Failsafe.Clipboard.Watcher
import Failsafe.Core.Message
import Failsafe.Lib.Fallible

/-!
The handling of an inbound clipboard message as a whole, what is left behind by one that fails,
and the images that are received (`failsafe-clipboard/src/feature/mod.rs`, `inbound.rs`,
`image.rs`, `payload.rs` and `io/files.rs`).
-/

namespace Failsafe.Clipboard

open Failsafe.Core Failsafe.Lib Failsafe.Lib.Paths

/-- `clipboard::ID`. -/
def ID : FeatureId :=
  ⟨"clipboard"⟩

/-- The two readings that `serde_json` is asked for. -/
structure PayloadReader where
  payload : List UInt8 → Except String ClipboardPayload
  legacy : List UInt8 → Except String String

/-- `payload::decode`. -/
def decode (reader : PayloadReader) (bytes : List UInt8) : Except FeatureError ClipboardPayload :=
  match reader.payload bytes with
  | .ok payload => .ok payload
  | .error _ =>
      match reader.legacy bytes with
      | .error error => .error (.failed ID s!"invalid clipboard payload: {error}")
      | .ok text => .ok { version := 1, content := .text text }

/-- `default_clipboard_cache_dir`; `cacheDir` is that of the user. -/
def defaultClipboardCacheDir (cacheDir : Option PathBuf) : Option PathBuf :=
  cacheDir.map fun dir => joinName (joinName dir "failsafe") "clipboard"

/-- `write_received_files`, in a directory that is named by a fresh identifier. -/
def writeReceivedFiles (cacheDir : Option PathBuf) (session : Uuid) (answers : WriteAnswers)
    (files : List (String × List UInt8)) (disk : DiskFiles) :
    Except String (List PathBuf) × DiskFiles :=
  match defaultClipboardCacheDir cacheDir with
  | none => (.error "clipboard unavailable: clipboard cache dir unavailable", disk)
  | some base =>
      match writeNamedFiles answers (joinName base session.toText) files disk with
      | (.error error, disk) => (.error s!"clipboard unavailable: {error}", disk)
      | (.ok paths, disk) => (.ok paths, disk)

/-- `ClipboardFeature::handle_message`, with nothing between its steps.  `write` is the answer of
the clipboard, which changes only when it takes the content. -/
def ClipboardDevice.handleMessage (digest : List UInt8 → String) (limits : ClipboardLimits)
    (reader : PayloadReader) (surroundings : DeviceId → ClipboardSurroundings)
    (write : ClipboardContent → Except String Unit) (message : FeatureMessage (List UInt8))
    (device : ClipboardDevice) : Except FeatureError Unit × ClipboardDevice :=
  match decode reader message.payload with
  | .error error => (.error error, device)
  | .ok payload =>
      match resolvePayloadToContent limits (surroundings message.from) payload with
      | .error error => (.error (.failed ID error), device)
      | .ok content =>
          match write content with
          -- what is recorded does not depend on the answer of the clipboard
          | .error error =>
              (.error (.failed ID s!"clipboard unavailable: {error}"), { device with
                lastEmitted := some (payload.fingerprint digest)
                applyingRemote := false })
          | .ok () =>
              (.ok (), { device with
                clipboard := some content
                lastEmitted := some (payload.fingerprint digest)
                applyingRemote := false })

section Handled

variable {digest : List UInt8 → String} {limits : ClipboardLimits} {reader : PayloadReader}
  {surroundings : DeviceId → ClipboardSurroundings}
  {write : ClipboardContent → Except String Unit} {message : FeatureMessage (List UInt8)}
  {device device' : ClipboardDevice} {payload : ClipboardPayload} {content : ClipboardContent}

theorem handleMessage_ok
    (h : device.handleMessage digest limits reader surroundings write message = (.ok (), device')) :
    ∃ payload content, decode reader message.payload = .ok payload ∧
      resolvePayloadToContent limits (surroundings message.from) payload = .ok content ∧
      write content = .ok () ∧
      device' = { device with
        clipboard := some content
        lastEmitted := some (payload.fingerprint digest)
        applyingRemote := false } := by
  unfold ClipboardDevice.handleMessage at h
  split at h
  · cases (Prod.mk.inj h).1
  · next payload hdecode =>
      split at h
      · cases (Prod.mk.inj h).1
      · next content hresolve =>
          split at h
          · cases (Prod.mk.inj h).1
          · next hwrite =>
              exact ⟨payload, content, hdecode, hresolve, hwrite, (Prod.mk.inj h).2.symm⟩

/-- A message that cannot be decoded or resolved fails at once. -/
inductive FailsEarly (limits : ClipboardLimits) (reader : PayloadReader)
    (surroundings : DeviceId → ClipboardSurroundings)
    (message : FeatureMessage (List UInt8)) : Prop where
  | undecoded (error : FeatureError) (h : decode reader message.payload = .error error)
  | unresolved (payload : ClipboardPayload) (error : String)
      (hdecode : decode reader message.payload = .ok payload)
      (hresolve : resolvePayloadToContent limits (surroundings message.from) payload =
        .error error)

theorem FailsEarly.not_resolved (h : FailsEarly limits reader surroundings message)
    (hdecode : decode reader message.payload = .ok payload) :
    resolvePayloadToContent limits (surroundings message.from) payload ≠ .ok content := by
  intro hresolve
  cases h with
  | undecoded error herror =>
      rw [hdecode] at herror
      cases herror
  | unresolved other error hother herror =>
      rw [hdecode] at hother
      obtain rfl := Except.ok.inj hother
      rw [hresolve] at herror
      cases herror

/-- A message that fails does so early, with the device as it was, or in the write. -/
theorem handleMessage_error {error : FeatureError}
    (h : device.handleMessage digest limits reader surroundings write message =
      (.error error, device')) :
    (FailsEarly limits reader surroundings message ∧ device' = device) ∨
    ∃ payload content cause, decode reader message.payload = .ok payload ∧
      resolvePayloadToContent limits (surroundings message.from) payload = .ok content ∧
      write content = .error cause ∧
      device' = { device with
        lastEmitted := some (payload.fingerprint digest)
        applyingRemote := false } := by
  unfold ClipboardDevice.handleMessage at h
  split at h
  · next error hdecode => exact .inl ⟨.undecoded error hdecode, (Prod.mk.inj h).2.symm⟩
  · next payload hdecode =>
      split at h
      · next error hresolve =>
          exact .inl ⟨.unresolved payload error hdecode hresolve, (Prod.mk.inj h).2.symm⟩
      · next content hresolve =>
          split at h
          · next cause hwrite =>
              exact .inr ⟨payload, content, cause, hdecode, hresolve, hwrite,
                (Prod.mk.inj h).2.symm⟩
          · cases (Prod.mk.inj h).1

theorem handleMessage_run (hidle : device.inbound = .idle)
    (hdecode : decode reader message.payload = .ok payload) :
    ∃ steps, device.run digest limits steps =
      some (device.handleMessage digest limits reader surroundings write message).2 := by
  obtain ⟨clipboard, lastEmitted, lastFailed, applyingRemote, watcher, inbound, published⟩ :=
    device
  obtain rfl : inbound = .idle := hidle
  unfold ClipboardDevice.handleMessage
  rw [hdecode]
  cases hresolve : resolvePayloadToContent limits (surroundings message.from) payload with
  | error error =>
      refine ⟨[.deliver payload, .resolve (surroundings message.from)], ?_⟩
      simp [ClipboardDevice.run, ClipboardDevice.step, hresolve]
  | ok content =>
      cases hwrite : write content with
      | error cause =>
          refine ⟨[.deliver payload, .resolve (surroundings message.from), .write false,
            .record], ?_⟩
          simp [ClipboardDevice.run, ClipboardDevice.step, hresolve, hwrite]
      | ok done =>
          refine ⟨[.deliver payload, .resolve (surroundings message.from), .write true,
            .record], ?_⟩
          simp [ClipboardDevice.run, ClipboardDevice.step, hresolve, hwrite]

/-- Neither the state of the feature nor what is published later shows that there was a
message. -/
structure Traceless (digest : List UInt8 → String) (limits : ClipboardLimits)
    (device device' : ClipboardDevice) : Prop where
  lastEmitted : device'.lastEmitted = device.lastEmitted
  applyingRemote : device'.applyingRemote = device.applyingRemote
  later : ∀ steps, (device'.run digest limits steps).map ClipboardDevice.published =
    (device.run digest limits steps).map ClipboardDevice.published

theorem traceless_refl (device : ClipboardDevice) : Traceless digest limits device device :=
  ⟨rfl, rfl, fun _ => rfl⟩

/-- A failed message leaves no trace exactly if it failed before the write, or was the one that
had been recorded last. -/
theorem failed_traceless_iff {error : FeatureError}
    (h : device.handleMessage digest limits reader surroundings write message =
      (.error error, device')) :
    Traceless digest limits device device' ↔
      FailsEarly limits reader surroundings message ∨
      ∃ payload, decode reader message.payload = .ok payload ∧
        device.lastEmitted = some (payload.fingerprint digest) ∧
        device.applyingRemote = false := by
  rcases handleMessage_error h with
    ⟨hearly, rfl⟩ | ⟨payload, content, cause, hdecode, hresolve, -, rfl⟩
  · exact ⟨fun _ => .inl hearly, fun _ => traceless_refl device'⟩
  · constructor
    · intro htraceless
      exact .inr ⟨payload, hdecode, htraceless.lastEmitted.symm, htraceless.applyingRemote.symm⟩
    · rintro (hearly | ⟨other, hother, hemitted, happlying⟩)
      · exact absurd hresolve (hearly.not_resolved hdecode)
      · rw [hdecode] at hother
        obtain rfl := Except.ok.inj hother
        rw [← hemitted, ← happlying]
        exact traceless_refl device

end Handled

/-- A reader that knows one payload. -/
def readerOf (payload : ClipboardPayload) : PayloadReader where
  payload bytes := if bytes = payload.encode then .ok payload else .error "expected value"
  legacy _ := .error "expected value"

def clipboardMessage (payload : List UInt8) : FeatureMessage (List UInt8) :=
  .new ⟨1⟩ ⟨2⟩ ID payload

theorem unreadable_traceless :
    ∃ error, (copied "old").handleMessage plainDigest .default (readerOf (textPayload "new"))
        (fun _ => cutOff) (fun _ => .ok ()) (clipboardMessage []) = (.error error, copied "old") ∧
      (Traceless plainDigest .default (copied "old") (copied "old") ↔
        FailsEarly .default (readerOf (textPayload "new")) (fun _ => cutOff)
          (clipboardMessage []) ∨
        ∃ payload, decode (readerOf (textPayload "new")) (clipboardMessage []).payload =
            .ok payload ∧
          (copied "old").lastEmitted = some (payload.fingerprint plainDigest) ∧
          (copied "old").applyingRemote = false) :=
  ⟨_, rfl, @failed_traceless_iff plainDigest .default _ _ (fun _ => .ok ()) _ _ _ _ rfl⟩

/-- The clipboard refuses the text of a peer, and its own is published once more. -/
theorem refused_text_republished :
    ∃ error device', (copied "old").handleMessage plainDigest .default
        (readerOf (textPayload "new")) (fun _ => cutOff) (fun _ => .error "no display")
        (clipboardMessage (textPayload "new").encode) = (.error error, device') ∧
      device'.lastEmitted ≠ (copied "old").lastEmitted ∧
      (∃ later, device'.run plainDigest .default
          [.tick, .read true, .build cutOff, .compare, .emit, .publish] = some later ∧
        later.published = [textPayload "old"]) ∧
      (copied "old").run plainDigest .default [.tick, .read true, .build cutOff, .compare] =
        some (copied "old") ∧
      ¬Traceless plainDigest .default (copied "old") device' := by
  have hrun : ({ copied "old" with
      lastEmitted := some ((textPayload "new").fingerprint plainDigest) } : ClipboardDevice).run
        plainDigest .default [.tick, .read true, .build cutOff, .compare, .emit, .publish] =
      some { copied "old" with published := [textPayload "old"] } := by
    decide +kernel
  have hchanged : some ((textPayload "new").fingerprint plainDigest) ≠
      (copied "old").lastEmitted := by
    decide +kernel
  refine ⟨_, { copied "old" with
    lastEmitted := some ((textPayload "new").fingerprint plainDigest) }, rfl, hchanged,
    ⟨_, hrun, rfl⟩, by decide +kernel, ?_⟩
  intro htraceless
  exact hchanged htraceless.lastEmitted

section Images

/-- The buffer is as long as the dimensions say. -/
def ImageDataOwned.WellFormed (image : ImageDataOwned) : Prop :=
  image.rgba.length = 4 * image.width.toNat * image.height.toNat

/-- What is relied on of the image library: what it decodes is well formed, and it encodes what
is, unless there is no pixel. -/
structure ImageLibrary (surroundings : ClipboardSurroundings) : Prop where
  loaded : ∀ data image, surroundings.loadImage data = .ok image → image.WellFormed
  written : ∀ image, image.WellFormed →
    ((∃ png, surroundings.writePng image = .ok png) ↔ 0 < image.width ∧ 0 < image.height)

variable {limits : ClipboardLimits} {surroundings : ClipboardSurroundings}
  {payload : ClipboardPayload} {hash mime : String} {width height : UInt32} {data : List UInt8}
  {decoded image : ImageDataOwned}

theorem resolve_image (hpayload : payload.content = .image hash width height mime)
    (hfetch : surroundings.fetchBytes hash = .ok data)
    (hload : surroundings.loadImage data = .ok decoded)
    (h : resolvePayloadToContent limits surroundings payload = .ok (.image image)) :
    image = { decoded with width, height } := by
  unfold resolvePayloadToContent at h
  rw [hpayload] at h
  obtain ⟨fetched, hfetched, h⟩ := bind_ok h
  obtain ⟨-, -, h⟩ := bind_ok h
  obtain ⟨loaded, hloaded, h⟩ := bind_ok h
  rw [hfetch] at hfetched
  obtain rfl := Except.ok.inj hfetched
  rw [hload] at hloaded
  obtain rfl := Except.ok.inj hloaded
  exact (ClipboardContent.image.inj (Except.ok.inj h)).symm

theorem encodeImagePng_of_wellFormed (hformed : image.WellFormed) :
    encodeImagePng surroundings image = surroundings.writePng image :=
  if_pos hformed.ge

/-- A received image is well formed and can be encoded exactly if the payload claims dimensions
of as many pixels as the picture has, and of at least one. -/
theorem received_wellFormed_iff (hlibrary : ImageLibrary surroundings)
    (hpayload : payload.content = .image hash width height mime)
    (hfetch : surroundings.fetchBytes hash = .ok data)
    (hload : surroundings.loadImage data = .ok decoded)
    (h : resolvePayloadToContent limits surroundings payload = .ok (.image image)) :
    (image.WellFormed ∧ ∃ png, encodeImagePng surroundings image = .ok png) ↔
      width.toNat * height.toNat = decoded.width.toNat * decoded.height.toNat ∧
        0 < width ∧ 0 < height := by
  have hdecoded := hlibrary.loaded data decoded hload
  obtain rfl := resolve_image hpayload hfetch hload h
  have hpixels : ({ decoded with width, height } : ImageDataOwned).WellFormed ↔
      width.toNat * height.toNat = decoded.width.toNat * decoded.height.toNat := by
    unfold ImageDataOwned.WellFormed at hdecoded ⊢
    dsimp only
    rw [hdecoded, Nat.mul_assoc, Nat.mul_assoc]
    omega
  rw [← hpixels]
  constructor
  · rintro ⟨hformed, png, hpng⟩
    rw [encodeImagePng_of_wellFormed hformed] at hpng
    exact ⟨hformed, (hlibrary.written _ hformed).mp ⟨png, hpng⟩⟩
  · rintro ⟨hformed, hpositive⟩
    refine ⟨hformed, ?_⟩
    rw [encodeImagePng_of_wellFormed hformed]
    exact (hlibrary.written _ hformed).mpr hpositive

/-- A library that knows a picture of one pixel, in a store that has it. -/
def onePixel : ClipboardSurroundings where
  storeBytes _ := .ok "pixel"
  storeFiles _ := .error "offline"
  fetchBytes _ := .ok [1]
  fetchCollectionFiles _ := .error "offline"
  pathExists _ := false
  readFile _ := .error "offline"
  writeReceivedFiles _ := .error "offline"
  writePng image :=
    if 0 < image.width ∧ 0 < image.height then .ok [1] else .error "zero width or height"
  loadImage _ := .ok { width := 1, height := 1, rgba := [0, 0, 0, 255] }

theorem imageLibrary_onePixel : ImageLibrary onePixel where
  loaded := by
    rintro data image ⟨⟩
    rfl
  written := by
    intro image _
    by_cases hpositive : 0 < image.width ∧ 0 < image.height
    · simp [onePixel, hpositive]
    · simp [onePixel, hpositive]

def imagePayload (width height : UInt32) : ClipboardPayload where
  version := CLIPBOARD_PAYLOAD_VERSION
  content := .image "pixel" width height "image/png"

theorem pixel_wellFormed :
    ∃ image, resolvePayloadToContent .default onePixel (imagePayload 1 1) = .ok (.image image) ∧
      ((image.WellFormed ∧ ∃ png, encodeImagePng onePixel image = .ok png) ↔
        (1 : UInt32).toNat * (1 : UInt32).toNat = (1 : UInt32).toNat * (1 : UInt32).toNat ∧
          (0 : UInt32) < 1 ∧ (0 : UInt32) < 1) := by
  have hresolve : resolvePayloadToContent .default onePixel (imagePayload 1 1) =
      .ok (.image { width := 1, height := 1, rgba := [0, 0, 0, 255] }) := rfl
  exact ⟨_, hresolve, received_wellFormed_iff imageLibrary_onePixel rfl rfl rfl hresolve⟩

/-- A picture of one pixel that is said to be two wide. -/
theorem stretched_pixel_short :
    ∃ image, resolvePayloadToContent .default onePixel (imagePayload 2 1) = .ok (.image image) ∧
      image.rgba.length = 4 ∧ image.width = 2 ∧ image.height = 1 ∧
      ¬image.WellFormed ∧
      encodeImagePng onePixel image = .error "invalid clipboard image dimensions" :=
  ⟨_, rfl, rfl, rfl, rfl, by unfold ImageDataOwned.WellFormed; decide, by decide +kernel⟩

end Images

end Failsafe.Clipboard
