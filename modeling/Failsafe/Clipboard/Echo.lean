import Failsafe.Clipboard.Inbound

/-!
What the watcher makes of content that a message has put on the clipboard
(`failsafe-clipboard/src/feature/mod.rs`, `inbound.rs`, `outbound.rs` and `payload.rs`).
-/

namespace Failsafe.Clipboard

open Failsafe.Core Failsafe.Lib Failsafe.Lib.JsonText Failsafe.Lib.Paths

/-- How a payload came to be made of a content. -/
inductive Built (limits : ClipboardLimits) (surroundings : ClipboardSurroundings) :
    ClipboardContent → PayloadContent → Prop where
  | text (body : String) : Built limits surroundings (.text body) (.text body)
  | html (html plain : String) (hshort : html.utf8ByteSize ≤ INLINE_HTML_THRESHOLD) :
      Built limits surroundings (.html html plain) (.html html plain)
  | htmlBlob (html plain hash : String) (hlong : ¬html.utf8ByteSize ≤ INLINE_HTML_THRESHOLD)
      (hstore : surroundings.storeBytes html.toUTF8.toList = .ok hash) :
      Built limits surroundings (.html html plain) (.htmlBlob hash plain)
  | image (image : ImageDataOwned) (png : List UInt8) (hash : String)
      (hpng : encodeImagePng surroundings image = .ok png)
      (hstore : surroundings.storeBytes png = .ok hash) :
      Built limits surroundings (.image image)
        (.image hash image.width image.height "image/png")
  | files (paths : List PathBuf) (files : List (String × List UInt8)) (hash : String)
      (hread : readPaths surroundings paths = .ok files)
      (hstore : surroundings.storeFiles files = .ok hash) :
      Built limits surroundings (.files paths)
        (.files hash (files.map fun (name, data) => { name, size := UInt64.ofNat data.length }))

section

variable {digest : List UInt8 → String} {limits : ClipboardLimits}
  {surroundings : ClipboardSurroundings} {content : ClipboardContent}
  {payload : ClipboardPayload} {device : ClipboardDevice}

theorem built_of_ok (h : contentToPayload limits surroundings content = .ok payload) :
    payload.version = CLIPBOARD_PAYLOAD_VERSION ∧
      Built limits surroundings content payload.content := by
  unfold contentToPayload at h
  dsimp only at h
  cases content with
  | text text =>
      obtain rfl := Except.ok.inj h
      exact ⟨rfl, .text text⟩
  | html html plain =>
      dsimp only at h
      split at h
      · next hshort =>
          obtain rfl := Except.ok.inj h
          exact ⟨rfl, .html html plain hshort⟩
      · next hlong =>
          obtain ⟨-, -, h⟩ := bind_ok h
          obtain ⟨hash, hstore, h⟩ := bind_ok h
          obtain rfl := Except.ok.inj h
          exact ⟨rfl, .htmlBlob html plain hash hlong hstore⟩
  | image image =>
      obtain ⟨png, hpng, h⟩ := bind_ok h
      obtain ⟨-, -, h⟩ := bind_ok h
      obtain ⟨hash, hstore, h⟩ := bind_ok h
      obtain rfl := Except.ok.inj h
      exact ⟨rfl, .image image png hash hpng hstore⟩
  | files paths =>
      obtain ⟨files, hread, h⟩ := bind_ok h
      split at h
      · cases h
      · obtain ⟨-, -, h⟩ := bind_ok h
        obtain ⟨hash, hstore, h⟩ := bind_ok h
        obtain rfl := Except.ok.inj h
        exact ⟨rfl, .files paths files hash hread hstore⟩

/-- The steps of one tick of the watcher. -/
def tickSteps (surroundings : ClipboardSurroundings) : List ClipboardStep :=
  [.tick, .read true, .build surroundings, .compare, .emit, .publish]

/-- However far the tick gets, nothing is published. -/
def ClipboardDevice.SilentTick (digest : List UInt8 → String) (limits : ClipboardLimits)
    (surroundings : ClipboardSurroundings) (device : ClipboardDevice) : Prop :=
  ∀ steps later, steps <+: tickSteps surroundings →
    device.run digest limits steps = some later → later.published = device.published

theorem silentTick_iff (hwatcher : device.watcher = .idle)
    (happlying : device.applyingRemote = false) (hclipboard : device.clipboard = some content) :
    device.SilentTick digest limits surroundings ↔
      ∀ made, contentToPayload limits surroundings content = .ok made →
        device.lastEmitted = some (made.fingerprint digest) := by
  obtain ⟨clipboard, lastEmitted, lastFailed, applyingRemote, watcher, inbound, published⟩ :=
    device
  obtain rfl : watcher = .idle := hwatcher
  obtain rfl : applyingRemote = false := happlying
  obtain rfl : clipboard = some content := hclipboard
  constructor
  · intro hsilent made hmade
    by_contra hnew
    have hrun := hsilent (tickSteps surroundings)
    simp [tickSteps, ClipboardDevice.run, ClipboardDevice.step, hmade, hnew] at hrun
  · intro hemitted steps later hsteps hrun
    have hcases := (List.mem_inits steps _).mpr hsteps
    simp only [tickSteps, List.inits_cons, List.inits, List.map_cons, List.map_nil,
      List.mem_cons, List.not_mem_nil, or_false] at hcases
    cases hmade : contentToPayload limits surroundings content with
    | error error =>
        rcases hcases with rfl | rfl | rfl | rfl | rfl | rfl | rfl <;>
          simp [ClipboardDevice.run, ClipboardDevice.step, hmade] at hrun <;> rw [← hrun]
    | ok made =>
        have hsame : lastEmitted = some (made.fingerprint digest) := hemitted made hmade
        rcases hcases with rfl | rfl | rfl | rfl | rfl | rfl | rfl <;>
          simp [ClipboardDevice.run, ClipboardDevice.step, hmade, hsame] at hrun <;> rw [← hrun]

theorem readPaths_cons {path : PathBuf} {paths : List PathBuf}
    {files : List (String × List UInt8)}
    (h : readPaths surroundings (path :: paths) = .ok files) :
    (surroundings.pathExists path = false ∧ readPaths surroundings paths = .ok files) ∨
    ∃ data rest, surroundings.readFile path = .ok data ∧
      readPaths surroundings paths = .ok rest ∧ files = (baseName path, data) :: rest := by
  rw [readPaths] at h
  dsimp only at h
  split at h
  · split at h
    · cases h
    · next data hdata =>
        obtain ⟨found, hfound, h⟩ := bind_ok h
        obtain rfl := Except.ok.inj hfound
        obtain ⟨rest, hrest, h⟩ := bind_ok h
        exact .inr ⟨data, rest, hdata, hrest, (Except.ok.inj h).symm⟩
  · next hmissing => exact .inl ⟨by simpa using hmissing, h⟩

theorem readPaths_names {paths : List PathBuf} {files : List (String × List UInt8)}
    (h : readPaths surroundings paths = .ok files) :
    ∀ file ∈ files, ∃ path, file.1 = baseName path := by
  induction paths generalizing files with
  | nil =>
      obtain rfl := Except.ok.inj h
      simp
  | cons path paths ih =>
      rcases readPaths_cons h with ⟨-, h⟩ | ⟨data, rest, -, hrest, rfl⟩
      · exact ih h
      · intro file hfile
        rcases List.mem_cons.mp hfile with rfl | hfile
        · exact ⟨path, rfl⟩
        · exact ih hrest file hfile

theorem readPaths_ok {paths : List PathBuf} {files : List (String × List UInt8)}
    (hexists : ∀ path ∈ paths, surroundings.pathExists path = true)
    (h : readPaths surroundings paths = .ok files) :
    List.Forall₂ (fun path file => file.1 = baseName path ∧
      surroundings.readFile path = .ok file.2) paths files := by
  induction paths generalizing files with
  | nil =>
      obtain rfl := Except.ok.inj h
      exact .nil
  | cons path paths ih =>
      rcases readPaths_cons h with ⟨hmissing, -⟩ | ⟨data, rest, hdata, hrest, rfl⟩
      · rw [hexists path List.mem_cons_self] at hmissing
        cases hmissing
      · refine .cons ⟨rfl, hdata⟩ (ih ?_ hrest)
        intro other hother
        exact hexists other (List.mem_cons_of_mem _ hother)

end

/-- What two devices and the time between two ticks have in common: blobs and collections are
known by hashes of what they hold, and pictures are encoded in one way. -/
structure SharedFormats where
  blobHash : List UInt8 → String
  collectionHash : List (String × List UInt8) → String
  writePng : ImageDataOwned → Except String (List UInt8)
  loadImage : List UInt8 → Except String ImageDataOwned

/-- The picture without what is left over of the buffer. -/
def ImageDataOwned.trimmed (image : ImageDataOwned) : ImageDataOwned :=
  { image with rgba := image.rgba.take (4 * image.width.toNat * image.height.toNat) }

/-- No two collections have one hash, and encoding a picture is deterministic and loses none of
its pixels. -/
structure SharedFormats.Sound (formats : SharedFormats) : Prop where
  collection : Function.Injective formats.collectionHash
  lossless : ∀ image png, 4 * image.width.toNat * image.height.toNat ≤ image.rgba.length →
    formats.writePng image = .ok png → formats.loadImage png = .ok image.trimmed
  deterministic : ∀ image png, 4 * image.width.toNat * image.height.toNat ≤ image.rgba.length →
    formats.writePng image = .ok png → formats.writePng image.trimmed = .ok png

/-- What is stored gets the hash of its content, and what is fetched has the hash it was asked
for. -/
structure Uses (formats : SharedFormats) (surroundings : ClipboardSurroundings) : Prop where
  storeBytes : ∀ data hash, surroundings.storeBytes data = .ok hash →
    hash = formats.blobHash data
  fetchBytes : ∀ data fetched, surroundings.fetchBytes (formats.blobHash data) = .ok fetched →
    fetched = data
  storeFiles : ∀ files hash, surroundings.storeFiles files = .ok hash →
    hash = formats.collectionHash files
  fetchCollectionFiles : ∀ files fetched,
    surroundings.fetchCollectionFiles (formats.collectionHash files) = .ok fetched →
    fetched = files
  writePng : surroundings.writePng = formats.writePng
  loadImage : surroundings.loadImage = formats.loadImage

/-- What can be seen of a disk. -/
structure Shows (disk : DiskFiles) (surroundings : ClipboardSurroundings) : Prop where
  pathExists : ∀ path, surroundings.pathExists path = (disk (components .unix path)).isSome
  readFile : ∀ path data, surroundings.readFile path = .ok data →
    disk (components .unix path) = some data

/-- Files of one name hold the same data. -/
def NamesakesAgree (files : List (String × List UInt8)) : Prop :=
  ∀ file ∈ files, ∀ other ∈ files, file.1 = other.1 → file.2 = other.2

section Written

variable {answers : WriteAnswers} {base : PathBuf} {paths : List PathBuf}
  {files reread : List (String × List UInt8)} {disk disk' : DiskFiles}
  {surroundings : ClipboardSurroundings}

/-- Files with base names are read as they were written exactly if namesakes agree. -/
theorem reread_eq_iff (hshows : Shows disk' surroundings)
    (hwrite : writeNamedFiles answers base files disk = (.ok paths, disk'))
    (hnames : ∀ file ∈ files, ∃ path, file.1 = baseName path)
    (hread : readPaths surroundings paths = .ok reread) :
    reread = files ↔ NamesakesAgree files := by
  obtain ⟨rfl, rfl⟩ := writeNamedFiles_ok hwrite
  have hname : ∀ file ∈ files, sanitizeFilename file.1 = file.1 := by
    intro file hfile
    obtain ⟨path, hpath⟩ := hnames file hfile
    rw [hpath, baseName_baseName]
  have hexists : ∀ path ∈ files.map fun file => targetOf base file.1,
      surroundings.pathExists path = true := by
    intro path hpath
    obtain ⟨file, hfile, rfl⟩ := List.mem_map.mp hpath
    obtain ⟨other, -, -, hwritten⟩ := exists_written base disk hfile
    rw [hshows.pathExists, hwritten]
    rfl
  have hall := List.forall₂_map_left_iff.mp (readPaths_ok hexists hread)
  constructor
  · rintro rfl file hfile other hother hsame
    have hstored := fun file hfile =>
      hshows.readFile _ _ (List.forall₂_same.mp hall file hfile).2
    have hone := hstored file hfile
    rw [hsame, hstored other hother] at hone
    exact (Option.some.inj hone).symm
  · intro hagree
    have heq : List.Forall₂ (fun file again => file = again) files reread := by
      refine ((List.forall₂_and_left (p := (· ∈ files)) _ _).mpr
        ⟨fun _ hfile => hfile, hall⟩).imp ?_
      rintro file again ⟨hfile, hagain, hdata⟩
      obtain ⟨other, hother, hsame, hwritten⟩ :=
        exists_written base disk hfile
      rw [hname other hother, hname file hfile] at hsame
      have hstored := hshows.readFile _ _ hdata
      rw [hwritten] at hstored
      refine Prod.ext ?_ ?_
      · rw [hagain, targetOf, hname file hfile, baseName_joinName]
        obtain ⟨path, hpath⟩ := hnames file hfile
        rw [hpath]
        exact isName_baseName path
      · rw [← Option.some.inj hstored]
        exact (hagree other hother file hfile hsame).symm
    exact (List.forall₂_eq_eq_eq ▸ heq).symm

theorem writeReceivedFiles_ok {cacheDir : Option PathBuf} {session : Uuid}
    (h : (writeReceivedFiles cacheDir session answers files disk).1 = .ok paths) :
    ∃ base, writeNamedFiles answers base files disk =
      (.ok paths, (writeReceivedFiles cacheDir session answers files disk).2) := by
  unfold writeReceivedFiles at h ⊢
  cases hbase : defaultClipboardCacheDir cacheDir with
  | none =>
      rw [hbase] at h
      cases h
  | some base =>
      rw [hbase] at h
      dsimp only at h ⊢
      refine ⟨joinName base session.toText, ?_⟩
      split at h
      · cases h
      · next written disk' hwrite =>
          obtain rfl := Except.ok.inj h
          rw [hwrite]

end Written

section Encoded

variable {version : UInt32} {hash hash' text text' : String}
  {entries entries' : List ClipboardFile}

theorem encode_files_inj
    (h : ClipboardPayload.encode { version, content := .files hash entries } =
      ClipboardPayload.encode { version, content := .files hash' entries' }) : hash = hash' := by
  have htext := utf8_injective h
  simp only [PayloadContent.fields, writeObject, List.map_cons, List.map_nil, commaSeparated,
    writeField, List.cons_append, List.append_assoc, List.cons.injEq, true_and,
    List.append_cancel_left_eq] at htext
  exact (writeString_append_inj htext).1

theorem encode_text_ne :
    ClipboardPayload.encode { version := CLIPBOARD_PAYLOAD_VERSION, content := .text text } ≠
      ClipboardPayload.encode { version := 1, content := .text text' } := by
  intro h
  have htext := utf8_injective h
  have hcurrent : writeNat CLIPBOARD_PAYLOAD_VERSION.toNat = ['2'] := by decide
  have hlegacy : writeNat 1 = ['1'] := by decide
  simp [PayloadContent.fields, writeObject, commaSeparated, writeField, hcurrent, hlegacy]
    at htext

end Encoded

/-- Where a payload comes from: a peer made it of what was copied there, or a message has the
legacy form. -/
inductive Origin (limits : ClipboardLimits) (peer : ClipboardSurroundings)
    (reader : PayloadReader) (bytes : List UInt8) : ClipboardPayload → Prop where
  | built (copied : ClipboardContent) (payload : ClipboardPayload)
      (h : contentToPayload limits peer copied = .ok payload) :
      Origin limits peer reader bytes payload
  | legacy (text error : String) (hpayload : reader.payload bytes = .error error)
      (h : reader.legacy bytes = .ok text) :
      Origin limits peer reader bytes { version := 1, content := .text text }

/-- Not in the legacy form, and without two different files of one name. -/
structure Faithful (formats : SharedFormats) (payload : ClipboardPayload) : Prop where
  version : payload.version = CLIPBOARD_PAYLOAD_VERSION
  files : ∀ files entries, payload.content = .files (formats.collectionHash files) entries →
    NamesakesAgree files

section Rebuilt

variable {digest : List UInt8 → String} {limits : ClipboardLimits} {formats : SharedFormats}
  {peer received next : ClipboardSurroundings} {payload made : ClipboardPayload}
  {copied content : ClipboardContent} {cacheDir : Option PathBuf} {session : Uuid}
  {answers : WriteAnswers} {disk : DiskFiles}

theorem encodeImagePng_ok {surroundings : ClipboardSurroundings} {image : ImageDataOwned}
    {png : List UInt8} (h : encodeImagePng surroundings image = .ok png) :
    4 * image.width.toNat * image.height.toNat ≤ image.rgba.length ∧
      surroundings.writePng image = .ok png := by
  unfold encodeImagePng at h
  split at h
  · next hlong => exact ⟨hlong, h⟩
  · cases h

theorem faithful_of_no_files (hversion : payload.version = CLIPBOARD_PAYLOAD_VERSION)
    (h : ∀ hash entries, payload.content ≠ .files hash entries) : Faithful formats payload :=
  ⟨hversion, fun _ entries heq => absurd heq (h _ entries)⟩

/-- What is made of the content that a peer's payload was resolved to. -/
theorem rebuilt_iff (hdigest : Function.Injective digest) (hsound : formats.Sound)
    (hpeer : Uses formats peer) (hreceived : Uses formats received) (hnext : Uses formats next)
    (hwrites : ∀ files, received.writeReceivedFiles files =
      (writeReceivedFiles cacheDir session answers files disk).1)
    (hshows : ∀ files entries,
      payload.content = .files (formats.collectionHash files) entries →
      Shows (writeReceivedFiles cacheDir session answers files disk).2 next)
    (hbuilt : contentToPayload limits peer copied = .ok payload)
    (hresolve : resolvePayloadToContent limits received payload = .ok content)
    (hmade : contentToPayload limits next content = .ok made) :
    made.fingerprint digest = payload.fingerprint digest ↔ Faithful formats payload := by
  obtain ⟨hversion, hcopied⟩ := built_of_ok hbuilt
  obtain ⟨hagain, hcontent⟩ := built_of_ok hmade
  obtain ⟨version, body⟩ := payload
  obtain ⟨version', body'⟩ := made
  dsimp only at hversion hcopied hagain hcontent
  subst hversion hagain
  unfold resolvePayloadToContent at hresolve
  cases hcopied with
  | text text =>
      obtain rfl := Except.ok.inj hresolve
      cases hcontent
      simp [faithful_of_no_files]
  | html html plain hshort =>
      obtain rfl := Except.ok.inj hresolve
      cases hcontent with
      | html => simp [faithful_of_no_files]
      | htmlBlob _ _ _ hlong => exact absurd hshort hlong
  | htmlBlob html plain hash hlong hstore =>
      obtain ⟨data, hdata, hresolve⟩ := bind_ok hresolve
      obtain ⟨-, -, hresolve⟩ := bind_ok hresolve
      obtain ⟨found, hfound, hresolve⟩ := bind_ok hresolve
      obtain rfl := Except.ok.inj hresolve
      obtain rfl := hpeer.storeBytes _ _ hstore
      obtain rfl := hreceived.fetchBytes _ _ hdata
      unfold htmlOfUtf8 at hfound
      rw [Utf8.ofBytes_toList] at hfound
      obtain rfl := Except.ok.inj hfound
      cases hcontent with
      | html _ _ hshort => exact absurd hshort hlong
      | htmlBlob _ _ _ _ hagain =>
          obtain rfl := hnext.storeBytes _ _ hagain
          simp [faithful_of_no_files]
  | image image png hash hpng hstore =>
      obtain ⟨data, hdata, hresolve⟩ := bind_ok hresolve
      obtain ⟨-, -, hresolve⟩ := bind_ok hresolve
      obtain ⟨loaded, hloaded, hresolve⟩ := bind_ok hresolve
      obtain rfl := Except.ok.inj hresolve
      obtain rfl := hpeer.storeBytes _ _ hstore
      obtain rfl := hreceived.fetchBytes _ _ hdata
      obtain ⟨hlong, hwritten⟩ := encodeImagePng_ok hpng
      rw [hpeer.writePng] at hwritten
      rw [hreceived.loadImage, hsound.lossless _ _ hlong hwritten] at hloaded
      obtain rfl := Except.ok.inj hloaded
      cases hcontent with
      | image _ again _ hagain hagainStore =>
          obtain ⟨-, hrewritten⟩ := encodeImagePng_ok hagain
          rw [hnext.writePng] at hrewritten
          obtain rfl := Except.ok.inj
            ((hsound.deterministic _ _ hlong hwritten).symm.trans hrewritten)
          obtain rfl := hnext.storeBytes _ _ hagainStore
          simp [faithful_of_no_files]
  | files paths files hash hread hstore =>
      obtain ⟨fetched, hfetched, hresolve⟩ := bind_ok hresolve
      obtain ⟨-, -, hresolve⟩ := bind_ok hresolve
      obtain ⟨written, hwritten, hresolve⟩ := bind_ok hresolve
      obtain rfl := Except.ok.inj hresolve
      obtain rfl := hpeer.storeFiles _ _ hstore
      obtain rfl := hreceived.fetchCollectionFiles _ _ hfetched
      rw [hwrites] at hwritten
      obtain ⟨base, hwrite⟩ := writeReceivedFiles_ok hwritten
      cases hcontent with
      | files _ reread _ hreread hagainStore =>
          obtain rfl := hnext.storeFiles _ _ hagainStore
          have hiff := reread_eq_iff (hshows _ _ rfl) hwrite (readPaths_names hread) hreread
          constructor
          · intro hsame
            have heq := hsound.collection (encode_files_inj (hdigest hsame))
            refine ⟨rfl, fun files entries hcontent => ?_⟩
            obtain rfl := hsound.collection (PayloadContent.files.inj hcontent).1
            exact hiff.mp heq
          · intro hfaithful
            rw [hiff.mpr (hfaithful.files _ _ rfl)]

theorem legacy_rebuilt {text : String} (hdigest : Function.Injective digest)
    (hresolve : resolvePayloadToContent limits received { version := 1, content := .text text } =
      .ok content)
    (hmade : contentToPayload limits next content = .ok made) :
    made.fingerprint digest ≠
      ClipboardPayload.fingerprint digest { version := 1, content := .text text } := by
  obtain rfl := Except.ok.inj hresolve
  obtain rfl := Except.ok.inj hmade
  intro hsame
  exact encode_text_ne (hdigest hsame)

theorem fingerprint_iff {reader : PayloadReader} {bytes : List UInt8}
    (hdigest : Function.Injective digest) (hsound : formats.Sound)
    (hpeer : Uses formats peer) (hreceived : Uses formats received) (hnext : Uses formats next)
    (hwrites : ∀ files, received.writeReceivedFiles files =
      (writeReceivedFiles cacheDir session answers files disk).1)
    (hshows : ∀ files entries,
      payload.content = .files (formats.collectionHash files) entries →
      Shows (writeReceivedFiles cacheDir session answers files disk).2 next)
    (horigin : Origin limits peer reader bytes payload)
    (hresolve : resolvePayloadToContent limits received payload = .ok content)
    (hmade : contentToPayload limits next content = .ok made) :
    made.fingerprint digest = payload.fingerprint digest ↔ Faithful formats payload := by
  cases horigin with
  | built copied _ hbuilt =>
      exact rebuilt_iff hdigest hsound hpeer hreceived hnext hwrites hshows hbuilt hresolve hmade
  | legacy text =>
      constructor
      · intro hsame
        exact absurd hsame (legacy_rebuilt hdigest hresolve hmade)
      · intro hfaithful
        have hversion : (1 : UInt32) = CLIPBOARD_PAYLOAD_VERSION := hfaithful.version
        exact absurd hversion (by decide)

/-- Content that a message has put on the clipboard is rebuilt to the payload of the message, and
the next tick is silent, exactly if the payload is faithful. -/
theorem applied_unechoed_iff {reader : PayloadReader}
    {surroundings : DeviceId → ClipboardSurroundings}
    {write : ClipboardContent → Except String Unit} {message : FeatureMessage (List UInt8)}
    {device device' : ClipboardDevice} (hdigest : Function.Injective digest)
    (hsound : formats.Sound) (hpeer : Uses formats peer)
    (hreceived : Uses formats (surroundings message.from)) (hnext : Uses formats next)
    (hwrites : ∀ files, (surroundings message.from).writeReceivedFiles files =
      (writeReceivedFiles cacheDir session answers files disk).1)
    (hshows : ∀ files entries,
      payload.content = .files (formats.collectionHash files) entries →
      Shows (writeReceivedFiles cacheDir session answers files disk).2 next)
    (hwatcher : device.watcher = .idle)
    (hdecode : decode reader message.payload = .ok payload)
    (horigin : Origin limits peer reader message.payload payload)
    (h : device.handleMessage digest limits reader surroundings write message =
      (.ok (), device')) (hcontent : device'.clipboard = some content) :
    (∀ made, contentToPayload limits next content = .ok made →
      ((made.fingerprint digest = payload.fingerprint digest ∧
          device'.SilentTick digest limits next) ↔ Faithful formats payload)) ∧
    (∀ error, contentToPayload limits next content = .error error →
      device'.SilentTick digest limits next) := by
  obtain ⟨decoded, applied, hdecoded, hresolve, -, rfl⟩ := handleMessage_ok h
  rw [hdecode] at hdecoded
  obtain rfl := Except.ok.inj hdecoded
  obtain rfl := Option.some.inj hcontent
  have hsilent := @silentTick_iff digest limits next applied { device with
    clipboard := some applied
    lastEmitted := some (payload.fingerprint digest)
    applyingRemote := false } hwatcher rfl rfl
  rw [hsilent]
  constructor
  · intro made hmade
    rw [← fingerprint_iff hdigest hsound hpeer hreceived hnext hwrites hshows horigin hresolve
      hmade]
    constructor
    · exact fun hboth => hboth.1
    · intro hsame
      refine ⟨hsame, fun other hother => ?_⟩
      rw [hmade] at hother
      rw [← Except.ok.inj hother, hsame]
  · intro error herror made hmade
    rw [herror] at hmade
    cases hmade

end Rebuilt

section Sample

theorem plainDigest_injective : Function.Injective plainDigest := by
  intro bytes other heq
  refine List.map_injective_iff.mpr ?_ (String.ofList_injective heq)
  intro byte byte' hchar
  have hnat (byte : UInt8) : (Char.ofNat byte.toNat).toNat = byte.toNat := by
    have hvalid : byte.toNat.isValidChar := .inl (Nat.lt_of_lt_of_le byte.toNat_lt (by decide))
    rw [Char.ofNat, dif_pos hvalid]
    rfl
  have hsame := congrArg Char.toNat hchar
  rw [hnat, hnat] at hsame
  exact UInt8.toNat_inj.mp hsame

/-- The names and the data of the files, in string literals. -/
def listing : List (String × List UInt8) → List Char
  | [] => []
  | (name, data) :: files => writeString name ++ (writeString (plainDigest data) ++ listing files)

theorem listing_injective : Function.Injective listing := by
  intro files
  induction files with
  | nil =>
      intro other heq
      cases other with
      | nil => rfl
      | cons file other => simp [listing, writeString] at heq
  | cons file files ih =>
      intro other heq
      cases other with
      | nil => simp [listing, writeString] at heq
      | cons file' other =>
          obtain ⟨hname, hrest⟩ := writeString_append_inj heq
          obtain ⟨hdata, htail⟩ := writeString_append_inj hrest
          rw [Prod.ext hname (plainDigest_injective hdata), ih htail]

/-- Hashes without collisions, and no pictures. -/
def plainFormats : SharedFormats where
  blobHash := plainDigest
  collectionHash files := String.ofList (listing files)
  writePng _ := .error "offline"
  loadImage _ := .error "offline"

theorem plainFormats_sound : plainFormats.Sound where
  collection files other heq := listing_injective (String.ofList_injective heq)
  lossless := by rintro image png - ⟨⟩
  deterministic := by rintro image png - ⟨⟩

/-- Nothing can be fetched, and there is no place for files. -/
def homeless : ClipboardSurroundings :=
  { cutOff with
    writeReceivedFiles files := (writeReceivedFiles none 0 roomy files fun _ => none).1 }

theorem uses_homeless : Uses plainFormats homeless where
  storeBytes := by rintro data hash ⟨⟩
  fetchBytes := by rintro data fetched ⟨⟩
  storeFiles := by rintro files hash ⟨⟩
  fetchCollectionFiles := by rintro files fetched ⟨⟩
  writePng := rfl
  loadImage := rfl

/-- Text in the current form is not sent back. -/
theorem new_text_unechoed :
    ∃ device', (copied "old").handleMessage plainDigest .default (readerOf (textPayload "new"))
        (fun _ => homeless) (fun _ => .ok ()) (clipboardMessage (textPayload "new").encode) =
        (.ok (), device') ∧
      ((∀ made, contentToPayload .default homeless (.text "new") = .ok made →
        ((made.fingerprint plainDigest = (textPayload "new").fingerprint plainDigest ∧
            device'.SilentTick plainDigest .default homeless) ↔
          Faithful plainFormats (textPayload "new"))) ∧
      (∀ error, contentToPayload .default homeless (.text "new") = .error error →
        device'.SilentTick plainDigest .default homeless)) := by
  have hdecode : decode (readerOf (textPayload "new"))
      (clipboardMessage (textPayload "new").encode).payload = .ok (textPayload "new") := by
    decide +kernel
  have hhandled : (copied "old").handleMessage plainDigest .default
      (readerOf (textPayload "new")) (fun _ => homeless) (fun _ => .ok ())
      (clipboardMessage (textPayload "new").encode) =
      (.ok (), { copied "old" with
        clipboard := some (.text "new")
        lastEmitted := some ((textPayload "new").fingerprint plainDigest) }) := by
    decide +kernel
  have hwrites (files : List (String × List UInt8)) : homeless.writeReceivedFiles files =
      (writeReceivedFiles none 0 roomy files fun _ => none).1 := rfl
  refine ⟨_, hhandled, applied_unechoed_iff plainDigest_injective plainFormats_sound
    uses_homeless uses_homeless uses_homeless hwrites ?_ rfl hdecode
    (.built (.text "new") _ rfl) hhandled rfl⟩
  rintro files entries ⟨⟩

/-- The reader of a message in the legacy form. -/
def legacyReader (text : String) : PayloadReader where
  payload _ := .error "missing field"
  legacy _ := .ok text

/-- A text in the legacy form is sent back at the next tick. -/
theorem legacy_text_echoed :
    ∃ device', (copied "old").handleMessage plainDigest .default (legacyReader "legacy")
        (fun _ => homeless) (fun _ => .ok ())
        (clipboardMessage "\x7b\"text\":\"legacy\"\x7d".toUTF8.toList) = (.ok (), device') ∧
      device'.clipboard = some (.text "legacy") ∧
      ∃ later, device'.run plainDigest .default (tickSteps homeless) = some later ∧
        later.published = [textPayload "legacy"] ∧
        ¬device'.SilentTick plainDigest .default homeless := by
  have hrun : ({ copied "old" with
      clipboard := some (.text "legacy")
      lastEmitted := some (ClipboardPayload.fingerprint plainDigest
        { version := 1, content := .text "legacy" }) } : ClipboardDevice).run
        plainDigest .default (tickSteps homeless) =
      some { copied "old" with
        clipboard := some (.text "legacy")
        lastEmitted := some ((textPayload "legacy").fingerprint plainDigest)
        published := [textPayload "legacy"] } := by
    decide +kernel
  refine ⟨_, by decide +kernel, rfl, _, hrun, rfl, fun hsilent => ?_⟩
  cases hsilent _ _ List.prefix_rfl hrun

end Sample

end Failsafe.Clipboard
