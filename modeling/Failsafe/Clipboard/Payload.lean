import Failsafe.Clipboard.Limits
import Failsafe.Core.Path
import Failsafe.Lib.JsonText

/-!
What the clipboard holds, what is sent of it, and the way from one to the other
(`failsafe-clipboard/src/payload.rs`, `io/content.rs`, `feature/outbound.rs`, `inbound.rs`
and `image.rs`).
-/

namespace Failsafe.Clipboard

open Failsafe.Core Failsafe.Lib Failsafe.Lib.JsonText Failsafe.Lib.Paths

structure ImageDataOwned where
  width : UInt32
  height : UInt32
  rgba : List UInt8
deriving DecidableEq, Repr

/-- The content of the clipboard of this device. -/
inductive ClipboardContent where
  | text (text : String)
  | html (html plain : String)
  | image (image : ImageDataOwned)
  | files (paths : List PathBuf)
deriving DecidableEq, Repr

structure ClipboardFile where
  name : String
  size : UInt64
deriving DecidableEq, Repr

/-- `payload::ClipboardContent`. -/
inductive PayloadContent where
  | text (text : String)
  | html (html plain : String)
  | htmlBlob (hash plain : String)
  | image (hash : String) (width height : UInt32) (mime : String)
  | files (collectionHash : String) (entries : List ClipboardFile)
deriving DecidableEq, Repr

structure ClipboardPayload where
  version : UInt32
  content : PayloadContent
deriving DecidableEq, Repr

def CLIPBOARD_PAYLOAD_VERSION : UInt32 := 2

def INLINE_HTML_THRESHOLD : Nat := 64 * 1024

def ClipboardFile.write (file : ClipboardFile) : List Char :=
  writeObject [("name", writeString file.name), ("size", writeNat file.size.toNat)]

def PayloadContent.fields : PayloadContent → List (String × List Char)
  | .text body => [("type", writeString "text"), ("text", writeString body)]
  | .html body plain =>
      [("type", writeString "html"), ("html", writeString body), ("plain", writeString plain)]
  | .htmlBlob hash plain =>
      [("type", writeString "html_blob"), ("hash", writeString hash),
        ("plain", writeString plain)]
  | .image hash width height mime =>
      [("type", writeString "image"), ("hash", writeString hash),
        ("width", writeNat width.toNat), ("height", writeNat height.toNat),
        ("mime", writeString mime)]
  | .files collectionHash entries =>
      [("type", writeString "files"), ("collection_hash", writeString collectionHash),
        ("entries", writeArray (entries.map ClipboardFile.write))]

/-- `payload::encode`. -/
def ClipboardPayload.encode (payload : ClipboardPayload) : List UInt8 :=
  utf8 (writeObject (("version", writeNat payload.version.toNat) :: payload.content.fields))

/-- `payload::fingerprint`; `digest` is `blake3::hash` in hexadecimal. -/
def ClipboardPayload.fingerprint (digest : List UInt8 → String) (payload : ClipboardPayload) :
    String :=
  digest payload.encode

/-- What the blob store, the disk and the image codec answer during one call. -/
structure ClipboardSurroundings where
  storeBytes : List UInt8 → Except String String
  storeFiles : List (String × List UInt8) → Except String String
  fetchBytes : String → Except String (List UInt8)
  fetchCollectionFiles : String → Except String (List (String × List UInt8))
  pathExists : PathBuf → Bool
  readFile : PathBuf → Except String (List UInt8)
  writeReceivedFiles : List (String × List UInt8) → Except String (List PathBuf)
  writePng : ImageDataOwned → Except String (List UInt8)
  loadImage : List UInt8 → Except String ImageDataOwned

def encodeImagePng (surroundings : ClipboardSurroundings) (image : ImageDataOwned) :
    Except String (List UInt8) :=
  if 4 * image.width.toNat * image.height.toNat ≤ image.rgba.length then
    surroundings.writePng image
  else .error "invalid clipboard image dimensions"

/-- The loop of `content_to_payload` over the copied paths. -/
def readPaths (surroundings : ClipboardSurroundings) :
    List PathBuf → Except String (List (String × List UInt8))
  | [] => .ok []
  | path :: paths =>
      if surroundings.pathExists path then do
        let data ← match surroundings.readFile path with
          | .error error => .error s!"failed to read {Utf8.lossy path}: {error}"
          | .ok data => .ok data
        let files ← readPaths surroundings paths
        return (baseName path, data) :: files
      else readPaths surroundings paths

def contentToPayload (limits : ClipboardLimits) (surroundings : ClipboardSurroundings)
    (content : ClipboardContent) : Except String ClipboardPayload := do
  let content : PayloadContent ← match content with
    | .text text => .ok (.text text)
    | .html html plain =>
        if html.utf8ByteSize ≤ INLINE_HTML_THRESHOLD then .ok (.html html plain)
        else do
          limits.validateBlob html.utf8ByteSize
          let hash ← surroundings.storeBytes html.toUTF8.toList
          .ok (.htmlBlob hash plain)
    | .image image => do
        let png ← encodeImagePng surroundings image
        limits.validateBlob png.length
        let hash ← surroundings.storeBytes png
        .ok (.image hash image.width image.height "image/png")
    | .files paths => do
        let files ← readPaths surroundings paths
        if files.isEmpty then .error "clipboard file paths are missing or unreadable"
        limits.validateFiles files
        let hash ← surroundings.storeFiles files
        .ok (.files hash (files.map fun (name, data) =>
          { name, size := UInt64.ofNat data.length }))
  return { version := CLIPBOARD_PAYLOAD_VERSION, content }

/-- `String::from_utf8`. -/
def htmlOfUtf8 (data : List UInt8) : Except String String :=
  match Utf8.ofBytes data with
  | some html => .ok html
  | none => .error s!"clipboard html blob is not valid utf-8: {Utf8.errorText data}"

def resolvePayloadToContent (limits : ClipboardLimits) (surroundings : ClipboardSurroundings)
    (payload : ClipboardPayload) : Except String ClipboardContent :=
  match payload.content with
  | .text text => .ok (.text text)
  | .html html plain => .ok (.html html plain)
  | .htmlBlob hash plain => do
      let data ← surroundings.fetchBytes hash
      limits.validateBlob data.length
      let html ← htmlOfUtf8 data
      return .html html plain
  | .image hash width height _ => do
      let data ← surroundings.fetchBytes hash
      limits.validateBlob data.length
      let image ← surroundings.loadImage data
      return .image { image with width, height }
  | .files collectionHash _ => do
      let files ← surroundings.fetchCollectionFiles collectionHash
      limits.validateFiles files
      let paths ← surroundings.writeReceivedFiles files
      return .files paths

/-- Text, or HTML short enough that `content_to_payload` sends it in the message itself. -/
def ClipboardPayload.Inline (payload : ClipboardPayload) : Prop :=
  payload.version = CLIPBOARD_PAYLOAD_VERSION ∧
    match payload.content with
    | .text _ => True
    | .html html _ => html.utf8ByteSize ≤ INLINE_HTML_THRESHOLD
    | _ => False

theorem contentToPayload_of_resolve {limits limits' : ClipboardLimits}
    {surroundings surroundings' : ClipboardSurroundings} {payload : ClipboardPayload}
    {content : ClipboardContent} (hinline : payload.Inline)
    (h : resolvePayloadToContent limits surroundings payload = .ok content) :
    contentToPayload limits' surroundings' content = .ok payload := by
  obtain ⟨version, body⟩ := payload
  obtain ⟨hversion, hbody⟩ := hinline
  dsimp only at hversion hbody
  subst hversion
  cases body with
  | text text =>
      obtain rfl := Except.ok.inj h
      rfl
  | html html plain =>
      obtain rfl := Except.ok.inj h
      simp only [contentToPayload, if_pos hbody]
      rfl
  | htmlBlob | image | files => exact hbody.elim

end Failsafe.Clipboard
