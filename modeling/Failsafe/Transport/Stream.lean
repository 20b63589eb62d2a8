import Failsafe.Lib.JsonText
import Failsafe.Lib.RecvStream
import Failsafe.Transport.Codec

/-!
Streams between two devices and what the receiver takes them for
(`failsafe-transport/src/iroh/stream.rs`, `port.rs`, `shell.rs`).
-/

namespace Failsafe.Transport

open Failsafe.Core Failsafe.Lib

/-- `read_exact`, with this much of the buffer still to fill. -/
def readExact (missing : Nat) (recv : RecvStream) :
    Except TransportError (List UInt8) × RecvStream :=
  if _h : missing = 0 then (.ok [], recv)
  else match recv.read missing with
    | (.error error, recv) => (.error (.codec error), recv)
    | (.ok none, recv) | (.ok (some []), recv) =>
        (.error (.codec "stream closed before read complete"), recv)
    | (.ok (some (byte :: bytes)), recv) =>
        match readExact (missing - (bytes.length + 1)) recv with
        | (.error error, recv) => (.error error, recv)
        | (.ok rest, recv) => (.ok (byte :: bytes ++ rest), recv)
termination_by missing
decreasing_by omega

theorem readExact_eq (missing : Nat) (recv : RecvStream) :
    readExact missing recv =
      recv.fill .codec (.codec "stream closed before read complete") missing := by
  induction missing using Nat.strong_induction_on generalizing recv with
  | _ missing ih =>
      rw [readExact, RecvStream.fill]
      by_cases hmissing : missing = 0
      · rw [dif_pos hmissing, dif_pos hmissing]
      · rw [dif_neg hmissing, dif_neg hmissing]
        rcases recv.read missing with ⟨error | _ | _ | ⟨byte, bytes⟩, recv'⟩
        · rfl
        · rfl
        · rfl
        · dsimp only
          rw [ih _ (by omega)]
          generalize RecvStream.fill _ _ _ recv' = answer
          obtain ⟨error | rest, last⟩ := answer
          · rfl
          · rfl

theorem readExact_append {recv : RecvStream} {first rest : List UInt8}
    (h : recv.bytes = first ++ rest) :
    ∃ recv', readExact first.length recv = (.ok first, recv') ∧ recv'.bytes = rest := by
  rw [readExact_eq]
  exact RecvStream.fill_append h

inductive PortProtocol where
  | tcp
deriving DecidableEq, Repr

section Handshakes

def PORT_HANDSHAKE : List UInt8 := ['F', 'S', 'P', '1'].map Char.toUInt8

def PORT_INIT_LEN : Nat := 7

def PORT_PROTOCOL_TCP : UInt8 := 0

def SHELL_HANDSHAKE : List UInt8 := ['F', 'S', 'H', '1'].map Char.toUInt8

def isPortHandshake (header : List UInt8) : Bool :=
  header.length ≥ 4 && header.take 4 == PORT_HANDSHAKE

def isShellHandshake (header : List UInt8) : Bool :=
  header.length ≥ 4 && header.take 4 == SHELL_HANDSHAKE

/-- `u16::to_be_bytes` -/
def toBeBytes16 (value : UInt16) : List UInt8 :=
  [(value >>> 8).toUInt8, value.toUInt8]

theorem fromBeBytes_toBeBytes16 (value : UInt16) :
    UInt16.ofNat (fromBeBytes (toBeBytes16 value)) = value := by
  have hbound := value.toNat_lt
  have hvalue : fromBeBytes (toBeBytes16 value) = value.toNat := by
    simp only [toBeBytes16, fromBeBytes, List.foldl_cons, List.foldl_nil, UInt16.toNat_toUInt8,
      UInt16.toNat_shiftRight, UInt16.reduceToNat, Nat.shiftRight_eq_div_pow, Nat.reduceMod,
      Nat.reducePow]
    omega
  rw [hvalue, UInt16.ofNat_toNat]

def protocolByte : PortProtocol → UInt8
  | .tcp => PORT_PROTOCOL_TCP

def buildPortInit (remotePort : UInt16) (protocol : PortProtocol) : List UInt8 :=
  PORT_HANDSHAKE ++ (toBeBytes16 remotePort ++ [protocolByte protocol])

def parsePortInit (bytes : List UInt8) : Option (UInt16 × PortProtocol) :=
  if bytes.length < PORT_INIT_LEN ∨ isPortHandshake bytes = false then none
  else
    let remotePort := UInt16.ofNat (fromBeBytes ((bytes.drop 4).take 2))
    if bytes.getD 6 0 = PORT_PROTOCOL_TCP then some (remotePort, .tcp) else none

def buildShellInit (rows cols : UInt16) : List UInt8 :=
  SHELL_HANDSHAKE ++ (toBeBytes16 rows ++ toBeBytes16 cols)

theorem parsePortInit_buildPortInit (remotePort : UInt16) (protocol : PortProtocol) :
    parsePortInit (buildPortInit remotePort protocol) = some (remotePort, protocol) := by
  have hport := fromBeBytes_toBeBytes16 remotePort
  cases protocol
  unfold parsePortInit
  rw [if_neg ?_]
  · simpa [buildPortInit, toBeBytes16, PORT_HANDSHAKE, protocolByte] using hport
  · simp [buildPortInit, isPortHandshake, toBeBytes16, PORT_INIT_LEN, PORT_HANDSHAKE]

end Handshakes

/-- The feature that waits for sessions, if it is running. -/
inductive Acceptor where
  | unregistered
  | registered
  | closed
deriving DecidableEq, Repr

/-- The sending half of a session, which is handed on untouched, is left out. -/
structure ShellSession where
  «from» : DeviceId
  rows : UInt16
  cols : UInt16
  recv : RecvStream

structure PortSession where
  «from» : DeviceId
  remotePort : UInt16
  protocol : PortProtocol
  recv : RecvStream

/-- What comes of an incoming stream. -/
inductive StreamEvent where
  | port (session : PortSession)
  | shell (session : ShellSession)
  | inbox (message : FeatureMessage (List UInt8))
  | log (message : String)

/-- What handling a stream works with. -/
structure StreamContext where
  device : DeviceId
  localDeviceId : DeviceId
  inboxOpen : Bool
  portAcceptor : Acceptor
  shellAcceptor : Acceptor

/-- `forward_to_acceptor` -/
def forwardToAcceptor (acceptor : Acceptor) (session : StreamEvent)
    (notRegistered closed : String) : StreamEvent :=
  match acceptor with
  | .unregistered => .log notRegistered
  | .closed => .log closed
  | .registered => session

def forwardPort (context : StreamContext) (session : PortSession) : StreamEvent :=
  forwardToAcceptor context.portAcceptor (.port session)
    "rejected port stream: port acceptor not registered" "port acceptor closed"

def forwardShell (context : StreamContext) (session : ShellSession) : StreamEvent :=
  forwardToAcceptor context.shellAcceptor (.shell session)
    "rejected shell stream: shell acceptor not registered" "shell acceptor closed"

def tryAcceptPortStream (context : StreamContext) (header : List UInt8) (recv : RecvStream) :
    StreamEvent :=
  match readExact 3 recv with
  | (.error error, _) => .log s!"port stream missing init tail: {error.toText}"
  | (.ok tail, recv) =>
      match parsePortInit (header ++ tail) with
      | none => .log "port stream has invalid init"
      | some (remotePort, protocol) =>
          forwardPort context { «from» := context.device, remotePort, protocol, recv }

def tryAcceptShellStream (context : StreamContext) (recv : RecvStream) : StreamEvent :=
  match readExact 4 recv with
  | (.error error, _) => .log s!"shell stream missing terminal size: {error.toText}"
  | (.ok size, recv) =>
      let rows := UInt16.ofNat (fromBeBytes (size.take 2))
      let cols := UInt16.ofNat (fromBeBytes (size.drop 2))
      forwardShell context { «from» := context.device, rows, cols, recv }

/-- The message of a frame goes to the inbox under the name of the authenticated device. -/
def deliverMessage (context : StreamContext) (message : FeatureMessage (List UInt8)) :
    StreamEvent :=
  if message.to ≠ context.localDeviceId then
    .log "rejected inbound frame with mismatched recipient"
  else if context.inboxOpen then .inbox { message with «from» := context.device }
  else .log "inbox closed while delivering message"

/-- Draining the rest of the stream afterwards is left out: nothing is done with it. -/
def handleFeatureFrame
    (fromSlice : List UInt8 → Except String (FeatureMessage (List UInt8)))
    (context : StreamContext) (header : List UInt8) (recv : RecvStream) : StreamEvent :=
  let length := fromBeBytes header
  if length > MAX_MESSAGE_SIZE then .log "feature frame exceeds maximum size"
  else match readExact length recv with
    | (.error error, _) => .log s!"failed to read feature frame: {error.toText}"
    | (.ok payload, _) =>
        match decode fromSlice (header ++ payload) with
        | .error error => .log s!"failed to decode inbound frame: {error.toText}"
        | .ok message => deliverMessage context message

/-- `handle_incoming_bi_stream` -/
def handleIncomingBiStream
    (fromSlice : List UInt8 → Except String (FeatureMessage (List UInt8)))
    (context : StreamContext) (recv : RecvStream) : StreamEvent :=
  match readExact 4 recv with
  | (.error error, _) => .log s!"failed to read stream header: {error.toText}"
  | (.ok header, recv) =>
      if isPortHandshake header then tryAcceptPortStream context header recv
      else if isShellHandshake header then tryAcceptShellStream context recv
      else handleFeatureFrame fromSlice context header recv

section Demultiplexing

variable {toVec : FeatureMessage (List UInt8) → Except String (List UInt8)}
  {fromSlice : List UInt8 → Except String (FeatureMessage (List UInt8))}
  {context : StreamContext} {recv : RecvStream}

theorem handshake_exceeds {header : List UInt8} (hlength : header.length = 4)
    (h : isPortHandshake header = true ∨ isShellHandshake header = true) :
    MAX_MESSAGE_SIZE < fromBeBytes header := by
  have hheader : header = PORT_HANDSHAKE ∨ header = SHELL_HANDSHAKE := by
    simpa [isPortHandshake, isShellHandshake, hlength, List.take_of_length_le] using h
  rcases hheader with rfl | rfl <;> decide

theorem isHandshake_append {header rest : List UInt8} (hlength : header.length = 4) :
    isPortHandshake (header ++ rest) = isPortHandshake header ∧
      isShellHandshake (header ++ rest) = isShellHandshake header := by
  simp [isPortHandshake, isShellHandshake, hlength, List.take_of_length_le]

theorem frame_no_handshake {message : FeatureMessage (List UInt8)} {frame : List UInt8}
    (h : encode toVec message = .ok frame) :
    isPortHandshake frame = false ∧ isShellHandshake frame = false := by
  obtain ⟨payload, -, hsize, rfl, hvalue⟩ := encode_ok h
  obtain ⟨hport, hshell⟩ := isHandshake_append (length_toBeBytes (UInt32.ofNat payload.length))
  rw [hport, hshell, ← Bool.not_eq_true, ← Bool.not_eq_true, ← not_or]
  intro hhandshake
  have hexceeds := handshake_exceeds rfl hhandshake
  omega

theorem handle_port {remotePort : UInt16} {protocol : PortProtocol} {session : List UInt8}
    (h : recv.bytes = buildPortInit remotePort protocol ++ session) :
    ∃ recv', recv'.bytes = session ∧ handleIncomingBiStream fromSlice context recv =
      forwardPort context { «from» := context.device, remotePort, protocol, recv := recv' } := by
  have hparse := parsePortInit_buildPortInit remotePort protocol
  rw [buildPortInit] at h hparse
  rw [List.append_assoc] at h
  obtain ⟨recv₁, hheader, hrest⟩ := readExact_append h
  obtain ⟨recv₂, htail, hsession⟩ := readExact_append hrest
  have hfour : PORT_HANDSHAKE.length = 4 := rfl
  have hthree : (toBeBytes16 remotePort ++ [protocolByte protocol]).length = 3 := rfl
  rw [hfour] at hheader
  rw [hthree] at htail
  refine ⟨recv₂, hsession, ?_⟩
  have hport : isPortHandshake PORT_HANDSHAKE = true := rfl
  simp only [handleIncomingBiStream, tryAcceptPortStream, hheader, htail, hparse, hport, if_true]

theorem handle_shell {rows cols : UInt16} {session : List UInt8}
    (h : recv.bytes = buildShellInit rows cols ++ session) :
    ∃ recv', recv'.bytes = session ∧ handleIncomingBiStream fromSlice context recv =
      forwardShell context { «from» := context.device, rows, cols, recv := recv' } := by
  rw [buildShellInit, List.append_assoc] at h
  obtain ⟨recv₁, hheader, hrest⟩ := readExact_append h
  obtain ⟨recv₂, hsize, hsession⟩ := readExact_append hrest
  have hfour : SHELL_HANDSHAKE.length = 4 := rfl
  have htwo : (toBeBytes16 rows).length = 2 := rfl
  have hsizes : (toBeBytes16 rows ++ toBeBytes16 cols).length = 4 := rfl
  rw [hfour] at hheader
  rw [hsizes] at hsize
  refine ⟨recv₂, hsession, ?_⟩
  have hnoPort : isPortHandshake SHELL_HANDSHAKE = false := rfl
  have hshell : isShellHandshake SHELL_HANDSHAKE = true := rfl
  simp only [handleIncomingBiStream, tryAcceptShellStream, hheader, hsize, hnoPort, hshell,
    if_true, Bool.false_eq_true, if_false, List.take_left' htwo, List.drop_left' htwo,
    fromBeBytes_toBeBytes16]

theorem handle_frame {message : FeatureMessage (List UInt8)} {frame : List UInt8}
    (hjson : ∀ message payload, toVec message = .ok payload → fromSlice payload = .ok message)
    (hframe : encode toVec message = .ok frame) (h : recv.bytes = frame) :
    handleIncomingBiStream fromSlice context recv = deliverMessage context message := by
  have hdecode := decode_encode hjson hframe
  obtain ⟨hport, hshell⟩ := frame_no_handshake hframe
  obtain ⟨payload, -, hsize, rfl, hvalue⟩ := encode_ok hframe
  rw [(isHandshake_append (length_toBeBytes _)).1] at hport
  rw [(isHandshake_append (length_toBeBytes _)).2] at hshell
  obtain ⟨recv₁, hheader, hrest⟩ := readExact_append h
  rw [← List.append_nil payload] at hrest
  obtain ⟨recv₂, hpayload, -⟩ := readExact_append hrest
  rw [length_toBeBytes] at hheader
  simp only [handleIncomingBiStream, handleFeatureFrame, hheader, hport, hshell,
    Bool.false_eq_true, if_false, hvalue, if_neg (Nat.not_lt.mpr hsize), gt_iff_lt, hpayload,
    hdecode]

/-- Every stream that is written reaches its own handler, with what was written, and no other. -/
structure Demultiplexed (toVec : FeatureMessage (List UInt8) → Except String (List UInt8))
    (fromSlice : List UInt8 → Except String (FeatureMessage (List UInt8)))
    (context : StreamContext) : Prop where
  port : ∀ (recv : RecvStream) remotePort protocol session,
    recv.bytes = buildPortInit remotePort protocol ++ session → ∃ recv', recv'.bytes = session ∧
      handleIncomingBiStream fromSlice context recv = match context.portAcceptor with
        | .registered => .port { «from» := context.device, remotePort, protocol, recv := recv' }
        | .unregistered => .log "rejected port stream: port acceptor not registered"
        | .closed => .log "port acceptor closed"
  shell : ∀ (recv : RecvStream) rows cols session,
    recv.bytes = buildShellInit rows cols ++ session → ∃ recv', recv'.bytes = session ∧
      handleIncomingBiStream fromSlice context recv = match context.shellAcceptor with
        | .registered => .shell { «from» := context.device, rows, cols, recv := recv' }
        | .unregistered => .log "rejected shell stream: shell acceptor not registered"
        | .closed => .log "shell acceptor closed"
  delivered : ∀ (recv : RecvStream) message frame, encode toVec message = .ok frame →
    recv.bytes = frame → message.to = context.localDeviceId → context.inboxOpen = true →
    handleIncomingBiStream fromSlice context recv =
      .inbox { message with «from» := context.device }
  misaddressed : ∀ (recv : RecvStream) message frame, encode toVec message = .ok frame →
    recv.bytes = frame → message.to ≠ context.localDeviceId →
    handleIncomingBiStream fromSlice context recv =
      .log "rejected inbound frame with mismatched recipient"
  undelivered : ∀ (recv : RecvStream) message frame, encode toVec message = .ok frame →
    recv.bytes = frame → message.to = context.localDeviceId → context.inboxOpen = false →
    handleIncomingBiStream fromSlice context recv =
      .log "inbox closed while delivering message"
  noHandshake : ∀ message frame, encode toVec message = .ok frame →
    isPortHandshake frame = false ∧ isShellHandshake frame = false
  exceeds : ∀ header, header.length = 4 →
    isPortHandshake header = true ∨ isShellHandshake header = true →
    MAX_MESSAGE_SIZE < fromBeBytes header

theorem deliverMessage_eq_inbox_iff {message message' : FeatureMessage (List UInt8)} :
    deliverMessage context message = .inbox message' ↔
      message.to = context.localDeviceId ∧ context.inboxOpen = true ∧
        message' = { message with «from» := context.device } := by
  unfold deliverMessage
  split
  · rename_i hother
    simp [hother]
  · rename_i hlocal
    rw [ne_eq, not_not] at hlocal
    split
    · rename_i hopen
      simp [hlocal, hopen, eq_comm]
    · rename_i hclosed
      simp [hclosed]

/-- Streams are told apart exactly, in whatever pieces they are read. -/
theorem streams_demultiplexed
    (hjson : ∀ message payload, toVec message = .ok payload → fromSlice payload = .ok message) :
    Demultiplexed toVec fromSlice context := by
  constructor
  · intro recv remotePort protocol session h
    obtain ⟨recv', hsession, hhandle⟩ := @handle_port fromSlice context _ _ _ _ h
    refine ⟨recv', hsession, hhandle.trans ?_⟩
    unfold forwardPort forwardToAcceptor
    cases context.portAcceptor <;> rfl
  · intro recv rows cols session h
    obtain ⟨recv', hsession, hhandle⟩ := @handle_shell fromSlice context _ _ _ _ h
    refine ⟨recv', hsession, hhandle.trans ?_⟩
    unfold forwardShell forwardToAcceptor
    cases context.shellAcceptor <;> rfl
  · intro recv message frame hframe h hlocal hopen
    rw [handle_frame hjson hframe h, deliverMessage_eq_inbox_iff]
    exact ⟨hlocal, hopen, rfl⟩
  · intro recv message frame hframe h hother
    rw [handle_frame hjson hframe h, deliverMessage, if_pos hother]
  · intro recv message frame hframe h hlocal hclosed
    rw [handle_frame hjson hframe h, deliverMessage, if_neg (not_not_intro hlocal), if_neg]
    simp [hclosed]
  · exact fun _ _ h => frame_no_handshake h
  · exact fun _ hlength h => handshake_exceeds hlength h

def greeting : FeatureMessage (List UInt8) :=
  .new ⟨1⟩ ⟨2⟩ ⟨"clipboard"⟩ [104, 105]

/-- The greeting as `serde_json` writes it. -/
def greetingJson : List UInt8 :=
  Lib.JsonText.utf8 (Lib.JsonText.writeObject
    [("version", Lib.JsonText.writeNat 1),
      ("from", Lib.JsonText.writeString (Uuid.toText 1)),
      ("to", Lib.JsonText.writeString (Uuid.toText 2)),
      ("feature", Lib.JsonText.writeString "clipboard"),
      ("payload", Lib.JsonText.writeArray [Lib.JsonText.writeNat 104, Lib.JsonText.writeNat 105])])

/-- A device that runs both features, and hears of device 3. -/
def acceptingContext : StreamContext :=
  ⟨⟨3⟩, ⟨2⟩, true, .registered, .registered⟩

/-- A frame, a port session and a shell session, each cut into pieces of its own. -/
theorem streams_demultiplexed_greeting :
    ∃ fromSlice, handleIncomingBiStream fromSlice acceptingContext
          ⟨[toBeBytes (UInt32.ofNat greetingJson.length), greetingJson], .ok (),
            by decide +kernel⟩ = .inbox { greeting with «from» := ⟨3⟩ } ∧
      (∃ recv, recv.bytes = [1, 2] ∧ handleIncomingBiStream fromSlice acceptingContext
          ⟨[[70, 83], [80, 49, 31], [144, 0, 1], [2]], .ok (), by decide⟩ =
            .port { «from» := ⟨3⟩, remotePort := 8080, protocol := .tcp, recv }) ∧
      ∃ recv, recv.bytes = [108, 115] ∧ handleIncomingBiStream fromSlice acceptingContext
          ⟨[[70, 83, 72], [49, 0, 24, 0, 80, 108], [115]], .ok (), by decide⟩ =
            .shell { «from» := ⟨3⟩, rows := 24, cols := 80, recv } := by
  let toVec (message : FeatureMessage (List UInt8)) : Except String (List UInt8) :=
    if message = greeting then .ok greetingJson else .error "not written"
  let fromSlice (payload : List UInt8) : Except String (FeatureMessage (List UInt8)) :=
    if payload = greetingJson then .ok greeting else .error "not read"
  have hjson : ∀ message payload, toVec message = .ok payload →
      fromSlice payload = .ok message := by
    intro message payload h
    simp only [toVec] at h
    split at h
    · rename_i hmessage
      obtain rfl := Except.ok.inj h
      simp [fromSlice, hmessage]
    · cases h
  have hframe : encode toVec greeting =
      .ok (toBeBytes (UInt32.ofNat greetingJson.length) ++ greetingJson) := by
    have hsize : ¬greetingJson.length > MAX_MESSAGE_SIZE := by decide +kernel
    simp [encode, toVec, hsize]
  have hdemultiplexed : Demultiplexed toVec fromSlice acceptingContext :=
    streams_demultiplexed hjson
  refine ⟨fromSlice, hdemultiplexed.delivered _ _ _ hframe ?_ rfl rfl,
    hdemultiplexed.port _ 8080 .tcp [1, 2] (by decide),
    hdemultiplexed.shell _ 24 80 [108, 115] (by decide)⟩
  simp [RecvStream.bytes]

end Demultiplexing

end Failsafe.Transport
