import Failsafe.Core.Control
import Failsafe.Lib.BigEndian
import Failsafe.Lib.RecvStream

/-!
Messages of the control connection, each behind its length
(`failsafe-core/src/control/mod.rs`).  JSON is written and read by the third-party `serde_json`,
which is a parameter.
-/

namespace Failsafe.Core

open Failsafe.Lib

inductive ControlError where
  | config (message : String)
  | io (message : String)
deriving DecidableEq, Repr

/-- The sending half of a stream: what was written, and which of the next calls fail, after how
many bytes. -/
structure SendStream where
  written : List UInt8
  failures : List (Option (Nat × String))
deriving DecidableEq, Repr

/-- `write_all`; `flush` is a call with nothing to write. -/
def SendStream.writeAll (bytes : List UInt8) (send : SendStream) :
    Except ControlError Unit × SendStream :=
  match send.failures with
  | some (count, error) :: failures =>
      (.error (.io error), { written := send.written ++ bytes.take count, failures })
  | none :: failures => (.ok (), { written := send.written ++ bytes, failures })
  | [] => (.ok (), { send with written := send.written ++ bytes })

def writeMessage (message : List UInt8) (send : SendStream) :
    Except ControlError Unit × SendStream :=
  if 2 ^ 32 ≤ message.length then (.error (.config "control message too large"), send)
  else
    match send.writeAll (toBeBytes (UInt32.ofNat message.length)) with
    | (.error error, send) => (.error error, send)
    | (.ok (), send) =>
        match send.writeAll message with
        | (.error error, send) => (.error error, send)
        | (.ok (), send) => send.writeAll []

/-- The limit of the reader. -/
def MAX_CONTROL_MESSAGE : Nat := 1024 * 1024

/-- `read_exact`. -/
def readExact (length : Nat) (recv : RecvStream) :
    Except ControlError (List UInt8) × RecvStream :=
  recv.fill .io (.io "early eof") length

def readMessage (recv : RecvStream) : Except ControlError (List UInt8) × RecvStream :=
  match readExact 4 recv with
  | (.error error, recv) => (.error error, recv)
  | (.ok header, recv) =>
      let len := fromBeBytes header
      if len > MAX_CONTROL_MESSAGE then
        (.error (.config "control message too large"), recv)
      else readExact len recv

/-- Calls of `write_message`, until one fails. -/
def writeMessages : List (List UInt8) → SendStream → Except ControlError Unit × SendStream
  | [], send => (.ok (), send)
  | message :: messages, send =>
      match writeMessage message send with
      | (.error error, send) => (.error error, send)
      | (.ok (), send) => writeMessages messages send

/-- Calls of `read_message`, until one fails. -/
def readMessages : Nat → RecvStream → Except ControlError (List (List UInt8)) × RecvStream
  | 0, recv => (.ok [], recv)
  | count + 1, recv =>
      match readMessage recv with
      | (.error error, recv) => (.error error, recv)
      | (.ok message, recv) =>
          match readMessages count recv with
          | (.error error, recv) => (.error error, recv)
          | (.ok messages, recv) => (.ok (message :: messages), recv)

/-- `β` is `serde_json::Value`. -/
structure ControlRequest (β : Type) where
  feature : FeatureId
  body : β
deriving DecidableEq, Repr

structure ControlEnvelope (β : Type) where
  token : String
  request : ControlRequest β
deriving DecidableEq, Repr

section Requests

variable {β : Type}

def sendRequest (toVec : ControlEnvelope β → Except String (List UInt8)) (token : String)
    (request : ControlRequest β) (send : SendStream) : Except ControlError Unit × SendStream :=
  match toVec { token, request } with
  | .error error => (.error (.config s!"failed to encode control request: {error}"), send)
  | .ok payload => writeMessage payload send

def recvEnvelope (fromSlice : List UInt8 → Except String (ControlEnvelope β))
    (recv : RecvStream) : Except ControlError (ControlEnvelope β) × RecvStream :=
  match readMessage recv with
  | (.error error, recv) => (.error error, recv)
  | (.ok payload, recv) =>
      match fromSlice payload with
      | .error error => (.error (.config s!"failed to decode control request: {error}"), recv)
      | .ok envelope => (.ok envelope, recv)

end Requests

/-- A message on the wire. -/
def frame (message : List UInt8) : List UInt8 :=
  toBeBytes (UInt32.ofNat message.length) ++ message

section Framing

variable {message bytes rest : List UInt8} {messages : List (List UInt8)}
  {send send' : SendStream} {recv recv' : RecvStream}

theorem writeAll_ok (h : send.writeAll bytes = (.ok (), send')) :
    send'.written = send.written ++ bytes := by
  unfold SendStream.writeAll at h
  split at h
  · cases (Prod.mk.inj h).1
  · rw [← (Prod.mk.inj h).2]
  · rw [← (Prod.mk.inj h).2]

theorem writeMessage_ok (h : writeMessage message send = (.ok (), send')) :
    message.length < 2 ^ 32 ∧ send'.written = send.written ++ frame message := by
  unfold writeMessage at h
  split at h
  · cases (Prod.mk.inj h).1
  · next hsize =>
      refine ⟨Nat.lt_of_not_le hsize, ?_⟩
      split at h
      · cases (Prod.mk.inj h).1
      · next headed hheader =>
          split at h
          · cases (Prod.mk.inj h).1
          · next filled hmessage =>
              rw [writeAll_ok h, writeAll_ok hmessage, writeAll_ok hheader, List.append_nil,
                List.append_assoc, frame]

theorem writeMessages_ok (h : writeMessages messages send = (.ok (), send')) :
    (∀ message ∈ messages, message.length < 2 ^ 32) ∧
      send'.written = send.written ++ messages.flatMap frame := by
  induction messages generalizing send with
  | nil =>
      obtain rfl := (Prod.mk.inj h).2
      simp
  | cons message messages ih =>
      unfold writeMessages at h
      split at h
      · cases (Prod.mk.inj h).1
      · next middle hmessage =>
          obtain ⟨hsize, hwritten⟩ := writeMessage_ok hmessage
          obtain ⟨hsizes, hrest⟩ := ih h
          refine ⟨?_, ?_⟩
          · intro other hother
            rcases List.mem_cons.mp hother with rfl | hother
            · exact hsize
            · exact hsizes other hother
          · rw [hrest, hwritten, List.flatMap_cons, List.append_assoc]

theorem readExact_header (hsize : message.length < 2 ^ 32)
    (hbytes : recv.bytes = frame message ++ rest) :
    ∃ header recv', readExact 4 recv = (.ok header, recv') ∧
      fromBeBytes header = message.length ∧ recv'.bytes = message ++ rest := by
  rw [frame, List.append_assoc] at hbytes
  have hread : ∃ recv', readExact 4 recv =
      (.ok (toBeBytes (UInt32.ofNat message.length)), recv') ∧ recv'.bytes = message ++ rest :=
    RecvStream.fill_append hbytes
  obtain ⟨recv', hread, hrest⟩ := hread
  refine ⟨_, recv', hread, ?_, hrest⟩
  rw [fromBeBytes_toBeBytes, UInt32.toNat_ofNat_of_lt' hsize]

theorem readMessage_frame (hsize : message.length ≤ MAX_CONTROL_MESSAGE)
    (hbytes : recv.bytes = frame message ++ rest) :
    ∃ recv', readMessage recv = (.ok message, recv') ∧ recv'.bytes = rest := by
  have hlength : message.length < 2 ^ 32 := Nat.lt_of_le_of_lt hsize (by decide)
  obtain ⟨header, middle, hheader, hlen, hmiddle⟩ := readExact_header hlength hbytes
  unfold readMessage
  rw [hheader]
  dsimp only
  rw [hlen, if_neg (Nat.not_lt.mpr hsize)]
  exact RecvStream.fill_append hmiddle

theorem readMessage_too_large (hlarge : MAX_CONTROL_MESSAGE < message.length)
    (hsize : message.length < 2 ^ 32) (hbytes : recv.bytes = frame message ++ rest) :
    (readMessage recv).1 = .error (.config "control message too large") := by
  obtain ⟨header, middle, hheader, hlen, -⟩ := readExact_header hsize hbytes
  unfold readMessage
  rw [hheader]
  dsimp only
  rw [hlen, if_pos hlarge]

theorem readMessages_frames_iff (hsizes : ∀ message ∈ messages, message.length < 2 ^ 32)
    (hbytes : recv.bytes = messages.flatMap frame ++ rest) :
    (∃ recv', readMessages messages.length recv = (.ok messages, recv') ∧ recv'.bytes = rest) ↔
      ∀ message ∈ messages, message.length ≤ MAX_CONTROL_MESSAGE := by
  induction messages generalizing recv with
  | nil => simp [readMessages, hbytes]
  | cons message messages ih =>
      rw [List.flatMap_cons, List.append_assoc] at hbytes
      have hlater := fun other hother => hsizes other (List.mem_cons_of_mem message hother)
      rw [List.forall_mem_cons, List.length_cons]
      simp only [readMessages]
      by_cases hsize : message.length ≤ MAX_CONTROL_MESSAGE
      · obtain ⟨middle, hread, hmiddle⟩ := readMessage_frame hsize hbytes
        rw [hread]
        dsimp only
        rw [← ih hlater hmiddle]
        constructor
        · rintro ⟨recv', hall, hrest⟩
          split at hall
          · cases (Prod.mk.inj hall).1
          · next found last hfound =>
              obtain ⟨hmessages, rfl⟩ := Prod.mk.inj hall
              obtain rfl := (List.cons.inj (Except.ok.inj hmessages)).2
              exact ⟨hsize, last, hfound, hrest⟩
        · rintro ⟨-, recv', hall, hrest⟩
          exact ⟨recv', by rw [hall], hrest⟩
      · have hread := readMessage_too_large (Nat.lt_of_not_le hsize)
          (hsizes message List.mem_cons_self) hbytes
        constructor
        · rintro ⟨recv', hall, -⟩
          split at hall
          · cases (Prod.mk.inj hall).1
          · next hok =>
              rw [hok] at hread
              cases hread
        · exact fun hall => absurd hall.1 hsize

theorem sendRequest_ok {β : Type} {toVec : ControlEnvelope β → Except String (List UInt8)}
    {token : String} {request : ControlRequest β}
    (h : sendRequest toVec token request send = (.ok (), send')) :
    ∃ payload, toVec { token, request } = .ok payload ∧
      writeMessage payload send = (.ok (), send') := by
  unfold sendRequest at h
  split at h
  · cases (Prod.mk.inj h).1
  · next payload hpayload => exact ⟨payload, hpayload, h⟩

theorem recvEnvelope_iff {β : Type} {fromSlice : List UInt8 → Except String (ControlEnvelope β)}
    {envelope : ControlEnvelope β} (hjson : fromSlice message = .ok envelope)
    (hsize : message.length < 2 ^ 32) (hbytes : recv.bytes = frame message ++ rest) :
    (recvEnvelope fromSlice recv).1 = .ok envelope ↔ message.length ≤ MAX_CONTROL_MESSAGE := by
  unfold recvEnvelope
  constructor
  · intro hok
    by_contra hlarge
    have hread := readMessage_too_large (Nat.lt_of_not_le hlarge) hsize hbytes
    split at hok
    · cases hok
    · next hfound =>
        rw [hfound] at hread
        cases hread
  · intro hfits
    obtain ⟨recv', hread, -⟩ := readMessage_frame hfits hbytes
    rw [hread]
    dsimp only
    rw [hjson]

end Framing

/-- Messages that were written are read back, and a request is received as it was sent, exactly
if they are no longer than the reader allows. -/
theorem control_framing_iff {β : Type} (toVec : ControlEnvelope β → Except String (List UInt8))
    (fromSlice : List UInt8 → Except String (ControlEnvelope β))
    (hjson : ∀ envelope payload, toVec envelope = .ok payload → fromSlice payload = .ok envelope)
    (send send' : SendStream) (recv : RecvStream) (rest : List UInt8)
    (hbytes : send'.written ++ rest = send.written ++ recv.bytes) :
    (∀ messages, writeMessages messages send = (.ok (), send') →
      ((∃ recv', readMessages messages.length recv = (.ok messages, recv') ∧
          recv'.bytes = rest) ↔
        ∀ message ∈ messages, message.length ≤ MAX_CONTROL_MESSAGE)) ∧
    (∀ token request, sendRequest toVec token request send = (.ok (), send') →
      ((recvEnvelope fromSlice recv).1 = .ok { token, request } ↔
        ∀ payload, toVec { token, request } = .ok payload →
          payload.length ≤ MAX_CONTROL_MESSAGE)) := by
  constructor
  · intro messages hwrite
    obtain ⟨hsizes, hwritten⟩ := writeMessages_ok hwrite
    rw [hwritten, List.append_assoc] at hbytes
    exact readMessages_frames_iff hsizes (List.append_cancel_left hbytes).symm
  · intro token request hsend
    obtain ⟨payload, hpayload, hwrite⟩ := sendRequest_ok hsend
    obtain ⟨hsize, hwritten⟩ := writeMessage_ok hwrite
    rw [hwritten, List.append_assoc] at hbytes
    rw [recvEnvelope_iff (hjson _ _ hpayload) hsize (List.append_cancel_left hbytes).symm]
    constructor
    · intro hfits other hother
      rw [hpayload] at hother
      rwa [← Except.ok.inj hother]
    · intro hall
      exact hall payload hpayload

/-- Nothing was written, and nothing will fail. -/
def freshSend : SendStream :=
  { written := [], failures := [] }

/-- A stream that brings these bytes at once. -/
def recvOf (bytes : List UInt8) (h : bytes ≠ []) : RecvStream where
  fragments := [bytes]
  ending := .ok ()
  nonempty := by
    rintro fragment hfragment
    rwa [List.mem_singleton.mp hfragment]

theorem short_messages_read :
    ((∃ recv', readMessages 2 (recvOf [0, 0, 0, 1, 7, 0, 0, 0, 0] (by decide)) =
        (.ok [[7], []], recv') ∧ recv'.bytes = []) ↔
      ∀ message ∈ [[(7 : UInt8)], []], message.length ≤ MAX_CONTROL_MESSAGE) :=
  (control_framing_iff (β := Unit) (fun _ => .error "recursion limit")
    (fun _ => .error "expected value") (by rintro _ _ ⟨⟩) freshSend
    { written := [0, 0, 0, 1, 7, 0, 0, 0, 0], failures := [] } _ [] rfl).1 [[7], []]
    (by decide +kernel)

theorem frame_ne_nil (message : List UInt8) : frame message ≠ [] := by
  intro hnil
  cases hnil

theorem writeMessages_single {message : List UInt8} (hsize : message.length < 2 ^ 32) :
    writeMessages [message] freshSend =
      (.ok (), { written := frame message, failures := [] }) := by
  simp only [writeMessages, writeMessage]
  rw [if_neg (Nat.not_le.mpr hsize)]
  simp [freshSend, SendStream.writeAll, frame]

theorem readMessages_single {message : List UInt8} (hlarge : MAX_CONTROL_MESSAGE < message.length)
    (hsize : message.length < 2 ^ 32) :
    (readMessages 1 (recvOf (frame message) (frame_ne_nil message))).1 =
      .error (.config "control message too large") := by
  have hbytes : (recvOf (frame message) (frame_ne_nil message)).bytes = frame message ++ [] := by
    simp [recvOf, RecvStream.bytes]
  have hread := readMessage_too_large hlarge hsize hbytes
  simp only [readMessages]
  split
  · next herror =>
      rw [herror] at hread
      exact congrArg Except.error (Except.error.inj hread)
  · next hok =>
      rw [hok] at hread
      cases hread

/-- One byte more than the reader takes. -/
def oversized : List UInt8 :=
  List.replicate (MAX_CONTROL_MESSAGE + 1) 0

theorem length_oversized : oversized.length = MAX_CONTROL_MESSAGE + 1 :=
  List.length_replicate

/-- The writer takes the message, and the reader refuses it. -/
theorem oversized_refused :
    writeMessages [oversized] freshSend =
        (.ok (), { written := frame oversized, failures := [] }) ∧
      (readMessages 1 (recvOf (frame oversized) (frame_ne_nil oversized))).1 =
        .error (.config "control message too large") := by
  have hsize : oversized.length < 2 ^ 32 := by
    rw [length_oversized]
    decide
  have hlarge : MAX_CONTROL_MESSAGE < oversized.length := by
    rw [length_oversized]
    exact Nat.lt_succ_self _
  exact ⟨writeMessages_single hsize, readMessages_single hlarge hsize⟩

end Failsafe.Core
