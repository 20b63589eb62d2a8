import Mathlib.Data.List.Perm.Basic
import Failsafe.Transport.Revocation

/-!
What a device writes to the streams that it opens, and what the other end may take a stream for
when it is cut off anywhere (`failsafe-transport/src/iroh/transport.rs`).
-/

namespace Failsafe.Transport

open Failsafe.Core Failsafe.Lib

/-- What a stream is opened for.  A session is all that is written after its first bytes. -/
inductive Opening where
  | frame (message : FeatureMessage (List UInt8))
  | port (remotePort : UInt16) (protocol : PortProtocol) (session : List UInt8)
  | shell (rows cols : UInt16) (session : List UInt8)
deriving DecidableEq, Repr

/-- The bytes of `send`, `open_port_stream` and `open_shell_stream`. -/
def Opening.write (toVec : FeatureMessage (List UInt8) → Except String (List UInt8)) :
    Opening → Except TransportError (List UInt8)
  | .frame message => encode toVec message
  | .port remotePort protocol session => .ok (buildPortInit remotePort protocol ++ session)
  | .shell rows cols session => .ok (buildShellInit rows cols ++ session)

/-- What may be handed on of a stream of this device: all of a message, or a session as far as it
has come. -/
inductive Opening.Arrives (device localDeviceId : DeviceId) : Opening → StreamEvent → Prop
  | frame {message : FeatureMessage (List UInt8)} : message.to = localDeviceId →
      Arrives device localDeviceId (.frame message) (.inbox { message with «from» := device })
  | port {remotePort : UInt16} {protocol : PortProtocol} {session : List UInt8}
      {recv : RecvStream} : recv.bytes <+: session →
      Arrives device localDeviceId (.port remotePort protocol session)
        (.port { «from» := device, remotePort, protocol, recv })
  | shell {rows cols : UInt16} {session : List UInt8} {recv : RecvStream} :
      recv.bytes <+: session →
      Arrives device localDeviceId (.shell rows cols session)
        (.shell { «from» := device, rows, cols, recv })

section Reading

variable {fromSlice : List UInt8 → Except String (FeatureMessage (List UInt8))}
  {context : StreamContext} {recv recv' : RecvStream} {device : DeviceId}

theorem readExact_short {missing : Nat} (h : recv.bytes.length < missing) :
    ∃ error recv', readExact missing recv = (.error error, recv') := by
  rcases hread : readExact missing recv with ⟨error | found, recv'⟩
  · exact ⟨error, recv', rfl⟩
  · rw [readExact_eq] at hread
    obtain ⟨hbytes, hlength⟩ := RecvStream.fill_ok hread
    have htotal := congrArg List.length hbytes
    rw [List.length_append] at htotal
    omega

theorem handle_headless (h : recv.bytes.length < 4) :
    (handleIncomingBiStream fromSlice context recv).sender = none := by
  obtain ⟨error, recv', hread⟩ := readExact_short h
  simp only [handleIncomingBiStream, hread]
  rfl

theorem handle_port_short {rest : List UInt8} (h : recv.bytes = PORT_HANDSHAKE ++ rest)
    (hrest : rest.length < 3) :
    (handleIncomingBiStream fromSlice context recv).sender = none := by
  obtain ⟨recv', hheader, hbytes⟩ := readExact_append h
  have hfour : PORT_HANDSHAKE.length = 4 := rfl
  rw [hfour] at hheader
  rw [← hbytes] at hrest
  obtain ⟨error, recv'', htail⟩ := readExact_short hrest
  have hport : isPortHandshake PORT_HANDSHAKE = true := rfl
  simp only [handleIncomingBiStream, tryAcceptPortStream, hheader, hport, if_true, htail]
  rfl

theorem handle_shell_short {rest : List UInt8} (h : recv.bytes = SHELL_HANDSHAKE ++ rest)
    (hrest : rest.length < 4) :
    (handleIncomingBiStream fromSlice context recv).sender = none := by
  obtain ⟨recv', hheader, hbytes⟩ := readExact_append h
  have hfour : SHELL_HANDSHAKE.length = 4 := rfl
  rw [hfour] at hheader
  rw [← hbytes] at hrest
  obtain ⟨error, recv'', hsize⟩ := readExact_short hrest
  have hnoPort : isPortHandshake SHELL_HANDSHAKE = false := rfl
  have hshell : isShellHandshake SHELL_HANDSHAKE = true := rfl
  simp only [handleIncomingBiStream, tryAcceptShellStream, hheader, hnoPort, hshell, if_true,
    Bool.false_eq_true, if_false, hsize]
  rfl

theorem handle_frame_short {header rest : List UInt8} (h : recv.bytes = header ++ rest)
    (hlength : header.length = 4) (hport : isPortHandshake header = false)
    (hshell : isShellHandshake header = false) (hrest : rest.length < fromBeBytes header) :
    (handleIncomingBiStream fromSlice context recv).sender = none := by
  obtain ⟨recv', hheader, hbytes⟩ := readExact_append h
  rw [hlength] at hheader
  rw [← hbytes] at hrest
  obtain ⟨error, recv'', hpayload⟩ := readExact_short hrest
  simp only [handleIncomingBiStream, handleFeatureFrame, hheader, hport, hshell,
    Bool.false_eq_true, if_false]
  split
  · rfl
  · simp only [hpayload]
    rfl

theorem to_of_inbox {message : FeatureMessage (List UInt8)}
    (h : handleIncomingBiStream fromSlice context recv = .inbox message) :
    message.to = context.localDeviceId := by
  unfold handleIncomingBiStream at h
  split at h
  · cases h
  split at h
  · unfold tryAcceptPortStream at h
    split at h
    · cases h
    split at h
    · cases h
    · unfold forwardPort forwardToAcceptor at h
      split at h
      · cases h
      · cases h
      · cases h
  split at h
  · unfold tryAcceptShellStream at h
    split at h
    · cases h
    · dsimp only at h
      unfold forwardShell forwardToAcceptor at h
      split at h
      · cases h
      · cases h
      · cases h
  · unfold handleFeatureFrame at h
    dsimp only at h
    split at h
    · cases h
    split at h
    · cases h
    split at h
    · cases h
    · obtain ⟨hlocal, -, rfl⟩ := deliverMessage_eq_inbox_iff.mp h
      exact hlocal

end Reading

section Cut

variable {toVec : FeatureMessage (List UInt8) → Except String (List UInt8)}
  {fromSlice : List UInt8 → Except String (FeatureMessage (List UInt8))}
  {context : StreamContext} {recv : RecvStream} {opening : Opening} {device : DeviceId}
  {bytes : List UInt8}

theorem prefix_append_cases {first rest part : List UInt8} (h : part <+: first ++ rest) :
    (∃ more, part = first ++ more ∧ more <+: rest) ∨
      part.length < first.length ∧ part <+: first := by
  rcases Nat.lt_or_ge part.length first.length with hshort | hlong
  · refine Or.inr ⟨hshort, ?_⟩
    exact List.prefix_of_prefix_length_le h (List.prefix_append _ _) hshort.le
  · obtain ⟨more, rfl⟩ := List.prefix_of_prefix_length_le (List.prefix_append _ _) h hlong
    exact Or.inl ⟨more, rfl, (List.prefix_append_right_inj _).mp h⟩

/-- Wherever a stream is cut off, what is handed on of it is what it was opened for. -/
theorem handle_cut
    (hjson : ∀ message payload, toVec message = .ok payload → fromSlice payload = .ok message)
    (hwrite : opening.write toVec = .ok bytes) (hcut : recv.bytes <+: bytes)
    (hsender : (handleIncomingBiStream fromSlice context recv).sender = some device) :
    opening.Arrives context.device context.localDeviceId
        (handleIncomingBiStream fromSlice context recv) ∧
      ∀ message, opening = .frame message → recv.bytes = bytes := by
  have hheaded : 4 ≤ recv.bytes.length := by
    by_contra hshort
    rw [handle_headless (Nat.not_le.mp hshort)] at hsender
    cases hsender
  cases opening with
  | frame message =>
      have hwhole : recv.bytes = bytes := by
        obtain ⟨hport, hshell⟩ := frame_no_handshake hwrite
        obtain ⟨payload, -, -, rfl, hvalue⟩ := encode_ok hwrite
        have hheader := length_toBeBytes (UInt32.ofNat payload.length)
        rw [(isHandshake_append hheader).1] at hport
        rw [(isHandshake_append hheader).2] at hshell
        rcases prefix_append_cases hcut with ⟨more, hbytes, hmore⟩ | ⟨hshort, -⟩
        · rcases Nat.lt_or_ge more.length payload.length with hless | hall
          · rw [← hvalue] at hless
            rw [handle_frame_short hbytes hheader hport hshell hless] at hsender
            cases hsender
          · rw [hbytes, hmore.eq_of_length_le hall]
        · omega
      rw [handle_frame hjson hwrite hwhole] at hsender ⊢
      refine ⟨?_, fun _ _ => hwhole⟩
      unfold deliverMessage at hsender ⊢
      split
      · rename_i hother
        rw [if_pos hother] at hsender
        cases hsender
      · rename_i hlocal
        rw [ne_eq, not_not] at hlocal
        split
        · exact .frame hlocal
        · rename_i hclosed
          rw [if_neg (by simpa using hlocal), if_neg hclosed] at hsender
          cases hsender
  | port remotePort protocol session =>
      refine ⟨?_, fun message h => by cases h⟩
      obtain rfl := Except.ok.inj hwrite
      rcases prefix_append_cases hcut with ⟨more, hbytes, hmore⟩ | ⟨hshort, hpart⟩
      · obtain ⟨recv', hsession, hhandle⟩ := handle_port hbytes
        rw [hhandle] at hsender ⊢
        unfold forwardPort forwardToAcceptor at hsender ⊢
        split
        · rename_i hnone
          simp [hnone, StreamEvent.sender] at hsender
        · rename_i hclosed
          simp [hclosed, StreamEvent.sender] at hsender
        · exact .port (hsession ▸ hmore)
      · rw [buildPortInit] at hpart hshort
        rcases prefix_append_cases hpart with ⟨more, hbytes, -⟩ | ⟨hless, -⟩
        · rw [handle_port_short hbytes] at hsender
          · cases hsender
          · simp [hbytes, PORT_HANDSHAKE, toBeBytes16] at hshort
            omega
        · simp [PORT_HANDSHAKE] at hless
          omega
  | shell rows cols session =>
      refine ⟨?_, fun message h => by cases h⟩
      obtain rfl := Except.ok.inj hwrite
      rcases prefix_append_cases hcut with ⟨more, hbytes, hmore⟩ | ⟨hshort, hpart⟩
      · obtain ⟨recv', hsession, hhandle⟩ := handle_shell hbytes
        rw [hhandle] at hsender ⊢
        unfold forwardShell forwardToAcceptor at hsender ⊢
        split
        · rename_i hnone
          simp [hnone, StreamEvent.sender] at hsender
        · rename_i hclosed
          simp [hclosed, StreamEvent.sender] at hsender
        · exact .shell (hsession ▸ hmore)
      · rw [buildShellInit] at hpart hshort
        rcases prefix_append_cases hpart with ⟨more, hbytes, -⟩ | ⟨hless, -⟩
        · rw [handle_shell_short hbytes] at hsender
          · cases hsender
          · simp [hbytes, SHELL_HANDSHAKE, toBeBytes16] at hshort
            omega
        · simp [SHELL_HANDSHAKE] at hless
          omega

theorem exists_recv (bytes : List UInt8) : ∃ recv : RecvStream, recv.bytes = bytes := by
  cases bytes with
  | nil => exact ⟨⟨[], .ok (), by simp⟩, rfl⟩
  | cons byte bytes => exact ⟨⟨[byte :: bytes], .ok (), by simp⟩, by simp [RecvStream.bytes]⟩

theorem frame_cut
    (hjson : ∀ message payload, toVec message = .ok payload → fromSlice payload = .ok message)
    {message : FeatureMessage (List UInt8)} (hframe : encode toVec message = .ok recv.bytes)
    (hwrite : opening.write toVec = .ok bytes) (hcut : recv.bytes <+: bytes) :
    recv.bytes = bytes := by
  let context : StreamContext := ⟨message.from, message.to, true, .registered, .registered⟩
  have hhandle : handleIncomingBiStream fromSlice context recv = .inbox message := by
    rw [handle_frame hjson hframe rfl]
    exact deliverMessage_eq_inbox_iff.mpr ⟨rfl, rfl, rfl⟩
  have hsender : (handleIncomingBiStream fromSlice context recv).sender = some message.from := by
    rw [hhandle]
    rfl
  obtain ⟨harrives, hwhole⟩ := handle_cut hjson hwrite hcut hsender
  rw [hhandle] at harrives
  cases opening with
  | frame other => exact hwhole other rfl
  | port => cases harrives
  | shell => cases harrives

theorem opening_of_frame
    (hjson : ∀ message payload, toVec message = .ok payload → fromSlice payload = .ok message)
    {message : FeatureMessage (List UInt8)} (hframe : encode toVec message = .ok bytes)
    (hwrite : opening.write toVec = .ok bytes) : opening = .frame message := by
  obtain ⟨recv, rfl⟩ := exists_recv bytes
  let context : StreamContext := ⟨message.from, message.to, true, .registered, .registered⟩
  have hhandle : handleIncomingBiStream fromSlice context recv = .inbox message := by
    rw [handle_frame hjson hframe rfl]
    exact deliverMessage_eq_inbox_iff.mpr ⟨rfl, rfl, rfl⟩
  have hsender : (handleIncomingBiStream fromSlice context recv).sender = some message.from := by
    rw [hhandle]
    rfl
  obtain ⟨harrives, -⟩ := handle_cut hjson hwrite List.prefix_rfl hsender
  rw [hhandle] at harrives
  cases opening with
  | frame other =>
      have hdecode := (decode_encode hjson hwrite).symm.trans (decode_encode hjson hframe)
      rw [Except.ok.inj hdecode]
  | port => cases harrives
  | shell => cases harrives

end Cut

namespace Connections

variable {κ : Type} {fromStr : String → Except String κ} {toText : κ → String}
  {fromSlice : List UInt8 → Except String (FeatureMessage (List UInt8))}
  {localDeviceId : DeviceId} {state state' : Connections κ} {event : ConnectionEvent κ}

theorem StepTo.stream_before (h : StepTo fromStr toText fromSlice localDeviceId state event state')
    {row : Nat × DeviceId × RecvStream} (hrow : row ∈ state'.streams) :
    row ∈ state.streams ∨ event = .stream row.1 row.2.2 := by
  cases h with
  | streamed =>
      rcases List.mem_append.mp hrow with hbefore | hlast
      · exact Or.inl hbefore
      · obtain rfl := List.mem_singleton.mp hlast
        exact Or.inr rfl
  | handled => exact Or.inl (List.mem_of_mem_eraseIdx hrow)
  | _ => exact Or.inl hrow

theorem StepTo.handled_before (h : StepTo fromStr toText fromSlice localDeviceId state event state')
    {connection : Nat} {found : StreamEvent} (hrow : (connection, found) ∈ state'.handled) :
    (connection, found) ∈ state.handled ∨
      ∃ context recv, (connection, context.device, recv) ∈ state.streams ∧
        context.localDeviceId = localDeviceId ∧
        found = handleIncomingBiStream fromSlice context recv := by
  cases h with
  | handled hstream =>
      rcases List.mem_append.mp hrow with hbefore | hlast
      · exact Or.inl hbefore
      · obtain ⟨rfl, rfl⟩ := Prod.mk.inj (List.mem_singleton.mp hlast)
        exact Or.inr ⟨_, _, hstream, rfl, rfl⟩
  | _ => exact Or.inl hrow

/-- What a step does with the streams: one may come, or one of them is handled. -/
inductive Flow (fromSlice : List UInt8 → Except String (FeatureMessage (List UInt8)))
    (localDeviceId : DeviceId) (state : Connections κ) :
    ConnectionEvent κ → Connections κ → Prop
  | same {event : ConnectionEvent κ} {state' : Connections κ} :
      state'.streams = state.streams → state'.handled = state.handled →
      Flow fromSlice localDeviceId state event state'
  | comes {connection : Nat} {device : DeviceId} {recv : RecvStream} {state' : Connections κ} :
      state'.connections = state.connections →
      state'.streams = state.streams ++ [(connection, device, recv)] →
      state'.handled = state.handled →
      Flow fromSlice localDeviceId state (.stream connection recv) state'
  | goes {event : ConnectionEvent κ} {connection : Nat} {context : StreamContext}
      {recv : RecvStream} {state' : Connections κ} :
      ((connection, context.device, recv) :: state'.streams).Perm state.streams →
      context.localDeviceId = localDeviceId →
      state'.handled = state.handled ++
        [(connection, handleIncomingBiStream fromSlice context recv)] →
      Flow fromSlice localDeviceId state event state'

theorem StepTo.unhandled (h : StepTo fromStr toText fromSlice localDeviceId state event state')
    (hevent : ∀ stream inboxOpen portAcceptor shellAcceptor,
      event ≠ .handle stream inboxOpen portAcceptor shellAcceptor) :
    Flow fromSlice localDeviceId state event state' := by
  cases h with
  | streamed => exact .comes rfl rfl rfl
  | handled => exact (hevent _ _ _ _ rfl).elim
  | _ => exact .same rfl rfl

theorem step_flow [DecidableEq κ] {endpointId : κ}
    (h : step fromStr toText fromSlice endpointId localDeviceId state event = some state') :
    Flow fromSlice localDeviceId state event state' := by
  cases event with
  | handle stream inboxOpen portAcceptor shellAcceptor =>
      simp only [step] at h
      split at h
      · rename_i connection device recv hstream
        obtain rfl := Option.some.inj h
        obtain ⟨hindex, hrow⟩ := List.getElem?_eq_some_iff.mp hstream
        let context : StreamContext :=
          { device, localDeviceId, inboxOpen, portAcceptor, shellAcceptor }
        have hperm : ((connection, context.device, recv) :: state.streams.eraseIdx stream).Perm
            state.streams := by
          rw [← hrow]
          exact List.getElem_cons_eraseIdx_perm hindex
        exact .goes hperm rfl rfl
      · cases h
  | _ => exact (step_to h).unhandled (by simp)

end Connections

end Failsafe.Transport
