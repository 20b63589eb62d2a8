import Mathlib.Logic.Function.Basic
import Mathlib.Data.List.Induction

/-!
A forwarded TCP connection: the relay on the listening device and the one on the device
that runs the service, each with two copy loops (`relay_shell_streams` of
`failsafe-transport/src/iroh/stream.rs`, called from `failsafe-port/src/lib.rs`).
-/

namespace Failsafe.Port

inductive Direction where
  | toService
  | toClient
deriving DecidableEq, Repr

inductive Side where
  | listening
  | serving
deriving DecidableEq, Repr

/-- The two loops of `relay_shell_streams`. -/
inductive CopyLoop where
  | inputToStream
  | streamToOutput
deriving DecidableEq, Repr

def Direction.other : Direction → Direction
  | .toService => .toClient
  | .toClient => .toService

def CopyLoop.other : CopyLoop → CopyLoop
  | .inputToStream => .streamToOutput
  | .streamToOutput => .inputToStream

instance {P : Direction → Prop} [DecidablePred P] : Decidable (∀ direction, P direction) :=
  decidable_of_iff (P .toService ∧ P .toClient)
    ⟨fun h direction => by cases direction <;> simp [h], fun h => ⟨h _, h _⟩⟩

instance {P : CopyLoop → Prop} [DecidablePred P] : Decidable (∀ loop, P loop) :=
  decidable_of_iff (P .inputToStream ∧ P .streamToOutput)
    ⟨fun h loop => by cases loop <;> simp [h], fun h => ⟨h _, h _⟩⟩

/-- The relay that runs a loop. -/
def relay : Direction → CopyLoop → Side
  | .toService, .inputToStream | .toClient, .streamToOutput => .listening
  | .toService, .streamToOutput | .toClient, .inputToStream => .serving

@[simp] theorem relay_other (direction : Direction) (loop : CopyLoop) :
    relay direction.other loop.other = relay direction loop := by
  cases direction <;> cases loop <;> rfl

theorem relay_eq_iff {direction direction' : Direction} {loop loop' : CopyLoop} :
    relay direction loop = relay direction' loop' ↔
      direction = direction' ∧ loop = loop' ∨
        direction = direction'.other ∧ loop = loop'.other := by
  cases direction <;> cases direction' <;> cases loop <;> cases loop' <;> decide

/-- The bytes of one direction and where they are: in the socket of the party that sends
them, in the buffer of the first loop, in the stream between the devices, in the buffer of
the second loop, in the other socket, or with the other party. -/
structure Line where
  sent : List UInt8
  ended : Bool
  entry : List UInt8
  first : List UInt8
  stream : List UInt8
  second : List UInt8
  exit : List UInt8
  received : List UInt8
deriving DecidableEq, Repr

namespace Line

def new : Line :=
  { sent := [], ended := false, entry := [], first := [], stream := [], second := [],
    exit := [], received := [] }

/-- What a loop reads from. -/
def source (line : Line) : CopyLoop → List UInt8
  | .inputToStream => line.entry
  | .streamToOutput => line.stream

def buffer (line : Line) : CopyLoop → List UInt8
  | .inputToStream => line.first
  | .streamToOutput => line.second

def read (line : Line) (count : Nat) : CopyLoop → Line
  | .inputToStream =>
      { line with first := line.entry.take count, entry := line.entry.drop count }
  | .streamToOutput =>
      { line with second := line.stream.take count, stream := line.stream.drop count }

def write (line : Line) (count : Nat) : CopyLoop → Line
  | .inputToStream =>
      { line with
        stream := line.stream ++ line.first.take count, first := line.first.drop count }
  | .streamToOutput =>
      { line with exit := line.exit ++ line.second.take count, second := line.second.drop count }

/-- The bytes that a loop has written. -/
def passed (line : Line) : CopyLoop → List UInt8
  | .inputToStream => line.received ++ line.exit ++ line.second ++ line.stream
  | .streamToOutput => line.received ++ line.exit

/-- The bytes that a loop still has to read or to write. -/
def ahead (line : Line) : CopyLoop → List UInt8
  | .inputToStream => line.first ++ line.entry
  | .streamToOutput => line.second ++ line.stream ++ line.first ++ line.entry

end Line

structure Forward where
  lines : Direction → Line
  /-- This relay has returned, and closed the socket and the stream that it writes to. -/
  returned : Side → Bool

def Forward.new : Forward :=
  { lines := fun _ => .new, returned := fun _ => false }

def Forward.set (state : Forward) (direction : Direction) (line : Line) : Forward :=
  { state with lines := Function.update state.lines direction line }

/-- Nothing will be added to what a loop reads from. -/
def Forward.sourceClosed (state : Forward) (direction : Direction) : CopyLoop → Bool
  | .inputToStream => (state.lines direction).ended
  | .streamToOutput => state.returned (relay direction .inputToStream)

/-- What the parties and the loops do.  Sockets and streams take whatever is written. -/
inductive Action where
  | send (direction : Direction) (bytes : List UInt8)
  | finish (direction : Direction)
  | receive (direction : Direction) (count : Nat)
  | read (direction : Direction) (loop : CopyLoop) (count : Nat)
  | write (direction : Direction) (loop : CopyLoop) (count : Nat)
  /-- A loop reads the end of its source: the relay returns. -/
  | endOfStream (direction : Direction) (loop : CopyLoop)
deriving DecidableEq, Repr

def BUFFER_SIZE : Nat := 4096

def step (state : Forward) : Action → Option Forward
  | .send direction bytes =>
      let line := state.lines direction
      if line.ended then none
      else some (state.set direction
        { line with sent := line.sent ++ bytes, entry := line.entry ++ bytes })
  | .finish direction =>
      let line := state.lines direction
      if line.ended then none else some (state.set direction { line with ended := true })
  | .receive direction count =>
      let line := state.lines direction
      if 0 < count ∧ count ≤ line.exit.length then
        some (state.set direction { line with
          received := line.received ++ line.exit.take count, exit := line.exit.drop count })
      else none
  | .read direction loop count =>
      let line := state.lines direction
      if state.returned (relay direction loop) = false ∧ line.buffer loop = [] ∧ 0 < count ∧
          count ≤ BUFFER_SIZE ∧ count ≤ (line.source loop).length then
        some (state.set direction (line.read count loop))
      else none
  | .write direction loop count =>
      let line := state.lines direction
      if state.returned (relay direction loop) = false ∧ 0 < count ∧
          count ≤ (line.buffer loop).length then
        some (state.set direction (line.write count loop))
      else none
  | .endOfStream direction loop =>
      let line := state.lines direction
      if state.returned (relay direction loop) = false ∧ line.buffer loop = [] ∧
          line.source loop = [] ∧ state.sourceClosed direction loop = true then
        some { state with returned := Function.update state.returned (relay direction loop) true }
      else none

/-- The state after these actions. -/
def run (state : Forward) : List Action → Option Forward
  | [] => some state
  | action :: actions => (step state action).bind fun state => run state actions

section Runs

variable {state middle final : Forward} {action : Action} {actions actions' : List Action}

theorem run_append : run state (actions ++ actions') =
    (run state actions).bind fun middle => run middle actions' := by
  induction actions generalizing state with
  | nil => rfl
  | cons action actions ih =>
      simp only [List.cons_append, run]
      cases step state action with
      | none => rfl
      | some middle => exact ih

theorem run_append_inv (h : run state (actions ++ actions') = some final) :
    ∃ middle, run state actions = some middle ∧ run middle actions' = some final := by
  rw [run_append] at h
  exact Option.bind_eq_some_iff.mp h

theorem run_split (h : run state (actions ++ action :: actions') = some final) :
    ∃ before after, run state actions = some before ∧ step before action = some after ∧
      run after actions' = some final := by
  obtain ⟨before, hbefore, hrest⟩ := run_append_inv h
  obtain ⟨after, hstep, hafter⟩ := Option.bind_eq_some_iff.mp hrest
  exact ⟨before, after, hbefore, hstep, hafter⟩

theorem run_invariant {R : Forward → Forward → Prop} (hrefl : ∀ state, R state state)
    (htrans : ∀ first middle last, R first middle → R middle last → R first last)
    (hstep : ∀ state action state', step state action = some state' → R state state')
    (h : run state actions = some final) : R state final := by
  induction actions generalizing state with
  | nil =>
      obtain rfl := Option.some.inj h
      exact hrefl state
  | cons action actions ih =>
      obtain ⟨middle, hfirst, hrest⟩ := Option.bind_eq_some_iff.mp h
      exact htrans _ _ _ (hstep _ _ _ hfirst) (ih hrest)

end Runs

section Lines

/-- No byte of a line is lost or doubled. -/
def Line.Conserved (line : Line) : Prop :=
  line.sent = line.passed .inputToStream ++ line.ahead .inputToStream

theorem Line.Conserved.eq {line : Line} (h : line.Conserved) (loop : CopyLoop) :
    line.sent = line.passed loop ++ line.ahead loop := by
  cases loop with
  | inputToStream => exact h
  | streamToOutput =>
      rw [h]
      simp [Line.passed, Line.ahead]

/-- How a line changes, when the loops of some relays have stopped. -/
structure Line.Grows (stopped : CopyLoop → Bool) (line line' : Line) : Prop where
  sent : line.sent <+: line'.sent
  ended : line.ended = true → line'.ended = true ∧ line'.sent = line.sent
  passed : ∀ loop, line.passed loop <+: line'.passed loop
  still : ∀ loop, stopped loop = true → line'.passed loop = line.passed loop
  conserved : line.Conserved → line'.Conserved

variable {stopped : CopyLoop → Bool} {line : Line}

theorem Line.Grows.refl : Line.Grows stopped line line := by
  constructor
  · exact List.prefix_rfl
  · exact fun h => ⟨h, rfl⟩
  · exact fun _ => List.prefix_rfl
  · exact fun _ _ => rfl
  · exact id

theorem Line.Grows.input {line' : Line} (hopen : line.ended = false) (bytes : List UInt8)
    (hsent : line'.sent = line.sent ++ bytes) (hentry : line'.entry = line.entry ++ bytes)
    (hfirst : line'.first = line.first)
    (hpassed : line'.passed = line.passed) : Line.Grows stopped line line' := by
  constructor
  · exact hsent ▸ List.prefix_append _ _
  · intro hended
    rw [hopen] at hended
    cases hended
  · exact fun loop => hpassed ▸ List.prefix_rfl
  · intro loop _
    rw [hpassed]
  · intro h
    rw [Line.Conserved, hsent, h, hpassed]
    simp [Line.ahead, hentry, hfirst]

theorem Line.Grows.receive (count : Nat) :
    Line.Grows stopped line { line with
      received := line.received ++ line.exit.take count, exit := line.exit.drop count } := by
  have hpassed (loop : CopyLoop) : Line.passed { line with
      received := line.received ++ line.exit.take count, exit := line.exit.drop count } loop =
      line.passed loop := by
    cases loop <;> simp [Line.passed]
  constructor
  · exact List.prefix_rfl
  · exact fun h => ⟨h, rfl⟩
  · exact fun loop => hpassed loop ▸ List.prefix_rfl
  · exact fun loop _ => hpassed loop
  · intro h
    rw [Line.Conserved, hpassed]
    exact h

theorem Line.Grows.read {loop : CopyLoop} {count : Nat} (hempty : line.buffer loop = []) :
    Line.Grows stopped line (line.read count loop) := by
  have hpassed (other : CopyLoop) : (line.read count loop).passed other = line.passed other := by
    cases loop with
    | inputToStream => cases other <;> rfl
    | streamToOutput =>
        have hempty : line.second = [] := hempty
        cases other <;> simp [Line.passed, Line.read, hempty]
  constructor
  · cases loop <;> exact List.prefix_rfl
  · intro h
    cases loop <;> exact ⟨h, rfl⟩
  · exact fun other => hpassed other ▸ List.prefix_rfl
  · exact fun other _ => hpassed other
  · intro h
    rw [Line.Conserved, hpassed]
    cases loop with
    | inputToStream =>
        have hempty : line.first = [] := hempty
        have h : line.sent = _ := h
        simpa [Line.ahead, Line.read, hempty] using h
    | streamToOutput => exact h

theorem Line.Grows.write {loop : CopyLoop} {count : Nat} (hrunning : stopped loop = false) :
    Line.Grows stopped line (line.write count loop) := by
  constructor
  · cases loop <;> exact List.prefix_rfl
  · intro h
    cases loop <;> exact ⟨h, rfl⟩
  · intro other
    cases loop with
    | inputToStream =>
        cases other with
        | inputToStream =>
            exact ⟨line.first.take count, by simp [Line.passed, Line.write]⟩
        | streamToOutput => exact List.prefix_rfl
    | streamToOutput =>
        cases other with
        | inputToStream => exact ⟨[], by simp [Line.passed, Line.write]⟩
        | streamToOutput =>
            exact ⟨line.second.take count, by simp [Line.passed, Line.write]⟩
  · intro other hstopped
    cases loop with
    | inputToStream =>
        cases other with
        | inputToStream =>
            rw [hrunning] at hstopped
            cases hstopped
        | streamToOutput => rfl
    | streamToOutput =>
        cases other with
        | inputToStream => simp [Line.passed, Line.write]
        | streamToOutput =>
            rw [hrunning] at hstopped
            cases hstopped
  · intro h
    have h : line.sent = _ := h
    cases loop with
    | inputToStream =>
        simp only [Line.Conserved, Line.write]
        rw [h]
        simp only [Line.passed, Line.ahead, List.append_assoc]
        rw [← List.append_assoc (line.first.take count), List.take_append_drop]
    | streamToOutput =>
        simp only [Line.Conserved, Line.write]
        rw [h]
        simp [Line.passed, Line.ahead]

end Lines

section Steps

variable {state state' final : Forward} {action : Action} {actions : List Action}

/-- How the state changes. -/
structure Forward.Grows (state state' : Forward) : Prop where
  lines : ∀ direction, Line.Grows (fun loop => state.returned (relay direction loop))
    (state.lines direction) (state'.lines direction)
  returned : ∀ side, state.returned side = true → state'.returned side = true

theorem Forward.Grows.set {direction : Direction} {line : Line}
    (h : Line.Grows (fun loop => state.returned (relay direction loop)) (state.lines direction)
      line) : Forward.Grows state (state.set direction line) := by
  refine ⟨fun direction' => ?_, fun _ => id⟩
  by_cases hself : direction' = direction
  · subst hself
    simpa [Forward.set] using h
  · simp only [Forward.set, Function.update_of_ne hself]
    exact .refl

theorem step_grows (h : step state action = some state') : Forward.Grows state state' := by
  cases action with
  | send direction bytes =>
      simp only [step, Option.ite_none_left_eq_some, Option.some.injEq] at h
      obtain ⟨hopen, rfl⟩ := h
      exact .set (.input (Bool.not_eq_true _ ▸ hopen) bytes rfl rfl rfl rfl)
  | finish direction =>
      simp only [step, Option.ite_none_left_eq_some, Option.some.injEq] at h
      obtain ⟨hopen, rfl⟩ := h
      exact .set (.input (Bool.not_eq_true _ ▸ hopen) [] (by simp) (by simp) rfl rfl)
  | receive direction count =>
      simp only [step, Option.ite_none_right_eq_some, Option.some.injEq] at h
      obtain ⟨-, rfl⟩ := h
      exact .set (.receive count)
  | read direction loop count =>
      simp only [step, Option.ite_none_right_eq_some, Option.some.injEq] at h
      obtain ⟨⟨-, hempty, -⟩, rfl⟩ := h
      exact .set (.read hempty)
  | write direction loop count =>
      simp only [step, Option.ite_none_right_eq_some, Option.some.injEq] at h
      obtain ⟨⟨hrunning, -⟩, rfl⟩ := h
      exact .set (.write hrunning)
  | endOfStream direction loop =>
      simp only [step, Option.ite_none_right_eq_some, Option.some.injEq] at h
      obtain ⟨-, rfl⟩ := h
      refine ⟨fun _ => .refl, fun side hside => ?_⟩
      by_cases hself : side = relay direction loop
      · simp [hself]
      · simpa [Function.update_of_ne hself] using hside

theorem Forward.Grows.refl : Forward.Grows state state :=
  ⟨fun _ => .refl, fun _ => id⟩

theorem Forward.Grows.trans (h : Forward.Grows state state')
    (h' : Forward.Grows state' final) : Forward.Grows state final := by
  refine ⟨fun direction => ?_, fun side hside => h'.returned side (h.returned side hside)⟩
  have hfirst := h.lines direction
  have hrest := h'.lines direction
  constructor
  · exact hfirst.sent.trans hrest.sent
  · intro hended
    obtain ⟨hmiddle, hsent⟩ := hfirst.ended hended
    obtain ⟨hlast, hsent'⟩ := hrest.ended hmiddle
    exact ⟨hlast, hsent'.trans hsent⟩
  · exact fun loop => (hfirst.passed loop).trans (hrest.passed loop)
  · exact fun loop hstopped =>
      (hrest.still loop (h.returned _ hstopped)).trans (hfirst.still loop hstopped)
  · exact fun hconserved => hrest.conserved (hfirst.conserved hconserved)

theorem run_grows (h : run state actions = some final) : Forward.Grows state final :=
  run_invariant (R := Forward.Grows) (fun _ => .refl) (fun _ _ _ => .trans)
    (fun _ _ _ => step_grows) h

theorem conserved_new (h : run .new actions = some final) (direction : Direction) :
    (final.lines direction).Conserved :=
  ((run_grows h).lines direction).conserved rfl

theorem run_returned (h : run .new actions = some final) {side : Side}
    (hside : final.returned side = true) :
    ∃ before direction loop after, actions = before ++ .endOfStream direction loop :: after ∧
      relay direction loop = side := by
  induction actions using List.reverseRecOn generalizing final with
  | nil =>
      obtain rfl := Option.some.inj h
      cases hside
  | append_singleton actions action ih =>
      obtain ⟨middle, last, hbefore, hstep, hlast⟩ := run_split h
      obtain rfl := Option.some.inj hlast
      by_cases hearlier : middle.returned side = true
      · obtain ⟨before, direction, loop, after, rfl, hrelay⟩ := ih hbefore hearlier
        exact ⟨before, direction, loop, after ++ [action], by simp, hrelay⟩
      · cases action with
        | endOfStream direction loop =>
            refine ⟨actions, direction, loop, [], rfl, ?_⟩
            simp only [step, Option.ite_none_right_eq_some, Option.some.injEq] at hstep
            obtain ⟨-, rfl⟩ := hstep
            by_contra hother
            exact hearlier (by simpa [Function.update_of_ne (Ne.symm hother)] using hside)
        | send | finish =>
            simp only [step, Option.ite_none_left_eq_some, Option.some.injEq] at hstep
            obtain ⟨-, rfl⟩ := hstep
            exact (hearlier hside).elim
        | _ =>
            simp only [step, Option.ite_none_right_eq_some, Option.some.injEq] at hstep
            obtain ⟨-, rfl⟩ := hstep
            exact (hearlier hside).elim

end Steps

section Delivery

variable {state final : Forward} {actions : List Action}

def Action.isInternal : Action → Bool
  | .send _ _ | .finish _ => false
  | _ => true

/-- Only the parties could go on. -/
structure AtRest (state : Forward) : Prop where
  exit : ∀ direction, (state.lines direction).exit = []
  loops : ∀ direction loop, state.returned (relay direction loop) = true ∨
    (state.lines direction).buffer loop = [] ∧ (state.lines direction).source loop = [] ∧
      state.sourceClosed direction loop = false

instance (state : Forward) : Decidable (AtRest state) :=
  decidable_of_iff (_ ∧ _) ⟨fun h => ⟨h.1, h.2⟩, fun h => ⟨h.exit, h.loops⟩⟩

theorem atRest_iff : AtRest state ↔
    ∀ action : Action, action.isInternal = true → step state action = none := by
  constructor
  · intro h action hinternal
    cases action with
    | send | finish => cases hinternal
    | receive direction count =>
        simp only [step, h.exit, List.length_nil, Nat.le_zero]
        rw [if_neg (by omega)]
    | read direction loop count =>
        simp only [step]
        rw [if_neg]
        rintro ⟨hrunning, -, hcount, -, hfits⟩
        rcases h.loops direction loop with hreturned | ⟨-, hsource, -⟩
        · simp [hrunning] at hreturned
        · rw [hsource, List.length_nil] at hfits
          omega
    | write direction loop count =>
        simp only [step]
        rw [if_neg]
        rintro ⟨hrunning, hcount, hfits⟩
        rcases h.loops direction loop with hreturned | ⟨hbuffer, -, -⟩
        · simp [hrunning] at hreturned
        · rw [hbuffer, List.length_nil] at hfits
          omega
    | endOfStream direction loop =>
        simp only [step]
        rw [if_neg]
        rintro ⟨hrunning, -, -, hclosed⟩
        rcases h.loops direction loop with hreturned | ⟨-, -, hopen⟩
        · simp [hrunning] at hreturned
        · simp [hclosed] at hopen
  · intro h
    refine ⟨fun direction => ?_, fun direction loop => ?_⟩
    · have hstuck := h (.receive direction 1) rfl
      simp only [step, ite_eq_right_iff, reduceCtorEq, imp_false, not_and, Nat.not_le] at hstuck
      exact List.length_eq_zero_iff.mp (by omega)
    · have hread := h (.read direction loop 1) rfl
      have hwrite := h (.write direction loop 1) rfl
      have hend := h (.endOfStream direction loop) rfl
      simp only [step, ite_eq_right_iff, reduceCtorEq, imp_false, not_and, Nat.not_le] at *
      cases hreturned : state.returned (relay direction loop) with
      | true => exact .inl rfl
      | false =>
          have hbuffer : (state.lines direction).buffer loop = [] :=
            List.length_eq_zero_iff.mp (by have := hwrite hreturned; omega)
          have hsource : (state.lines direction).source loop = [] := by
            have hshort := hread hreturned hbuffer (by omega) (by decide)
            exact List.length_eq_zero_iff.mp (by omega)
          exact .inr ⟨hbuffer, hsource, Bool.not_eq_true _ ▸ hend hreturned hbuffer hsource⟩

/-- When a relay returns because of the end of one direction, all that is ever sent in the
other direction has been carried over by its other loop. -/
def Carried (actions : List Action) (final : Forward) : Prop :=
  ∀ before direction loop after state,
    actions = before ++ .endOfStream direction loop :: after → run .new before = some state →
    (state.lines direction.other).ahead loop.other = [] ∧
      (final.lines direction.other).sent = (state.lines direction.other).sent

theorem run_before_end {direction : Direction} {loop : CopyLoop} {before after : List Action}
    (h : run .new (before ++ .endOfStream direction loop :: after) = some final) :
    ∃ state, run .new before = some state ∧ Forward.Grows state final ∧
      state.returned (relay direction loop) = false ∧
      (state.lines direction).buffer loop = [] ∧ (state.lines direction).source loop = [] ∧
      state.sourceClosed direction loop = true := by
  obtain ⟨state, next, hbefore, hstep, hafter⟩ := run_split h
  refine ⟨state, hbefore, (step_grows hstep).trans (run_grows hafter), ?_⟩
  simp only [step, Option.ite_none_right_eq_some] at hstep
  exact hstep.1

theorem Forward.Grows.ahead_nil {direction : Direction} {loop : CopyLoop}
    (h : Forward.Grows state final) (hconserved : (state.lines direction).Conserved)
    (hnone : (state.lines direction).ahead loop = [])
    (hsent : (final.lines direction).sent = (state.lines direction).sent) :
    (final.lines direction).ahead loop = [] := by
  have hline := h.lines direction
  obtain ⟨more, hmore⟩ := hline.passed loop
  have hbefore := hconserved.eq loop
  have hafter := (hline.conserved hconserved).eq loop
  rw [hnone, List.append_nil] at hbefore
  rw [hsent, hbefore, ← hmore, List.append_assoc] at hafter
  have hempty := List.self_eq_append_right.mp hafter
  exact (List.append_eq_nil_iff.mp hempty).2

theorem first_done {direction : Direction} {middle : Forward} {earlier later : List Action}
    (hearlier : run .new earlier = some middle) (hlater : run middle later = some final)
    (hcarried : Carried (earlier ++ later) final)
    (hreturned : middle.returned (relay direction .inputToStream) = true) :
    (middle.lines direction).ahead .inputToStream = [] ∧
      (final.lines direction).sent = (middle.lines direction).sent := by
  obtain ⟨before, direction', loop', after, rfl, hrelay⟩ := run_returned hearlier hreturned
  obtain ⟨state, hbefore, hgrows, -, hbuffer, hsource, hclosed⟩ := run_before_end hearlier
  have hrest := run_grows hlater
  have hdone : (state.lines direction).ahead .inputToStream = [] ∧
      (final.lines direction).sent = (state.lines direction).sent := by
    rcases relay_eq_iff.mp hrelay with ⟨rfl, rfl⟩ | ⟨rfl, rfl⟩
    · refine ⟨?_, (((hgrows.trans hrest).lines _).ended hclosed).2⟩
      exact List.append_eq_nil_iff.mpr ⟨hbuffer, hsource⟩
    · have hother := hcarried before direction.other CopyLoop.inputToStream.other (after ++ later)
        state (by simp) hbefore
      cases direction <;> exact hother
  have hsent : (middle.lines direction).sent = (state.lines direction).sent := by
    have hfirst := (hgrows.lines direction).sent
    refine (hfirst.eq_of_length_le ?_).symm
    rw [← hdone.2]
    exact (hrest.lines direction).sent.length_le
  exact ⟨hgrows.ahead_nil (conserved_new hbefore direction) hdone.1 hsent, hdone.2.trans hsent.symm⟩

theorem second_done {direction : Direction} (h : run .new actions = some final)
    (hcarried : Carried actions final)
    (hreturned : final.returned (relay direction .streamToOutput) = true) :
    (final.lines direction).ahead .streamToOutput = [] := by
  obtain ⟨before, direction', loop', after, rfl, hrelay⟩ := run_returned h hreturned
  obtain ⟨state, hbefore, hgrows, -, hbuffer, hsource, hclosed⟩ := run_before_end h
  have hdone : (state.lines direction).ahead .streamToOutput = [] ∧
      (final.lines direction).sent = (state.lines direction).sent := by
    rcases relay_eq_iff.mp hrelay with ⟨rfl, rfl⟩ | ⟨rfl, rfl⟩
    · -- the stream was closed by the other relay, whose loop had written everything
      obtain ⟨state', hstate', hafter⟩ := run_append_inv h
      obtain rfl := Option.some.inj (hbefore.symm.trans hstate')
      obtain ⟨hfirst, hsent⟩ := first_done hbefore hafter hcarried hclosed
      have hbuffer : (state.lines direction').second = [] := hbuffer
      have hsource : (state.lines direction').stream = [] := hsource
      refine ⟨?_, hsent⟩
      rw [Line.ahead, hbuffer, hsource]
      exact hfirst
    · have hother := hcarried before _ _ after state rfl hbefore
      cases direction <;> exact hother
  exact hgrows.ahead_nil (conserved_new hbefore direction) hdone.1 hdone.2

theorem carried_of_received (h : run .new actions = some final)
    (hall : ∀ direction, (final.lines direction).received = (final.lines direction).sent) :
    Carried actions final := by
  rintro before direction loop after state rfl hbefore
  obtain ⟨state', next, hbefore', hstep, hafter⟩ := run_split h
  obtain rfl := Option.some.inj (hbefore.symm.trans hbefore')
  simp only [step, Option.ite_none_right_eq_some, Option.some.injEq] at hstep
  obtain ⟨-, rfl⟩ := hstep
  have hline : Line.Grows _ (state.lines direction.other) (final.lines direction.other) :=
    (run_grows hafter).lines direction.other
  have hpassed : (final.lines direction.other).passed loop.other =
      (state.lines direction.other).passed loop.other := by
    refine hline.still loop.other ?_
    simp
  have hconserved := (conserved_new hbefore direction.other).eq loop.other
  -- all that was received had been written by this loop
  have hreceived : (final.lines direction.other).received.length ≤
      ((state.lines direction.other).passed loop.other).length := by
    rw [← hpassed]
    cases loop <;> simp [CopyLoop.other, Line.passed]
  have hmore := hline.sent.length_le
  have hlength := congrArg List.length hconserved
  rw [hall] at hreceived
  rw [List.length_append] at hlength
  refine ⟨List.length_eq_zero_iff.mp ?_, (hline.sent.eq_of_length_le ?_).symm⟩
  · omega
  · omega

/-- The steps that are left for the bytes on their way. -/
def Line.left (line : Line) : Nat :=
  5 * line.entry.length + 4 * line.first.length + 3 * line.stream.length +
    2 * line.second.length + line.exit.length

def Forward.running (state : Forward) (side : Side) : Nat :=
  if state.returned side then 0 else 1

def Forward.work (state : Forward) : Nat :=
  (state.lines .toService).left + (state.lines .toClient).left + state.running .listening +
    state.running .serving

theorem Line.left_read {line : Line} {loop : CopyLoop} {count : Nat} (hcount : 0 < count)
    (hempty : line.buffer loop = []) (hfits : count ≤ (line.source loop).length) :
    (line.read count loop).left < line.left := by
  cases loop with
  | inputToStream =>
      have hempty : line.first = [] := hempty
      simp only [Line.source] at hfits
      simp only [Line.left, Line.read, List.length_take, List.length_drop, hempty,
        List.length_nil]
      omega
  | streamToOutput =>
      have hempty : line.second = [] := hempty
      simp only [Line.source] at hfits
      simp only [Line.left, Line.read, List.length_take, List.length_drop, hempty,
        List.length_nil]
      omega

theorem Line.left_write {line : Line} {loop : CopyLoop} {count : Nat} (hcount : 0 < count)
    (hfits : count ≤ (line.buffer loop).length) : (line.write count loop).left < line.left := by
  cases loop with
  | inputToStream =>
      simp only [Line.buffer] at hfits
      simp only [Line.left, Line.write, List.length_append, List.length_take, List.length_drop]
      omega
  | streamToOutput =>
      simp only [Line.buffer] at hfits
      simp only [Line.left, Line.write, List.length_append, List.length_take, List.length_drop]
      omega

theorem Forward.work_set {state : Forward} {direction : Direction} {line : Line}
    (h : line.left < (state.lines direction).left) :
    (state.set direction line).work < state.work := by
  have hrunning (side : Side) : (state.set direction line).running side = state.running side :=
    rfl
  have hself : (state.set direction line).lines direction = line := Function.update_self _ _ _
  have hother (other : Direction) (hne : other ≠ direction) :
      (state.set direction line).lines other = state.lines other :=
    Function.update_of_ne hne _ _
  unfold Forward.work
  rw [hrunning, hrunning]
  cases direction with
  | toService =>
      rw [hself, hother .toClient (by decide)]
      omega
  | toClient =>
      rw [hself, hother .toService (by decide)]
      omega

theorem step_work {state' : Forward} {action : Action} (hinternal : action.isInternal = true)
    (h : step state action = some state') : state'.work < state.work := by
  cases action with
  | send | finish => cases hinternal
  | receive direction count =>
      simp only [step, Option.ite_none_right_eq_some, Option.some.injEq] at h
      obtain ⟨⟨hcount, hfits⟩, rfl⟩ := h
      refine Forward.work_set ?_
      simp only [Line.left, List.length_drop]
      omega
  | read direction loop count =>
      simp only [step, Option.ite_none_right_eq_some, Option.some.injEq] at h
      obtain ⟨⟨-, hempty, hcount, -, hfits⟩, rfl⟩ := h
      exact Forward.work_set (Line.left_read hcount hempty hfits)
  | write direction loop count =>
      simp only [step, Option.ite_none_right_eq_some, Option.some.injEq] at h
      obtain ⟨⟨-, hcount, hfits⟩, rfl⟩ := h
      exact Forward.work_set (Line.left_write hcount hfits)
  | endOfStream direction loop =>
      simp only [step, Option.ite_none_right_eq_some, Option.some.injEq] at h
      obtain ⟨⟨hrunning, -⟩, rfl⟩ := h
      cases hside : relay direction loop <;> rw [hside] at hrunning <;>
        simp [Forward.work, Forward.running, hrunning]

/-- However a run goes on, the loops and the parties come to rest. -/
theorem comes_to_rest (state : Forward) : ∃ actions final, run state actions = some final ∧
    AtRest final ∧ ∀ action ∈ actions, action.isInternal = true := by
  induction hwork : state.work using Nat.strongRecOn generalizing state with
  | ind work ih =>
      by_cases hrest : AtRest state
      · exact ⟨[], state, rfl, hrest, by simp⟩
      · rw [atRest_iff] at hrest
        push Not at hrest
        obtain ⟨action, hinternal, hstep⟩ := hrest
        obtain ⟨next, hnext⟩ := Option.ne_none_iff_exists'.mp hstep
        obtain ⟨actions, final, hrun, hfinal, hall⟩ :=
          ih next.work (hwork ▸ step_work hinternal hnext) next rfl
        refine ⟨action :: actions, final, by simp [run, hnext, hrun], hfinal, ?_⟩
        simpa [hinternal] using hall

/-- Whatever the schedule, each party receives a prefix of what the other has sent, and
everything comes to rest; and if both have ended then, they have received all that was sent
just when no relay returned too early. -/
theorem forwarded_iff (h : run .new actions = some final) :
    (∀ direction, (final.lines direction).received <+: (final.lines direction).sent) ∧
    (∃ rest last, run final rest = some last ∧ AtRest last ∧
      ∀ action ∈ rest, action.isInternal = true) ∧
    ((∀ direction, (final.lines direction).ended = true) → AtRest final →
      ((∀ direction, (final.lines direction).received = (final.lines direction).sent) ↔
        Carried actions final)) := by
  refine ⟨fun direction => ?_, comes_to_rest final, fun hended hrest =>
    ⟨carried_of_received h, fun hcarried direction => ?_⟩⟩
  · rw [(conserved_new h direction).eq .streamToOutput, Line.passed, List.append_assoc]
    exact List.prefix_append _ _
  · have hfirst : final.returned (relay direction .inputToStream) = true := by
      rcases hrest.loops direction .inputToStream with hreturned | ⟨-, -, hopen⟩
      · exact hreturned
      · rw [Forward.sourceClosed, hended] at hopen
        cases hopen
    have hsecond : final.returned (relay direction .streamToOutput) = true := by
      rcases hrest.loops direction .streamToOutput with hreturned | ⟨-, -, hopen⟩
      · exact hreturned
      · rw [Forward.sourceClosed, hfirst] at hopen
        cases hopen
    have hnone := second_done h hcarried hsecond
    rw [(conserved_new h direction).eq .streamToOutput, hnone, Line.passed, hrest.exit]
    simp

/-- The client asks, the service answers and ends first. -/
def exchange : List Action :=
  [.send .toService [1], .read .toService .inputToStream 1, .write .toService .inputToStream 1,
    .read .toService .streamToOutput 1, .write .toService .streamToOutput 1,
    .receive .toService 1, .finish .toService, .send .toClient [2], .finish .toClient,
    .read .toClient .inputToStream 1, .write .toClient .inputToStream 1,
    .read .toClient .streamToOutput 1, .write .toClient .streamToOutput 1,
    .endOfStream .toClient .inputToStream, .endOfStream .toClient .streamToOutput,
    .receive .toClient 1]

theorem forwarded_exchange :
    ∃ final, run .new exchange = some final ∧
      (∀ direction, (final.lines direction).received = (final.lines direction).sent) ∧
      Carried exchange final := by
  have hsome : (run .new exchange).any (fun final =>
      decide (AtRest final ∧ ∀ direction, (final.lines direction).ended = true ∧
        (final.lines direction).received = (final.lines direction).sent)) = true := by
    decide
  obtain ⟨final, hrun, hend⟩ := (Option.any_eq_true _ _).mp hsome
  obtain ⟨hrest, hlines⟩ := of_decide_eq_true hend
  exact ⟨final, hrun, fun direction => (hlines direction).2,
    ((forwarded_iff hrun).2.2 (fun direction => (hlines direction).1) hrest).mp
      fun direction => (hlines direction).2⟩

/-- The client asks and ends its direction; the answer of the service is lost. -/
def unanswered : List Action :=
  [.send .toService [1], .finish .toService, .read .toService .inputToStream 1,
    .write .toService .inputToStream 1, .endOfStream .toService .inputToStream,
    .read .toService .streamToOutput 1, .write .toService .streamToOutput 1,
    .receive .toService 1, .endOfStream .toService .streamToOutput,
    .send .toClient [2], .finish .toClient]

theorem answer_lost :
    ¬∀ (actions : List Action) (final : Forward), run .new actions = some final →
      (∀ direction, (final.lines direction).ended = true) → AtRest final →
      ∀ direction, (final.lines direction).received = (final.lines direction).sent := by
  intro hclaim
  have hsome : (run .new unanswered).any (fun final =>
      decide (AtRest final ∧ (∀ direction, (final.lines direction).ended = true) ∧
        (final.lines .toClient).received ≠ (final.lines .toClient).sent)) = true := by
    decide
  obtain ⟨final, hrun, hend⟩ := (Option.any_eq_true _ _).mp hsome
  obtain ⟨hrest, hended, hlost⟩ := of_decide_eq_true hend
  exact hlost (hclaim unanswered final hrun hended hrest .toClient)

end Delivery

end Failsafe.Port
