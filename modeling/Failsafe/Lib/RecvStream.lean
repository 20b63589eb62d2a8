import Mathlib.Data.List.Infix

/-!
A stream of bytes that comes in pieces, and the reads that wait for as many bytes as they want.
-/

namespace Failsafe.Lib

/-- The receiving half of a stream: the bytes to come, in the pieces in which reads may find
them, and how it ends. -/
structure RecvStream where
  fragments : List (List UInt8)
  ending : Except String Unit
  nonempty : ∀ fragment ∈ fragments, fragment ≠ []

namespace RecvStream

def bytes (recv : RecvStream) : List UInt8 :=
  recv.fragments.flatten

/-- `RecvStream::read` into a buffer of this size. -/
def read (capacity : Nat) : RecvStream → Except String (Option (List UInt8)) × RecvStream
  | recv@⟨[], ending, _⟩ => (ending.map fun _ => none, recv)
  | ⟨fragment :: fragments, ending, nonempty⟩ =>
      if h : capacity < fragment.length then
        (.ok (some (fragment.take capacity)),
          ⟨fragment.drop capacity :: fragments, ending, by
            intro other hmem
            rcases List.mem_cons.mp hmem with rfl | hmem
            · exact List.ne_nil_of_length_pos (by rw [List.length_drop]; omega)
            · exact nonempty other (List.mem_cons_of_mem _ hmem)⟩)
      else
        (.ok (some fragment),
          ⟨fragments, ending, fun other hmem => nonempty other (List.mem_cons_of_mem _ hmem)⟩)

theorem read_some {capacity : Nat} {recv : RecvStream} (hcapacity : 0 < capacity)
    (h : recv.bytes ≠ []) :
    ∃ read recv', recv.read capacity = (.ok (some read), recv') ∧ read ≠ [] ∧
      read.length ≤ capacity ∧ recv.bytes = read ++ recv'.bytes := by
  obtain ⟨fragments, ending, nonempty⟩ := recv
  cases fragments with
  | nil => exact (h rfl).elim
  | cons fragment fragments =>
      by_cases hfits : capacity < fragment.length
      · refine ⟨fragment.take capacity, _, by rw [read, dif_pos hfits], ?_, ?_, ?_⟩
        · exact List.ne_nil_of_length_pos (by simp only [List.length_take]; omega)
        · exact List.length_take_le _ _
        · simp only [bytes, List.flatten_cons]
          rw [← List.append_assoc, List.take_append_drop]
      · refine ⟨fragment, _, by rw [read, dif_neg hfits], nonempty _ List.mem_cons_self, ?_, ?_⟩
        · omega
        · simp [bytes]

variable {ε : Type}

/-- Read until this much is there: `wrap` is what becomes of an error of the stream, `closed`
of its end. -/
def fill (wrap : String → ε) (closed : ε) (missing : Nat) (recv : RecvStream) :
    Except ε (List UInt8) × RecvStream :=
  if _h : missing = 0 then (.ok [], recv)
  else match recv.read missing with
    | (.error error, recv) => (.error (wrap error), recv)
    | (.ok none, recv) | (.ok (some []), recv) => (.error closed, recv)
    | (.ok (some (byte :: bytes)), recv) =>
        match fill wrap closed (missing - (bytes.length + 1)) recv with
        | (.error error, recv) => (.error error, recv)
        | (.ok rest, recv) => (.ok (byte :: bytes ++ rest), recv)
termination_by missing
decreasing_by omega

/-- However a stream is read, a read of as many bytes as are there finds them in order and
leaves the rest. -/
theorem fill_append {wrap : String → ε} {closed : ε} {recv : RecvStream} {first rest : List UInt8}
    (h : recv.bytes = first ++ rest) :
    ∃ recv', fill wrap closed first.length recv = (.ok first, recv') ∧ recv'.bytes = rest := by
  induction hlength : first.length using Nat.strong_induction_on generalizing first recv with
  | _ length ih =>
      subst hlength
      cases first with
      | nil =>
          refine ⟨recv, ?_, h⟩
          rw [fill]
          rfl
      | cons head tail =>
          have hsome : recv.bytes ≠ [] := by simp [h]
          obtain ⟨read, recv', hread, hne, hfits, hbytes⟩ :=
            read_some (Nat.succ_pos tail.length) hsome
          -- what was read is the beginning of what is wanted
          obtain ⟨wanted, hwanted⟩ : read <+: head :: tail :=
            List.prefix_of_prefix_length_le (hbytes ▸ List.prefix_append _ _)
              (h ▸ List.prefix_append _ _) hfits
          have hleft : recv'.bytes = wanted ++ rest := by
            rw [h, ← hwanted, List.append_assoc] at hbytes
            exact (List.append_cancel_left hbytes).symm
          have hlength := congrArg List.length hwanted
          obtain ⟨byte, bytes, rfl⟩ := List.exists_cons_of_ne_nil hne
          simp only [List.length_append, List.length_cons] at hlength
          obtain ⟨last, hlast, hrest⟩ := ih wanted.length (by simp; omega) hleft rfl
          refine ⟨last, ?_, hrest⟩
          have hmissing : tail.length + 1 - (bytes.length + 1) = wanted.length := by omega
          rw [fill, dif_neg (by simp)]
          simp only [List.length_cons, hread, hmissing, hlast, hwanted]

theorem read_ok {capacity : Nat} {recv recv' : RecvStream} {read : List UInt8}
    (h : recv.read capacity = (.ok (some read), recv')) :
    recv.bytes = read ++ recv'.bytes ∧ read.length ≤ capacity := by
  obtain ⟨fragments, ending, nonempty⟩ := recv
  cases fragments with
  | nil =>
      cases ending with
      | error error => cases h
      | ok value => cases h
  | cons fragment fragments =>
      rw [RecvStream.read] at h
      split at h
      · obtain ⟨hread, rfl⟩ := Prod.mk.inj h
        obtain rfl := Option.some.inj (Except.ok.inj hread)
        refine ⟨?_, List.length_take_le _ _⟩
        simp only [bytes, List.flatten_cons]
        rw [← List.append_assoc, List.take_append_drop]
      · rename_i hfits
        obtain ⟨hread, rfl⟩ := Prod.mk.inj h
        obtain rfl := Option.some.inj (Except.ok.inj hread)
        exact ⟨by simp [bytes], Nat.not_lt.mp hfits⟩

theorem fill_ok {wrap : String → ε} {closed : ε} {missing : Nat} {recv recv' : RecvStream}
    {found : List UInt8} (h : fill wrap closed missing recv = (.ok found, recv')) :
    recv.bytes = found ++ recv'.bytes ∧ found.length = missing := by
  induction missing using Nat.strong_induction_on generalizing recv found with
  | _ missing ih =>
      rw [fill] at h
      split at h
      · rename_i hnone
        obtain ⟨hfound, rfl⟩ := Prod.mk.inj h
        obtain rfl := Except.ok.inj hfound
        exact ⟨rfl, hnone.symm⟩
      · rename_i hmissing
        split at h
        · cases (Prod.mk.inj h).1
        · cases (Prod.mk.inj h).1
        · cases (Prod.mk.inj h).1
        · rename_i byte bytes middle hread
          split at h
          · cases (Prod.mk.inj h).1
          · rename_i rest last hrest
            obtain ⟨hfound, rfl⟩ := Prod.mk.inj h
            obtain rfl := Except.ok.inj hfound
            obtain ⟨hleft, hlength⟩ := ih _ (by omega) hrest
            obtain ⟨hbytes, hfits⟩ := read_ok hread
            refine ⟨by rw [hbytes, hleft, List.append_assoc], ?_⟩
            rw [List.length_cons] at hfits
            rw [List.length_append, List.length_cons, hlength]
            omega

end RecvStream

end Failsafe.Lib
