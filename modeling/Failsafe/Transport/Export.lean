import Failsafe.Lib.PathPush

/-!
Writing a collection out into a directory: `export_target` and `export_collection`
(`failsafe-transport/src/blobs/iroh.rs`).
-/

namespace Failsafe.Transport

open Failsafe.Lib Failsafe.Lib.Paths

/-- The bytes of a text. -/
abbrev Text := List UInt8

inductive BlobError where
  | store (message : Text)
deriving DecidableEq, Repr

structure BlobProgress where
  bytesDone : Nat
  bytesTotal : Nat
  currentFile : Option Text
deriving DecidableEq, Repr

/-- `name.split('/')`. -/
def nameParts (name : Text) : List Text :=
  name.splitOnP (· = slash)

def invalidComponent (part : Text) : BlobError :=
  .store ("invalid path component: ".toUTF8.toList ++ part)

/-- The loop of `export_target`. -/
def exportParts (platform : Platform) : PathBuf → List Text → Except BlobError PathBuf
  | path, [] => .ok path
  | path, part :: parts =>
      if part = [] || part = [dot] || part = [dot, dot] then .error (invalidComponent part)
      else exportParts platform (push platform path part) parts

def exportTarget (platform : Platform) (base : PathBuf) (name : Text) : Except BlobError PathBuf :=
  exportParts platform base (nameParts name)

inductive ExportProgressItem where
  | size (size : Nat)
  | copyProgress (offset : Nat)
  | done
  | error (cause : Text)
deriving DecidableEq, Repr

/-- How the file system and the store answer, for the file of each index. -/
structure ExportAnswers where
  createDir : Except Text Unit
  createParent : Nat → Except Text Unit
  stream : Nat → List ExportProgressItem

/-- What an export has asked of the store, the progress it has shown, and what it returns. -/
structure Exported where
  exports : List (Text × PathBuf)
  progress : List BlobProgress
  result : Except BlobError (List PathBuf)

/-- The loop over the stream of one export. -/
def drain (shown : BlobProgress) : List ExportProgressItem → List BlobProgress × Except Text Unit
  | [] => ([], .ok ())
  | .size _ :: items => drain shown items
  | .copyProgress _ :: items =>
      let (progress, result) := drain shown items
      (shown :: progress, result)
  | .error cause :: _ => ([], .error cause)
  | .done :: _ => ([], .ok ())

section

variable (platform : Platform) (answers : ExportAnswers) (destDir : PathBuf) (totalFiles : Nat)

/-- The loop of `export_collection` over the names and hashes. -/
def exportFrom (paths : List PathBuf) : Nat → List (Text × Text) → Exported
  | _, [] =>
      { exports := []
        progress := [{ bytesDone := totalFiles, bytesTotal := totalFiles, currentFile := none }]
        result := .ok paths }
  | index, (name, hash) :: rest =>
      match exportTarget platform destDir name with
      | .error error => { exports := [], progress := [], result := .error error }
      | .ok target =>
          match answers.createParent index with
          | .error error =>
              { exports := []
                progress := []
                result := .error (.store ("failed to create parent dir: ".toUTF8.toList ++ error)) }
          | .ok () =>
              let shown : BlobProgress :=
                { bytesDone := index, bytesTotal := totalFiles, currentFile := some name }
              match drain shown (answers.stream index) with
              | (progress, .error cause) =>
                  { exports := [(hash, target)]
                    progress := shown :: progress
                    result := .error (.store ("failed to export ".toUTF8.toList ++ name ++
                      ": ".toUTF8.toList ++ cause)) }
              | (progress, .ok ()) =>
                  let later := exportFrom (paths ++ [target]) (index + 1) rest
                  { exports := (hash, target) :: later.exports
                    progress := shown :: progress ++ later.progress
                    result := later.result }

/-- `export_collection`, once the collection is loaded. -/
def exportCollection (collection : List (Text × Text)) : Exported :=
  match answers.createDir with
  | .error error =>
      { exports := []
        progress := []
        result := .error (.store ("failed to create export dir: ".toUTF8.toList ++ error)) }
  | .ok () => exportFrom platform answers destDir collection.length [] 0 collection

end

/-- The check of `export_target`, which looks at the name alone. -/
def nameAccepted (name : Text) : Bool :=
  (nameParts name).all fun part => part ≠ [] && part ≠ [dot] && part ≠ [dot, dot]

section

variable {platform : Platform} {base target : PathBuf} {name : Text} {parts : List Text}

theorem exportParts_eq (h : ∀ part ∈ parts, part ≠ [] ∧ part ≠ [dot] ∧ part ≠ [dot, dot]) :
    exportParts platform base parts = .ok (pushAll platform base parts) := by
  induction parts generalizing base with
  | nil => rfl
  | cons part parts ih =>
      have hpart := h part List.mem_cons_self
      rw [exportParts, if_neg (by simp [hpart]),
        ih fun other hother => h other (List.mem_cons_of_mem _ hother)]
      rfl

theorem parts_of_accepted (h : nameAccepted name) :
    ∀ part ∈ nameParts name, part ≠ [] ∧ part ≠ [dot] ∧ part ≠ [dot, dot] := by
  simpa [nameAccepted, and_assoc] using h

theorem exportParts_rejected
    (h : ∃ part ∈ parts, part = [] ∨ part = [dot] ∨ part = [dot, dot]) :
    ∃ error, exportParts platform base parts = .error error := by
  induction parts generalizing base with
  | nil =>
      obtain ⟨part, hpart, -⟩ := h
      cases hpart
  | cons part parts ih =>
      rw [exportParts]
      split
      · exact ⟨_, rfl⟩
      · next hkeep =>
          obtain ⟨found, hfound, hbad⟩ := h
          rcases List.mem_cons.mp hfound with rfl | hfound
          · exact absurd (by simpa [or_assoc] using hbad) hkeep
          · exact ih ⟨found, hfound, hbad⟩

theorem exportTarget_ok_iff : exportTarget platform base name = .ok target ↔
    nameAccepted name ∧ target = pushAll platform base (nameParts name) := by
  by_cases haccepted : nameAccepted name
  · rw [exportTarget, exportParts_eq (parts_of_accepted haccepted)]
    simp [haccepted, eq_comm]
  · obtain ⟨error, herror⟩ := @exportParts_rejected platform base (nameParts name) (by
      simpa [nameAccepted, imp_iff_not_or, or_assoc] using haccepted)
    rw [exportTarget, herror]
    simp [haccepted]

theorem pushAll_below_iff (haccepted : nameAccepted name) :
    (∀ base, isSettled platform base →
      IsBelow platform base (pushAll platform base (nameParts name))) ↔
        Descending platform (nameParts name) := by
  have hne : ∀ part ∈ nameParts name, part ≠ [] :=
    fun part hpart => (parts_of_accepted haccepted part hpart).1
  constructor
  · exact descending_of_isBelow hne
  · intro h base hsettled
    exact isBelow_pushAll hsettled hne h

theorem descending_unix (haccepted : nameAccepted name) :
    Descending .unix (nameParts name) := by
  have hname : ∀ part ∈ nameParts name, IsName part := fun part hpart =>
    have haccepted := parts_of_accepted haccepted part hpart
    ⟨haccepted.1, haccepted.2, not_sep_of_mem_splitOnP hpart⟩
  refine ⟨fun part hpart => (hname part hpart).relative, fun part hpart => ?_, ?_⟩
  · simp [(hname part hpart).components]
  · cases hparts : nameParts name with
    | nil => exact absurd hparts (List.splitOnP_ne_nil _ _)
    | cons part parts =>
        exact ⟨part, by simp, part, by simp [(hname part (by simp [hparts])).components]⟩

theorem mem_exportFrom {answers : ExportAnswers} {totalFiles index : Nat} {paths : List PathBuf}
    {collection : List (Text × Text)} {entry : Text × PathBuf}
    (h : entry ∈ (exportFrom platform answers base totalFiles paths index collection).exports) :
    ∃ listed ∈ collection.takeWhile fun listed => nameAccepted listed.1,
      exportTarget platform base listed.1 = .ok entry.2 := by
  induction collection generalizing index paths with
  | nil => cases h
  | cons listed rest ih =>
      obtain ⟨name, hash⟩ := listed
      unfold exportFrom at h
      split at h
      · cases h
      · next target htarget =>
          have haccepted : nameAccepted name := (exportTarget_ok_iff.mp htarget).1
          rw [List.takeWhile_cons, if_pos haccepted]
          split at h
          · cases h
          · dsimp only at h
            split at h
            · obtain rfl := List.mem_singleton.mp h
              exact ⟨_, List.mem_cons_self, htarget⟩
            · rcases List.mem_cons.mp h with rfl | h
              · exact ⟨_, List.mem_cons_self, htarget⟩
              · obtain ⟨found, hfound, hok⟩ := ih h
                exact ⟨found, List.mem_cons_of_mem _ hfound, hok⟩

/-- Nothing goes wrong. -/
def willing : ExportAnswers where
  createDir := .ok ()
  createParent _ := .ok ()
  stream _ := [.done]

theorem exportFrom_willing {totalFiles index : Nat} {paths : List PathBuf}
    {collection : List (Text × Text)} :
    (exportFrom platform willing base totalFiles paths index collection).exports =
      (collection.takeWhile fun listed => nameAccepted listed.1).map fun listed =>
        (listed.2, pushAll platform base (nameParts listed.1)) := by
  induction collection generalizing index paths with
  | nil => rfl
  | cons listed rest ih =>
      obtain ⟨name, hash⟩ := listed
      by_cases haccepted : nameAccepted name
      · have htarget : exportTarget platform base name =
            .ok (pushAll platform base (nameParts name)) :=
          exportTarget_ok_iff.mpr ⟨haccepted, rfl⟩
        rw [List.takeWhile_cons, if_pos haccepted, List.map_cons, ← ih]
        simp only [exportFrom, htarget]
        rfl
      · have hrejected : ∃ error, exportTarget platform base name = .error error := by
          cases htarget : exportTarget platform base name with
          | error error => exact ⟨error, rfl⟩
          | ok target => exact absurd (exportTarget_ok_iff.mp htarget).1 haccepted
        obtain ⟨error, herror⟩ := hrejected
        simp [exportFrom, herror, haccepted]

/-- Every path of `export_target`, and with it every file of `export_collection`, is below the
directory, whichever that is, exactly when the accepted names descend; on Unix they all do. -/
theorem exports_below_iff (platform : Platform) (collection : List (Text × Text)) :
    ((∀ base, isSettled platform base → ∀ listed ∈ collection, ∀ target,
      exportTarget platform base listed.1 = .ok target → IsBelow platform base target) ↔
        ∀ listed ∈ collection, nameAccepted listed.1 →
          Descending platform (nameParts listed.1)) ∧
    ((∀ base, isSettled platform base → ∀ answers,
      ∀ entry ∈ (exportCollection platform answers base collection).exports,
        IsBelow platform base entry.2) ↔
        ∀ listed ∈ collection.takeWhile fun listed => nameAccepted listed.1,
          Descending platform (nameParts listed.1)) ∧
    (platform = .unix → ∀ listed ∈ collection, nameAccepted listed.1 →
      Descending platform (nameParts listed.1)) := by
  refine ⟨⟨?_, ?_⟩, ⟨?_, ?_⟩, ?_⟩
  · intro h listed hlisted haccepted
    rw [← pushAll_below_iff haccepted]
    intro base hsettled
    exact h base hsettled listed hlisted _ (exportTarget_ok_iff.mpr ⟨haccepted, rfl⟩)
  · intro h base hsettled listed hlisted target htarget
    obtain ⟨haccepted, rfl⟩ := exportTarget_ok_iff.mp htarget
    exact (pushAll_below_iff haccepted).mpr (h listed hlisted haccepted) base hsettled
  · intro h listed hlisted
    have haccepted : nameAccepted listed.1 := by simpa using List.mem_takeWhile_imp hlisted
    rw [← pushAll_below_iff haccepted]
    intro base hsettled
    apply h base hsettled willing (listed.2, _)
    change _ ∈ (exportFrom platform willing base collection.length [] 0 collection).exports
    rw [exportFrom_willing]
    exact List.mem_map_of_mem hlisted
  · intro h base hsettled answers entry hentry
    unfold exportCollection at hentry
    split at hentry
    · cases hentry
    · obtain ⟨listed, hlisted, htarget⟩ := mem_exportFrom hentry
      obtain ⟨haccepted, heq⟩ := exportTarget_ok_iff.mp htarget
      rw [heq]
      exact (pushAll_below_iff haccepted).mpr (h listed hlisted) base hsettled
  · rintro rfl listed - haccepted
    exact descending_unix haccepted

/-- A name with a backslash climbs out of a directory of Windows. -/
theorem export_climbs :
    ∃ target, exportTarget .windows "C:\\recv".toUTF8.toList "..\\evil.txt".toUTF8.toList =
        .ok target ∧ isSettled .windows "C:\\recv".toUTF8.toList = true ∧
      (exportCollection .windows willing "C:\\recv".toUTF8.toList
        [("..\\evil.txt".toUTF8.toList, [])]).exports = [([], target)] ∧
      ¬IsBelow .windows "C:\\recv".toUTF8.toList target := by
  refine ⟨"C:\\recv\\..\\evil.txt".toUTF8.toList, by decide +kernel, by decide +kernel,
    by decide +kernel, ?_⟩
  rintro ⟨rest, hrest, hplain, -⟩
  have hcomponents : components .windows "C:\\recv\\..\\evil.txt".toUTF8.toList =
      components .windows "C:\\recv".toUTF8.toList ++
        [.parentDir, .normal "evil.txt".toUTF8.toList] := by decide +kernel
  obtain rfl := List.append_cancel_left (hcomponents.symm.trans hrest)
  rcases hplain .parentDir (by simp) with hcur | ⟨name, hname⟩
  · cases hcur
  · cases hname

end

end Failsafe.Transport
