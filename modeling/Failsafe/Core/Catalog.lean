import Failsafe.Core.Api

/-!
The catalogue of features (`failsafe-feature-registry`).
-/

namespace Failsafe.Core

def catalog : List FeatureInfo :=
  [{ id := "clipboard", label := "Clipboard",
     description := "Sync clipboard content across devices" },
   { id := "shell", label := "Shell",
     description := "Accept remote terminal sessions from other devices" },
   { id := "port_forward", label := "Port Forward",
     description := "Accept forwarded TCP connections from other devices" },
   { id := "file_send", label := "File Send",
     description := "Receive explicit file transfers from other devices" }]

def allIds : List FeatureId :=
  [⟨"clipboard"⟩, ⟨"shell"⟩, ⟨"port_forward"⟩, ⟨"file_send"⟩]

def isKnownFeature (id : String) : Bool :=
  allIds.any fun feature => feature.id == id

theorem catalog_ids : catalog.map (fun info => FeatureId.mk info.id) = allIds := rfl

theorem isKnownFeature_iff {feature : FeatureId} :
    isKnownFeature feature.id = true ↔ feature ∈ allIds := by
  simp only [isKnownFeature, List.any_eq_true, beq_iff_eq]
  constructor
  · rintro ⟨feature', hmem, hid⟩
    obtain rfl : feature' = feature := congrArg FeatureId.mk hid
    exact hmem
  · exact fun hmem => ⟨feature, hmem, rfl⟩

end Failsafe.Core
