import ServiceDiagram.Proofs.Surroundings.Paths
import ServiceDiagram.Settings.Check

/-!
# Checked settings

What it means that settings pass their check, value by value.
-/

namespace ServiceDiagram.Settings

variable {s : Settings}

theorem check_bind_ok {first : Check} {rest : Unit → Check} :
    (first >>= rest) = .ok () ↔ first = .ok () ∧ rest () = .ok () := by
  cases first with
  | error fault => exact ⟨nofun, fun h => nomatch h.1⟩
  | ok u => exact ⟨fun h => ⟨rfl, h⟩, fun h => h.2⟩

/-- **What checked settings are**: each value passes its own check, and the document and the diagram
have different files. -/
theorem check_eq_ok_iff :
    s.check = .ok () ↔
      checkServer "renderer.server" s.server = .ok () ∧ checkPath "output.dir" s.dir = .ok () ∧
        checkFileName "output.data_file" s.dataFile = .ok () ∧
        checkFileName "output.diagram_file" s.diagramFile = .ok () ∧ s.dataFile ≠ s.diagramFile := by
  unfold check
  rw [check_bind_ok, check_bind_ok, check_bind_ok, check_bind_ok]
  refine and_congr_right fun _ => and_congr_right fun _ => and_congr_right fun _ =>
    and_congr_right fun _ => ?_
  by_cases h : s.dataFile = s.diagramFile
  · rw [if_pos h]
    exact ⟨nofun, fun hne => absurd h hne⟩
  · rw [if_neg h]
    exact ⟨fun _ => h, fun _ => rfl⟩

theorem dataFile_ne_diagramFile (h : s.check = .ok ()) : s.dataFile ≠ s.diagramFile :=
  (check_eq_ok_iff.mp h).2.2.2.2

theorem checkPath_eq_ok_iff {field value : String} :
    checkPath field value = .ok () ↔ value ≠ "" ∧ '\x00' ∉ value.toList := by
  unfold checkPath
  by_cases hempty : value = ""
  · rw [if_pos (String.isEmpty_iff.mpr hempty)]
    exact ⟨nofun, fun h => absurd hempty h.1⟩
  · rw [if_neg (fun h => hempty (String.isEmpty_iff.mp h)), ← List.contains_iff_mem]
    by_cases hnul : value.toList.contains '\x00' = true
    · rw [if_pos hnul]
      exact ⟨nofun, fun h => absurd hnul h.2⟩
    · rw [if_neg hnul]
      exact ⟨fun _ => ⟨hempty, hnul⟩, fun _ => rfl⟩

/-- **A checked file name is that of an entry of a directory.** -/
theorem checkFileName_eq_ok_iff {field value : String} :
    checkFileName field value = .ok () ↔ Path.IsEntry value := by
  have hout : leadsOut value = true ↔ '/' ∈ value.toList ∨ '\\' ∈ value.toList ∨ value = ".." := by
    unfold leadsOut
    rw [Bool.or_eq_true, Bool.or_eq_true, List.contains_iff_mem, List.contains_iff_mem, beq_iff_eq,
      or_assoc]
  unfold checkFileName
  rw [check_bind_ok, checkPath_eq_ok_iff]
  by_cases hleads : leadsOut value = true
  · rw [if_pos hleads]
    refine ⟨fun h => (nomatch h.2), fun h => ?_⟩
    rcases hout.mp hleads with hslash | hback | hup
    · exact absurd hslash h.slash
    · exact absurd hback h.backslash
    · exact absurd hup h.up
  · rw [if_neg hleads]
    rw [hout, not_or, not_or] at hleads
    obtain ⟨hslash, hback, hup⟩ := hleads
    exact ⟨fun h => ⟨h.1.1, hslash, hback, h.1.2, hup⟩, fun h => ⟨⟨h.nonempty, h.nul⟩, rfl⟩⟩

/-! ### the default -/

theorem eq_ok_of_toBool {check : Check} (h : check.toBool = true) : check = .ok () := by
  cases check with
  | ok u => rfl
  | error fault => cases h

theorem checkServer_default : checkServer "renderer.server" Link.defaultServer = .ok () :=
  eq_ok_of_toBool (by decide +kernel)

/-- **The settings of a run that is told nothing pass the check**, and so do others with the same
server and directory if their two files are named well. -/
theorem check_default {dataFile diagramFile : String} {variant : Variant} {download : Bool}
    (hdata : checkFileName "output.data_file" dataFile = .ok ())
    (hdiagram : checkFileName "output.diagram_file" diagramFile = .ok ())
    (hne : dataFile ≠ diagramFile) :
    check ⟨Settings.default.dir, dataFile, diagramFile, Link.defaultServer, variant, download⟩ =
      .ok () := by
  have hdir : checkPath "output.dir" Settings.default.dir = .ok () :=
    eq_ok_of_toBool (by decide +kernel)
  exact check_eq_ok_iff.mpr ⟨checkServer_default, hdir, hdata, hdiagram, hne⟩

end ServiceDiagram.Settings
