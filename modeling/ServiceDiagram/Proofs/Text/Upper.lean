import ServiceDiagram.Text.Upper

/-!
# Upper case and line feeds

Only the line feed itself has a line feed as its upper case, so a text of one line stays one.
-/

namespace ServiceDiagram.Text

theorem ofNat_ne_lineFeed {n : Nat} (h : 10 < n) : Char.ofNat n ≠ '\n' := by
  intro he
  unfold Char.ofNat at he
  by_cases hv : n.isValidChar
  · rw [dif_pos hv] at he
    have hn : n = 10 := congrArg Char.toNat he
    omega
  · rw [dif_neg hv] at he
    exact absurd he (by decide)

/-- small letters stand behind the line feed, and so do their capitals -/
theorem toUpper_ne_lineFeed {c : Char} (h : c ≠ '\n') : c.toUpper ≠ '\n' := by
  unfold Char.toUpper
  split
  · next hc =>
    intro he
    have hsum : (c.val + ('A'.val - 'a'.val)).toNat = 10 := congrArg (·.val.toNat) he
    have hshift : ('A'.val - 'a'.val).toNat = 2 ^ 32 - 32 := by decide
    have hfirst : 97 ≤ c.val.toNat := hc.1
    have hlast : c.val.toNat ≤ 122 := hc.2
    rw [UInt32.toNat_add, hshift] at hsum
    omega
  · exact h

/-! ### the tables -/

theorem lt_image : ∀ r ∈ upperRuns, 10 < r.image := by decide +kernel

theorem lt_expansion : ∀ p ∈ upperExpansions, ∀ n ∈ p.2, 10 < n := by decide +kernel

theorem lt_of_imageOf? {r : CaseRun} {n m : Nat} (h : r.imageOf? n = some m) : r.image ≤ m := by
  unfold CaseRun.imageOf? at h
  split at h
  · cases h
    exact Nat.le_add_right ..
  · cases h

theorem lineFeed_not_mem_upperChar {c : Char} (h : c ≠ '\n') : '\n' ∉ upperChar c := by
  unfold upperChar
  simp only
  split
  · rw [List.mem_singleton]
    exact (toUpper_ne_lineFeed h).symm
  · split
    · next ns hns =>
      intro hm
      obtain ⟨n, hn, he⟩ := List.mem_map.mp hm
      obtain ⟨l₁, l₂, hl, -⟩ := List.lookup_eq_some_iff.mp hns
      exact ofNat_ne_lineFeed (lt_expansion (c.toNat, ns) (by rw [hl]; simp) n hn) he
    · split
      · next m hm =>
        obtain ⟨r, hr, hrm⟩ := List.exists_of_findSome?_eq_some hm
        have hlt : 10 < m := Nat.lt_of_lt_of_le (lt_image r hr) (lt_of_imageOf? hrm)
        rw [List.mem_singleton]
        exact (ofNat_ne_lineFeed hlt).symm
      · rw [List.mem_singleton]
        exact h.symm

/-- **Upper case makes no line feeds.** -/
theorem lineFeed_not_mem_upper {s : String} (h : '\n' ∉ s.toList) : '\n' ∉ (upper s).toList := by
  rw [upper, String.toList_ofList, List.mem_flatMap]
  rintro ⟨c, hc, hu⟩
  exact lineFeed_not_mem_upperChar (fun e => h (e ▸ hc)) hu

end ServiceDiagram.Text
