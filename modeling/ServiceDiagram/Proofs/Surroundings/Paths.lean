import Mathlib.Data.List.Basic
import ServiceDiagram.Proofs.Text.Cuts
import ServiceDiagram.Surroundings.Path

/-!
# Names of entries

A name without separators is that of an entry of a directory (`Path.IsEntry`).  Seen from a base it is
the base with one more name (`Path.ofText_join`), and the directory around it is on the way to the base
(`Path.outer_isPrefix`).
-/

namespace ServiceDiagram.Path

/-- **The name of an entry of a directory** -/
structure IsEntry (name : String) : Prop where
  nonempty : name ≠ ""
  slash : '/' ∉ name.toList
  backslash : '\\' ∉ name.toList
  nul : '\x00' ∉ name.toList
  up : name ≠ ".."

variable {name : String}

theorem IsEntry.toList_ne_nil (h : IsEntry name) : name.toList ≠ [] :=
  fun hnil => h.nonempty (String.toList_eq_nil_iff.mp hnil)

theorem IsEntry.head?_ne (h : IsEntry name) : name.toList.head? ≠ some '/' :=
  fun hhead => h.slash (List.mem_of_head? hhead)

theorem IsEntry.getLast?_ne (h : IsEntry name) : name.toList.getLast? ≠ some '/' :=
  fun hlast => h.slash (List.mem_of_getLast? hlast)

theorem names_slash (front back : String) :
    (ofText (front ++ "/" ++ back)).names = (ofText front).names ++ (ofText back).names := by
  have hlist : (front ++ "/" ++ back).toList = front.toList ++ '/' :: back.toList := by
    rw [String.toList_append, String.toList_append, List.append_assoc]
    rfl
  unfold ofText
  simp only
  rw [hlist, Text.parts_append, List.filter_append, List.map_append]

theorem IsEntry.names (h : IsEntry name) : (ofText name).names = [name] := by
  have hparts : [name.toList].filter (fun p => !p.isEmpty) = [name.toList] := by
    rw [List.filter_eq_self, List.forall_mem_singleton, List.isEmpty_eq_false_iff.mpr h.toList_ne_nil]
    rfl
  unfold ofText
  simp only
  rw [Text.parts_of_not_mem h.slash, hparts, List.map_singleton, String.ofList_toList]

theorem join_cases (base : String) (h : IsEntry name) :
    (base = "" ∧ join base name = name) ∨
      (base ≠ "" ∧ ∃ front, join base name = front ++ "/" ++ name ∧
        (base = front ∨ base = front ++ "/")) := by
  have hname := h.head?_ne
  by_cases hempty : base = ""
  · refine Or.inl ⟨hempty, ?_⟩
    unfold join
    rw [if_pos (Or.inr (Or.inl (String.isEmpty_iff.mpr hempty))), if_neg hname, hempty,
      String.empty_append]
  · refine Or.inr ⟨hempty, ?_⟩
    by_cases hclosed : base.toList.getLast? = some '/'
    · have hbase : base = String.ofList base.toList.dropLast ++ "/" := by
        apply String.toList_inj.mp
        rw [String.toList_append, String.toList_ofList]
        exact (List.dropLast_append_getLast? _ hclosed).symm
      refine ⟨String.ofList base.toList.dropLast, ?_, Or.inr hbase⟩
      unfold join
      rw [if_pos (Or.inr (Or.inr hclosed)), if_neg hname, ← hbase]
    · refine ⟨base, ?_, Or.inl rfl⟩
      have hopen : ¬ (name.toList.head? = some '/' ∨ base.isEmpty ∨
          base.toList.getLast? = some '/') := by
        rw [String.isEmpty_iff]
        rintro (hhead | hbase | hlast)
        · exact hname hhead
        · exact hempty hbase
        · exact hclosed hlast
      unfold join
      rw [if_neg hopen]

/-- **Seen from a base, an entry is the base with one more name.** -/
theorem ofText_join (base : String) (h : IsEntry name) :
    ofText (join base name) =
      ⟨(ofText base).absolute, (ofText base).names ++ [name], false⟩ := by
  have hclosed : ∀ front : String, ((front ++ name).toList.getLast? == some '/') = false := by
    intro front
    rw [String.toList_append, List.getLast?_append_of_ne_nil _ h.toList_ne_nil,
      beq_eq_false_iff_ne]
    exact h.getLast?_ne
  rcases join_cases base h with ⟨rfl, hjoin⟩ | ⟨hbase, front, hjoin, hfront⟩
  · have habsolute : (name.toList.head? == some '/') = false := beq_eq_false_iff_ne.mpr h.head?_ne
    have hlast : (name.toList.getLast? == some '/') = false := beq_eq_false_iff_ne.mpr h.getLast?_ne
    rw [hjoin]
    show Path.mk (name.toList.head? == some '/') (ofText name).names
      (name.toList.getLast? == some '/') = _
    rw [habsolute, h.names, hlast]
    rfl
  · have hnames : (ofText base).names = (ofText front).names := by
      rcases hfront with rfl | rfl
      · rfl
      · have hslash := names_slash front ""
        rw [String.append_empty] at hslash
        exact hslash.trans (List.append_nil _)
    have hhead : (front ++ "/" ++ name).toList.head? = base.toList.head? := by
      rcases hfront with rfl | rfl
      · rw [String.append_assoc, String.toList_append, List.head?_append_of_ne_nil]
        exact fun hnil => hbase (String.toList_eq_nil_iff.mp hnil)
      · rw [String.toList_append, List.head?_append_of_ne_nil]
        exact fun hnil => hbase (String.toList_eq_nil_iff.mp hnil)
    rw [hjoin, hnames, ← h.names, ← names_slash]
    show Path.mk ((front ++ "/" ++ name).toList.head? == some '/') _
      ((front ++ "/" ++ name).toList.getLast? == some '/') = _
    rw [hhead, hclosed]
    rfl

theorem outer_isPrefix (absolute closed closed' : Bool) (names : List String) (name : String) :
    outer ⟨absolute, names ++ [name], closed⟩ <+: steps ⟨absolute, names, closed'⟩ := by
  have hlast : ∀ rest : List String,
      (rest ++ [name]).filter (· != ".") <+: rest.filter (· != ".") ++ [name] := by
    intro rest
    rw [List.filter_append, List.prefix_append_right_inj, List.filter_singleton]
    cases name != "." with
    | false => exact List.nil_prefix
    | true => exact List.prefix_refl _
  have hsteps :
      steps ⟨absolute, names ++ [name], closed⟩ <+: steps ⟨absolute, names, closed'⟩ ++ [name] := by
    cases absolute with
    | true => exact hlast names
    | false =>
      cases names with
      | nil =>
        by_cases hname : name = "."
        · rw [hname]
          exact List.prefix_refl _
        · unfold steps
          split
          · next h => exact absurd (List.cons.inj h).1 hname
          · exact hlast []
      | cons first rest =>
        by_cases hfirst : first = "."
        · rw [hfirst]
          exact (List.prefix_cons_inj ".").mpr (hlast rest)
        · have hplain : ∀ more closed, steps ⟨false, first :: more, closed⟩ =
              (first :: more).filter (· != ".") := by
            intro more closed
            unfold steps
            split
            · next h => exact absurd (List.cons.inj h).1 hfirst
            · rfl
          rw [List.cons_append, hplain, hplain]
          exact hlast (first :: rest)
  unfold outer
  rcases List.prefix_concat_iff.mp hsteps with heq | hprefix
  · have hdrop := (congrArg List.dropLast heq).trans List.dropLast_concat
    exact hdrop ▸ List.prefix_refl _
  · exact (List.dropLast_prefix _).trans hprefix

end ServiceDiagram.Path
