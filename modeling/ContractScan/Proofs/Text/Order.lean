/-! # The order of texts

Texts are ordered by the codes of their characters. A list of texts that is
sorted by this order depends on nothing but which texts it holds, as long as it
holds none of them twice.
-/

namespace ContractScan.Text

/-- Where two texts part, the first has the smaller code or has ended. -/
def CodeBefore (a b : String) : Prop :=
  List.Lex (fun c d : Char => c.toNat < d.toNat) a.toList b.toList

instance (a b : String) : Decidable (CodeBefore a b) :=
  inferInstanceAs (Decidable (List.Lex _ _ _))

theorem codeBefore_iff_lt {a b : String} : CodeBefore a b ↔ a < b :=
  Iff.rfl

theorem CodeBefore.irrefl (a : String) : ¬ CodeBefore a a :=
  String.lt_irrefl a

theorem CodeBefore.trans {a b c : String} (h : CodeBefore a b) (h' : CodeBefore b c) :
    CodeBefore a c :=
  String.lt_trans h h'

theorem CodeBefore.total {a b : String} (h : a ≠ b) : CodeBefore a b ∨ CodeBefore b a := by
  by_cases hab : a < b
  · exact .inl hab
  by_cases hba : b < a
  · exact .inr hba
  · exact absurd (String.le_antisymm (String.not_lt.mp hba) (String.not_lt.mp hab)) h

theorem nodup_eraseDups (texts : List String) : texts.eraseDups.Nodup := by
  cases texts with
  | nil => exact .nil
  | cons a rest =>
    rw [List.eraseDups_cons, List.nodup_cons, List.mem_eraseDups]
    exact ⟨by simp, nodup_eraseDups _⟩
termination_by texts.length
decreasing_by exact Nat.lt_succ_of_le (List.length_filter_le _ _)

section Sorting

variable {texts texts' : List String} {le : String → String → Bool}

theorem pairwise_codeBefore_mergeSort (hle : ∀ a b, le a b = true ↔ ¬ CodeBefore b a)
    (h : texts.Nodup) : (texts.mergeSort le).Pairwise CodeBefore := by
  have htrans (a b c : String) (hab : le a b = true) (hbc : le b c = true) : le a c = true := by
    rw [hle] at hab hbc ⊢
    intro hca
    by_cases hne : a = b
    · exact hbc (hne ▸ hca)
    · exact hbc (hca.trans ((CodeBefore.total hne).resolve_right hab))
  have htotal (a b : String) : (le a b || le b a) = true := by
    rw [Bool.or_eq_true, hle, hle]
    by_cases hba : CodeBefore b a
    · exact .inr fun hab => CodeBefore.irrefl a (hab.trans hba)
    · exact .inl hba
  have hnodup : (texts.mergeSort le).Nodup := (List.mergeSort_perm texts le).nodup_iff.mpr h
  refine (List.pairwise_mergeSort htrans htotal texts).imp₂ (fun a b hab hne => ?_) hnodup
  exact (CodeBefore.total hne).resolve_right ((hle a b).mp hab)

theorem eq_of_pairwise_codeBefore (h : texts.Pairwise CodeBefore) (h' : texts'.Pairwise CodeBefore)
    (hmem : ∀ a, a ∈ texts ↔ a ∈ texts') : texts = texts' := by
  have hnodup {l : List String} (hl : l.Pairwise CodeBefore) : l.Nodup := by
    refine hl.imp ?_
    rintro a b hab rfl
    exact CodeBefore.irrefl a hab
  refine List.Perm.eq_of_pairwise (fun a b _ _ hab hba => ?_) h h'
    ((List.perm_ext_iff_of_nodup (hnodup h) (hnodup h')).mpr hmem)
  exact absurd (hab.trans hba) (CodeBefore.irrefl a)

end Sorting

end ContractScan.Text
