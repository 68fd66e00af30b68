import ContractScan.Text.Blank
import Mathlib.Data.List.Basic

/-! # Trimmed texts

A trimmed text has no blank at either end. Trimming gives the one trimmed text
that a text is with blanks around it, so blanks that are added around a text make
no difference.
-/

namespace ContractScan.Text

theorem isDigit_of_isBlank {c : Char} (h : isBlank c = true) : c.isDigit = false := by
  rw [Bool.eq_false_iff, ne_eq, Char.isDigit_iff_toNat]
  change ¬ (48 ≤ c.toNat ∧ c.toNat ≤ 57)
  simp only [isBlank, Bool.or_eq_true, Bool.and_eq_true, decide_eq_true_eq, beq_iff_eq] at h
  omega

def Blank (text : List Char) : Prop :=
  text.all isBlank = true

instance (text : List Char) : Decidable (Blank text) :=
  inferInstanceAs (Decidable (_ = true))

theorem blank_iff {text : List Char} : Blank text ↔ ∀ c ∈ text, isBlank c = true :=
  List.all_eq_true

theorem Blank.append {u v : List Char} (hu : Blank u) (hv : Blank v) : Blank (u ++ v) := by
  rw [Blank, List.all_append, hu, hv, Bool.and_true]

theorem Blank.reverse {u : List Char} (hu : Blank u) : Blank u.reverse := by
  rw [Blank, List.all_reverse, hu]

/-- No blank at either end. -/
structure IsTrimmed (text : List Char) : Prop where
  first : text.head?.any isBlank = false
  last : text.getLast?.any isBlank = false

instance (text : List Char) : Decidable (IsTrimmed text) :=
  decidable_of_iff (text.head?.any isBlank = false ∧ text.getLast?.any isBlank = false)
    ⟨fun h => ⟨h.1, h.2⟩, fun h => ⟨h.first, h.last⟩⟩

theorem isTrimmed_of_forall {text : List Char} (h : ∀ c ∈ text, isBlank c = false) :
    IsTrimmed text := by
  constructor
  · cases hfirst : text.head? with
    | none => rfl
    | some c => exact h c (List.mem_of_head? hfirst)
  · cases hlast : text.getLast? with
    | none => rfl
    | some c => exact h c (List.mem_of_getLast? hlast)

theorem IsTrimmed.append {a b : List Char} (ha : IsTrimmed a) (hne : a ≠ [])
    (hb : b.getLast?.any isBlank = false) : IsTrimmed (a ++ b) := by
  constructor
  · rw [List.head?_append_of_ne_nil _ hne]
    exact ha.first
  · rw [List.getLast?_append]
    cases hlast : b.getLast? with
    | none => exact ha.last
    | some c => rwa [hlast] at hb

section Sides

variable {text b : List Char}

theorem trimLeft_eq_iff :
    trimLeft text = b ↔ b.head?.any isBlank = false ∧ ∃ u, Blank u ∧ text = u ++ b := by
  constructor
  · rintro rfl
    refine ⟨?_, text.takeWhile isBlank, List.all_takeWhile,
      (List.takeWhile_append_dropWhile ..).symm⟩
    have hhead := List.head?_dropWhile_not isBlank text
    rw [trimLeft]
    cases hfirst : (text.dropWhile isBlank).head? with
    | none => rfl
    | some c => simpa [hfirst] using hhead
  · rintro ⟨hb, u, hu, rfl⟩
    rw [trimLeft, List.dropWhile_append_of_pos (blank_iff.mp hu)]
    cases b with
    | nil => rfl
    | cons c rest => exact List.dropWhile_cons_of_neg (by simpa using hb)

theorem trimRight_eq_iff :
    trimRight text = b ↔ b.getLast?.any isBlank = false ∧ ∃ v, Blank v ∧ text = b ++ v := by
  have hreverse : trimRight text = b ↔ trimLeft text.reverse = b.reverse := by
    rw [← List.reverse_eq_iff]
    rfl
  rw [hreverse, trimLeft_eq_iff, List.head?_reverse]
  refine and_congr_right fun _ => ⟨?_, ?_⟩
  · rintro ⟨u, hu, htext⟩
    refine ⟨u.reverse, hu.reverse, ?_⟩
    rw [← List.reverse_reverse text, htext, List.reverse_append, List.reverse_reverse]
  · rintro ⟨v, hv, rfl⟩
    exact ⟨v.reverse, hv.reverse, List.reverse_append⟩

end Sides

section Trim

variable {text b u v : List Char}

/-- Trimming finds the trimmed text between blanks. -/
theorem trim_eq_iff :
    trim text = b ↔ IsTrimmed b ∧ ∃ u v, Blank u ∧ Blank v ∧ text = u ++ b ++ v := by
  rw [trim, trimRight_eq_iff]
  constructor
  · rintro ⟨hlast, v, hv, hleft⟩
    obtain ⟨hfirst, u, hu, rfl⟩ := trimLeft_eq_iff.mp hleft
    refine ⟨⟨?_, hlast⟩, u, v, hu, hv, (List.append_assoc ..).symm⟩
    cases b with
    | nil => rfl
    | cons c rest => exact hfirst
  · rintro ⟨hb, u, v, hu, hv, rfl⟩
    refine ⟨hb.last, ?_⟩
    cases b with
    | nil =>
      refine ⟨[], rfl, trimLeft_eq_iff.mpr ⟨rfl, u ++ v, hu.append hv, by simp⟩⟩
    | cons c rest =>
      exact ⟨v, hv, trimLeft_eq_iff.mpr ⟨hb.first, u, hu, List.append_assoc ..⟩⟩

theorem isTrimmed_trim (text : List Char) : IsTrimmed (trim text) :=
  (trim_eq_iff.mp rfl).1

theorem IsTrimmed.trim_eq (h : IsTrimmed b) (hu : Blank u) (hv : Blank v) :
    trim (u ++ b ++ v) = b :=
  trim_eq_iff.mpr ⟨h, u, v, hu, hv, rfl⟩

theorem IsTrimmed.trim_eq_self (h : IsTrimmed b) : trim b = b :=
  trim_eq_iff.mpr ⟨h, [], [], rfl, rfl, by simp⟩

theorem trim_padded (hu : Blank u) (hv : Blank v) (text : List Char) :
    trim (u ++ text ++ v) = trim text := by
  obtain ⟨htrimmed, u', v', hu', hv', htext⟩ := trim_eq_iff.mp (Eq.refl (trim text))
  refine trim_eq_iff.mpr ⟨htrimmed, u ++ u', v' ++ v, hu.append hu', hv'.append hv, ?_⟩
  conv_lhs => rw [htext]
  simp only [List.append_assoc]

theorem trim_eq_nil_iff : trim text = [] ↔ Blank text := by
  rw [trim_eq_iff]
  constructor
  · rintro ⟨-, u, v, hu, hv, rfl⟩
    rw [List.append_nil]
    exact hu.append hv
  · exact fun h => ⟨⟨rfl, rfl⟩, text, [], h, rfl, by simp⟩

end Trim

end ContractScan.Text
