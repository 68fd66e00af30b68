import ContractScan.Mythril.Swc
import ContractScan.Proofs.Json.RoundTrip
import ContractScan.Proofs.Text.LetterCase
import ContractScan.Proofs.Text.Trim
import Mathlib.Data.List.Sections

/-! # Canonical ids

Whatever an id is read from, its canonical form is empty or starts with the mark,
and is its own canonical form. Ids that differ in blanks around them, in the
letter case of their mark or in having one have the same canonical form.
-/

namespace ContractScan.Mythril

section Mark

variable {text mark : List Char}

/-- The letters of the mark in both cases. The long s is a small letter of S too. -/
def markLetters : List (List Char) :=
  [['S', 's', 'ſ'], ['W', 'w'], ['C', 'c'], ['-']]

def markSpellings : List (List Char) :=
  markLetters.sections

def Marked (text : List Char) : Prop :=
  markSpellings.any (·.isPrefixOf text) = true

instance (text : List Char) : Decidable (Marked text) :=
  inferInstanceAs (Decidable (_ = true))

theorem marked_iff_exists : Marked text ↔ ∃ mark ∈ markSpellings, mark <+: text := by
  simp only [Marked, List.any_eq_true, List.isPrefixOf_iff_prefix]

theorem mem_of_upperChar {c x : Char} {letters : List Char}
    (hx : (x, letters) ∈ idMark.zip markLetters) (h : Text.upperChar c = [x]) : c ∈ letters := by
  change _ ∈ [('S', ['S', 's', 'ſ']), ('W', ['W', 'w']), ('C', ['C', 'c']), ('-', ['-'])] at hx
  simp only [List.mem_cons, Prod.mk.injEq, List.not_mem_nil, or_false] at hx
  rcases hx with ⟨rfl, rfl⟩ | ⟨rfl, rfl⟩ | ⟨rfl, rfl⟩ | ⟨rfl, rfl⟩
  all_goals
    have hcode := Text.toNat_of_upperChar h (by decide) (by decide)
    simp only [List.mem_cons, List.not_mem_nil, or_false, ← Char.toNat_inj,
      Char.reduceToNat] at hcode ⊢
    omega

theorem mem_markSpellings {letters : List Char}
    (h : List.Forall₂ (fun c x => Text.upperChar c = [x]) letters idMark) :
    letters ∈ markSpellings := by
  change List.Forall₂ _ letters ['S', 'W', 'C', '-'] at h
  simp only [List.forall₂_cons_right_iff, List.forall₂_nil_right_iff] at h
  obtain ⟨s, _, hs, ⟨w, _, hw, ⟨c, _, hc, ⟨dash, _, hdash, rfl, rfl⟩, rfl⟩, rfl⟩, rfl⟩ := h
  exact List.mem_sections.mpr
    (.cons (mem_of_upperChar (by decide) hs) (.cons (mem_of_upperChar (by decide) hw)
      (.cons (mem_of_upperChar (by decide) hc) (.cons (mem_of_upperChar (by decide) hdash) .nil))))

theorem length_of_mem_markSpellings (h : mark ∈ markSpellings) : mark.length = idMark.length :=
  List.mem_sections_length h

theorem ne_nil_of_mem_markSpellings (h : mark ∈ markSpellings) : mark ≠ [] := by
  rintro rfl
  exact absurd (length_of_mem_markSpellings h) (by decide)

theorem upperText_eq_idMark (h : mark ∈ markSpellings) : Text.upperText mark = idMark := by
  have hall : markSpellings.all (fun mark => Text.upperText mark == idMark) = true := by
    decide +kernel
  simpa using List.all_eq_true.mp hall mark h

theorem marked_iff : Marked text ↔ idMark <+: Text.upperText text := by
  rw [marked_iff_exists]
  constructor
  · rintro ⟨mark, hmark, rest, rfl⟩
    rw [Text.upperText_append, upperText_eq_idMark hmark]
    exact List.prefix_append ..
  · intro h
    -- no longer form holds two characters of the mark in a row, so its letters come one by one
    obtain ⟨letters, rest, rfl, hletters⟩ := Text.exists_letters_of_upperText (by decide +kernel) h
    exact ⟨letters, mem_markSpellings hletters, List.prefix_append ..⟩

end Mark

section Canonical

variable {b body mark text : List Char}

theorem isTrimmed_mark_append (hmark : mark ∈ markSpellings)
    (hbody : body.getLast?.any Text.isBlank = false) : Text.IsTrimmed (mark ++ body) := by
  have hall : markSpellings.all (fun mark => decide (Text.IsTrimmed mark)) = true := by
    decide +kernel
  exact .append (by simpa using List.all_eq_true.mp hall mark hmark)
    (ne_nil_of_mem_markSpellings hmark) hbody

theorem canonicalId_of_blank (h : Text.Blank text) : canonicalId text = "" := by
  rw [canonicalId, Text.trim_eq_nil_iff.mpr h]
  rfl

theorem canonicalId_of_marked (h : Text.trim text = mark ++ body) (hmark : mark ∈ markSpellings) :
    canonicalId text = "SWC-" ++ String.ofList body := by
  have hmarked : Marked (mark ++ body) :=
    marked_iff_exists.mpr ⟨mark, hmark, List.prefix_append ..⟩
  rw [marked_iff, ← List.isPrefixOf_iff_prefix] at hmarked
  rw [canonicalId, h, if_neg (by simp [ne_nil_of_mem_markSpellings hmark]), if_pos hmarked,
    List.drop_left' (length_of_mem_markSpellings hmark)]
  exact String.ofList_append

theorem canonicalId_of_unmarked (h : Text.trim text = b) (hne : b ≠ []) (hmark : ¬ Marked b) :
    canonicalId text = "SWC-" ++ String.ofList b := by
  rw [marked_iff, ← List.isPrefixOf_iff_prefix] at hmark
  rw [canonicalId, h, if_neg (by simpa using hne), if_neg hmark]
  exact String.ofList_append

/-- A canonical form is empty, or the mark with something behind it that has no blank at its
end. -/
theorem canonicalId_cases (text : List Char) :
    canonicalId text = "" ∨ ∃ body, body.getLast?.any Text.isBlank = false ∧
      canonicalId text = "SWC-" ++ String.ofList body := by
  have hlast := (Text.isTrimmed_trim text).last
  unfold canonicalId
  dsimp only
  split
  · exact .inl rfl
  · split
    · refine .inr ⟨_, ?_, String.ofList_append⟩
      rw [List.getLast?_drop]
      split
      · rfl
      · exact hlast
    · exact .inr ⟨_, hlast, String.ofList_append⟩

theorem canonicalId_canonicalId (text : List Char) :
    canonicalId (canonicalId text).toList = canonicalId text := by
  rcases canonicalId_cases text with hempty | ⟨body, hbody, hmarked⟩
  · rw [hempty]
    exact canonicalId_of_blank rfl
  · have hmark : idMark ∈ markSpellings := by decide
    have htext : ("SWC-" ++ String.ofList body).toList = idMark ++ body := by simp [idMark]
    rw [hmarked, htext]
    exact canonicalId_of_marked (isTrimmed_mark_append hmark hbody).trim_eq_self hmark

end Canonical

section Identifier

theorem exists_swcId_eq (raw : Value) : ∃ text, swcId raw = canonicalId text := by
  cases raw with
  | null => exact ⟨[], rfl⟩
  | _ => exact ⟨_, rfl⟩

theorem swcId_cases (raw : Value) : swcId raw = "" ∨ ∃ body, swcId raw = "SWC-" ++ body := by
  obtain ⟨text, hraw⟩ := exists_swcId_eq raw
  rw [hraw]
  exact (canonicalId_cases text).imp_right fun ⟨body, _, hbody⟩ => ⟨_, hbody⟩

theorem swcId_swcId (raw : Value) : swcId (.str (swcId raw)) = swcId raw := by
  obtain ⟨text, hraw⟩ := exists_swcId_eq raw
  rw [hraw]
  exact canonicalId_canonicalId text

variable {b u v : String}

theorem swcId_unmarked (hb : Text.trimmed b ≠ "") (hmark : ¬ Marked (Text.trimmed b).toList)
    (hu : Text.Blank u.toList) (hv : Text.Blank v.toList) :
    swcId (.str (u ++ b ++ v)) = "SWC-" ++ Text.trimmed b := by
  have htrim : Text.trim (u ++ b ++ v).toList = Text.trim b.toList := by
    rw [String.toList_append, String.toList_append, Text.trim_padded hu hv]
  rw [Text.trimmed, String.toList_ofList] at hmark
  exact canonicalId_of_unmarked htrim (by simpa [Text.trimmed] using hb) hmark

theorem swcId_marked {mark : String} (hmark : mark.toList ∈ markSpellings)
    (hu : Text.Blank u.toList) (hv : Text.Blank v.toList) :
    swcId (.str (u ++ mark ++ Text.trimmed b ++ v)) = "SWC-" ++ Text.trimmed b := by
  have htrimmed := isTrimmed_mark_append hmark (Text.isTrimmed_trim b.toList).last
  have htext : (u ++ mark ++ Text.trimmed b ++ v).toList =
      u.toList ++ (mark.toList ++ Text.trim b.toList) ++ v.toList := by
    simp [Text.trimmed]
  have htrim : Text.trim (u ++ mark ++ Text.trimmed b ++ v).toList =
      mark.toList ++ Text.trim b.toList := by
    rw [htext, htrimmed.trim_eq hu hv]
  exact canonicalId_of_marked htrim hmark

end Identifier

section Decimal

theorem isTrimmed_toString (n : Int) : Text.IsTrimmed (toString n).toList := by
  refine Text.isTrimmed_of_forall fun c hc => ?_
  rw [Bool.eq_false_iff]
  intro hblank
  rcases Json.isDigit_or_sign_of_mem_renderInt hc with hdigit | rfl
  · rw [Text.isDigit_of_isBlank hblank] at hdigit
    cases hdigit
  · exact absurd hblank (by decide)

theorem not_marked_toString (n : Int) : ¬ Marked (toString n).toList := by
  have hall : markSpellings.all (·.any fun c => !c.isDigit && c != '-') = true := by decide +kernel
  rw [marked_iff_exists]
  rintro ⟨mark, hmark, hstarts⟩
  obtain ⟨c, hc, hother⟩ := List.any_eq_true.mp (List.all_eq_true.mp hall mark hmark)
  rcases Json.isDigit_or_sign_of_mem_renderInt (hstarts.subset hc) with hdigit | rfl
  · simp [hdigit] at hother
  · exact absurd hother (by decide)

end Decimal

/-- The form of ids is canonical: it is empty or has the mark, and is its own form; blanks around
an id, its mark and the case of the mark make no difference; a number counts by its digits. -/
theorem swcId_canonical :
    (∀ raw : Value, (swcId raw = "" ∨ ∃ body, swcId raw = "SWC-" ++ body) ∧
      swcId (.str (swcId raw)) = swcId raw) ∧
    (∀ b u v : String, Text.trimmed b ≠ "" → ¬ Marked (Text.trimmed b).toList →
      Text.Blank u.toList → Text.Blank v.toList →
        swcId (.str (u ++ b ++ v)) = "SWC-" ++ Text.trimmed b ∧
        swcId (.str (u ++ "SWC-" ++ Text.trimmed b ++ v)) = "SWC-" ++ Text.trimmed b ∧
        swcId (.str (u ++ "swc-" ++ Text.trimmed b ++ v)) = "SWC-" ++ Text.trimmed b) ∧
    ∀ n : Int, swcId (.int n) = swcId (.str (toString n)) ∧
      swcId (.int n) = "SWC-" ++ toString n := by
  refine ⟨fun raw => ⟨swcId_cases raw, swcId_swcId raw⟩, fun b u v hb hmark hu hv => ?_,
    fun n => ⟨rfl, ?_⟩⟩
  · exact ⟨swcId_unmarked hb hmark hu hv, swcId_marked (by decide) hu hv,
      swcId_marked (by decide) hu hv⟩
  · have hdecimal := canonicalId_of_unmarked (isTrimmed_toString n).trim_eq_self
      (Json.renderInt_ne_nil n) (not_marked_toString n)
    rwa [String.ofList_toList] at hdecimal

/-- The upper case of the sharp s is two letters, the first of them that of the mark. -/
theorem swcId_canonical_sharp :
    Text.trimmed " ßwc-107\t" = "ßwc-107" ∧ "ßwc-107" ≠ "" ∧ ¬ Marked "ßwc-107".toList ∧
      Text.Blank "\u2003".toList ∧ Text.Blank "\n".toList ∧
      swcId (.str ("\u2003" ++ " ßwc-107\t" ++ "\n")) = "SWC-ßwc-107" ∧
      swcId (.str ("\u2003" ++ "SWC-" ++ "ßwc-107" ++ "\n")) = "SWC-ßwc-107" ∧
      swcId (.str ("\u2003" ++ "swc-" ++ "ßwc-107" ++ "\n")) = "SWC-ßwc-107" := by
  have htrimmed : Text.trimmed " ßwc-107\t" = "ßwc-107" := by decide +kernel
  have hne : "ßwc-107" ≠ "" := by decide
  have hmark : ¬ Marked "ßwc-107".toList := by decide +kernel
  have hspellings := swcId_canonical.2.1 " ßwc-107\t" "\u2003" "\n"
  rw [htrimmed] at hspellings
  exact ⟨htrimmed, hne, hmark, by decide, by decide, hspellings hne hmark (by decide) (by decide)⟩

end ContractScan.Mythril
