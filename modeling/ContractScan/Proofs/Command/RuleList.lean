import ContractScan.Command.Scan
import ContractScan.Proofs.Text.Pieces
import ContractScan.Proofs.Text.Trim

/-! # Rules asked for

A scan is told the ids of its rules in one text, with commas between them. Reading
that text undoes writing it: blanks around ids and blank segments leave no trace,
and every text lists the ids that it is read as.
-/

namespace ContractScan

namespace RuleSet

/-- An id that can stand in a list. -/
structure IsListable (id : String) : Prop where
  ne_empty : id ≠ ""
  comma : ',' ∉ id.toList
  trimmed : Text.IsTrimmed id.toList

/-- The segments hold the ids in order, each with blanks around it, and otherwise blanks only. -/
inductive Carries : List String → List String → Prop where
  | nil : Carries [] []
  | blank {segment : String} {segments ids : List String} (h : Text.Blank segment.toList)
      (hrest : Carries segments ids) : Carries (segment :: segments) ids
  | held {before id after : String} {segments ids : List String}
      (hbefore : Text.Blank before.toList) (hafter : Text.Blank after.toList)
      (hrest : Carries segments ids) : Carries ((before ++ id ++ after) :: segments) (id :: ids)

section Writing

variable {segments ids : List String}

theorem comma_not_mem_of_blank {text : List Char} (h : Text.Blank text) : ',' ∉ text :=
  fun hcomma => absurd (Text.blank_iff.mp h _ hcomma) (by decide)

theorem Carries.refl (ids : List String) : Carries ids ids := by
  induction ids with
  | nil => exact .nil
  | cons id ids ih =>
    have hheld : Carries (("" ++ id ++ "") :: ids) (id :: ids) := .held rfl rfl ih
    rwa [String.empty_append, String.append_empty] at hheld

theorem Carries.comma_not_mem (h : Carries segments ids) (hids : ∀ id ∈ ids, IsListable id) :
    ∀ segment ∈ segments, ',' ∉ segment.toList := by
  induction h with
  | nil => simp
  | blank hblank _ ih => exact List.forall_mem_cons.mpr ⟨comma_not_mem_of_blank hblank, ih hids⟩
  | held hbefore hafter _ ih =>
    obtain ⟨hid, hids⟩ := List.forall_mem_cons.mp hids
    refine List.forall_mem_cons.mpr ⟨?_, ih hids⟩
    simp only [String.toList_append, List.mem_append, not_or]
    exact ⟨⟨comma_not_mem_of_blank hbefore, hid.comma⟩, comma_not_mem_of_blank hafter⟩

theorem Carries.filter_trim (h : Carries segments ids) (hids : ∀ id ∈ ids, IsListable id) :
    ((segments.map String.toList).map Text.trim).filter (!·.isEmpty) = ids.map String.toList := by
  induction h with
  | nil => rfl
  | blank hblank _ ih =>
    rw [List.map_cons, List.map_cons, Text.trim_eq_nil_iff.mpr hblank]
    exact ih hids
  | held hbefore hafter _ ih =>
    obtain ⟨hid, hids⟩ := List.forall_mem_cons.mp hids
    rw [List.map_cons, List.map_cons, List.map_cons, String.toList_append, String.toList_append,
      hid.trimmed.trim_eq hbefore hafter, List.filter_cons_of_pos, ih hids]
    simpa using hid.ne_empty

theorem listedIds_intercalate (h : Carries segments ids) (hids : ∀ id ∈ ids, IsListable id) :
    listedIds (",".intercalate segments).toList = ids.map String.toList := by
  by_cases hempty : segments = []
  · subst hempty
    cases h
    rfl
  · rw [← h.filter_trim hids, ← Text.pieces_intercalate hempty (h.comma_not_mem hids)]
    rfl

end Writing

section Reading

theorem carries_pieces (pieces : List (List Char)) :
    Carries (pieces.map String.ofList)
      (((pieces.map Text.trim).filter (!·.isEmpty)).map String.ofList) := by
  induction pieces with
  | nil => exact .nil
  | cons piece pieces ih =>
    rw [List.map_cons, List.map_cons]
    by_cases hblank : Text.trim piece = []
    · rw [hblank]
      refine .blank ?_ ih
      rw [String.toList_ofList]
      exact Text.trim_eq_nil_iff.mp hblank
    · obtain ⟨-, u, v, hu, hv, hpiece⟩ := Text.trim_eq_iff.mp (Eq.refl (Text.trim piece))
      have hsegment : String.ofList piece =
          String.ofList u ++ String.ofList (Text.trim piece) ++ String.ofList v := by
        rw [← String.ofList_append, ← String.ofList_append, ← hpiece]
      rw [List.filter_cons_of_pos (by simpa using hblank), List.map_cons, hsegment]
      exact .held (by rwa [String.toList_ofList]) (by rwa [String.toList_ofList]) ih

theorem isListable_of_mem_listedIds {text id : List Char} (h : id ∈ listedIds text) :
    IsListable (String.ofList id) := by
  obtain ⟨htrim, hne⟩ := List.mem_filter.mp h
  obtain ⟨piece, hpiece, rfl⟩ := List.mem_map.mp htrim
  obtain ⟨-, u, v, -, -, hsplit⟩ := Text.trim_eq_iff.mp (Eq.refl (Text.trim piece))
  refine ⟨by simpa using hne, ?_, ?_⟩
  · rw [String.toList_ofList]
    intro hcomma
    refine Text.not_mem_of_mem_pieces hpiece ?_
    rw [hsplit]
    exact List.mem_append_left _ (List.mem_append_right _ hcomma)
  · rw [String.toList_ofList]
    exact Text.isTrimmed_trim piece

/-- A text is read as the ids that its segments hold, and as no others. -/
theorem listedIds_eq_iff {text : String} {ids : List String} :
    (listedIds text.toList).map String.ofList = ids ↔
      (∀ id ∈ ids, IsListable id) ∧
        ∃ segments, Carries segments ids ∧ text = ",".intercalate segments := by
  constructor
  · rintro rfl
    refine ⟨?_, (Text.pieces ',' text.toList).map String.ofList, carries_pieces _,
      (Text.intercalate_map_pieces ',' text).symm⟩
    intro id hid
    obtain ⟨chars, hchars, rfl⟩ := List.mem_map.mp hid
    exact isListable_of_mem_listedIds hchars
  · rintro ⟨hids, segments, hcarries, rfl⟩
    rw [listedIds_intercalate hcarries hids, List.map_map]
    exact List.map_id'' (fun id => String.ofList_toList) ids

end Reading

end RuleSet

namespace ScanPlan

open RuleSet

theorem rules_eq_iff {options : ScanOptions} {ids : List String} :
    rules options = ids ↔
      (∀ id ∈ ids, IsListable id) ∧
        ∃ segments, Carries segments ids ∧ options.rules.getD "" = ",".intercalate segments :=
  listedIds_eq_iff

/-- Reading the ids of rules undoes joining them. Every id that is read can be listed, so joining
and reading once more changes nothing. -/
theorem rules_of_joined (options : ScanOptions) :
    (∀ segments ids : List String, (∀ id ∈ ids, IsListable id) → Carries segments ids →
      rules { options with rules := some (",".intercalate segments) } = ids) ∧
    (∀ id ∈ rules options, IsListable id) ∧
    rules { options with rules := some (",".intercalate (rules options)) } = rules options := by
  have hlistable : ∀ id ∈ rules options, IsListable id := (rules_eq_iff.mp rfl).1
  refine ⟨fun segments ids hids hcarries => ?_, hlistable, ?_⟩
  · exact rules_eq_iff.mpr ⟨hids, segments, hcarries, rfl⟩
  · exact rules_eq_iff.mpr ⟨hlistable, rules options, .refl _, rfl⟩

theorem rules_of_joined_padded :
    (∀ id ∈ ["ARC001", "a b"], IsListable id) ∧
      Carries ["", "\tARC001 ", "\u2003", "a b", " "] ["ARC001", "a b"] ∧
      rules { rules := some ",\tARC001 ,\u2003,a b, " } = ["ARC001", "a b"] := by
  have hids : ∀ id ∈ ["ARC001", "a b"], IsListable id := by
    simp only [List.forall_mem_cons]
    exact ⟨⟨by decide, by decide, by decide⟩, ⟨by decide, by decide, by decide⟩, by simp⟩
  have hcarries : Carries ["", "\t" ++ "ARC001" ++ " ", "\u2003", "" ++ "a b" ++ "", " "]
      ["ARC001", "a b"] :=
    .blank (by decide) (.held (by decide) (by decide) (.blank (by decide)
      (.held (by decide) (by decide) (.blank (by decide) .nil))))
  exact ⟨hids, hcarries, (rules_of_joined {}).1 _ _ hids hcarries⟩

end ScanPlan

end ContractScan
