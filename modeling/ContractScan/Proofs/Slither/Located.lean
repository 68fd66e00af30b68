import ContractScan.Proofs.Finding.Numbering
import ContractScan.Proofs.Slither.Documented

/-! # Detectors that have a place

A detector without a place leaves no trace among the findings, and of the elements
of the others only the first that has a place counts. So a report can be padded or
thinned out and has the same findings, one for each detector that has a place.
-/

namespace ContractScan.Slither

open Shape

def plainReport (detectors : List Value) : Value :=
  .record [("detectors", .list detectors)]

def envelopedReport (detectors : List Value) : Value :=
  .record [("results", plainReport detectors)]

/-- A detector has no place: it is no mapping, or there is none among its elements. Elements that
are left out or empty are none at all. -/
inductive Unlocated : Value → Prop where
  | noMapping {detector : Value} (h : isMapping detector = false) : Unlocated detector
  | noElement {detector : List (Value × Value)} {parts : List Value}
      (hparts : Parts (valueAt detector "elements") parts)
      (h : ∀ part ∈ parts, isLocated part = false) : Unlocated (.map detector)

/-- Two detectors with the same place. Elements without a place may be put before it or taken away,
and what comes after it may be anything. -/
structure SamePlace (detector detector' : List (Value × Value)) : Prop where
  others : ∀ key, key ≠ "elements" → Value.lookup detector' key = Value.lookup detector key
  elements : ∃ element before after before' after', isLocated element = true ∧
    (∀ other ∈ before ++ before', isLocated other = false) ∧
    valueAt detector "elements" = .list (before ++ element :: after) ∧
    valueAt detector' "elements" = .list (before' ++ element :: after')

/-- Some detectors without a place are left out, and some others are changed around their places. -/
inductive Thinned : List Value → List Value → Prop where
  | nil : Thinned [] []
  | drop {detector : Value} {detectors detectors' : List Value} (h : Unlocated detector)
      (hrest : Thinned detectors detectors') : Thinned (detector :: detectors) detectors'
  | keep (detector : Value) {detectors detectors' : List Value}
      (hrest : Thinned detectors detectors') :
      Thinned (detector :: detectors) (detector :: detectors')
  | change {detector detector' : List (Value × Value)} {detectors detectors' : List Value}
      (h : SamePlace detector detector') (hrest : Thinned detectors detectors') :
      Thinned (.map detector :: detectors) (.map detector' :: detectors')

def place? (detector : Value) : Option Value :=
  (firstLocated? detector).toOption.join

def located (detectors : List Value) : List (Value × Value) :=
  detectors.filterMap fun detector => (place? detector).map (detector, ·)

section Reports

variable (detectors : List Value)

theorem detectors_plainReport :
    Slither.detectors (plainReport detectors) = .ok (detectors.filter isMapping) :=
  detectors_map_eq_ok_iff.mpr ⟨detectors, .list detectors, rfl⟩

theorem detectors_envelopedReport :
    Slither.detectors (envelopedReport detectors) = .ok (detectors.filter isMapping) :=
  detectors_map_eq_ok_iff.mpr ⟨detectors, .list detectors, rfl⟩

theorem findings_plainReport :
    findings (plainReport detectors) = findingsFrom 1 (detectors.filter isMapping) := by
  rw [findings, detectors_plainReport, ok_bind]

end Reports

section Detectors

variable {detector detector' : List (Value × Value)} {detectors detectors' : List Value}

theorem firstLocated?_of_noElement {parts : List Value}
    (hparts : Parts (valueAt detector "elements") parts)
    (h : ∀ part ∈ parts, isLocated part = false) : firstLocated? (.map detector) = .ok none := by
  refine firstLocated?_eq_ok_iff.mpr ⟨parts, hparts, List.find?_eq_none.mpr ?_⟩
  intro part hpart
  simp [h part hpart]

theorem firstLocated?_of_list {element : Value} {before after : List Value}
    (hlist : valueAt detector "elements" = .list (before ++ element :: after))
    (hbefore : ∀ other ∈ before, isLocated other = false) (helement : isLocated element = true) :
    firstLocated? (.map detector) = .ok (some element) := by
  have hparts : Parts (valueAt detector "elements") (before ++ element :: after) := by
    rw [hlist]
    exact .list _
  refine firstLocated?_eq_ok_iff.mpr ⟨_, hparts, ?_⟩
  have hnone : before.find? isLocated = none := by
    rw [List.find?_eq_none]
    intro other hother
    simp [hbefore other hother]
  rw [List.find?_append, hnone, Option.none_or, List.find?_cons_of_pos helement]

theorem finding_congr (element : Value) (n : Nat)
    (h : ∀ key, key ≠ "elements" → Value.lookup detector' key = Value.lookup detector key) :
    finding (.map detector') element n = finding (.map detector) element n := by
  have hcheck : checkName (.map detector') = checkName (.map detector) := by
    rw [checkName, checkName, h "check" (by decide)]
  have hentry (key : String) (hkey : key ≠ "elements") :
      entry (.map detector') key = entry (.map detector) key := by
    rw [entry_map, entry_map, valueAt, valueAt, h key hkey]
  unfold finding
  rw [hcheck, hentry "impact" (by decide), hentry "description" (by decide),
    hentry "first_markdown_element" (by decide), hentry "confidence" (by decide)]

theorem findingsFrom_drop (h : firstLocated? (.map detector) = .ok none) (n : Nat) :
    findingsFrom n (.map detector :: detectors) = findingsFrom n detectors := by
  rw [findingsFrom, h, ok_bind]

theorem findingsFrom_change (h : SamePlace detector detector')
    (hrest : ∀ n, findingsFrom n detectors' = findingsFrom n detectors) (n : Nat) :
    findingsFrom n (.map detector' :: detectors') =
      findingsFrom n (.map detector :: detectors) := by
  obtain ⟨element, before, after, before', after', helement, hothers, hlist, hlist'⟩ := h.elements
  rw [List.forall_mem_append] at hothers
  simp only [findingsFrom, firstLocated?_of_list hlist hothers.1 helement,
    firstLocated?_of_list hlist' hothers.2 helement, ok_bind, finding_congr element n h.others,
    hrest]

/-- Thinning out changes neither the findings nor their numbers, and an error stays the same. -/
theorem Thinned.findingsFrom_eq (h : Thinned detectors detectors') (n : Nat) :
    findingsFrom n (detectors'.filter isMapping) = findingsFrom n (detectors.filter isMapping) := by
  induction h generalizing n with
  | nil => rfl
  | drop h _ ih =>
    rw [ih n]
    cases h with
    | noMapping h => rw [List.filter_cons_of_neg (by simp [h])]
    | noElement hparts h =>
      rw [List.filter_cons_of_pos rfl, findingsFrom_drop (firstLocated?_of_noElement hparts h)]
  | keep detector _ ih =>
    cases h : isMapping detector with
    | false => rw [List.filter_cons_of_neg (by simp [h]), List.filter_cons_of_neg (by simp [h]), ih]
    | true =>
      rw [List.filter_cons_of_pos h, List.filter_cons_of_pos h]
      simp only [findingsFrom, ih]
  | change h _ ih =>
    rw [List.filter_cons_of_pos rfl, List.filter_cons_of_pos rfl]
    exact findingsFrom_change h ih n

end Detectors

section Places

variable {detector : Value} {detectors : List Value} {found : List Finding} {n : Nat}

theorem place?_of_firstLocated? {place : Option Value} (h : firstLocated? detector = .ok place) :
    place? detector = place := by
  rw [place?, h]
  cases place <;> rfl

theorem place?_of_unlocated (h : Unlocated detector) : place? detector = none := by
  cases h with
  | noMapping h =>
    cases detector with
    | map entries => cases h
    | _ => rfl
  | noElement hparts h => exact place?_of_firstLocated? (firstLocated?_of_noElement hparts h)

theorem place?_eq_none_iff {entries : List (Value × Value)} (h : ReadableDetector entries) :
    place? (.map entries) = none ↔ Unlocated (.map entries) := by
  refine ⟨fun hnone => ?_, place?_of_unlocated⟩
  obtain ⟨parts, hparts, -⟩ := h
  have hfind := place?_of_firstLocated? (firstLocated?_eq_ok_iff.mpr ⟨parts, hparts, rfl⟩)
  rw [hnone, eq_comm, List.find?_eq_none] at hfind
  exact .noElement hparts fun part hpart => Bool.eq_false_iff.mpr (hfind part hpart)

theorem place?_eq_none_iff_of_findings (h : findings (plainReport detectors) = .ok found)
    (hdetector : detector ∈ detectors) : place? detector = none ↔ Unlocated detector := by
  cases hmapping : isMapping detector with
  | false =>
    have hunlocated : Unlocated detector := .noMapping hmapping
    exact ⟨fun _ => hunlocated, place?_of_unlocated⟩
  | true =>
    obtain ⟨entries, rfl⟩ : ∃ entries, detector = .map entries := by
      cases detector with
      | map entries => exact ⟨entries, rfl⟩
      | _ => cases hmapping
    rw [findings_plainReport] at h
    refine place?_eq_none_iff ((exists_findingsFrom_iff (by simp)).mp ⟨found, h⟩ entries ?_)
    exact List.mem_filter.mpr ⟨hdetector, rfl⟩

theorem forall₂_of_findingsFrom
    (h : findingsFrom n (detectors.filter isMapping) = .ok found) :
    List.Forall₂ (fun entry f => finding entry.1.1 entry.1.2 entry.2 = .ok f)
      ((located detectors).zipIdx n) found := by
  induction detectors generalizing n found with
  | nil =>
    cases h
    exact .nil
  | cons detector rest ih =>
    have hcons : located (detector :: rest) =
        ((place? detector).map (detector, ·)).toList ++ located rest := by
      unfold located
      rw [List.filterMap_cons]
      cases place? detector <;> rfl
    cases hmapping : isMapping detector with
    | false =>
      rw [List.filter_cons_of_neg (by simp [hmapping])] at h
      rw [hcons, place?_of_unlocated (.noMapping hmapping)]
      exact ih h
    | true =>
      rw [List.filter_cons_of_pos hmapping, findingsFrom, bind_eq_ok_iff] at h
      obtain ⟨place, hplace, h⟩ := h
      rw [hcons, place?_of_firstLocated? hplace]
      cases place with
      | none => exact ih h
      | some element =>
        simp only [bind_eq_ok_iff, pure_eq_ok_iff] at h
        obtain ⟨f, hf, more, hmore, rfl⟩ := h
        exact .cons hf (ih hmore)

end Places

/-- The findings of a list of detectors are the same in an envelope and without one, and do not
change when the list is thinned out. Where there are findings, they are those of the detectors that
have a place, one for each and in their order, and numbered without a gap. -/
theorem findings_of_located (detectors : List Value) :
    findings (envelopedReport detectors) = findings (plainReport detectors) ∧
    (∀ detectors', Thinned detectors detectors' →
      findings (plainReport detectors') = findings (plainReport detectors)) ∧
    ∀ found, findings (plainReport detectors) = .ok found →
      (∀ detector ∈ detectors, place? detector = none ↔ Unlocated detector) ∧
      List.Forall₂ (fun entry f => finding entry.1.1 entry.1.2 entry.2 = .ok f)
        ((located detectors).zipIdx 1) found ∧
      Numbered "SC" 1 found := by
  refine ⟨?_, ?_, ?_⟩
  · rw [findings, detectors_envelopedReport, ok_bind, findings_plainReport]
  · intro detectors' h
    rw [findings_plainReport, findings_plainReport, h.findingsFrom_eq 1]
  · intro found h
    refine ⟨fun detector hdetector => place?_eq_none_iff_of_findings h hdetector, ?_, ?_⟩
    · rw [findings_plainReport] at h
      exact forall₂_of_findingsFrom h
    · rw [findings_plainReport] at h
      exact findingsFrom_numbered h

def elementOn (line : Nat) : Value :=
  .record [("source_mapping", .record [("lines", .list [.int line])])]

/-- Two detectors that have a place, among others that have none. One of the two has elements around
its place, and the last of them would be an error. -/
def crowded : List Value :=
  [.int 5, .record [("check", .str "timestamp")],
    .record [("elements", .list [.str "a", .record [("source_mapping", .record [])], elementOn 7,
      .record [("source_mapping", .int 1)]]), ("check", .str "tx-origin")],
    .record [("elements", .list [])], .record [("elements", .list [elementOn 0])]]

def sparse : List Value :=
  [.record [("check", .str "tx-origin"), ("elements", .list [elementOn 7])],
    .record [("elements", .list [elementOn 0])]]

theorem thinned_crowded : Thinned crowded sparse := by
  refine .drop (.noMapping rfl) (.drop (.noElement (.none rfl) (by simp)) ?_)
  refine .change ⟨?_, ?_⟩ (.drop (.noElement (.none rfl) (by simp)) (.keep _ .nil))
  · intro key hkey
    have helements : (Value.str "elements").sameKey (.str key) = false := by
      rw [Json.sameKey_str, beq_eq_false_iff_ne]
      exact hkey.symm
    simp [Value.lookup, List.find?_cons, helements]
  · refine ⟨elementOn 7, [.str "a", .record [("source_mapping", .record [])]],
      [.record [("source_mapping", .int 1)]], [], [], rfl, ?_, rfl, rfl⟩
    simp [isLocated, Value.record, Value.lookup, Json.sameKey_str, Value.truthy]

theorem documented_elementOn (line : Nat) : IsMapOf DocumentedElement (elementOn line) := by
  refine ⟨_, rfl, .inl rfl, .inl rfl, .inr ⟨_, rfl, .inl rfl, .inr ⟨_, rfl, ?_⟩⟩, .inl rfl⟩
  rw [List.forall_mem_singleton]
  exact ⟨line, rfl⟩

theorem documented_sparse : DocumentedReport (plainReport sparse) := by
  have helements (line : Nat) : ∀ item ∈ [elementOn line], IsMapOf DocumentedElement item := by
    rw [List.forall_mem_singleton]
    exact documented_elementOn line
  refine ⟨_, rfl, .inr ⟨sparse, rfl, ?_⟩⟩
  simp only [sparse, List.forall_mem_cons]
  refine ⟨⟨_, rfl, ?_, .inr ⟨_, rfl, helements 7⟩⟩, ⟨_, rfl, ?_, .inr ⟨_, rfl, helements 0⟩⟩,
    by simp⟩
  · simp only [textKeys, List.forall_mem_cons]
    exact ⟨.inr ⟨_, rfl⟩, .inl rfl, .inl rfl, .inl rfl, .inl rfl, by simp⟩
  · simp only [textKeys, List.forall_mem_cons]
    exact ⟨.inl rfl, .inl rfl, .inl rfl, .inl rfl, .inl rfl, by simp⟩

theorem findings_of_located_crowded :
    Thinned crowded sparse ∧ ∃ found, findings (plainReport crowded) = .ok found ∧
      findings (envelopedReport crowded) = .ok found ∧
      findings (plainReport sparse) = .ok found ∧ found.map (·.id) = ["SC-001", "SC-002"] := by
  obtain ⟨henvelope, hthinned, hfound⟩ := findings_of_located crowded
  obtain ⟨found, hsparse⟩ := exists_findings_iff.mpr documented_sparse.readable
  have hcrowded : findings (plainReport crowded) = .ok found := by
    rw [← hthinned sparse thinned_crowded, hsparse]
  obtain ⟨-, hplaces, hids⟩ := hfound found hcrowded
  have hlength : found.length = 2 := by
    rw [← hplaces.length_eq]
    rfl
  refine ⟨thinned_crowded, found, hcrowded, henvelope.trans hcrowded, hsparse, ?_⟩
  rw [hids, hlength]
  decide

end ContractScan.Slither
