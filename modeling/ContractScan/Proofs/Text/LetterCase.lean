import ContractScan.Text.LetterCase
import Mathlib.Data.List.Forall2

/-! # Letters and their cases

The tables of letter case are asked about the few characters of ASCII: which
characters have one of them as their lower or upper case, and which texts begin
with given characters once they are in upper case. Upper case can make a text
longer, but not where the given characters are in none of the longer forms.
-/

namespace ContractScan.Text

section Runs

theorem CaseRun.image?_eq_some {run : CaseRun} {code image : Nat}
    (h : run.image? code = some image) :
    run.first ≤ code ∧ code ≤ run.last ∧ image = Int.toNat (code + run.shift) := by
  unfold CaseRun.image? at h
  split at h
  next hin =>
    simp only [Bool.and_eq_true, decide_eq_true_eq] at hin
    exact ⟨hin.1.1, hin.1.2, (Option.some.inj h).symm⟩
  next => cases h

theorem shiftBy_go_cases (runs : Array CaseRun) (code fuel low high : Nat) :
    shiftBy.go runs code fuel low high = code ∨
      ∃ run ∈ runs, run.image? code = some (shiftBy.go runs code fuel low high) := by
  induction fuel generalizing low high with
  | zero => exact .inl rfl
  | succ fuel ih =>
    rw [shiftBy.go]
    split
    · dsimp only
      split
      · exact .inl rfl
      next run hrun =>
        split
        · exact ih ..
        · split
          · exact ih ..
          · cases himage : run.image? code with
            | none => exact .inl rfl
            | some image => exact .inr ⟨run, Array.mem_of_getElem? hrun, himage⟩
    · exact .inl rfl

theorem shiftBy_cases (runs : Array CaseRun) (code : Nat) :
    shiftBy runs code = code ∨
      ∃ run ∈ runs.toList, run.first ≤ code ∧ code ≤ run.last ∧
        shiftBy runs code = Int.toNat (code + run.shift) := by
  rcases shiftBy_go_cases runs code runs.size 0 runs.size with hcode | ⟨run, hrun, himage⟩
  · exact .inl hcode
  · exact .inr ⟨run, Array.mem_toList_iff.mpr hrun, CaseRun.image?_eq_some himage⟩

end Runs

section Lower

theorem le_lowerCode {code : Nat} (h : 128 ≤ code) : 105 ≤ lowerCode code := by
  have hruns : lowerRuns.toList.all (fun run => 105 ≤ run.first + run.shift) = true := by
    decide +kernel
  rw [lowerCode, if_neg (by omega)]
  rcases shiftBy_cases lowerRuns code with hstays | ⟨run, hrun, hin, -, hmoves⟩
  · omega
  · have hfirst := List.all_eq_true.mp hruns run hrun
    rw [decide_eq_true_eq] at hfirst
    omega

theorem lowerCode_eq_iff {code n : Nat} (hn : n < 105) (hcapital : ¬ (0x41 ≤ n ∧ n ≤ 0x5A)) :
    lowerCode code = n ↔ code = n ∨ 0x61 ≤ n ∧ code + 32 = n := by
  rcases Nat.lt_or_ge code 128 with hlt | hge
  · simp only [lowerCode, hlt, if_true, Bool.and_eq_true, decide_eq_true_eq]
    split <;> omega
  · have hle := le_lowerCode hge
    omega

theorem mem_lowerVariants_iff {code n : Nat} (hn : n < 105) :
    n ∈ lowerVariants code ↔ code = n := by
  have hshared : sharedUpper.all (fun letters => letters.all (105 ≤ ·)) = true := by decide +kernel
  unfold lowerVariants
  cases hfind : sharedUpper.find? (·.contains code) with
  | none => simp [eq_comm]
  | some letters =>
    have hletters := List.all_eq_true.mp
      (List.all_eq_true.mp hshared letters (List.mem_of_find?_eq_some hfind))
    simp only [decide_eq_true_eq] at hletters
    have hcode := hletters code (by simpa using List.find?_some hfind)
    refine iff_of_false (fun h => ?_) (by omega)
    have hle := hletters n h
    omega

end Lower

section Upper

variable {c x : Char}

/-- Beyond ASCII, a code whose upper case begins within ASCII is the dotless i, the long s, or a
character with a longer form. -/
theorem eq_or_long_of_upperCode_lt {code : Nat} (hcode : 128 ≤ code) (h : upperCode code < 128) :
    code = 0x131 ∨ code = 0x17F ∨ ∃ form ∈ longUpperForms, form.1 = code := by
  have hruns : upperRuns.toList.all (fun run =>
      decide (128 ≤ run.first + run.shift) ||
        (run.first == run.last && (run.first == 0x131 || run.first == 0x17F ||
          longUpperForms.any (·.1 == run.first)))) = true := by
    decide +kernel
  rw [upperCode, if_neg (by omega)] at h
  rcases shiftBy_cases upperRuns code with hstays | ⟨run, hrun, hfirst, hlast, hmoves⟩
  · omega
  · have hfact := List.all_eq_true.mp hruns run hrun
    simp only [Bool.or_eq_true, Bool.and_eq_true, decide_eq_true_eq, beq_iff_eq,
      List.any_eq_true] at hfact
    rcases hfact with hlarge | ⟨hone, hcases⟩
    · omega
    · obtain rfl : code = run.first := by omega
      simpa only [or_assoc] using hcases

theorem two_le_length_of_long {form : Nat × List Nat} (h : form ∈ longUpperForms) :
    2 ≤ form.2.length := by
  have hforms : longUpperForms.all (fun form => 2 ≤ form.2.length) = true := by decide +kernel
  simpa using List.all_eq_true.mp hforms form h

theorem upperChar_cases (c : Char) :
    ((∀ form ∈ longUpperForms, form.1 ≠ c.toNat) ∧
        upperChar c = [Char.ofNat (upperCode c.toNat)]) ∨
      ∃ form ∈ longUpperForms, upperChar c = form.2.map Char.ofNat := by
  unfold upperChar
  split
  next code codes hfind => exact .inr ⟨_, List.mem_of_find?_eq_some hfind, rfl⟩
  next hfind => exact .inl ⟨by simpa using List.find?_eq_none.mp hfind, rfl⟩

theorem eq_toNat_of_ofNat {code : Nat} (h : Char.ofNat code = x) (hpos : 0 < x.toNat) :
    code = x.toNat := by
  subst h
  by_cases hvalid : code.isValidChar
  · rw [Char.ofNat, dif_pos hvalid]
    rfl
  · rw [Char.ofNat, dif_neg hvalid] at hpos
    exact absurd hpos (Nat.lt_irrefl 0)

theorem toNat_of_upperChar (h : upperChar c = [x]) (hpos : 0 < x.toNat) (hx : x.toNat < 128) :
    c.toNat = x.toNat ∨ (0x41 ≤ x.toNat ∧ x.toNat ≤ 0x5A ∧ c.toNat = x.toNat + 32) ∨
      (c.toNat = 0x131 ∧ x.toNat = 0x49) ∨ (c.toNat = 0x17F ∧ x.toNat = 0x53) := by
  rcases upperChar_cases c with ⟨hshort, hupper⟩ | ⟨form, hform, hupper⟩
  · rw [hupper, List.singleton_inj] at h
    have hcode := eq_toNat_of_ofNat h hpos
    rcases Nat.lt_or_ge c.toNat 128 with hlt | hge
    · simp only [upperCode, hlt, if_true, Bool.and_eq_true, decide_eq_true_eq] at hcode
      split at hcode <;> omega
    · rcases eq_or_long_of_upperCode_lt hge (by omega) with hc | hc | ⟨form, hform, hc⟩
      · have himage : upperCode 0x131 = 0x49 := by decide +kernel
        rw [hc, himage] at hcode
        omega
      · have himage : upperCode 0x17F = 0x53 := by decide +kernel
        rw [hc, himage] at hcode
        omega
      · exact absurd hc (hshort form hform)
  · have hlength := congrArg List.length (hupper.symm.trans h)
    have htwo := two_le_length_of_long hform
    simp only [List.length_map, List.length_cons, List.length_nil] at hlength
    omega

/-- No longer form begins anywhere in the text, so far as the text goes. -/
def avoidsLongForms : List Char → Bool
  | [] => true
  | x :: rest =>
    longUpperForms.all (fun form => !(x :: rest.take 1).isPrefixOf (form.2.map Char.ofNat)) &&
      avoidsLongForms rest

theorem upperText_append (a b : List Char) : upperText (a ++ b) = upperText a ++ upperText b :=
  List.flatMap_append

/-- Where no longer form is met, characters in upper case come from one letter each. -/
theorem exists_letters_of_upperText {mark text : List Char} (hmark : avoidsLongForms mark = true)
    (h : mark <+: upperText text) :
    ∃ letters rest, text = letters ++ rest ∧
      List.Forall₂ (fun c x => upperChar c = [x]) letters mark := by
  induction mark generalizing text with
  | nil => exact ⟨[], text, rfl, .nil⟩
  | cons x mark ih =>
    obtain ⟨hforms, hmark⟩ := Bool.and_eq_true_iff.mp hmark
    cases text with
    | nil => exact absurd (List.prefix_nil.mp h) (List.cons_ne_nil _ _)
    | cons c rest =>
      rw [upperText, List.flatMap_cons] at h
      rcases upperChar_cases c with ⟨-, hupper⟩ | ⟨form, hform, hupper⟩
      · rw [hupper, List.singleton_append, List.cons_prefix_cons] at h
        obtain ⟨letters, more, rfl, hletters⟩ := ih hmark h.2
        exact ⟨c :: letters, more, rfl, .cons (by rw [hupper, h.1]) hletters⟩
      · rw [hupper] at h
        have hmeets : (x :: mark).take 2 <+: form.2.map Char.ofNat := by
          refine List.prefix_of_prefix_length_le
            ((List.take_prefix 2 (x :: mark)).trans h) (List.prefix_append ..) ?_
          have htwo := two_le_length_of_long hform
          rw [List.length_map]
          exact Nat.le_trans (List.length_take_le 2 _) htwo
        have havoids := List.all_eq_true.mp hforms form hform
        rw [Bool.not_eq_true', Bool.eq_false_iff] at havoids
        exact absurd (List.isPrefixOf_iff_prefix.mpr hmeets) havoids

end Upper

end ContractScan.Text
