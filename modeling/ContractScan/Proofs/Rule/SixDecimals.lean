import ContractScan.Proofs.Rule.Arc
import ContractScan.Proofs.Scan.Failure
import ContractScan.Proofs.Text.LetterCase

/-! # Factors of six decimals

One rule reports hardcoded factors of six decimals, and a predicate asks for such
a factor before another rule is tried. The rule takes a capital exponent sign
and blanks around the power, the predicate takes neither. A factor in plain
spelling opens the gate of the other rule; a loose one alone leaves it shut.
-/

namespace ContractScan

open Pattern

section Caseless

open Text

theorem contains_caseless {c x : Char} (hc : c.toNat < 105)
    (hcapital : ¬ (0x41 ≤ c.toNat ∧ c.toNat ≤ 0x5A)) :
    CharSet.contains { items := [.code c.toNat], folding := .full } x = true ↔
      x.toNat = c.toNat ∨ 0x61 ≤ c.toNat ∧ x.toNat + 32 = c.toNat := by
  have hself : lowerCode c.toNat = c.toNat := (lowerCode_eq_iff hc hcapital).mpr (.inl rfl)
  rw [← lowerCode_eq_iff hc hcapital, ← mem_lowerVariants_iff hc]
  simp [CharSet.contains, CharSet.accepts, hself]

theorem spells_caseless {c : Char} (hc : c.toNat < 0x41) {w : List Char} :
    (Node.char c .full).Spells w ↔ w = [c] := by
  simp only [Node.char, Node.spells_chars_iff,
    contains_caseless (c := c) (by omega) (by omega), Char.toNat_inj]
  constructor
  · rintro ⟨x, rfl | hx, rfl⟩
    · rfl
    · omega
  · rintro rfl
    exact ⟨c, .inl rfl, rfl⟩

theorem spells_caseless_e {w : List Char} :
    (Node.char 'e' .full).Spells w ↔ w = ['e'] ∨ w = ['E'] := by
  have hcapital (x : Char) : x.toNat + 32 = 'e'.toNat ↔ x = 'E' := by
    rw [← Char.toNat_inj]
    exact Nat.add_right_cancel_iff (n := 32) (k := 69)
  simp only [Node.char, Node.spells_chars_iff, contains_caseless (c := 'e') (by decide) (by decide),
    Char.toNat_inj, hcapital]
  constructor
  · rintro ⟨x, rfl | ⟨-, rfl⟩, rfl⟩
    · exact .inl rfl
    · exact .inr rfl
  · rintro (rfl | rfl)
    · exact ⟨'e', .inl rfl, rfl⟩
    · exact ⟨'E', .inr ⟨by decide, rfl⟩, rfl⟩

end Caseless

namespace Rule

/-- The spellings that the predicate knows. -/
def plainFactors : List String :=
  ["1e6", "10**6", "1000000"]

/-- A spelling that the rule knows and the predicate does not. -/
def IsLooseFactor (w : List Char) : Prop :=
  w = "1E6".toList ∨ ∃ gap gap', IsGap gap ∧ IsGap gap' ∧ gap ++ gap' ≠ [] ∧
    w = "10".toList ++ gap ++ "**".toList ++ gap' ++ "6".toList

def factor : Node :=
  .alternatives [.literal "1e6" .full,
    .sequence [.char '1' .full, .char '0' .full, blanks .full, .char '*' .full, .char '*' .full,
      blanks .full, .char '6' .full],
    .literal "1000000" .full]

def currency : Node :=
  .alternatives [
    .sequence ("decimal".toList.map (Node.char · .full) ++
      [.repetition .greedy 0 (some 1) (.char 's' .full)]),
    .literal "usdc" .full, .literal "usdt" .full, .literal "stable" .full]

def hardcodedFactor : Pattern :=
  .sequence [.anchor (.wordBoundary false), .group 1 factor, .anchor (.wordBoundary false),
    .star (.chars .withinLine), currency]

theorem matcher_arc002 : arc002.matcher = .ok hardcodedFactor := by
  have h : arc002.matcher.toOption = some hardcodedFactor := by decide +kernel
  exact toOption_eq_some_iff.mp h

theorem regular_factor : factor.Regular := by
  refine .alt (Node.regular_literal ..) (.alt (Node.regular_sequence ?_) (Node.regular_literal ..))
  simp only [List.forall_mem_cons, List.not_mem_nil, false_imp_iff, implies_true, and_true]
  exact ⟨.chars _, .chars _, .star _, .chars _, .chars _, .star _, .chars _⟩

theorem spells_exponent {w : List Char} :
    (Node.literal "1e6" .full).Spells w ↔ w = "1e6".toList ∨ w = "1E6".toList := by
  change (Node.sequence [.char '1' .full, .char 'e' .full, .char '6' .full]).Spells w ↔ _
  simp only [Node.spells_sequence_cons, Node.spells_sequence_nil, spells_caseless_e,
    spells_caseless (c := '1') (by decide), spells_caseless (c := '6') (by decide)]
  constructor
  · rintro ⟨_, _, rfl, ⟨_, _, rfl | rfl, ⟨_, _, rfl, rfl, rfl⟩, rfl⟩, rfl⟩
    · exact .inl rfl
    · exact .inr rfl
  · rintro (rfl | rfl)
    · exact ⟨_, _, rfl, ⟨_, _, .inl rfl, ⟨_, _, rfl, rfl, rfl⟩, rfl⟩, rfl⟩
    · exact ⟨_, _, rfl, ⟨_, _, .inr rfl, ⟨_, _, rfl, rfl, rfl⟩, rfl⟩, rfl⟩

theorem spells_power {w : List Char} :
    (Node.sequence [.char '1' .full, .char '0' .full, blanks .full, .char '*' .full,
      .char '*' .full, blanks .full, .char '6' .full]).Spells w ↔
      ∃ gap gap', IsGap gap ∧ IsGap gap' ∧
        w = "10".toList ++ gap ++ "**".toList ++ gap' ++ "6".toList := by
  simp only [Node.spells_sequence_cons, Node.spells_sequence_nil, spells_blanks,
    spells_caseless (c := '0') (by decide), spells_caseless (c := '1') (by decide),
    spells_caseless (c := '6') (by decide), spells_caseless (c := '*') (by decide)]
  constructor
  · rintro ⟨_, _, rfl, ⟨_, _, rfl, ⟨gap, _, hgap, ⟨_, _, rfl, ⟨_, _, rfl, ⟨gap', _, hgap',
      ⟨_, _, rfl, rfl, rfl⟩, rfl⟩, rfl⟩, rfl⟩, rfl⟩, rfl⟩, rfl⟩
    exact ⟨gap, gap', hgap, hgap', by simp⟩
  · rintro ⟨gap, gap', hgap, hgap', rfl⟩
    exact ⟨_, _, rfl, ⟨_, _, rfl, ⟨gap, _, hgap, ⟨_, _, rfl, ⟨_, _, rfl, ⟨gap', _, hgap',
      ⟨_, _, rfl, rfl, rfl⟩, rfl⟩, rfl⟩, rfl⟩, rfl⟩, rfl⟩, by simp⟩

theorem spells_million {w : List Char} :
    (Node.literal "1000000" .full).Spells w ↔ w = "1000000".toList := by
  have hdigits : ("1000000".toList.all (·.toNat < 0x41)) = true := by decide
  exact Node.spells_characters fun c hc =>
    spells_caseless (of_decide_eq_true (List.all_eq_true.mp hdigits c hc))

theorem spells_factor {w : List Char} :
    factor.Spells w ↔ (∃ plain ∈ plainFactors, w = plain.toList) ∨ IsLooseFactor w := by
  simp only [factor, Node.alternatives, Node.spells_alt_iff, spells_exponent, spells_power,
    spells_million, plainFactors, List.mem_cons, List.not_mem_nil, or_false, exists_eq_or_imp,
    exists_eq_left]
  constructor
  · rintro ((rfl | rfl) | ⟨gap, gap', hgap, hgap', rfl⟩ | rfl)
    · exact .inl (.inl rfl)
    · exact .inr (.inl rfl)
    · by_cases hnone : gap ++ gap' = []
      · obtain ⟨rfl, rfl⟩ := List.append_eq_nil_iff.mp hnone
        exact .inl (.inr (.inl rfl))
      · exact .inr (.inr ⟨gap, gap', hgap, hgap', hnone, rfl⟩)
    · exact .inl (.inr (.inr rfl))
  · rintro ((rfl | rfl | rfl) | rfl | ⟨gap, gap', hgap, hgap', -, rfl⟩)
    · exact .inl (.inl rfl)
    · exact .inr (.inl ⟨[], [], List.forall_mem_nil _, List.forall_mem_nil _, rfl⟩)
    · exact .inr (.inr rfl)
    · exact .inl (.inr rfl)
    · exact .inr (.inl ⟨gap, gap', hgap, hgap', rfl⟩)

section Gate

variable {text w : List Char}

theorem spells_sixDecimals :
    Registry.sixDecimals.Spells w ↔ ∃ plain ∈ plainFactors, w = plain.toList := by
  simp only [Registry.sixDecimals, Node.alternatives, Node.spells_alt_iff, Node.spells_literal,
    plainFactors, List.mem_cons, List.not_mem_nil, or_false, exists_eq_or_imp, exists_eq_left]

theorem appliesTo_arc007 (text : List Char) :
    arc007.appliesTo .builtin text = .ok (Registry.hardcodedSixDecimals text) := by
  rfl

theorem appliesTo_arc007_iff :
    arc007.appliesTo .builtin text = .ok true ↔ ∃ plain ∈ plainFactors, plain.toList <:+: text := by
  have hregular : Registry.sixDecimals.Regular :=
    .alt (Node.regular_literal ..) (.alt (Node.regular_literal ..) (Node.regular_literal ..))
  have hnil : ¬ Registry.sixDecimals.Spells [] := by
    rw [spells_sixDecimals]
    decide
  rw [appliesTo_arc007, Except.ok.injEq, Registry.hardcodedSixDecimals,
    search_isSome_iff hregular hnil]
  constructor
  · rintro ⟨w, hw, hinfix⟩
    obtain ⟨plain, hplain, rfl⟩ := spells_sixDecimals.mp hw
    exact ⟨plain, hplain, hinfix⟩
  · rintro ⟨plain, hplain, hinfix⟩
    exact ⟨_, spells_sixDecimals.mpr ⟨plain, hplain, rfl⟩, hinfix⟩

end Gate

section Matches

variable {text w : List Char}

theorem matchesIn_arc002 (text : List Char) :
    arc002.matchesIn .builtin text = .ok (findAll hardcodedFactor text) := by
  have happlies : arc002.appliesTo .builtin text = .ok true := rfl
  rw [matchesIn, happlies, matcher_arc002]

theorem exists_factor_of_mem_findAll {m : Found} (h : m ∈ findAll hardcodedFactor text) :
    ∃ w, factor.Spells w ∧ w <+: m.chars := by
  obtain ⟨advance, hat⟩ := (findAll_finds hardcodedFactor text).exists_matchAt m h
  obtain ⟨s, hs, hm, -⟩ := matchAt_eq_some hat
  obtain ⟨s₀, hs₀, hrest⟩ := List.mem_flatMap.mp hs
  obtain ⟨-, rfl⟩ := mem_ways_anchor_iff.mp hs₀
  obtain ⟨s₁, hs₁, hbehind⟩ := List.mem_flatMap.mp hrest
  obtain ⟨w, hw, hbegin, hcursor⟩ := exists_spelling_of_mem_ways (.group regular_factor) hs₁
  have hle := (ways_reaches hbehind).add_le_offset
  have hlast : m.last = s.cursor := congrArg Found.last hm
  rw [hcursor, Cursor.skip_offset, ← hlast] at hle
  refine ⟨w, Node.spells_group_iff.mp hw, List.prefix_take_iff.mpr ⟨hbegin, ?_⟩⟩
  dsimp only at hle
  omega

theorem IsLooseFactor.eq_cons (h : IsLooseFactor w) :
    ∃ middle, '1' ∉ middle ∧ w = '1' :: (middle ++ ['6']) := by
  rcases h with rfl | ⟨gap, gap', hgap, hgap', -, rfl⟩
  · exact ⟨['E'], by decide, rfl⟩
  · refine ⟨'0' :: (gap ++ "**".toList ++ gap'), ?_, by simp⟩
    have hone : Text.isBlank '1' = false := by decide
    simp only [List.mem_cons, List.mem_append, hgap.not_mem hone, hgap'.not_mem hone, or_false]
    decide

/-- A line with a loose factor, and no other, before the name of a currency. -/
def lineWith (w : List Char) : List Char :=
  w ++ " usdc".toList

theorem IsLooseFactor.findAll_ne_nil (h : IsLooseFactor w) :
    findAll hardcodedFactor (lineWith w) ≠ [] := by
  obtain ⟨middle, -, hw⟩ := h.eq_cons
  have hfactor : (Node.group 1 factor).Spells w := .group (spells_factor.mpr (.inr h))
  have husdc : (Node.literal "usdc" .full).Spells "usdc".toList :=
    .seq (.chars (by decide)) (.seq (.chars (by decide)) (.seq (.chars (by decide))
      (.chars (by decide))))
  have hcurrency : (Node.seq (.star (.chars .withinLine)) currency).Spells " usdc".toList :=
    .seq (u := [' ']) (.star (List.forall_mem_singleton.mpr (by decide))) (.right (.left husdc))
  have hfirst : (Anchor.wordBoundary false).holds (.start (lineWith w)) = true := by
    rw [hw]
    rfl
  obtain ⟨s, hs, hcursor⟩ :=
    hfactor.exists_way (s := { cursor := .start (lineWith w) }) (List.prefix_append ..)
  have hafter : s.cursor.after = " usdc".toList := by
    rw [hcursor]
    exact List.drop_left
  have hbefore : s.cursor.before = w.reverse := by
    rw [hcursor]
    simp [Cursor.start, lineWith]
  have hlast : (Anchor.wordBoundary false).holds s.cursor = true := by
    rw [Anchor.holds, hafter, hbefore, hw, List.reverse_cons, List.reverse_append]
    rfl
  obtain ⟨s', hs', -⟩ := hcurrency.exists_way (s := s) ⟨[], by rw [hafter, List.append_nil]⟩
  have hway : s' ∈ hardcodedFactor.ways { cursor := .start (lineWith w) } :=
    List.mem_flatMap.mpr ⟨_, mem_ways_anchor_iff.mpr ⟨hfirst, rfl⟩, List.mem_flatMap.mpr ⟨s, hs,
      List.mem_flatMap.mpr ⟨s, mem_ways_anchor_iff.mpr ⟨hlast, rfl⟩, hs'⟩⟩⟩
  rw [ne_eq, findAll_eq_nil_iff]
  intro hnone
  have hat := matchAt_of_searchFrom_eq_none hnone (Nat.zero_le _)
  rw [Cursor.skip_zero] at hat
  exact List.ne_nil_of_mem hway (matchAt_false_eq_none_iff.mp hat)

theorem prefix_of_isInfix {x : Char} {u rest : List Char} (hx : x ∉ rest)
    (h : x :: u <:+: x :: rest) : x :: u <+: x :: rest := by
  obtain ⟨_ | ⟨y, before⟩, after, h⟩ := h
  · exact ⟨after, h⟩
  · obtain rfl := (List.cons.inj h).2
    simp at hx

theorem not_prefix_spaced {gap later rest : List Char} (hgap : IsGap gap) (hlater : IsGap later)
    (hne : gap ++ later ≠ []) {plain : String} (hplain : plain ∈ plainFactors) :
    ¬ plain.toList <+: "10".toList ++ gap ++ "**".toList ++ later ++ "6".toList ++ rest := by
  intro hbegin
  simp only [plainFactors, List.mem_cons, List.not_mem_nil, or_false] at hplain
  rcases hplain with rfl | rfl | rfl
  · simp at hbegin
  · obtain _ | ⟨c, gap⟩ := gap
    · obtain _ | ⟨c, later⟩ := later
      · exact hne rfl
      · obtain rfl : '6' = c := by simpa using hbegin
        exact absurd (hlater '6' List.mem_cons_self) (by decide)
    · obtain ⟨rfl, -⟩ : '*' = c ∧ _ := by simpa using hbegin
      exact absurd (hgap '*' List.mem_cons_self) (by decide)
  · obtain _ | ⟨c, gap⟩ := gap
    · simp at hbegin
    · obtain ⟨rfl, -⟩ : '0' = c ∧ _ := by simpa using hbegin
      exact absurd (hgap '0' List.mem_cons_self) (by decide)

theorem IsLooseFactor.not_plain (h : IsLooseFactor w) :
    ¬ ∃ plain ∈ plainFactors, plain.toList <:+: lineWith w := by
  rintro ⟨plain, hplain, hinfix⟩
  have hone : ∀ plain ∈ plainFactors, plain.toList.head? = some '1' := by decide
  obtain ⟨u, hu⟩ := List.head?_eq_some_iff.mp (hone plain hplain)
  have hbegin : plain.toList <+: lineWith w := by
    obtain ⟨middle, hmiddle, rfl⟩ := h.eq_cons
    rw [hu] at hinfix ⊢
    refine prefix_of_isInfix ?_ hinfix
    simp [hmiddle]
  rcases h with rfl | ⟨gap, gap', hgap, hgap', hne, rfl⟩
  · have hnone : ∀ plain ∈ plainFactors, ¬ plain.toList <+: lineWith "1E6".toList := by decide
    exact hnone plain hplain hbegin
  · exact not_prefix_spaced hgap hgap' hne hplain hbegin

end Matches

end Rule

/-- The rule for mixed decimals is tried on a text exactly if a factor in plain spelling stands in
it. What the rule for hardcoded factors matches begins with a factor in plain spelling, and then
the other rule is tried, or with a loose one, and every loose one can leave the other rule out. -/
theorem arc007_tried_on_plain_factors (text : List Char) :
    (Rule.arc007.appliesTo .builtin text = .ok true ↔
      ∃ plain ∈ Rule.plainFactors, plain.toList <:+: text) ∧
    (∃ found, Rule.arc002.matchesIn .builtin text = .ok found ∧ ∀ m ∈ found, ∃ w, w <+: m.chars ∧
      ((∃ plain ∈ Rule.plainFactors, w = plain.toList) ∧
          Rule.arc007.appliesTo .builtin text = .ok true ∨
        Rule.IsLooseFactor w)) ∧
    ∀ w, Rule.IsLooseFactor w → ∃ found, found ≠ [] ∧
      Rule.arc002.matchesIn .builtin (w ++ " usdc".toList) = .ok found ∧
      Rule.arc007.appliesTo .builtin (w ++ " usdc".toList) = .ok false := by
  refine ⟨Rule.appliesTo_arc007_iff, ⟨_, Rule.matchesIn_arc002 text, ?_⟩, ?_⟩
  · intro m hm
    obtain ⟨w, hw, hbegin⟩ := Rule.exists_factor_of_mem_findAll hm
    refine ⟨w, hbegin, (Rule.spells_factor.mp hw).imp_left ?_⟩
    rintro ⟨plain, hplain, rfl⟩
    obtain ⟨start, width, -, -, -, hchars⟩ := exists_span_of_mem_findAll hm
    have hinfix : m.chars <:+: text := by
      rw [hchars]
      exact (List.take_prefix ..).isInfix.trans (List.drop_suffix ..).isInfix
    exact ⟨⟨plain, hplain, rfl⟩,
      Rule.appliesTo_arc007_iff.mpr ⟨plain, hplain, hbegin.isInfix.trans hinfix⟩⟩
  · intro w hw
    refine ⟨_, hw.findAll_ne_nil, Rule.matchesIn_arc002 _, ?_⟩
    have hshut : Rule.arc007.appliesTo .builtin (w ++ " usdc".toList) ≠ .ok true :=
      mt Rule.appliesTo_arc007_iff.mp hw.not_plain
    rw [Rule.appliesTo_arc007] at hshut ⊢
    rw [ne_eq, Except.ok.injEq, Bool.not_eq_true] at hshut
    rw [hshut]

theorem arc007_tried_on_plain_factors_sample :
    Rule.IsLooseFactor "10 ** 6".toList ∧
      Rule.arc007.appliesTo .builtin "10 ** 6 usdc".toList = .ok false ∧
      "10**6".toList <:+: "10 ** 6 == 10**6".toList ∧
      Rule.arc007.appliesTo .builtin "10 ** 6 == 10**6".toList = .ok true := by
  have hgap : Rule.IsGap [' '] := List.forall_mem_singleton.mpr (by decide)
  have hloose : Rule.IsLooseFactor "10 ** 6".toList := .inr ⟨_, _, hgap, hgap, by decide, rfl⟩
  have hinfix : "10**6".toList <:+: "10 ** 6 == 10**6".toList := ⟨"10 ** 6 == ".toList, [], rfl⟩
  obtain ⟨_, -, -, hshut⟩ := (arc007_tried_on_plain_factors []).2.2 _ hloose
  have hopen := (arc007_tried_on_plain_factors "10 ** 6 == 10**6".toList).1.mpr
    ⟨"10**6", by decide, hinfix⟩
  exact ⟨hloose, hshut, hinfix, hopen⟩

/-- A file where the factor has a capital exponent sign, and one where blanks stand in it. The
factor is reported, and the call of `decimals` behind it is not. -/
theorem arc007_not_tried_on_loose_factors :
    (scanArc [⟨"a.sol", "1E6 usdc; t.decimals()"⟩]).value.toOption.map (·.map (·.detector)) =
        some ["ARC002"] ∧
      (Rule.arc007.appliesTo .builtin "1E6 usdc; t.decimals()".toList).toOption = some false ∧
      (scanArc [⟨"a.sol", "10 ** 6 usdc; t.decimals()"⟩]).value.toOption.map (·.map (·.detector)) =
        some ["ARC002"] ∧
      (Rule.arc007.appliesTo .builtin "10 ** 6 usdc; t.decimals()".toList).toOption =
        some false := by
  decide +kernel

end ContractScan
