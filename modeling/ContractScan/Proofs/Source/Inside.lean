import ContractScan.Proofs.Source.Enclosing
import ContractScan.Proofs.Source.Lexer
import Mathlib.Data.List.Forall2

/-! # What stands inside comments and literals

The lexer looks only for the marks that begin, end and escape. Other characters
inside a token can be exchanged for one another: every token stays where it is,
and neither the mask nor what is told of a place changes.
-/

namespace ContractScan.Source

open Pattern

/-- The characters that the lexer tells apart from all others. -/
def lexicalMarks : List Char :=
  ['\'', '"', '\\', '\n', '*', '/']

def Alike (c d : Char) : Prop :=
  c = d ∨ c ∉ lexicalMarks ∧ d ∉ lexicalMarks

namespace Alike

variable {c d mark : Char}

theorem eq_iff (h : Alike c d) (hm : mark ∈ lexicalMarks) : c = mark ↔ d = mark := by
  rcases h with rfl | ⟨hc, hd⟩
  · rfl
  · constructor
    · rintro rfl
      exact absurd hm hc
    · rintro rfl
      exact absurd hm hd

theorem eq_of_mem (h : Alike c d) (hc : c ∈ lexicalMarks) : d = c :=
  (h.eq_iff hc).mp rfl

theorem blankChar_eq (h : Alike c d) : blankChar c = blankChar d := by
  have hn : c = '\n' ↔ d = '\n' := h.eq_iff (by decide)
  rcases h with rfl | _
  · rfl
  · by_cases hc : c = '\n'
    · simp [blankChar, hc, hn.mp hc]
    · simp [blankChar, hc, mt hn.mpr hc]

end Alike

section Tokens

variable {c quote : Char} {text text' : List Char}

theorem closingQuote?_plain (hc : c ≠ '\\') (rest : List Char) :
    closingQuote? quote (c :: rest) =
      if c = quote then some 0
      else if c = '\n' then none
      else (closingQuote? quote rest).map (· + 1) := by
  rw [closingQuote?]
  · rintro rfl
    exact absurd rfl hc
  · rintro _ _ rfl
    exact absurd rfl hc

theorem closingQuote?_eq (hq : quote = '\'' ∨ quote = '"') (h : List.Forall₂ Alike text text') :
    closingQuote? quote text = closingQuote? quote text' := by
  have hmark : quote ∈ lexicalMarks := by
    rcases hq with rfl | rfl <;> decide
  fun_induction closingQuote? quote text generalizing text' with
  | case1 =>
    cases h
    rfl
  | case2 =>
    obtain ⟨d, rest', hd, hrest, rfl⟩ := List.forall₂_cons_left_iff.mp h
    cases hrest
    rw [hd.eq_of_mem (by decide)]
    rfl
  | case3 x rest ih =>
    obtain ⟨d, _, hd, htail, rfl⟩ := List.forall₂_cons_left_iff.mp h
    obtain ⟨y, rest', _, hrest, rfl⟩ := List.forall₂_cons_left_iff.mp htail
    rw [hd.eq_of_mem (by decide), closingQuote?, ih hrest]
  | case4 rest _ _ =>
    obtain ⟨d, rest', hd, _, rfl⟩ := List.forall₂_cons_left_iff.mp h
    have hb : quote ≠ '\\' := by
      rcases hq with rfl | rfl <;> decide
    rw [hd.eq_of_mem hmark, closingQuote?_plain hb, if_pos rfl]
  | case5 rest _ _ hne =>
    obtain ⟨d, rest', hd, _, rfl⟩ := List.forall₂_cons_left_iff.mp h
    rw [hd.eq_of_mem (by decide), closingQuote?_plain (by decide), if_neg hne, if_pos rfl]
  | case6 c rest hc hc' hne hn ih =>
    obtain ⟨d, rest', hd, hrest, rfl⟩ := List.forall₂_cons_left_iff.mp h
    have hb : c ≠ '\\' := by
      rintro rfl
      cases rest with
      | nil => exact hc rfl rfl
      | cons x rest => exact hc' x rest rfl rfl
    rw [closingQuote?_plain (mt (hd.eq_iff (by decide)).mpr hb),
      if_neg (mt (hd.eq_iff hmark).mpr hne), if_neg (mt (hd.eq_iff (by decide)).mpr hn), ih hrest]

theorem Alike.not_pair {d first second : Char} {rest rest' : List Char} (hc : Alike c d)
    (hrest : List.Forall₂ Alike rest rest') (hfirst : first ∈ lexicalMarks)
    (hsecond : second ∈ lexicalMarks) (h : ∀ more, c = first → rest = second :: more → False)
    (more : List Char) : d = first → rest' = second :: more → False := by
  rintro rfl rfl
  obtain ⟨x, more', hx, _, rfl⟩ := List.forall₂_cons_right_iff.mp hrest
  exact h more' ((hc.eq_iff hfirst).mpr rfl) (by rw [(hx.eq_iff hsecond).mpr rfl])

theorem closingMark_eq (h : List.Forall₂ Alike text text') :
    closingMark text = closingMark text' := by
  fun_induction closingMark text generalizing text' with
  | case1 =>
    cases h
    rfl
  | case2 rest =>
    obtain ⟨d, _, hd, htail, rfl⟩ := List.forall₂_cons_left_iff.mp h
    obtain ⟨y, rest', hy, _, rfl⟩ := List.forall₂_cons_left_iff.mp htail
    rw [hd.eq_of_mem (by decide), hy.eq_of_mem (by decide), closingMark]
  | case3 c rest hc ih =>
    obtain ⟨d, rest', hd, hrest, rfl⟩ := List.forall₂_cons_left_iff.mp h
    rw [ih hrest, closingMark]
    exact hd.not_pair hrest (by decide) (by decide) hc

theorem length_takeWhile_line_eq (h : List.Forall₂ Alike text text') :
    (text.takeWhile (· ≠ '\n')).length = (text'.takeWhile (· ≠ '\n')).length := by
  induction h with
  | nil => rfl
  | @cons c d _ _ hc _ ih =>
    have hn : c = '\n' ↔ d = '\n' := hc.eq_iff (by decide)
    by_cases hc' : c = '\n'
    · simp [hc', hn.mp hc']
    · simpa [hc', mt hn.mpr hc'] using ih

/-- A token begins at the same places and is as wide. -/
theorem tokenWidth?_eq (h : List.Forall₂ Alike text text') :
    tokenWidth? text = tokenWidth? text' := by
  fun_cases tokenWidth? text with
  | case1 =>
    cases h
    rfl
  | case2 rest =>
    obtain ⟨d, _, hd, htail, rfl⟩ := List.forall₂_cons_left_iff.mp h
    obtain ⟨y, rest', hy, hrest, rfl⟩ := List.forall₂_cons_left_iff.mp htail
    rw [hd.eq_of_mem (by decide), hy.eq_of_mem (by decide), tokenWidth?,
      length_takeWhile_line_eq hrest]
  | case3 rest =>
    obtain ⟨d, _, hd, htail, rfl⟩ := List.forall₂_cons_left_iff.mp h
    obtain ⟨y, rest', hy, hrest, rfl⟩ := List.forall₂_cons_left_iff.mp htail
    rw [hd.eq_of_mem (by decide), hy.eq_of_mem (by decide), tokenWidth?, closingMark_eq hrest]
  | case4 c rest hl hb hq =>
    obtain ⟨d, rest', hd, hrest, rfl⟩ := List.forall₂_cons_left_iff.mp h
    have hmark : c ∈ lexicalMarks := by
      rcases hq with rfl | rfl <;> decide
    obtain rfl := hd.eq_of_mem hmark
    rw [tokenWidth?, if_pos hq, closingQuote?_eq hq hrest]
    · exact hd.not_pair hrest (by decide) (by decide) hl
    · exact hd.not_pair hrest (by decide) (by decide) hb
  | case5 c rest hl hb hq =>
    obtain ⟨d, rest', hd, hrest, rfl⟩ := List.forall₂_cons_left_iff.mp h
    have hq' : ¬ (d = '\'' ∨ d = '"') := by
      rw [← hd.eq_iff (by decide), ← hd.eq_iff (by decide)]
      exact hq
    rw [tokenWidth?, if_neg hq']
    · exact hd.not_pair hrest (by decide) (by decide) hl
    · exact hd.not_pair hrest (by decide) (by decide) hb

theorem map_blankChar_eq (h : List.Forall₂ Alike text text') :
    text.map blankChar = text'.map blankChar := by
  induction h with
  | nil => rfl
  | cons hc _ ih => rw [List.map_cons, List.map_cons, hc.blankChar_eq, ih]

theorem blank_take_eq {n : Nat} (h : List.Forall₂ Alike text text')
    (hn : tokenWidth? text = some n) :
    blank (text.take n) = blank (text'.take n) := by
  have hcomment : ∀ {rest rest' : List Char} {m : Nat}, List.Forall₂ Alike rest rest' →
      blank (('/' :: rest).take (m + 1)) = blank (('/' :: rest').take (m + 1)) := by
    intro rest rest' m hrest
    rw [List.take_succ_cons, List.take_succ_cons, blank_comment, blank_comment,
      map_blankChar_eq (List.forall₂_take m hrest)]
  revert hn
  fun_cases tokenWidth? text with
  | case1 => simp
  | case2 rest =>
    rintro ⟨⟩
    obtain ⟨d, rest', hd, hrest, rfl⟩ := List.forall₂_cons_left_iff.mp h
    obtain rfl := hd.eq_of_mem (by decide)
    exact hcomment hrest
  | case3 rest =>
    rintro ⟨⟩
    obtain ⟨d, rest', hd, hrest, rfl⟩ := List.forall₂_cons_left_iff.mp h
    obtain rfl := hd.eq_of_mem (by decide)
    exact hcomment hrest
  | case4 c rest _ _ hq =>
    intro hn
    obtain ⟨d, rest', hd, hrest, rfl⟩ := List.forall₂_cons_left_iff.mp h
    obtain rfl := hd.eq_of_mem (by rcases hq with rfl | rfl <;> decide)
    obtain ⟨m, hm, rfl⟩ := Option.map_eq_some_iff.mp hn
    have hm' : closingQuote? d rest' = some m := by rw [← closingQuote?_eq hq hrest, hm]
    rw [List.take_succ_cons, List.take_succ_cons, take_closingQuote? hm, take_closingQuote? hm',
      blank_literal hq, blank_literal hq, map_blankChar_eq (List.forall₂_take m hrest)]
  | case5 => simp

theorem lexMask_cons {rest : List Char} (h : tokenWidth? (c :: rest) = none) :
    lexMask (c :: rest) = c :: lexMask rest := by
  rw [lexMask_eq, h]

/-- A walk over one text masks the other, as long as the two differ only inside the tokens that it
meets. -/
theorem lexMask_eq_of_finds {advance : Bool} {c : Cursor} {ms : List Found}
    (h : Finds maskable advance c ms) (halike : List.Forall₂ Alike c.after text)
    (hinside : ∀ i, c.after[i]? ≠ text[i]? →
      ∃ m ∈ ms, m.first.offset ≤ c.offset + i ∧ c.offset + i < m.last.offset) :
    lexMask c.after = lexMask text := by
  induction h generalizing text with
  | stop _ hc =>
    rw [hc] at halike ⊢
    cases halike
    rfl
  | @skip advance c x rest ms hm hc h ih =>
    have hwidth : tokenWidth? (x :: rest) = none := by
      simpa [matchAt_maskable, hc] using hm
    rw [hc] at halike hinside ⊢
    obtain ⟨y, rest', _, hrest, rfl⟩ := List.forall₂_cons_left_iff.mp halike
    have hwidth' : tokenWidth? (y :: rest') = none := by rw [← tokenWidth?_eq halike, hwidth]
    have hxy : x = y := by
      by_contra hne
      obtain ⟨m, hmem, hle, _⟩ := hinside 0 (by simpa using hne)
      have hlt : c.offset + 1 ≤ m.first.offset := h.offset_le hmem
      omega
    have hafter : (c.skip 1).after = rest := by simp [hc]
    rw [lexMask_cons hwidth, lexMask_cons hwidth', hxy, ← hafter]
    congr 1
    refine ih (by rwa [hafter]) ?_
    intro i hi
    obtain ⟨m, hmem, hle, hlt⟩ := hinside (i + 1) (by
      rw [hafter] at hi
      simpa using hi)
    exact ⟨m, hmem, by simp only [Cursor.skip_offset]; omega,
      by simp only [Cursor.skip_offset]; omega⟩
  | @take advance c m ms hm h ih =>
    rw [matchAt_maskable, Option.map_eq_some_iff] at hm
    obtain ⟨n, hwidth, rfl⟩ := hm
    have hwidth' : tokenWidth? text = some n := by rw [← tokenWidth?_eq halike, hwidth]
    rw [lexMask_eq, hwidth, lexMask_eq text, hwidth']
    have hrest : lexMask (c.after.drop n) = lexMask (text.drop n) := by
      rw [← Cursor.skip_after]
      refine ih (List.forall₂_drop n halike) ?_
      intro i hi
      rw [Cursor.skip_after, List.getElem?_drop, List.getElem?_drop] at hi
      obtain ⟨m', hmem, hle, hlt⟩ := hinside (n + i) hi
      rcases List.mem_cons.mp hmem with rfl | hmem
      · simp only [Cursor.skip_offset] at hlt
        omega
      · exact ⟨m', hmem, by simp only [Cursor.skip_offset]; omega,
          by simp only [Cursor.skip_offset]; omega⟩
    simp only [blank_take_eq halike hwidth, hrest]

end Tokens

/-- Whether a position lies inside a comment or a literal. -/
def InToken (text : List Char) (position : Nat) : Prop :=
  ∃ m ∈ findAll maskable text, m.first.offset ≤ position ∧ position < m.last.offset

instance (text : List Char) (position : Nat) : Decidable (InToken text position) :=
  inferInstanceAs (Decidable (∃ m ∈ findAll maskable text, _))

section Places

variable {text text' : List Char}

theorem forall₂_alike (hlength : text.length = text'.length)
    (hmarks : ∀ i : Nat, text[i]? ≠ text'[i]? →
      ∀ c, text[i]? = some c ∨ text'[i]? = some c → c ∉ lexicalMarks) :
    List.Forall₂ Alike text text' := by
  rw [List.forall₂_iff_get]
  refine ⟨hlength, ?_⟩
  intro i hi hi'
  by_cases he : text[i]? = text'[i]?
  · left
    simpa [List.getElem?_eq_getElem, hi, hi'] using he
  · right
    exact ⟨hmarks i he _ (.inl (List.getElem?_eq_getElem hi)),
      hmarks i he _ (.inr (List.getElem?_eq_getElem hi'))⟩

theorem lineNumber_eq (h : List.Forall₂ Alike text text') (offset : Int) :
    lineNumber text offset = lineNumber text' offset :=
  lineNumber_eq_of_forall₂ (fun _ _ hc => hc.eq_iff (by decide)) h offset

/-- Nothing that stands inside comments and literals, marks apart, has an influence on the mask, on
the function around a place or on its line. -/
theorem mask_eq_of_differ_inside (hlength : text.length = text'.length)
    (hinside : ∀ i : Nat, text[i]? ≠ text'[i]? → InToken text i)
    (hmarks : ∀ i : Nat, text[i]? ≠ text'[i]? →
      ∀ c, text[i]? = some c ∨ text'[i]? = some c → c ∉ lexicalMarks) :
    mask text = mask text' ∧ ∀ offset : Int,
      (contextAt text offset).functionName = (contextAt text' offset).functionName ∧
        (contextAt text offset).lineNumber = (contextAt text' offset).lineNumber := by
  have halike := forall₂_alike hlength hmarks
  have hmask : mask text = mask text' := by
    calc mask text
        = lexMask text := (lexMask_eq_mask text).symm
      _ = lexMask text' := by
          refine lexMask_eq_of_finds (findAll_finds maskable text) halike ?_
          intro i hi
          simpa [InToken, Cursor.start] using hinside i hi
      _ = mask text' := lexMask_eq_mask text'
  refine ⟨hmask, fun offset => ⟨?_, lineNumber_eq halike offset⟩⟩
  rw [functionName_contextAt, functionName_contextAt, hmask]

end Places

def bracesInside : List Char :=
  "function f() \x7b \"\x7d\" /* \x7b */ g".toList

def bracesExchanged : List Char :=
  "function f() \x7b \"\x7b\" /* # */ g".toList

theorem mask_eq_bracesInside :
    bracesInside ≠ bracesExchanged ∧ InToken bracesInside 16 ∧ InToken bracesInside 22 ∧
      mask bracesInside = mask bracesExchanged ∧ ∀ offset : Int,
        (contextAt bracesInside offset).functionName =
            (contextAt bracesExchanged offset).functionName ∧
          (contextAt bracesInside offset).lineNumber =
            (contextAt bracesExchanged offset).lineNumber := by
  have hlength : bracesInside.length = bracesExchanged.length := by decide +kernel
  have hdiffer : ∀ i : Nat, bracesInside[i]? ≠ bracesExchanged[i]? → i = 16 ∨ i = 22 := by
    have hbelow : ∀ i < bracesInside.length,
        bracesInside[i]? ≠ bracesExchanged[i]? → i = 16 ∨ i = 22 := by decide +kernel
    intro i hi
    by_cases hlt : i < bracesInside.length
    · exact hbelow i hlt hi
    · rw [List.getElem?_eq_none (by omega), List.getElem?_eq_none (by omega)] at hi
      exact absurd rfl hi
  have hinside : ∀ i ∈ [16, 22], InToken bracesInside i := by decide +kernel
  have hplain : ∀ i ∈ [16, 22], (bracesInside[i]?.toList ++ bracesExchanged[i]?.toList).all
      (· ∉ lexicalMarks) = true := by decide +kernel
  refine ⟨by decide +kernel, hinside 16 (by decide), hinside 22 (by decide),
    mask_eq_of_differ_inside hlength ?_ ?_⟩
  · intro i hi
    exact hinside i (by simpa using hdiffer i hi)
  · intro i hi c hc
    have hall := List.all_eq_true.mp (hplain i (by simpa using hdiffer i hi))
    exact of_decide_eq_true (hall c (by simpa using hc))

end ContractScan.Source
