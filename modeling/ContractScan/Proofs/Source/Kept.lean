import ContractScan.Proofs.Source.Frame
import ContractScan.Proofs.Source.Inside

/-! # Kept characters

Where masking keeps a character, other than a blank or a quote, the lexer stands
between tokens. From there on it masks as if the text began at that place, and
what it put before the place joins no word and cuts none.
-/

namespace ContractScan.Source

open Pattern

/-- What masking leaves of a token: blanks, line feeds and quotes. -/
def remnants : List Char :=
  [' ', '\n', '\'', '"']

def openers : List Char :=
  ['/', '\'', '"']

/-- The lexer stands between tokens at a place, and a word runs up to the place in the text exactly
if one does in the masked text. -/
structure Resumes (text : List Char) (place : Nat) : Prop where
  drop_eq : (lexMask text).drop place = lexMask (text.drop place)
  isWordAt_eq : isWordAt false ((lexMask text).take place).reverse =
    isWordAt false (text.take place).reverse

section Words

theorem isWordAt_append {l : List Char} (h : l ≠ []) (rest : List Char) :
    isWordAt false (l ++ rest) = isWordAt false l := by
  cases l with
  | nil => exact absurd rfl h
  | cons c l => rfl

theorem isWordAt_of_remnants {l : List Char} (h : ∀ c ∈ l, c ∈ remnants) :
    isWordAt false l = false := by
  cases l with
  | nil => rfl
  | cons c l =>
    have hc : c ∈ remnants := h c List.mem_cons_self
    simp only [remnants, List.mem_cons, List.not_mem_nil, or_false] at hc
    rcases hc with rfl | rfl | rfl | rfl <;> rfl

end Words

section Tokens

variable {text rest : List Char} {c : Char} {n : Nat}

theorem tokenWidth?_eq_none (hc : c ∉ openers) (rest : List Char) :
    tokenWidth? (c :: rest) = none := by
  simp only [openers, List.mem_cons, List.not_mem_nil, or_false, not_or] at hc
  obtain ⟨hslash, hquotes⟩ := hc
  rw [tokenWidth?, if_neg (not_or.mpr hquotes)]
  · rintro _ rfl
    exact absurd rfl hslash
  · rintro _ rfl
    exact absurd rfl hslash

theorem mem_openers_of_token (h : tokenWidth? (c :: rest) = some n) : c ∈ openers := by
  by_contra hc
  rw [tokenWidth?_eq_none hc] at h
  cases h

theorem tokenWidth?_ne_zero (text : List Char) : tokenWidth? text ≠ some 0 := by
  fun_cases tokenWidth? text <;> simp

theorem length_blank (token : List Char) : (blank token).length = token.length :=
  (forall₂_blank token).length_eq.symm

theorem lexMask_token (h : tokenWidth? text = some n) :
    lexMask text = blank (text.take n) ++ lexMask (text.drop n) := by
  rw [lexMask_eq, h]

theorem blankChar_mem_remnants (c : Char) : blankChar c ∈ remnants := by
  unfold blankChar
  split
  next h => simp [remnants, beq_iff_eq.mp h]
  · simp [remnants]

theorem mem_remnants_of_mem_blank (hn : tokenWidth? text = some n)
    (hc : c ∈ blank (text.take n)) : c ∈ remnants := by
  have hmap {l : List Char} (h : c ∈ l.map blankChar) : c ∈ remnants := by
    obtain ⟨x, -, rfl⟩ := List.mem_map.mp h
    exact blankChar_mem_remnants x
  have hcomment {l : List Char} {m : Nat} (h : c ∈ blank (('/' :: l).take (m + 1))) :
      c ∈ remnants := by
    rw [List.take_succ_cons, blank_comment] at h
    rcases List.mem_cons.mp h with rfl | h
    · simp [remnants]
    · exact hmap h
  revert hn hc
  fun_cases tokenWidth? text with
  | case1 => simp
  | case2 rest =>
    rintro ⟨⟩ hc
    exact hcomment hc
  | case3 rest =>
    rintro ⟨⟩ hc
    exact hcomment hc
  | case4 quote rest _ _ hq =>
    intro hn hc
    obtain ⟨m, hm, rfl⟩ := Option.map_eq_some_iff.mp hn
    have hquote : quote ∈ remnants := by
      rcases hq with rfl | rfl <;> simp [remnants]
    rw [List.take_succ_cons, take_closingQuote? hm, blank_literal hq, List.mem_append,
      List.mem_cons, List.mem_singleton] at hc
    rcases hc with (rfl | hc) | rfl
    · exact hquote
    · exact hmap hc
    · exact hquote
  | case5 => simp

theorem take_closingMark (text : List Char) :
    text.drop (closingMark text) = [] ∨
      ∃ inside, text.take (closingMark text) = inside ++ ['/'] := by
  fun_induction closingMark text with
  | case1 => exact .inl rfl
  | case2 rest => exact .inr ⟨['*'], rfl⟩
  | case3 c rest _ ih =>
    rcases ih with hdrop | ⟨inside, htake⟩
    · exact .inl (by rwa [List.drop_succ_cons])
    · exact .inr ⟨c :: inside, by rw [List.take_succ_cons, htake, List.cons_append]⟩

theorem isWordAt_of_token (hn : tokenWidth? text = some n) (hc : (text.drop n).head? = some c)
    (hfeed : c ≠ '\n') : isWordAt false (text.take n).reverse = false := by
  revert hn hc
  fun_cases tokenWidth? text with
  | case1 => simp
  | case2 rest =>
    rintro ⟨⟩ hc
    rw [List.drop_succ_cons, List.drop_succ_cons, drop_length_takeWhile] at hc
    have hstop := List.head?_dropWhile_not (· ≠ '\n') rest
    rw [hc] at hstop
    simp only [ne_eq, decide_not, Bool.not_eq_eq_eq_not, Bool.not_false] at hstop
    exact absurd (of_decide_eq_true hstop) hfeed
  | case3 rest =>
    rintro ⟨⟩ hc
    rw [List.drop_succ_cons, List.drop_succ_cons] at hc
    rcases take_closingMark rest with hdrop | ⟨inside, htake⟩
    · rw [hdrop] at hc
      cases hc
    · rw [List.take_succ_cons, List.take_succ_cons, htake, ← List.cons_append, ← List.cons_append,
        List.reverse_append]
      rfl
  | case4 quote rest _ _ hq =>
    intro hn _
    obtain ⟨m, hm, rfl⟩ := Option.map_eq_some_iff.mp hn
    rw [List.take_succ_cons, take_closingQuote? hm, ← List.cons_append, List.reverse_append]
    rcases hq with rfl | rfl <;> rfl
  | case5 => simp

end Tokens

section Places

variable {text : List Char} {c : Char} {i : Nat}

theorem length_lexMask (text : List Char) : (lexMask text).length = text.length := by
  rw [lexMask_eq_mask, (forall₂_mask text).length_eq]

theorem Resumes.append {first first' rest : List Char} (h : Resumes rest i)
    (hi : i < rest.length) (hlength : first'.length = first.length)
    (hmask : lexMask (first ++ rest) = first' ++ lexMask rest)
    (hedge : i = 0 → isWordAt false first'.reverse = isWordAt false first.reverse) :
    Resumes (first ++ rest) (first.length + i) := by
  refine ⟨?_, ?_⟩
  · rw [hmask, ← hlength, List.drop_length_add_append, hlength, List.drop_length_add_append,
      h.drop_eq]
  · rw [hmask, ← hlength, List.take_length_add_append, hlength, List.take_length_add_append,
      List.reverse_append, List.reverse_append]
    cases i with
    | zero => simpa using hedge rfl
    | succ i =>
      have hne : (rest.take (i + 1)).reverse ≠ [] := by
        simpa using List.ne_nil_of_length_pos (by omega)
      have hne' : ((lexMask rest).take (i + 1)).reverse ≠ [] := by
        simpa using List.ne_nil_of_length_pos (by rw [length_lexMask]; omega)
      rw [isWordAt_append hne, isWordAt_append hne', h.isWordAt_eq]

theorem resumes_zero (text : List Char) : Resumes text 0 where
  drop_eq := by rw [List.drop_zero, List.drop_zero]
  isWordAt_eq := by rw [List.take_zero, List.take_zero]

theorem resumes_of_token {n : Nat} (hwidth : tokenWidth? text = some n)
    (htext : text[i]? = some c) (hmask : (lexMask text)[i]? = some c) (hc : c ∉ remnants)
    (hrest : ∀ {j : Nat}, (text.drop n)[j]? = some c → (lexMask (text.drop n))[j]? = some c →
      Resumes (text.drop n) j) :
    Resumes text i := by
  have hi : i < text.length := (List.getElem?_eq_some_iff.mp htext).1
  rw [lexMask_token hwidth] at hmask
  rcases Nat.lt_or_ge i n with hlt | hge
  · rw [List.getElem?_append_left (by rw [length_blank, List.length_take]; omega)] at hmask
    exact absurd (mem_remnants_of_mem_blank hwidth (List.mem_of_getElem? hmask)) hc
  · obtain ⟨j, rfl⟩ := Nat.exists_eq_add_of_le hge
    have htoken : (text.take n).length = n := List.length_take_of_le (by omega)
    have hblank : (blank (text.take n)).length = n := by rw [length_blank, htoken]
    rw [List.getElem?_append_right (by omega), hblank, Nat.add_sub_cancel_left] at hmask
    rw [← List.getElem?_drop] at htext
    have hedge : j = 0 →
        isWordAt false (blank (text.take n)).reverse = isWordAt false (text.take n).reverse := by
      rintro rfl
      have hhead : (text.drop n).head? = some c := by rwa [List.head?_eq_getElem?]
      have hfeed : c ≠ '\n' := by
        rintro rfl
        exact hc (by simp [remnants])
      rw [isWordAt_of_token hwidth hhead hfeed, isWordAt_of_remnants]
      intro x hx
      exact mem_remnants_of_mem_blank hwidth (List.mem_reverse.mp hx)
    have hresumes := (hrest htext hmask).append (by rw [List.length_drop]; omega)
      (length_blank _) (by rw [List.take_append_drop, lexMask_token hwidth]) hedge
    rwa [List.take_append_drop, htoken] at hresumes

theorem resumes_of_finds {advance : Bool} {cursor : Cursor} {ms : List Found}
    (h : Finds maskable advance cursor ms) (htext : cursor.after[i]? = some c)
    (hmask : (lexMask cursor.after)[i]? = some c) (hc : c ∉ remnants) :
    Resumes cursor.after i := by
  induction h generalizing i with
  | stop _ hafter =>
    rw [hafter] at htext
    cases htext
  | @skip advance cursor x rest ms hm hafter h ih =>
    have hwidth : tokenWidth? (x :: rest) = none := by
      simpa [matchAt_maskable, hafter] using hm
    have hrest : (cursor.skip 1).after = rest := by simp [hafter]
    rw [hrest] at ih
    rw [hafter] at htext hmask ⊢
    cases i with
    | zero => exact resumes_zero _
    | succ i =>
      rw [lexMask_cons hwidth, List.getElem?_cons_succ] at hmask
      rw [List.getElem?_cons_succ] at htext
      have hlt : i < rest.length := (List.getElem?_eq_some_iff.mp htext).1
      have hresumes : Resumes ([x] ++ rest) ([x].length + i) :=
        (ih htext hmask).append hlt rfl (lexMask_cons hwidth) fun _ => rfl
      rwa [List.length_singleton, Nat.add_comm] at hresumes
  | @take advance cursor m ms hm h ih =>
    rw [matchAt_maskable, Option.map_eq_some_iff] at hm
    obtain ⟨n, hwidth, rfl⟩ := hm
    exact resumes_of_token hwidth htext hmask hc ih

/-- The lexer resumes wherever masking keeps a character that is no remnant. -/
theorem resumes_of_kept (htext : text[i]? = some c) (hmask : (lexMask text)[i]? = some c)
    (hc : c ∉ remnants) : Resumes text i :=
  resumes_of_finds (findAll_finds maskable text) htext hmask hc

theorem lexMask_append {first : List Char} (h : ∀ c ∈ first, c ∉ openers)
    (rest : List Char) : lexMask (first ++ rest) = first ++ lexMask rest := by
  induction first with
  | nil => rfl
  | cons c first ih =>
    rw [List.forall_mem_cons] at h
    rw [List.cons_append, lexMask_cons (tokenWidth?_eq_none h.1 _), ih h.2, List.cons_append]

theorem isWordAt_lexMask (text : List Char) :
    isWordAt false (lexMask text) = isWordAt false text := by
  cases text with
  | nil => rw [lexMask]
  | cons c rest =>
    cases hwidth : tokenWidth? (c :: rest) with
    | none =>
      rw [lexMask_cons hwidth]
      rfl
    | some n =>
      have hword : isWordAt false (c :: rest) = false := by
        have hc := mem_openers_of_token hwidth
        simp only [openers, List.mem_cons, List.not_mem_nil, or_false] at hc
        rcases hc with rfl | rfl | rfl <;> rfl
      have hblank : blank ((c :: rest).take n) ≠ [] := by
        cases n with
        | zero => exact absurd hwidth (tokenWidth?_ne_zero _)
        | succ n =>
          refine List.ne_nil_of_length_pos ?_
          rw [length_blank, List.take_succ_cons]
          exact Nat.succ_pos _
      rw [lexMask_token hwidth, isWordAt_append hblank, hword]
      exact isWordAt_of_remnants fun x => mem_remnants_of_mem_blank hwidth

theorem width_le_length {cursor : Cursor} {n : Nat} {advance : Bool}
    (h : matchAt maskable advance cursor = some ⟨cursor, cursor.skip n, []⟩) :
    n ≤ cursor.after.length := by
  obtain ⟨k, -, hk, hlast⟩ := matchAt_reaches h
  have hoffset := congrArg Cursor.offset hlast
  simp only [Cursor.skip_offset, Nat.add_left_cancel_iff] at hoffset
  omega

/-- At every place masking leaves a remnant of the token there, or else keeps the character. -/
theorem masked_or_kept_of_finds {advance : Bool} {cursor : Cursor} {ms : List Found}
    (h : Finds maskable advance cursor ms) (i : Nat) :
    (∃ m ∈ ms, m.first.offset ≤ cursor.offset + i ∧ cursor.offset + i < m.last.offset) ∧
        (∃ c ∈ remnants, (lexMask cursor.after)[i]? = some c) ∨
      (∀ m ∈ ms, ¬ (m.first.offset ≤ cursor.offset + i ∧ cursor.offset + i < m.last.offset)) ∧
        (lexMask cursor.after)[i]? = cursor.after[i]? := by
  induction h generalizing i with
  | stop _ hafter =>
    right
    rw [hafter, lexMask]
    exact ⟨List.forall_mem_nil _, rfl⟩
  | @skip advance cursor x rest ms hm hafter h ih =>
    have hwidth : tokenWidth? (x :: rest) = none := by
      simpa [matchAt_maskable, hafter] using hm
    have hrest : (cursor.skip 1).after = rest := by simp [hafter]
    rw [hafter, lexMask_cons hwidth]
    cases i with
    | zero =>
      right
      refine ⟨fun m hmem hcovers => ?_, rfl⟩
      have hle : cursor.offset + 1 ≤ m.first.offset := h.offset_le hmem
      omega
    | succ i =>
      have hstep := ih i
      rw [hrest, Cursor.skip_offset, Nat.add_assoc, Nat.add_comm 1 i] at hstep
      exact hstep
  | @take advance cursor m ms hm h ih =>
    have hfound := hm
    rw [matchAt_maskable, Option.map_eq_some_iff] at hm
    obtain ⟨n, hwidth, rfl⟩ := hm
    have hn : (cursor.after.take n).length = n := List.length_take_of_le (width_le_length hfound)
    have hblank : (blank (cursor.after.take n)).length = n := by rw [length_blank, hn]
    rw [lexMask_token hwidth]
    rcases Nat.lt_or_ge i n with hlt | hge
    · left
      rw [List.getElem?_append_left (by omega), List.getElem?_eq_getElem (by omega)]
      refine ⟨⟨_, List.mem_cons_self, Nat.le_add_right .., Nat.add_lt_add_left hlt _⟩, _, ?_, rfl⟩
      exact mem_remnants_of_mem_blank hwidth (List.getElem_mem _)
    · obtain ⟨j, rfl⟩ := Nat.exists_eq_add_of_le hge
      have hstep := ih j
      rw [Cursor.skip_after, Cursor.skip_offset, Nat.add_assoc, List.getElem?_drop] at hstep
      rw [List.getElem?_append_right (by omega), hblank, Nat.add_sub_cancel_left]
      rcases hstep with ⟨⟨m, hmem, hcovers⟩, hremnant⟩ | ⟨hout, hkept⟩
      · exact .inl ⟨⟨m, List.mem_cons_of_mem _ hmem, hcovers⟩, hremnant⟩
      · refine .inr ⟨List.forall_mem_cons.mpr ⟨?_, hout⟩, hkept⟩
        simp only [Cursor.skip_offset]
        omega

theorem masked_or_kept (text : List Char) (i : Nat) :
    InToken text i ∧ (∃ c ∈ remnants, (mask text)[i]? = some c) ∨
      ¬ InToken text i ∧ (mask text)[i]? = text[i]? := by
  have hcases := masked_or_kept_of_finds (findAll_finds maskable text) i
  simp only [Cursor.start, Nat.zero_add] at hcases
  rw [← lexMask_eq_mask, InToken]
  rcases hcases with hin | ⟨hout, hkept⟩
  · exact .inl hin
  · refine .inr ⟨?_, hkept⟩
    rintro ⟨m, hmem, hcovers⟩
    exact hout m hmem hcovers

theorem getElem?_first {m : Found} (h : m ∈ findAll maskable text) :
    ∃ c ∈ openers, text[m.first.offset]? = some c := by
  have hfinds := findAll_finds maskable text
  obtain ⟨advance, hat⟩ := hfinds.exists_matchAt m h
  obtain ⟨n, -, -, hfirst⟩ := (hfinds.reaches m h).1
  rw [matchAt_maskable, Option.map_eq_some_iff] at hat
  obtain ⟨width, hwidth, -⟩ := hat
  rw [hfirst] at hwidth ⊢
  simp only [Cursor.start, Cursor.skip_after, Cursor.skip_offset, Nat.zero_add] at hwidth ⊢
  rw [← List.head?_drop]
  cases hrest : text.drop n with
  | nil =>
    rw [hrest] at hwidth
    cases hwidth
  | cons c rest =>
    rw [hrest] at hwidth
    exact ⟨c, mem_openers_of_token hwidth, rfl⟩

end Places

end ContractScan.Source
