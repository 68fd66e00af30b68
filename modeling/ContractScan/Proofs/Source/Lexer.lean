import ContractScan.Proofs.Pattern.Search
import ContractScan.Proofs.Pattern.Steps
import ContractScan.Source.Mask

/-! # Masking in a single pass

A lexer that reads a text once, from left to right, blanks out the same
comments and literals as the search for maskable tokens. At every place the
text after it decides alone whether a token begins there and how long it is.
-/

namespace ContractScan.Source

open Pattern

/-- How many characters stand before the quote that closes a literal, if it is closed within the
line. A backslash takes the character after it along, a line feed too. -/
def closingQuote? (quote : Char) : List Char → Option Nat
  | [] => none
  | ['\\'] => none
  | '\\' :: _ :: rest => (closingQuote? quote rest).map (· + 2)
  | c :: rest =>
    if c = quote then some 0
    else if c = '\n' then none
    else (closingQuote? quote rest).map (· + 1)

/-- How many characters a block comment has after its opening mark: through the first closing mark,
or through the end of the text. -/
def closingMark : List Char → Nat
  | [] => 0
  | '*' :: '/' :: _ => 2
  | _ :: rest => closingMark rest + 1

def tokenWidth? : List Char → Option Nat
  | [] => none
  | '/' :: '/' :: rest => some ((rest.takeWhile (· ≠ '\n')).length + 2)
  | '/' :: '*' :: rest => some (closingMark rest + 2)
  | c :: rest => if c = '\'' ∨ c = '"' then (closingQuote? c rest).map (· + 2) else none

/-- Blanks out comments and the insides of literals while reading the text once. -/
def lexMask : List Char → List Char
  | [] => []
  | '/' :: '/' :: rest =>
    ' ' :: ' ' :: (rest.takeWhile (· ≠ '\n')).map blankChar ++ lexMask (rest.dropWhile (· ≠ '\n'))
  | '/' :: '*' :: rest =>
    ' ' :: ' ' :: (rest.take (closingMark rest)).map blankChar ++
      lexMask (rest.drop (closingMark rest))
  | c :: rest =>
    if c = '\'' ∨ c = '"' then
      match closingQuote? c rest with
      | some n => c :: (rest.take n).map blankChar ++ c :: lexMask (rest.drop (n + 1))
      | none => c :: lexMask rest
    else c :: lexMask rest
termination_by text => text.length
decreasing_by
  all_goals simp only [List.length_cons, List.length_drop]
  · have := (List.dropWhile_suffix (l := rest) (· ≠ '\n')).length_le
    omega
  all_goals omega

def literalPart (quote : Char) : Node :=
  .alt (.seq (.char '\\') (.chars .any)) (.noneOf [quote, '\\', '\n'])

section Literal

variable {quote x : Char} {rest : List Char} {s : State}

theorem run_literalPart_escape (k : Continuation) (h : s.cursor.after = '\\' :: x :: rest) :
    (literalPart quote).run s k = k (s.skip 2) := by
  have h1 : (s.skip 1).cursor.after = x :: rest := by simp [h]
  rw [literalPart, run_alt, run_seq, run_char, if_pos (by simp [h]), run_chars_cons h1,
    Node.noneOf, run_chars_cons h, CharSet.contains_noneOf]
  simp

theorem run_literalPart_stuck (k : Continuation)
    (h : s.cursor.after = [] ∨ s.cursor.after = ['\\']) :
    (literalPart quote).run s k = none := by
  rw [literalPart, run_alt, run_seq, run_char, Node.noneOf]
  rcases h with h | h
  · simp [h, run_chars_nil h]
  · have h1 : (s.skip 1).cursor.after = [] := by simp [h]
    rw [run_chars_nil h1, run_chars_cons h, CharSet.contains_noneOf]
    simp

theorem run_literalPart_plain (k : Continuation) (h : s.cursor.after = x :: rest)
    (hx : x ≠ '\\') :
    (literalPart quote).run s k = if x = quote ∨ x = '\n' then none else k (s.skip 1) := by
  rw [literalPart, run_alt, run_seq, run_char, if_neg (by simp [h, hx.symm]), Node.noneOf,
    run_chars_cons h, CharSet.contains_noneOf]
  by_cases hq : x = quote <;> by_cases hn : x = '\n' <;> simp [hx, hq, hn]

/-- The rounds inside a literal go on exactly to its closing quote. -/
theorem greedyRounds_literalPart (hq : quote ≠ '\\') (k : Continuation) {text : List Char}
    {fuel count : Nat} {last : Option Nat} (h : s.cursor.after = text) (hf : text.length < fuel)
    (hl : last ≠ some s.cursor.offset) :
    greedyRounds (fun s k => (literalPart quote).run s k) 0 none
        (fun s' => (Node.char quote).run s' k) fuel count last s =
      (closingQuote? quote text).bind fun n => k (s.skip (n + 1)) := by
  induction fuel generalizing s count last text with
  | zero => omega
  | succ fuel ih =>
    rw [greedyRounds_star hl, run_char]
    have hnext : ∀ n, some s.cursor.offset ≠ some (s.skip (n + 1)).cursor.offset := by simp
    fun_cases closingQuote? quote text with
    | case1 => simp [run_literalPart_stuck _ (Or.inl h), h]
    | case2 => simp [run_literalPart_stuck _ (Or.inr h), h, hq]
    | case3 x rest =>
      have hlen : rest.length < fuel := by simp at hf; omega
      rw [run_literalPart_escape _ h, ih (by simp [h]) hlen (hnext 1)]
      have hskip : ∀ n, (s.skip 2).skip (n + 1) = s.skip (n + 2 + 1) := fun n => by
        rw [State.skip_skip, show 2 + (n + 1) = n + 2 + 1 by omega]
      simp only [hskip, Option.bind_map, Function.comp_def]
      simp [h, hq]
    | case4 rest hc hc' =>
      rw [run_literalPart_plain _ h hq, if_pos (Or.inl rfl)]
      simp [h]
    | case5 rest hc hc' hn =>
      rw [run_literalPart_plain _ h (by decide), if_pos (Or.inr rfl)]
      simp [h, Ne.symm hn]
    | case6 c rest hc hc' hne hn =>
      have hb : c ≠ '\\' := by
        rintro rfl
        cases rest with
        | nil => exact hc rfl rfl
        | cons x rest => exact hc' x rest rfl rfl
      have hlen : rest.length < fuel := by simp at hf; omega
      rw [run_literalPart_plain _ h hb, if_neg (by simp [hne, hn]),
        ih (by simp [h]) hlen (hnext 0)]
      have hskip : ∀ n, (s.skip 1).skip (n + 1) = s.skip (n + 1 + 1) := fun n => by
        rw [State.skip_skip, Nat.add_comm 1]
      simp only [hskip, Option.bind_map, Function.comp_def]
      simp [h, Ne.symm hne]

theorem run_stringLiteral (hq : quote ≠ '\\') (s : State) (k : Continuation) :
    (stringLiteral quote).run s k =
      match s.cursor.after with
      | [] => none
      | c :: rest =>
        if c = quote then (closingQuote? quote rest).bind fun n => k (s.skip (n + 2))
        else none := by
  rw [stringLiteral, run_seq, run_char]
  cases h : s.cursor.after with
  | nil => simp
  | cons c rest =>
    by_cases hc : c = quote
    · subst hc
      have hrest : (s.skip 1).cursor.after = rest := by simp [h]
      have hskip : ∀ n, (s.skip 1).skip (n + 1) = s.skip (n + 2) := fun n => by
        rw [State.skip_skip, show 1 + (n + 1) = n + 2 by omega]
      simp only [List.cons_prefix_cons, List.nil_prefix, and_self, if_true]
      change greedyRounds (fun s k => (literalPart c).run s k) 0 none
        (fun s' => (Node.char c).run s' k) (roundLimit 0 (s.skip 1)) 0 none (s.skip 1) = _
      rw [greedyRounds_literalPart hq k hrest (by simp [roundLimit, h]) (by simp)]
      simp only [hskip]
    · simp [hc, Ne.symm hc]

end Literal

theorem run_lineComment (s : State) :
    lineComment.run s some =
      if ['/', '/'] <+: s.cursor.after then
        some (s.skip (((s.cursor.after.drop 2).takeWhile (· ≠ '\n')).length + 2))
      else none := by
  have hset : CharSet.contains { items := ['\n'].map fun c => .code c.toNat, negated := true } =
      fun c => decide (c ≠ '\n') := by
    funext c
    simp only [CharSet.contains_noneOf, List.mem_singleton, ne_eq]
  have hstar : ∀ s', (Node.star (.noneOf ['\n'])).run s' some =
      some (s'.skip (s'.cursor.after.takeWhile (· ≠ '\n')).length) := fun s' => by
    rw [Node.noneOf, run_star_of_committed rfl (by simp), stretch, hset]
  simp only [lineComment, run_seq, run_literal, hstar]
  simp [Nat.add_comm 2]

def commentEnd : Node :=
  .alt (.literal "*/") (.anchor .textEnd)

theorem run_commentEnd (s : State) :
    commentEnd.run s some =
      if ['*', '/'] <+: s.cursor.after then some (s.skip 2)
      else if s.cursor.after = [] then some s else none := by
  rw [commentEnd, run_alt, run_literal]
  simp only [Node.run, Anchor.holds, List.isEmpty_iff]
  change (if ['*', '/'] <+: s.cursor.after then some (s.skip 2) else none).or _ = _
  split <;> simp

theorem findSome?_commentEnd (captures : List Capture) (before after : List Char) (offset : Nat) :
    ((strides .any after.length before after offset).findSome? fun c =>
        commentEnd.run ⟨c, captures⟩ some) =
      some (State.skip ⟨⟨before, after, offset⟩, captures⟩ (closingMark after)) := by
  simp only [run_commentEnd]
  fun_induction closingMark after generalizing before offset with
  | case1 => simp [strides_nil]
  | case2 rest => simp [strides]
  | case3 x rest hx ih =>
    have hp : ¬ ['*', '/'] <+: x :: rest := by
      rintro ⟨rest', h⟩
      cases h
      exact hx rest' rfl rfl
    simp only [List.length_cons, strides, CharSet.contains_any, if_true, List.findSome?_cons, hp,
      if_false, ih, reduceCtorEq]
    simp [State.skip, Cursor.skip_cons]

theorem run_blockComment (s : State) :
    blockComment.run s some =
      if ['/', '*'] <+: s.cursor.after then
        some (s.skip (closingMark (s.cursor.after.drop 2) + 2))
      else none := by
  have hlazy : ∀ s', (Node.repetition .lazy 0 none (.chars .any)).run s'
      (fun s' => commentEnd.run s' some) = some (s'.skip (closingMark s'.cursor.after)) := by
    intro s'
    simp only [Node.run, repeatChars_eq, strideWays, Option.getD_none, List.drop_zero]
    exact findSome?_commentEnd ..
  change (Node.literal "/*").run s (fun s' => (Node.repetition .lazy 0 none (.chars .any)).run s'
    (fun s' => commentEnd.run s' some)) = _
  simp only [run_literal, hlazy]
  simp [Nat.add_comm 2]

theorem run_maskable (s : State) :
    maskable.run s some = (tokenWidth? s.cursor.after).map s.skip := by
  change (Node.alt (stringLiteral '\'') (.alt (stringLiteral '"') (.alt lineComment
    blockComment))).run s some = _
  rw [run_alt, run_alt, run_alt, run_stringLiteral (by decide), run_stringLiteral (by decide),
    run_lineComment, run_blockComment]
  generalize s.cursor.after = text
  fun_cases tokenWidth? text with
  | case1 => simp
  | case2 rest => simp
  | case3 rest => simp
  | case4 c rest hc hc' hq =>
    rcases hq with rfl | rfl
    · cases h : closingQuote? '\'' rest <;> simp [h]
    · cases h : closingQuote? '"' rest <;> simp [h]
  | case5 c rest hc hc' hq =>
    have hl : ¬ ['/', '/'] <+: c :: rest := by
      rintro ⟨rest', h⟩
      cases h
      exact hc rest' rfl rfl
    have hb : ¬ ['/', '*'] <+: c :: rest := by
      rintro ⟨rest', h⟩
      cases h
      exact hc' rest' rfl rfl
    simp only [not_or] at hq
    simp [hq, hl, hb]

/-- Whether a token begins at a place, and how long it is, is decided by the text after it. -/
theorem matchAt_maskable (advance : Bool) (c : Cursor) :
    matchAt maskable advance c = (tokenWidth? c.after).map fun n => ⟨c, c.skip n, []⟩ := by
  rw [matchAt_of_leastWidth_pos (by decide), run_maskable, Option.map_map]
  rfl

theorem getElem?_of_closingQuote? {quote : Char} {text : List Char} {n : Nat}
    (h : closingQuote? quote text = some n) : text[n]? = some quote := by
  fun_induction closingQuote? quote text generalizing n with
  | case1 => cases h
  | case2 => cases h
  | case3 x rest ih =>
    obtain ⟨m, hm, rfl⟩ := Option.map_eq_some_iff.mp h
    simpa using ih hm
  | case4 =>
    cases h
    rfl
  | case5 => cases h
  | case6 c rest _ _ _ _ ih =>
    obtain ⟨m, hm, rfl⟩ := Option.map_eq_some_iff.mp h
    simpa using ih hm

theorem blank_literal {quote : Char} (hq : quote = '\'' ∨ quote = '"') (inside : List Char) :
    blank (quote :: (inside ++ [quote])) = quote :: inside.map blankChar ++ [quote] := by
  rcases hq with rfl | rfl <;> simp [blank]

theorem blank_comment (text : List Char) :
    blank ('/' :: text) = ' ' :: text.map blankChar := by
  simp [blank, blankChar]

theorem take_closingQuote? {q : Char} {rest : List Char} {n : Nat}
    (h : closingQuote? q rest = some n) : rest.take (n + 1) = rest.take n ++ [q] := by
  rw [List.take_add_one, getElem?_of_closingQuote? h, Option.toList_some]

theorem lexMask_eq (text : List Char) :
    lexMask text =
      match tokenWidth? text, text with
      | some n, text => blank (text.take n) ++ lexMask (text.drop n)
      | none, [] => []
      | none, c :: rest => c :: lexMask rest := by
  fun_cases tokenWidth? text with
  | case1 => rw [lexMask]
  | case2 rest =>
    rw [lexMask]
    simp only [List.take_succ_cons, List.drop_succ_cons, take_length_takeWhile,
      drop_length_takeWhile, blank_comment, List.map_cons]
    rfl
  | case3 rest =>
    rw [lexMask]
    simp only [List.take_succ_cons, List.drop_succ_cons, blank_comment, List.map_cons]
    rfl
  | case4 c rest hc hc' hq =>
    rw [lexMask, if_pos hq]
    · cases h : closingQuote? c rest with
      | none => rfl
      | some n =>
        simp only [Option.map_some, List.take_succ_cons, List.drop_succ_cons, take_closingQuote? h,
          blank_literal hq]
        simp
    · exact hc
    · exact hc'
  | case5 c rest hc hc' hq =>
    rw [lexMask, if_neg hq]
    · exact hc
    · exact hc'

theorem splice_blank {advance : Bool} {c : Cursor} {ms : List Found}
    (h : Finds maskable advance c ms) : splice blank c.offset c.after ms = lexMask c.after := by
  induction h with
  | stop _ hc => simp [hc, splice, lexMask]
  | @skip advance c x rest ms hm hc h ih =>
    have hn : tokenWidth? (x :: rest) = none := by
      simpa [matchAt_maskable, hc] using hm
    rw [hc, splice_cons _ _ _ fun m hm => h.offset_le hm, lexMask_eq, hn]
    simpa [hc] using ih
  | @take advance c m ms hm h ih =>
    rw [matchAt_maskable, Option.map_eq_some_iff] at hm
    obtain ⟨n, hn, rfl⟩ := hm
    rw [splice, lexMask_eq, hn]
    simpa [Found.chars, Cursor.upTo] using ih

theorem lexMask_eq_mask (text : List Char) : lexMask text = mask text :=
  (splice_blank (findAll_finds maskable text)).symm

/-- Masking by searching for tokens is the lexer's single pass. -/
theorem mask_eq_lexMask (text : List Char) : mask text = lexMask text :=
  (lexMask_eq_mask text).symm

end ContractScan.Source
