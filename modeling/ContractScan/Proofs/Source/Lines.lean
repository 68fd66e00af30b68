import ContractScan.Proofs.Text.Pieces
import ContractScan.Source.Context
import Mathlib.Data.List.Forall2

/-! # Lines of a text

The lines of a text, joined again, are the text. Counting the line feeds before a
place and cutting the text into lines tell the same line. The lines that are shown
of a place are whole ones, and hold what begins at the place and goes over at most
three line feeds.
-/

namespace ContractScan

namespace Source

section Counting

theorem before_natCast {α : Type} (items : List α) (bound : Nat) :
    before items (bound : Int) = items.take bound := by
  simp [before, Int.not_lt.mpr (Int.natCast_nonneg bound)]

theorem lineNumber_natCast (text : List Char) (offset : Nat) :
    lineNumber text offset = (text.take offset).count '\n' + 1 := by
  rw [lineNumber, before_natCast]

theorem lineNumber_eq_of_forall₂ {R : Char → Char → Prop} {text text' : List Char}
    (hR : ∀ c d, R c d → (c = '\n' ↔ d = '\n')) (h : List.Forall₂ R text text') (offset : Int) :
    lineNumber text offset = lineNumber text' offset := by
  have hcount : ∀ {t t' : List Char}, List.Forall₂ R t t' → t.count '\n' = t'.count '\n' := by
    intro t t' ht
    induction ht with
    | nil => rfl
    | cons hc _ ih => simp only [List.count_cons, ih, beq_iff_eq, hR _ _ hc]
  simp only [lineNumber, before, h.length_eq]
  rw [hcount (List.forall₂_take _ h)]

end Counting

section Joining

theorem joinLines_singleton (line : List Char) : joinLines [line] = line := by
  simp [joinLines]

theorem joinLines_cons_cons (line next : List Char) (rest : List (List Char)) :
    joinLines (line :: next :: rest) = line ++ '\n' :: joinLines (next :: rest) := by
  simp [joinLines]

theorem joinLines_append (done : List (List Char)) (line : List Char) (rest : List (List Char)) :
    joinLines (done ++ line :: rest) =
      done.flatMap (· ++ ['\n']) ++ joinLines (line :: rest) := by
  induction done with
  | nil => rfl
  | cons first done ih =>
    obtain ⟨next, more, hmore⟩ : ∃ next more, done ++ line :: rest = next :: more :=
      List.exists_cons_of_ne_nil (by simp)
    rw [List.cons_append, hmore, joinLines_cons_cons, ← hmore, ih]
    simp

theorem lines_ne_nil (text : List Char) : lines text ≠ [] :=
  Text.pieces_ne_nil text

theorem lines_cons (c : Char) (rest : List Char) :
    lines (c :: rest) =
      if c = '\n' then [] :: lines rest else (lines rest).modifyHead (c :: ·) :=
  Text.pieces_cons c rest

theorem joinLines_lines (text : List Char) : joinLines (lines text) = text :=
  Text.intercalate_pieces '\n' text

theorem feed_not_mem_of_mem_lines {text line : List Char} (h : line ∈ lines text) :
    '\n' ∉ line :=
  Text.not_mem_of_mem_pieces h

/-- A place stands in one line, after as many whole lines as there are line feeds before it. -/
theorem exists_line_at (left right : List Char) :
    ∃ done head tail rest, lines (left ++ right) = done ++ (head ++ tail) :: rest ∧
      left = done.flatMap (· ++ ['\n']) ++ head ∧ done.length = left.count '\n' ∧ '\n' ∉ head := by
  induction left with
  | nil =>
    obtain ⟨line, rest, hlines⟩ := List.exists_cons_of_ne_nil (lines_ne_nil right)
    exact ⟨[], [], line, rest, hlines, rfl, rfl, List.not_mem_nil⟩
  | cons c left ih =>
    obtain ⟨done, head, tail, rest, hlines, hleft, hcount, hhead⟩ := ih
    rw [List.cons_append, lines_cons, hlines]
    by_cases hc : c = '\n'
    · refine ⟨[] :: done, head, tail, rest, by simp [hc], ?_, by simp [hc, hcount], hhead⟩
      simp [hc, ← hleft]
    · rw [if_neg hc]
      cases done with
      | nil =>
        refine ⟨[], c :: head, tail, rest, rfl, by simp [hleft], ?_, by simp [Ne.symm hc, hhead]⟩
        simpa [hc] using hcount
      | cons line done =>
        refine ⟨(c :: line) :: done, head, tail, rest, rfl, by simp [hleft], ?_, hhead⟩
        simpa [hc] using hcount

theorem prefix_joinLines_cons (line : List Char) (rest : List (List Char)) :
    line <+: joinLines (line :: rest) := by
  cases rest with
  | nil => exact ⟨[], by rw [joinLines_singleton, List.append_nil]⟩
  | cons next rest =>
    rw [joinLines_cons_cons]
    exact List.prefix_append _ _

theorem suffix_joinLines_append (done : List (List Char)) {lines : List (List Char)}
    (h : lines ≠ []) : joinLines lines <:+ joinLines (done ++ lines) := by
  obtain ⟨line, rest, rfl⟩ := List.exists_cons_of_ne_nil h
  rw [joinLines_append]
  exact List.suffix_append _ _

theorem prefix_joinLines_take {part : List Char} {lines : List (List Char)} {feeds : Nat}
    (h : part <+: joinLines lines) (hfeeds : part.count '\n' ≤ feeds) :
    part <+: joinLines (lines.take (feeds + 1)) := by
  induction lines generalizing part feeds with
  | nil => simpa using h
  | cons line rest ih =>
    cases rest with
    | nil => simpa using h
    | cons next rest =>
      rw [joinLines_cons_cons] at h
      rw [List.take_succ_cons]
      rcases Nat.le_total part.length line.length with hle | hle
      · have hline := List.prefix_of_prefix_length_le h (List.prefix_append _ _) hle
        exact hline.trans (prefix_joinLines_cons _ _)
      · obtain ⟨more, rfl⟩ := List.prefix_of_prefix_length_le (List.prefix_append _ _) h hle
        cases more with
        | nil => simpa using prefix_joinLines_cons line _
        | cons c more =>
          rw [List.prefix_append_right_inj, List.cons_prefix_cons] at h
          obtain ⟨rfl, hmore⟩ := h
          simp only [List.count_append, List.count_cons_self] at hfeeds
          obtain ⟨feeds, rfl⟩ : ∃ n, feeds = n + 1 := ⟨feeds - 1, by omega⟩
          have htail : more <+: joinLines ((next :: rest).take (feeds + 1)) := ih hmore (by omega)
          rw [List.take_succ_cons] at htail ⊢
          rw [joinLines_cons_cons, List.prefix_append_right_inj]
          exact List.cons_prefix_cons.mpr ⟨rfl, htail⟩

end Joining

section Snippets

def lineStart (text : List Char) (position : Nat) : Nat :=
  (((lines text).take position).flatMap (· ++ ['\n'])).length

/-- The lines shown of a position: one before it and three after it, as far as there are any. -/
def shown (lines : List (List Char)) (position : Nat) : List (List Char) :=
  lines.extract (position - 1) (min (lines.length - 1) (position + 3) + 1)

theorem shown_eq {lines : List (List Char)} {position : Nat} (h : position < lines.length) :
    shown lines position =
      (lines.take position).drop (position - 1) ++ (lines.drop position).take 4 := by
  have hall : shown lines position = (lines.drop (position - 1)).take
      (position - (position - 1) + 4) := by
    rw [shown, List.extract_eq_take_drop, List.take_eq_take_iff, List.length_drop]
    omega
  rw [hall, List.take_add, List.drop_drop, List.drop_take,
    show position - 1 + (position - (position - 1)) = position by omega]

theorem length_shown {lines : List (List Char)} {position : Nat} (h : position < lines.length) :
    1 ≤ (shown lines position).length ∧ (shown lines position).length ≤ 5 := by
  simp only [shown_eq h, List.length_append, List.length_drop, List.length_take]
  omega

theorem snippet_eq {lines : List (List Char)} {position : Nat} (h : position < lines.length) :
    snippet lines (position + 1 : Nat) = joinLines (shown lines position) := by
  have hne : lines.isEmpty = false := by
    cases lines with
    | nil => simp at h
    | cons => rfl
  have hlast : min ((lines.length : Int) - 1) ((position + 1 : Nat) + 2) + 1 =
      ((min (lines.length - 1) (position + 3) + 1 : Nat) : Int) := by omega
  have hfirst : (max 0 (((position + 1 : Nat) : Int) - 2)).toNat = position - 1 := by omega
  simp only [snippet, hne, Bool.false_eq_true, if_false, hlast, before_natCast, hfirst]
  rw [shown, List.extract_eq_take_drop, List.drop_take]

/-- What begins inside a line and goes over at most three line feeds is shown with the line. -/
theorem infix_joinLines_shown {done rest : List (List Char)} {head tail part : List Char}
    (hpart : head ++ part <+: joinLines ((head ++ tail) :: rest)) (hhead : '\n' ∉ head)
    (hfeeds : part.count '\n' ≤ 3) :
    part <:+: joinLines (shown (done ++ (head ++ tail) :: rest) done.length) := by
  have hcount : (head ++ part).count '\n' ≤ 3 := by
    rw [List.count_append, List.count_eq_zero.mpr hhead]
    omega
  have hbegins : head ++ part <+: joinLines (((head ++ tail) :: rest).take 4) :=
    prefix_joinLines_take hpart hcount
  have hends : joinLines (((head ++ tail) :: rest).take 4) <:+
      joinLines (shown (done ++ (head ++ tail) :: rest) done.length) := by
    rw [shown_eq (by simp), List.drop_left]
    exact suffix_joinLines_append _ (by simp)
  exact ((List.suffix_append head part).isInfix.trans hbegins.isInfix).trans hends.isInfix

/-- What a context tells of the lines around a place of a text. -/
structure Context.ShowsLines (text : List Char) (offset : Nat) (context : Context) : Prop where
  /-- The place stands in the line of that number, or at its end. -/
  line : ∃ line, (lines text)[context.lineNumber - 1]? = some line ∧
    line <+: text.drop (lineStart text (context.lineNumber - 1)) ∧
    lineStart text (context.lineNumber - 1) ≤ offset ∧
    offset ≤ lineStart text (context.lineNumber - 1) + line.length
  snippet : context.snippet = joinLines (shown (lines text) (context.lineNumber - 1))
  count : 1 ≤ (shown (lines text) (context.lineNumber - 1)).length ∧
    (shown (lines text) (context.lineNumber - 1)).length ≤ 5
  part : ∀ part, part <+: text.drop offset → part.count '\n' ≤ 3 → part <:+: context.snippet

theorem showsLines_contextAt {text : List Char} {offset : Nat} (h : offset ≤ text.length) :
    (contextAt text offset).ShowsLines text offset := by
  obtain ⟨done, head, tail, rest, hlines, hleft, hcount, hhead⟩ :=
    exists_line_at (text.take offset) (text.drop offset)
  rw [List.take_append_drop] at hlines
  have hposition : (contextAt text offset).lineNumber - 1 = done.length := by
    change lineNumber text offset - 1 = _
    rw [lineNumber_natCast, Nat.add_sub_cancel, hcount]
  have hlt : done.length < (lines text).length := by simp [hlines]
  have hsnippet : (contextAt text offset).snippet = joinLines (shown (lines text) done.length) := by
    change snippet (lines text) (lineNumber text offset) = _
    rw [lineNumber_natCast, ← hcount, snippet_eq hlt]
  have hstart : lineStart text done.length = (done.flatMap (· ++ ['\n'])).length := by
    simp [lineStart, hlines]
  have hoffset : offset = lineStart text done.length + head.length := by
    have hlength := congrArg List.length hleft
    rw [List.length_take_of_le h, List.length_append, ← hstart] at hlength
    exact hlength
  have htext : text = done.flatMap (· ++ ['\n']) ++ (head ++ text.drop offset) := by
    rw [← List.append_assoc, ← hleft, List.take_append_drop]
  have hjoined : joinLines ((head ++ tail) :: rest) = head ++ text.drop offset := by
    have hall := joinLines_lines text
    rw [hlines, joinLines_append] at hall
    exact List.append_cancel_left (hall.trans htext)
  have hdrop : text.drop (lineStart text done.length) = head ++ text.drop offset :=
    (congrArg (List.drop _) htext).trans (List.drop_left' hstart.symm)
  constructor
  · rw [hposition]
    refine ⟨head ++ tail, by simp [hlines], ?_, by omega, by simp; omega⟩
    rw [hdrop, ← hjoined]
    exact prefix_joinLines_cons _ _
  · rw [hposition, hsnippet]
  · rw [hposition]
    exact length_shown hlt
  · intro part hpart hfeeds
    rw [hsnippet, hlines]
    refine infix_joinLines_shown ?_ hhead hfeeds
    rw [hjoined, List.prefix_append_right_inj]
    exact hpart

end Snippets

end Source

end ContractScan
