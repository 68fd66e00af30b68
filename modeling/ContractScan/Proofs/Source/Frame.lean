import ContractScan.Proofs.Pattern.Search
import ContractScan.Proofs.Source.Lines
import ContractScan.Source.Mask

/-! # What masking keeps

Masking puts spaces in the place of characters and does nothing else: no place
moves, and line feeds stay. A place found in the masked text can therefore be
reported in the text itself.
-/

namespace ContractScan.Source

open Pattern

/-- What can become of a character: itself, or a space unless it is a line feed. -/
def MaskedTo (c d : Char) : Prop :=
  d = c ∨ c ≠ '\n' ∧ d = ' '

namespace MaskedTo

variable {c d : Char}

theorem refl (c : Char) : MaskedTo c c :=
  .inl rfl

theorem blankChar (c : Char) : MaskedTo c (blankChar c) := by
  unfold Source.blankChar
  split
  · exact .refl c
  next hc => exact .inr ⟨by simpa using hc, rfl⟩

theorem newline_iff (h : MaskedTo c d) : c = '\n' ↔ d = '\n' := by
  rcases h with rfl | ⟨hc, rfl⟩
  · rfl
  · simp [hc]

end MaskedTo

theorem forall₂_map_blankChar (text : List Char) :
    List.Forall₂ MaskedTo text (text.map blankChar) := by
  rw [List.forall₂_map_right_iff, List.forall₂_same]
  exact fun c _ => .blankChar c

theorem forall₂_blank (token : List Char) : List.Forall₂ MaskedTo token (blank token) := by
  cases token with
  | nil => exact .nil
  | cons c rest =>
    rw [blank]
    split
    · refine .cons (.refl c) ?_
      rcases List.eq_nil_or_concat rest with rfl | ⟨inside, last, rfl⟩
      · exact .nil
      · simpa using List.rel_append (forall₂_map_blankChar inside) (.cons (.refl last) .nil)
    · exact forall₂_map_blankChar _

/-- Replacing each match by a text that is related to it, character by character, gives a text that
is related to the whole. -/
theorem forall₂_splice {R : Char → Char → Prop} {f : List Char → List Char} {p : Node}
    {advance : Bool} {c : Cursor} {ms : List Found} (hrefl : ∀ c, R c c)
    (hf : ∀ token, List.Forall₂ R token (f token)) (h : Finds p advance c ms) :
    List.Forall₂ R c.after (splice f c.offset c.after ms) := by
  induction h with
  | stop _ hc =>
    rw [hc]
    exact .nil
  | @skip advance c x rest ms _ hc h ih =>
    rw [hc, splice_cons _ _ _ fun m hm => h.offset_le hm]
    simp only [Cursor.skip_after, Cursor.skip_offset, hc] at ih
    exact .cons (hrefl x) ih
  | @take advance c m ms hm h ih =>
    obtain ⟨n, -, -, hlast⟩ := matchAt_reaches hm
    have hfirst := matchAt_first hm
    have hsplit : c.after = m.chars ++ m.last.after := by
      simp [Found.chars, Cursor.upTo, hfirst, hlast]
    rw [splice, hfirst, Nat.sub_self, List.take_zero, List.nil_append, hsplit]
    exact List.rel_append (hf m.chars) ih

theorem forall₂_mask (text : List Char) : List.Forall₂ MaskedTo text (mask text) :=
  forall₂_splice .refl forall₂_blank (findAll_finds maskable text)

theorem getElem?_mask (text : List Char) (i : Nat) :
    text[i]? = none ∧ (mask text)[i]? = none ∨
      ∃ c d, text[i]? = some c ∧ (mask text)[i]? = some d ∧ MaskedTo c d := by
  obtain ⟨hlength, hplaces⟩ := List.forall₂_iff_get.mp (forall₂_mask text)
  rcases Nat.lt_or_ge i text.length with hi | hi
  · have hi' : i < (mask text).length := hlength ▸ hi
    exact .inr ⟨_, _, List.getElem?_eq_getElem hi, List.getElem?_eq_getElem hi', hplaces i hi hi'⟩
  · exact .inl ⟨List.getElem?_eq_none hi, List.getElem?_eq_none (hlength ▸ hi)⟩

/-- Masking keeps the length and every character that it does not replace by a space; line feeds it
never replaces, so every place stays in its line. -/
theorem mask_keeps_places (text : List Char) :
    (mask text).length = text.length ∧
      (∀ i : Nat, (mask text)[i]? = text[i]? ∨
        (mask text)[i]? = some ' ' ∧ ∃ c, text[i]? = some c ∧ c ≠ '\n') ∧
      (∀ i : Nat, (mask text)[i]? = some '\n' ↔ text[i]? = some '\n') ∧
      ∀ offset : Int, lineNumber (mask text) offset = lineNumber text offset := by
  have hmask := forall₂_mask text
  refine ⟨hmask.length_eq.symm, ?_, ?_, ?_⟩
  · intro i
    rcases getElem?_mask text i with ⟨hnone, hnone'⟩ | ⟨c, d, hc, hd, rfl | ⟨hne, rfl⟩⟩
    · exact .inl (hnone'.trans hnone.symm)
    · exact .inl (hd.trans hc.symm)
    · exact .inr ⟨hd, c, hc, hne⟩
  · intro i
    rcases getElem?_mask text i with ⟨hnone, hnone'⟩ | ⟨c, d, hc, hd, hmasked⟩
    · rw [hnone, hnone']
    · rw [hc, hd, Option.some.injEq, Option.some.injEq, hmasked.newline_iff]
  · intro offset
    exact (lineNumber_eq_of_forall₂ (fun _ _ h => h.newline_iff) hmask offset).symm

end ContractScan.Source
