import ContractScan.Text.Pieces
import Mathlib.Data.List.Forall2

/-! # Pieces and joined texts

Cutting a text at a character undoes joining pieces with it, as long as no piece
holds the character. No piece of a cut text does.
-/

namespace ContractScan.Text

variable {separator : Char}

theorem piecesFrom_eq (done text : List Char) :
    piecesFrom separator done text = (pieces separator text).modifyHead (done.reverse ++ ·) := by
  unfold pieces
  induction text generalizing done with
  | nil => simp [piecesFrom]
  | cons c rest ih =>
    rw [piecesFrom, piecesFrom]
    split
    · simp
    · rw [ih (c :: done), ih [c], List.modifyHead_modifyHead]
      simp [Function.comp_def]

theorem pieces_cons (c : Char) (rest : List Char) :
    pieces separator (c :: rest) =
      if c = separator then [] :: pieces separator rest
      else (pieces separator rest).modifyHead (c :: ·) := by
  rw [pieces, piecesFrom, piecesFrom_eq, piecesFrom_eq]
  by_cases hc : c = separator
  · cases pieces separator rest <;> simp [hc]
  · simp [hc]

theorem pieces_ne_nil (text : List Char) : pieces separator text ≠ [] := by
  induction text with
  | nil => simp [pieces, piecesFrom]
  | cons c rest ih =>
    rw [pieces_cons]
    split
    · simp
    · simpa using ih

theorem pieces_eq_splitOn (separator : Char) (text : List Char) :
    pieces separator text = text.splitOn separator := by
  induction text with
  | nil => rfl
  | cons c rest ih =>
    rw [pieces_cons, List.splitOn_cons_eq_if_modifyHead, ih]
    simp only [beq_iff_eq]

theorem not_mem_of_mem_pieces {text piece : List Char} (h : piece ∈ pieces separator text) :
    separator ∉ piece := by
  induction text generalizing piece with
  | nil =>
    obtain rfl := List.mem_singleton.mp h
    exact List.not_mem_nil
  | cons c rest ih =>
    obtain ⟨first, more, hpieces⟩ := List.exists_cons_of_ne_nil (pieces_ne_nil rest)
    rw [hpieces, List.forall_mem_cons] at ih
    obtain ⟨hfirst, hmore⟩ := ih
    rw [pieces_cons, hpieces] at h
    split at h
    next hc =>
      obtain rfl | rfl | hpiece := by simpa only [List.mem_cons] using h
      · exact List.not_mem_nil
      · exact hfirst
      · exact hmore piece hpiece
    next hc =>
      obtain rfl | hpiece := by simpa only [List.modifyHead_cons, List.mem_cons] using h
      · simpa [Ne.symm hc] using hfirst
      · exact hmore piece hpiece

theorem piecesFrom_append_cons {piece rest : List Char} (done : List Char)
    (h : separator ∉ piece) :
    piecesFrom separator done (piece ++ separator :: rest) =
      (done.reverse ++ piece) :: pieces separator rest := by
  induction piece generalizing done with
  | nil => simp [piecesFrom, pieces]
  | cons c piece ih =>
    rw [List.mem_cons, not_or] at h
    have hbeq : (c == separator) = false := by simpa using Ne.symm h.1
    simp [piecesFrom, hbeq, ih _ h.2]

theorem pieces_flatMap {lines : List (List Char)}
    (h : ∀ line ∈ lines, separator ∉ line) :
    pieces separator (lines.flatMap (· ++ [separator])) = lines ++ [[]] := by
  induction lines with
  | nil => rfl
  | cons line lines ih =>
    obtain ⟨hline, hlines⟩ := List.forall_mem_cons.mp h
    rw [List.flatMap_cons, List.append_assoc, List.singleton_append, pieces,
      piecesFrom_append_cons [] hline, ih hlines]
    rfl

theorem pieces_intercalate {segments : List String} (hne : segments ≠ [])
    (h : ∀ segment ∈ segments, separator ∉ segment.toList) :
    pieces separator ((String.singleton separator).intercalate segments).toList =
      segments.map String.toList := by
  rw [pieces_eq_splitOn, String.toList_intercalate, String.toList_singleton]
  exact List.splitOn_intercalate separator (by simpa using h) (by simpa using hne)

theorem intercalate_pieces (separator : Char) (text : List Char) :
    [separator].intercalate (pieces separator text) = text := by
  rw [pieces_eq_splitOn]
  exact List.intercalate_splitOn separator

theorem intercalate_map_pieces (separator : Char) (text : String) :
    (String.singleton separator).intercalate
      ((pieces separator text.toList).map String.ofList) = text := by
  have hback : ((pieces separator text.toList).map String.ofList).map String.toList =
      pieces separator text.toList := by
    rw [List.map_map]
    exact List.map_id'' (fun piece => String.toList_ofList) _
  rw [← String.toList_inj, String.toList_intercalate, String.toList_singleton, hback,
    intercalate_pieces]

end ContractScan.Text
