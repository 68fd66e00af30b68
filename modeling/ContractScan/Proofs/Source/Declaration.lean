import ContractScan.Proofs.Source.Header
import ContractScan.Proofs.Source.Kept

/-! # Contract declarations

A declaration is the word `contract`, blanks and a name. The contract of a text
is named by its first declaration, and comments and literals are searched with
the rest. Masking them first leads to the same declaration exactly if no part of
the first declarations stands inside a comment or a literal.
-/

namespace ContractScan.Source

open Pattern

def contractKeyword : List Char :=
  ['c', 'o', 'n', 't', 'r', 'a', 'c', 't']

/-- The keyword at a place, then blanks, then a name. -/
@[ext] structure Declaration where
  place : Nat
  gap : List Char
  name : List Char
  gap_ne_nil : gap ≠ []
  isBlank_of_mem : ∀ c ∈ gap, Text.isBlank c = true
  name_ne_nil : name ≠ []
  isWordChar_of_mem : ∀ c ∈ name, Text.isWordChar c = true

namespace Declaration

def chars (d : Declaration) : List Char :=
  contractKeyword ++ (d.gap ++ d.name)

def stop (d : Declaration) : Nat :=
  d.place + d.chars.length

end Declaration

/-- A text has a declaration, from the start of a word to the end of one. -/
structure Declares (text : List Char) (d : Declaration) : Prop where
  wordStart : isWordAt false (text.take d.place).reverse = false
  chars : d.chars <+: text.drop d.place
  wordEnd : isWordAt false (text.drop d.stop) = false

/-- The declaration of a text that no other comes before. -/
def IsFirst (text : List Char) (d : Declaration) : Prop :=
  Declares text d ∧ ∀ e, Declares text e → d.place ≤ e.place

/-- No character of a declaration stands inside a comment or a literal. -/
def InCode (text : List Char) (d : Declaration) : Prop :=
  ∀ i, d.place ≤ i → i < d.stop → ¬ InToken text i

section Reading

variable {text : List Char} {d e : Declaration}

def gapIn (text : List Char) : List Char :=
  (text.drop 8).takeWhile Text.isBlank

theorem takeWhile_isWordChar_eq_nil (h : isWordAt false text = false) :
    text.takeWhile Text.isWordChar = [] := by
  cases text with
  | nil => rfl
  | cons c rest =>
    have hc : Text.isWordChar c = false := h
    simp [hc]

theorem isWordAt_dropWhile (text : List Char) :
    isWordAt false (text.dropWhile Text.isWordChar) = false := by
  cases hrest : text.dropWhile Text.isWordChar with
  | nil => rfl
  | cons c rest =>
    have hc := List.head?_dropWhile_not Text.isWordChar text
    rw [hrest] at hc
    exact hc

theorem gapIn_keyword_append (rest : List Char) :
    gapIn (contractKeyword ++ rest) = rest.takeWhile Text.isBlank := by
  rw [gapIn, List.drop_left' (show contractKeyword.length = 8 from rfl)]

theorem nameIn_keyword_append (rest : List Char) :
    nameIn (contractKeyword ++ rest) = (rest.dropWhile Text.isBlank).takeWhile Text.isWordChar := by
  rw [nameIn, nameStart, ← List.drop_drop,
    List.drop_left' (show contractKeyword.length = 8 from rfl), drop_length_takeWhile]

namespace Declaration

variable {rest : List Char}

theorem takeWhile_isBlank_name (d : Declaration) (rest : List Char) :
    (d.name ++ rest).takeWhile Text.isBlank = [] := by
  cases hname : d.name with
  | nil => exact absurd hname d.name_ne_nil
  | cons c name =>
    have hword : Text.isWordChar c = true := d.isWordChar_of_mem c (by simp [hname])
    have hblank : Text.isBlank c = false := by
      rw [Bool.eq_false_iff]
      intro hc
      rw [isWordChar_of_isBlank hc] at hword
      cases hword
    simp [hblank]

theorem gapIn_chars_append (d : Declaration) (rest : List Char) :
    gapIn (d.chars ++ rest) = d.gap := by
  rw [chars, List.append_assoc, gapIn_keyword_append, List.append_assoc,
    List.takeWhile_append_of_pos d.isBlank_of_mem, takeWhile_isBlank_name, List.append_nil]

theorem nameIn_chars_append (d : Declaration) (h : isWordAt false rest = false) :
    nameIn (d.chars ++ rest) = d.name := by
  have hdrop : (d.name ++ rest).dropWhile Text.isBlank = d.name ++ rest := by
    rw [← drop_length_takeWhile, takeWhile_isBlank_name]
    rfl
  rw [chars, List.append_assoc, nameIn_keyword_append, List.append_assoc,
    List.dropWhile_append_of_pos d.isBlank_of_mem, hdrop,
    List.takeWhile_append_of_pos d.isWordChar_of_mem, takeWhile_isWordChar_eq_nil h,
    List.append_nil]

theorem place_lt_stop (d : Declaration) : d.place < d.stop :=
  Nat.lt_add_of_pos_right (Nat.succ_pos _)

theorem drop_stop (d : Declaration) (text : List Char) :
    text.drop d.stop = (text.drop d.place).drop d.chars.length := by
  rw [stop, List.drop_drop]

end Declaration

theorem exists_append_of_keyword {after : List Char} (h : contractKeyword <+: after) :
    ∃ rest, isWordAt false rest = false ∧
      contractKeyword ++ (gapIn after ++ nameIn after) ++ rest = after := by
  obtain ⟨more, rfl⟩ := h
  refine ⟨(more.dropWhile Text.isBlank).dropWhile Text.isWordChar, isWordAt_dropWhile _, ?_⟩
  rw [gapIn_keyword_append, nameIn_keyword_append, List.append_assoc, List.append_assoc,
    List.takeWhile_append_dropWhile, List.takeWhile_append_dropWhile]

def declarationAt (text : List Char) (place : Nat) (hgap : gapIn (text.drop place) ≠ [])
    (hname : nameIn (text.drop place) ≠ []) : Declaration where
  place := place
  gap := gapIn (text.drop place)
  name := nameIn (text.drop place)
  gap_ne_nil := hgap
  isBlank_of_mem := List.all_eq_true.mp List.all_takeWhile
  name_ne_nil := hname
  isWordChar_of_mem := List.all_eq_true.mp List.all_takeWhile

theorem declares_iff : Declares text d ↔
    isWordAt false (text.take d.place).reverse = false ∧ contractKeyword <+: text.drop d.place ∧
      d.gap = gapIn (text.drop d.place) ∧ d.name = nameIn (text.drop d.place) := by
  constructor
  · rintro ⟨hstart, ⟨rest, hrest⟩, hend⟩
    rw [d.drop_stop, ← hrest, List.drop_left] at hend
    rw [← hrest, d.gapIn_chars_append, d.nameIn_chars_append hend]
    refine ⟨hstart, ?_, rfl, rfl⟩
    rw [Declaration.chars, List.append_assoc]
    exact List.prefix_append ..
  · rintro ⟨hstart, hkeyword, hgap, hname⟩
    obtain ⟨rest, hend, hrest⟩ := exists_append_of_keyword hkeyword
    rw [← hgap, ← hname, ← Declaration.chars] at hrest
    refine ⟨hstart, ⟨rest, hrest⟩, ?_⟩
    rwa [d.drop_stop, ← hrest, List.drop_left]

theorem Declares.eq_of_place (hd : Declares text d) (he : Declares text e)
    (h : d.place = e.place) : d = e := by
  obtain ⟨-, -, hgap, hname⟩ := declares_iff.mp hd
  obtain ⟨-, -, hgap', hname'⟩ := declares_iff.mp he
  rw [h] at hgap hname
  exact Declaration.ext h (hgap.trans hgap'.symm) (hname.trans hname'.symm)

theorem Declares.place_lt (h : Declares text d) : d.place < text.length := by
  have hle := h.chars.length_le
  have hpos : 8 ≤ d.chars.length := by
    rw [Declaration.chars, List.length_append]
    exact Nat.le_add_right ..
  rw [List.length_drop] at hle
  omega

end Reading

section Searching

variable {text : List Char} {d : Declaration}

def declarationName : Node :=
  .group 1 (.plus (.oneOf [.kind .word false]))

theorem run_declarationName (s : State) :
    declarationName.run s some =
      if s.cursor.after.takeWhile Text.isWordChar = [] then none
      else some ((s.skip (s.cursor.after.takeWhile Text.isWordChar).length).record 1 s.cursor) := by
  have hn : stretch { items := [.kind .word false] } s.cursor.after =
      (s.cursor.after.takeWhile Text.isWordChar).length := by
    rw [stretch, contains_word]
  change (Node.plus (.chars { items := [.kind .word false] })).run s
    (fun s' => some (s'.record 1 s.cursor)) = _
  rw [run_plus_of_committed hn (by simp)]
  simp only [List.length_eq_zero_iff]

def declarationMatch (c : Cursor) : Found where
  first := c
  last := c.skip (nameStart c.after + (nameIn c.after).length)
  captures := [⟨1, c.skip (nameStart c.after),
    c.skip (nameStart c.after + (nameIn c.after).length)⟩]

theorem group?_declarationMatch (c : Cursor) :
    (declarationMatch c).group? 1 = some (String.ofList (nameIn c.after)) := by
  have hn : (c.after.drop (nameStart c.after)).take (nameIn c.after).length = nameIn c.after :=
    take_length_takeWhile ..
  simp [Found.group?, declarationMatch, Cursor.upTo_skip, hn]

theorem run_contractDeclaration (c : Cursor) :
    contractDeclaration.run { cursor := c } some =
      if isWordAt false c.before = false ∧ contractKeyword <+: c.after then
        (Node.seq (.plus (.oneOf [.kind .space false])) declarationName).run
          { cursor := c.skip 8 } some
      else none :=
  run_word_then "contract" (by decide) _ c

theorem matchAt_contractDeclaration (advance : Bool) (c : Cursor) :
    matchAt contractDeclaration advance c =
      if (isWordAt false c.before = false ∧ contractKeyword <+: c.after) ∧ gapIn c.after ≠ [] ∧
        nameIn c.after ≠ [] then some (declarationMatch c) else none := by
  rw [matchAt_of_leastWidth_pos (by decide), run_contractDeclaration]
  by_cases hk : isWordAt false c.before = false ∧ contractKeyword <+: c.after
  · have hblanks := run_blanks_then (fun s hs => by rw [run_declarationName, if_pos hs])
      { cursor := c.skip 8 }
    have hgap : (c.after.drop 8).takeWhile Text.isBlank = gapIn c.after := rfl
    have hstart : 8 + (gapIn c.after).length = nameStart c.after := rfl
    have hin : (c.after.drop (nameStart c.after)).takeWhile Text.isWordChar = nameIn c.after := rfl
    rw [if_pos hk, hblanks, run_declarationName]
    simp only [State.skip, Cursor.skip_skip, Cursor.skip_after, hgap, hstart, hin]
    by_cases hb : gapIn c.after = []
    · simp [hb]
    · by_cases hn : nameIn c.after = []
      · simp [hn]
      · simp [hk, hb, hn, declarationMatch, State.record]
  · rw [if_neg hk, if_neg (fun h => hk h.1), Option.map_none]

theorem declares_of_matchAt {i : Nat} {m : Found}
    (h : matchAt contractDeclaration false ((Cursor.start text).skip i) = some m) :
    ∃ d, d.place = i ∧ Declares text d ∧ m.group? 1 = some (String.ofList d.name) := by
  rw [matchAt_contractDeclaration] at h
  split at h
  next hc =>
    cases h
    obtain ⟨⟨hstart, hkeyword⟩, hgap, hname⟩ := hc
    rw [Cursor.skip_before, Cursor.start, List.append_nil] at hstart
    exact ⟨declarationAt text i hgap hname, rfl, declares_iff.mpr ⟨hstart, hkeyword, rfl, rfl⟩,
      group?_declarationMatch _⟩
  · cases h

theorem not_declares_of_matchAt
    (h : matchAt contractDeclaration false ((Cursor.start text).skip d.place) = none) :
    ¬ Declares text d := by
  intro hd
  obtain ⟨hstart, hkeyword, hgap, hname⟩ := declares_iff.mp hd
  rw [matchAt_contractDeclaration, if_pos] at h
  · cases h
  · rw [Cursor.skip_before, Cursor.skip_after, Cursor.start, List.append_nil, ← hgap, ← hname]
    exact ⟨⟨hstart, hkeyword⟩, d.gap_ne_nil, d.name_ne_nil⟩

theorem not_declares_of_search (h : search contractDeclaration text = none) (d : Declaration) :
    ¬ Declares text d := by
  intro hd
  exact not_declares_of_matchAt (matchAt_of_searchFrom_eq_none h (Nat.le_of_lt hd.place_lt)) hd

theorem isFirst_of_search {m : Found} (h : search contractDeclaration text = some m) :
    ∃ d, IsFirst text d ∧ m.group? 1 = some (String.ofList d.name) := by
  obtain ⟨i, -, hat, hbefore⟩ := matchAt_of_searchFrom_eq_some h
  obtain ⟨d, rfl, hd, hname⟩ := declares_of_matchAt hat
  refine ⟨d, ⟨hd, fun e he => ?_⟩, hname⟩
  by_contra hlt
  exact not_declares_of_matchAt (hbefore e.place (Nat.lt_of_not_le hlt)) he

theorem exists_isFirst (h : Declares text d) : ∃ e, IsFirst text e := by
  cases hsearch : search contractDeclaration text with
  | none => exact absurd h (not_declares_of_search hsearch d)
  | some m =>
    obtain ⟨e, he, -⟩ := isFirst_of_search hsearch
    exact ⟨e, he⟩

theorem IsFirst.unique {e : Declaration} (hd : IsFirst text d) (he : IsFirst text e) : d = e :=
  hd.1.eq_of_place he.1 (Nat.le_antisymm (hd.2 e he.1) (he.2 d hd.1))

theorem IsFirst.of_declares {text' : List Char} (hd : IsFirst text d) (hd' : Declares text' d)
    (h : ∀ e, IsFirst text' e → Declares text e) : IsFirst text' d := by
  obtain ⟨e, he⟩ := exists_isFirst hd'
  obtain rfl := hd'.eq_of_place he.1 (Nat.le_antisymm (hd.2 e (h e he)) (he.2 d hd'))
  exact he

theorem contractName_of_isFirst (h : IsFirst text d) :
    contractName text = String.ofList d.name := by
  cases hsearch : search contractDeclaration text with
  | none => exact absurd h.1 (not_declares_of_search hsearch d)
  | some m =>
    obtain ⟨e, he, hname⟩ := isFirst_of_search hsearch
    rw [contractName, hsearch, Option.bind_some, hname, Option.getD_some, he.unique h]

theorem contractName_of_not_declares (h : ∀ d, ¬ Declares text d) :
    contractName text = unknownContract := by
  cases hsearch : search contractDeclaration text with
  | none =>
    rw [contractName, hsearch]
    rfl
  | some m =>
    obtain ⟨d, hd, -⟩ := isFirst_of_search hsearch
    exact absurd hd.1 (h d)

end Searching

section Masking

variable {text : List Char} {d : Declaration}

theorem not_mem_openers {c : Char} (h : c ∈ d.chars) : c ∉ openers := by
  simp only [openers, List.mem_cons, List.not_mem_nil, or_false]
  rcases List.mem_append.mp h with hc | hc
  · simp only [contractKeyword, List.mem_cons, List.not_mem_nil, or_false] at hc
    rcases hc with rfl | rfl | rfl | rfl | rfl | rfl | rfl | rfl <;> decide
  · rcases List.mem_append.mp hc with hc | hc
    · have hblank := d.isBlank_of_mem c hc
      rintro (rfl | rfl | rfl) <;> exact absurd hblank (by decide)
    · have hword := d.isWordChar_of_mem c hc
      rintro (rfl | rfl | rfl) <;> exact absurd hword (by decide)

theorem chars_prefix_drop_iff : d.chars <+: text.drop d.place ↔
    ∀ i, d.place ≤ i → i < d.stop → text[i]? = d.chars[i - d.place]? := by
  rw [List.prefix_iff_getElem?]
  constructor
  · intro h i hge hlt
    obtain ⟨j, rfl⟩ := Nat.exists_eq_add_of_le hge
    have hj : j < d.chars.length := Nat.add_lt_add_iff_left.mp hlt
    rw [← List.getElem?_drop, h j hj, Nat.add_sub_cancel_left, List.getElem?_eq_getElem hj]
  · intro h j hj
    rw [List.getElem?_drop, h (d.place + j) (Nat.le_add_right ..) (Nat.add_lt_add_left hj _),
      Nat.add_sub_cancel_left, List.getElem?_eq_getElem hj]

theorem getElem?_place (h : d.chars <+: text.drop d.place) : text[d.place]? = some 'c' := by
  rw [chars_prefix_drop_iff.mp h d.place (Nat.le_refl _) d.place_lt_stop, Nat.sub_self]
  rfl

theorem InCode.getElem?_mask (h : InCode text d) {i : Nat} (hge : d.place ≤ i) (hlt : i < d.stop) :
    (mask text)[i]? = text[i]? := by
  rcases masked_or_kept text i with ⟨hin, -⟩ | ⟨-, hkept⟩
  · exact absurd hin (h i hge hlt)
  · exact hkept

/-- Around a declaration in code, masking joins no words and cuts none. -/
theorem InCode.isWordAt_eq (h : InCode text d) (hchars : d.chars <+: text.drop d.place) :
    isWordAt false ((mask text).take d.place).reverse = isWordAt false (text.take d.place).reverse ∧
      isWordAt false ((mask text).drop d.stop) = isWordAt false (text.drop d.stop) := by
  have htext := getElem?_place hchars
  have hkept : (lexMask text)[d.place]? = some 'c' := by
    rw [lexMask_eq_mask, h.getElem?_mask (Nat.le_refl _) d.place_lt_stop, htext]
  have hresumes : Resumes text d.place := resumes_of_kept htext hkept (by simp [remnants])
  obtain ⟨rest, hrest⟩ := hchars
  rw [← lexMask_eq_mask]
  refine ⟨hresumes.isWordAt_eq, ?_⟩
  rw [d.drop_stop, d.drop_stop, hresumes.drop_eq, ← hrest,
    lexMask_append fun _ => not_mem_openers, List.drop_left, List.drop_left, isWordAt_lexMask]

theorem InCode.declares_mask_iff (h : InCode text d) :
    Declares (mask text) d ↔ Declares text d := by
  have hchars : d.chars <+: (mask text).drop d.place ↔ d.chars <+: text.drop d.place := by
    rw [chars_prefix_drop_iff, chars_prefix_drop_iff]
    refine forall₃_congr fun i hge hlt => ?_
    rw [h.getElem?_mask hge hlt]
  constructor
  · rintro ⟨hstart, hc, hend⟩
    obtain ⟨hbefore, hbehind⟩ := h.isWordAt_eq (hchars.mp hc)
    exact ⟨hbefore.symm.trans hstart, hchars.mp hc, hbehind.symm.trans hend⟩
  · rintro ⟨hstart, hc, hend⟩
    obtain ⟨hbefore, hbehind⟩ := h.isWordAt_eq hc
    exact ⟨hbefore.trans hstart, hchars.mpr hc, hbehind.trans hend⟩

/-- A declaration that stays one in the masked text stands in code. -/
theorem Declares.inCode (h : Declares text d) (h' : Declares (mask text) d) : InCode text d := by
  rintro i hge hlt ⟨m, hmem, hfirst, hlast⟩
  rcases Nat.lt_or_ge m.first.offset d.place with hbefore | hinside
  · -- a token that begins before the declaration would blank out its first letter
    rcases masked_or_kept text d.place with ⟨-, c, hc, hmask⟩ | ⟨hout, -⟩
    · rw [getElem?_place h'.chars] at hmask
      cases hmask
      simp [remnants] at hc
    · exact hout ⟨m, hmem, Nat.le_of_lt hbefore, by omega⟩
  · obtain ⟨c, hc, htext⟩ := getElem?_first hmem
    rw [chars_prefix_drop_iff.mp h.chars _ hinside (by omega)] at htext
    exact not_mem_openers (List.mem_of_getElem? htext) hc

theorem isFirst_mask_iff (h : ∀ d, IsFirst text d ∨ IsFirst (mask text) d → InCode text d)
    (d : Declaration) : IsFirst text d ↔ IsFirst (mask text) d := by
  constructor
  · intro hd
    refine hd.of_declares ((h d (.inl hd)).declares_mask_iff.mpr hd.1) fun e he => ?_
    exact (h e (.inr he)).declares_mask_iff.mp he.1
  · intro hd
    refine hd.of_declares ((h d (.inr hd)).declares_mask_iff.mp hd.1) fun e he => ?_
    exact (h e (.inl he)).declares_mask_iff.mpr he.1

theorem contractName_eq_of_isFirst_iff {text' : List Char}
    (h : ∀ d, IsFirst text d ↔ IsFirst text' d) : contractName text = contractName text' := by
  by_cases hd : ∃ d, IsFirst text d
  · obtain ⟨d, hd⟩ := hd
    rw [contractName_of_isFirst hd, contractName_of_isFirst ((h d).mp hd)]
  · have hnone : ∀ d, ¬ Declares text d := fun d hdecl => hd (exists_isFirst hdecl)
    have hnone' : ∀ d, ¬ Declares text' d := by
      intro d hdecl
      obtain ⟨e, he⟩ := exists_isFirst hdecl
      exact hd ⟨e, (h e).mpr he⟩
    rw [contractName_of_not_declares hnone, contractName_of_not_declares hnone']

end Masking

/-- The contract is named by the first declaration of the text, in prose or not, and is unknown
without one. Masking comments and literals first leads to the same declaration exactly if the first
one before and the first one after masking stand in code; then the name is the same. -/
theorem contractName_of_first_declaration (text : List Char) :
    (∀ d, IsFirst text d → contractName text = String.ofList d.name) ∧
    ((∀ d, ¬ Declares text d) → contractName text = unknownContract) ∧
    ((∀ d, IsFirst text d ↔ IsFirst (mask text) d) ↔
      ∀ d, IsFirst text d ∨ IsFirst (mask text) d → InCode text d) ∧
    ((∀ d, IsFirst text d ∨ IsFirst (mask text) d → InCode text d) →
      contractName text = contractName (mask text)) := by
  refine ⟨fun d => contractName_of_isFirst, contractName_of_not_declares, ⟨?_, isFirst_mask_iff⟩,
    fun h => contractName_eq_of_isFirst_iff (isFirst_mask_iff h)⟩
  rintro hsame d (hd | hd)
  · exact hd.1.inCode ((hsame d).mp hd).1
  · exact ((hsame d).mpr hd).1.inCode hd.1

def quotedSecond : List Char :=
  "contract Vault \x7b string s = \"contract Safe\"; \x7d".toList

def vault : Declaration where
  place := 0
  gap := [' ']
  name := "Vault".toList
  gap_ne_nil := by decide
  isBlank_of_mem := by simp [Text.isBlank]
  name_ne_nil := by decide
  isWordChar_of_mem := List.all_eq_true.mp (by decide)

theorem contractName_of_first_declaration_quoted :
    mask quotedSecond ≠ quotedSecond ∧ IsFirst quotedSecond vault ∧
      IsFirst (mask quotedSecond) vault ∧ InCode quotedSecond vault ∧
      contractName quotedSecond = "Vault" ∧
      contractName quotedSecond = contractName (mask quotedSecond) := by
  have hfirst : IsFirst quotedSecond vault :=
    ⟨⟨rfl, by decide +kernel, by decide +kernel⟩, fun _ _ => Nat.zero_le _⟩
  have hmasked : IsFirst (mask quotedSecond) vault :=
    ⟨⟨rfl, by decide +kernel, by decide +kernel⟩, fun _ _ => Nat.zero_le _⟩
  have hcode : InCode quotedSecond vault := by
    have hbelow : ∀ i < vault.stop, ¬ InToken quotedSecond i := by decide +kernel
    exact fun i _ hlt => hbelow i hlt
  obtain ⟨hname, -, -, hmask⟩ := contractName_of_first_declaration quotedSecond
  refine ⟨by decide +kernel, hfirst, hmasked, hcode, hname vault hfirst, hmask ?_⟩
  rintro d (hd | hd)
  · rwa [hd.unique hfirst]
  · rwa [hd.unique hmasked]

/-- Prose before the declaration names the contract; a comment inside the declaration hides it. -/
theorem contractName_ne_of_mask :
    (contractName "// This contract holds funds\ncontract Vault".toList = "holds" ∧
      contractName (mask "// This contract holds funds\ncontract Vault".toList) = "Vault") ∧
    contractName "contract/**/A".toList = "Unknown" ∧
      contractName (mask "contract/**/A".toList) = "A" := by
  decide +kernel

end ContractScan.Source
