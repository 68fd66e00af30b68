import ContractScan.Proofs.Pattern.Search
import ContractScan.Proofs.Pattern.Steps
import ContractScan.Source.Context

/-! # Function headers

A header runs to the first brace after its beginning, with no semicolon on the
way. What stands before the brace, its signature, decides alone whether it is a
header. Cutting a text off therefore leaves exactly the headers that end before
the cut.
-/

namespace ContractScan.Source

open Pattern

section Characters

def blankCodes : List Nat :=
  [0x09, 0x0A, 0x0B, 0x0C, 0x0D, 0x1C, 0x1D, 0x1E, 0x1F, 0x20, 0x85, 0xA0, 0x1680, 0x2000, 0x2001,
    0x2002, 0x2003, 0x2004, 0x2005, 0x2006, 0x2007, 0x2008, 0x2009, 0x200A, 0x2028, 0x2029, 0x202F,
    0x205F, 0x3000]

theorem mem_blankCodes {c : Char} (h : Text.isBlank c = true) : c.toNat ∈ blankCodes := by
  simp only [Text.isBlank, Bool.or_eq_true, Bool.and_eq_true, decide_eq_true_eq,
    beq_iff_eq] at h
  simp only [blankCodes, List.mem_cons, List.not_mem_nil, or_false]
  omega

theorem isWordChar_of_isBlank {c : Char} (h : Text.isBlank c = true) :
    Text.isWordChar c = false := by
  have hall : ∀ n ∈ blankCodes, Text.isWordChar (Char.ofNat n) = false := by decide +kernel
  simpa only [Char.ofNat_toNat] using hall c.toNat (mem_blankCodes h)

def isPlain (c : Char) : Bool :=
  c ∉ ['\x7b', ';']

theorem isPlain_of_isBlank {c : Char} (h : Text.isBlank c = true) : isPlain c = true := by
  have hb : Text.isBlank '\x7b' = false ∧ Text.isBlank ';' = false := by decide
  simp only [isPlain, List.mem_cons, List.not_mem_nil, or_false, decide_eq_true_eq]
  rintro (rfl | rfl) <;> simp_all

theorem isPlain_of_isWordChar {c : Char} (h : Text.isWordChar c = true) : isPlain c = true := by
  have hb : Text.isWordChar '\x7b' = false ∧ Text.isWordChar ';' = false := by decide
  simp only [isPlain, List.mem_cons, List.not_mem_nil, or_false, decide_eq_true_eq]
  rintro (rfl | rfl) <;> simp_all

theorem contains_space :
    CharSet.contains { items := [.kind .space false] } = Text.isBlank := by
  funext c
  exact CharSet.contains_space .exact c

theorem contains_word :
    CharSet.contains { items := [.kind .word false] } = Text.isWordChar := by
  funext c
  simp [CharSet.contains, CharSet.accepts, CharKind.holds]

theorem contains_plain :
    CharSet.contains { items := ['\x7b', ';'].map fun c => .code c.toNat, negated := true } =
      isPlain := by
  funext c
  rw [CharSet.contains_noneOf, isPlain]

end Characters

section Words

theorem run_blanks_then {rest : Node}
    (hrest : ∀ s : State, s.cursor.after.takeWhile Text.isWordChar = [] → rest.run s some = none)
    (s : State) :
    (Node.seq (.plus (.oneOf [.kind .space false])) rest).run s some =
      if s.cursor.after.takeWhile Text.isBlank = [] then none
      else rest.run (s.skip (s.cursor.after.takeWhile Text.isBlank).length) some := by
  have hn : stretch { items := [.kind .space false] } s.cursor.after =
      (s.cursor.after.takeWhile Text.isBlank).length := by
    rw [stretch, contains_space]
  have hk : ∀ i < (s.cursor.after.takeWhile Text.isBlank).length,
      rest.run (s.skip i) some = none := by
    intro i hi
    obtain ⟨c, more, hc, hb⟩ := exists_of_lt_length_takeWhile hi
    refine hrest _ ?_
    simp [hc, isWordChar_of_isBlank hb]
  rw [run_seq, Node.oneOf, run_plus_of_committed hn fun _ => hk]
  simp only [List.length_eq_zero_iff]

theorem run_word_then (word : String) (hword : isWordAt false word.toList = true) (rest : Node)
    (c : Cursor) :
    (Node.seq (.anchor (.wordBoundary false)) (.seq (.literal word) rest)).run
        { cursor := c } some =
      if isWordAt false c.before = false ∧ word.toList <+: c.after then
        rest.run { cursor := c.skip word.toList.length } some
      else none := by
  change (if (isWordAt false c.before != isWordAt false c.after) = true then
    (Node.literal word).run { cursor := c } (fun s => rest.run s some) else none) = _
  rw [run_literal]
  by_cases hk : word.toList <+: c.after
  · have hw : isWordAt false c.after = true := by
      obtain ⟨more, hmore⟩ := hk
      cases hchars : word.toList with
      | nil =>
        rw [hchars] at hword
        cases hword
      | cons x xs =>
        rw [← hmore, hchars]
        rw [hchars] at hword
        exact hword
    simp only [hk, hw, and_true, if_true, Bool.bne_true, Bool.not_eq_true']
    rfl
  · simp [hk]

end Words

def signature (after : List Char) : List Char :=
  after.takeWhile isPlain

def keyword : List Char :=
  ['f', 'u', 'n', 'c', 't', 'i', 'o', 'n']

def nameStart (text : List Char) : Nat :=
  8 + ((text.drop 8).takeWhile Text.isBlank).length

def nameIn (text : List Char) : List Char :=
  (text.drop (nameStart text)).takeWhile Text.isWordChar

/-- The text at the start of a word is the keyword, blanks and a name. -/
structure IsSignature (before text : List Char) : Prop where
  wordStart : isWordAt false before = false
  keyword : keyword <+: text
  blanks : 8 < nameStart text
  name : nameIn text ≠ []

/-- A header begins at a place: a signature, and a brace as the first of brace and semicolon. -/
def IsHeader (before after : List Char) : Prop :=
  IsSignature before after ∧ (after.dropWhile isPlain).head? = some '\x7b'

def headerEnd : Node :=
  .seq (.star (.noneOf ['\x7b', ';'])) (.char '\x7b')

theorem run_headerEnd (s : State) :
    headerEnd.run s some =
      if (s.cursor.after.dropWhile isPlain).head? = some '\x7b' then
        some (s.skip ((signature s.cursor.after).length + 1))
      else none := by
  have hs : stretch { items := ['\x7b', ';'].map fun c => .code c.toNat, negated := true }
      s.cursor.after = (signature s.cursor.after).length := by
    rw [stretch, contains_plain, signature]
  have hk : ∀ i < (signature s.cursor.after).length,
      (Node.char '\x7b').run (s.skip i) some = none := by
    intro i hi
    obtain ⟨c, rest, hc, hp⟩ := exists_of_lt_length_takeWhile hi
    have hne : '\x7b' ≠ c := by
      rintro rfl
      exact absurd hp (by decide)
    rw [run_char, if_neg (by simp [hc, hne])]
  rw [headerEnd, run_seq, Node.noneOf, run_star_of_committed hs fun _ => hk, run_char,
    State.skip_cursor, Cursor.skip_after, signature, drop_length_takeWhile, State.skip_skip]
  cases s.cursor.after.dropWhile isPlain with
  | nil => simp
  | cons c rest => simp [eq_comm]

def headerRest : Node :=
  .seq (.group 1 (.plus (.oneOf [.kind .word false]))) headerEnd

theorem run_headerRest (s : State) :
    headerRest.run s some =
      if s.cursor.after.takeWhile Text.isWordChar = [] then none
      else if (s.cursor.after.dropWhile isPlain).head? = some '\x7b' then
        some { cursor := s.cursor.skip ((signature s.cursor.after).length + 1)
               captures := ((s.skip (s.cursor.after.takeWhile Text.isWordChar).length).record 1
                 s.cursor).captures }
      else none := by
  have hn : stretch { items := [.kind .word false] } s.cursor.after =
      (s.cursor.after.takeWhile Text.isWordChar).length := by
    rw [stretch, contains_word]
  have hle := length_takeWhile_le_of_imp (l := s.cursor.after) (q := Text.isWordChar)
    fun _ => isPlain_of_isWordChar
  -- a name that is cut short meets the same brace, so the whole of it is tried first and last
  have hend : ∀ i ≤ (s.cursor.after.takeWhile Text.isWordChar).length,
      headerEnd.run ((s.skip i).record 1 s.cursor) some =
        if (s.cursor.after.dropWhile isPlain).head? = some '\x7b' then
          some { cursor := s.cursor.skip ((signature s.cursor.after).length + 1)
                 captures := ((s.skip i).record 1 s.cursor).captures }
        else none := by
    intro i hi
    have hi' : i ≤ (signature s.cursor.after).length := Nat.le_trans hi hle
    have ha : ((s.skip i).record 1 s.cursor).cursor = s.cursor.skip i := rfl
    rw [run_headerEnd, ha, Cursor.skip_after, dropWhile_drop hi', signature, takeWhile_drop hi',
      List.length_drop, State.skip, ha, Cursor.skip_skip, ← signature,
      show i + ((signature s.cursor.after).length - i + 1) =
        (signature s.cursor.after).length + 1 by omega]
  change (Node.plus (.chars { items := [.kind .word false] })).run s
    (fun s' => headerEnd.run (s'.record 1 s.cursor) some) = _
  rw [run_plus_of_committed hn]
  · simp only [hend _ (Nat.le_refl _), List.length_eq_zero_iff]
  · intro h i hi
    rw [hend _ (Nat.le_refl _)] at h
    rw [hend i (Nat.le_of_lt hi)]
    split at h
    · cases h
    next hb => rw [if_neg hb]

def headerTail : Node :=
  .seq (.plus (.oneOf [.kind .space false])) headerRest

theorem run_headerTail (s : State) :
    headerTail.run s some =
      if s.cursor.after.takeWhile Text.isBlank = [] then none
      else headerRest.run (s.skip (s.cursor.after.takeWhile Text.isBlank).length) some :=
  run_blanks_then (fun s hs => by rw [run_headerRest, if_pos hs]) s

theorem run_functionHeader (c : Cursor) :
    functionHeader.run { cursor := c } some =
      if isWordAt false c.before = false ∧ keyword <+: c.after then
        headerTail.run { cursor := c.skip 8 } some
      else none :=
  run_word_then "function" (by decide) headerTail c

theorem signature_keyword_append (rest : List Char) :
    signature (keyword ++ rest) = keyword ++ signature rest :=
  List.takeWhile_append_of_pos (by simp [keyword, isPlain])

theorem nameStart_le_length_signature {after : List Char} (h : keyword <+: after) :
    nameStart after ≤ (signature after).length := by
  obtain ⟨rest, rfl⟩ := h
  have hle := length_takeWhile_le_of_imp (l := rest) (q := Text.isBlank) fun _ => isPlain_of_isBlank
  rw [signature_keyword_append, nameStart, List.drop_left' (show keyword.length = 8 from rfl),
    List.length_append]
  exact Nat.add_le_add_left hle 8

def headerWidth (after : List Char) : Nat :=
  (signature after).length + 1

def headerMatch (c : Cursor) : Found where
  first := c
  last := c.skip (headerWidth c.after)
  captures := [⟨1, c.skip (nameStart c.after),
    c.skip (nameStart c.after + (nameIn c.after).length)⟩]

theorem isHeader_iff {before after : List Char} (hw : isWordAt false before = false)
    (hk : keyword <+: after) :
    IsHeader before after ↔ (after.drop 8).takeWhile Text.isBlank ≠ [] ∧ nameIn after ≠ [] ∧
      (after.dropWhile isPlain).head? = some '\x7b' := by
  constructor
  · rintro ⟨⟨_, _, hlt, hname⟩, hbrace⟩
    refine ⟨fun hb => ?_, hname, hbrace⟩
    simp [nameStart, hb] at hlt
  · rintro ⟨hb, hname, hbrace⟩
    exact ⟨⟨hw, hk, Nat.lt_add_of_pos_right (List.length_pos_iff.mpr hb), hname⟩, hbrace⟩

open Classical in
/-- The header pattern matches where a header begins, through its brace. -/
theorem matchAt_functionHeader (advance : Bool) (c : Cursor) :
    matchAt functionHeader advance c =
      if IsHeader c.before c.after then some (headerMatch c) else none := by
  rw [matchAt_of_leastWidth_pos (by decide), run_functionHeader]
  by_cases hk : isWordAt false c.before = false ∧ keyword <+: c.after
  · have hle := nameStart_le_length_signature hk.2
    have hstart : (c.skip 8).skip ((c.after.drop 8).takeWhile Text.isBlank).length =
        c.skip (nameStart c.after) := Cursor.skip_skip ..
    have hlen : nameStart c.after + ((signature (c.after.drop (nameStart c.after))).length + 1) =
        headerWidth c.after := by
      rw [signature, takeWhile_drop hle, List.length_drop, headerWidth, signature] at *
      omega
    have hin : (c.after.drop (nameStart c.after)).takeWhile Text.isWordChar = nameIn c.after := rfl
    rw [if_pos hk, run_headerTail, run_headerRest]
    simp only [State.skip, Cursor.skip_after c, hstart, dropWhile_drop hle, Cursor.skip_skip, hlen,
      hin, isHeader_iff hk.1 hk.2]
    by_cases hb : (c.after.drop 8).takeWhile Text.isBlank = []
    · simp [hb]
    · by_cases hname : nameIn c.after = []
      · simp [hname]
      · by_cases hbrace : (c.after.dropWhile isPlain).head? = some '\x7b'
        · simp [hb, hname, hbrace, headerMatch, State.record]
        · simp [hbrace]
  · have hn : ¬ IsHeader c.before c.after := fun h => hk ⟨h.1.wordStart, h.1.keyword⟩
    rw [if_neg hk, if_neg hn, Option.map_none]

section Cut

variable {before after : List Char} {k : Nat}

theorem signature_take (after : List Char) (k : Nat) :
    signature (after.take k) = (signature after).take k :=
  List.take_takeWhile.symm

theorem keyword_prefix_signature_iff : keyword <+: signature after ↔ keyword <+: after := by
  constructor
  · exact fun h => h.trans (List.takeWhile_prefix _)
  · rintro ⟨rest, rfl⟩
    rw [signature_keyword_append]
    exact List.prefix_append ..

theorem takeWhile_signature_drop {q : Char → Bool} (hq : ∀ c, q c = true → isPlain c = true)
    {n : Nat} (hn : n ≤ (signature after).length) :
    ((signature after).drop n).takeWhile q = (after.drop n).takeWhile q := by
  rw [signature, ← takeWhile_drop hn, takeWhile_takeWhile_of_imp hq]

theorem nameStart_signature (h : keyword <+: after) :
    nameStart (signature after) = nameStart after := by
  have h8 : 8 ≤ (signature after).length := (keyword_prefix_signature_iff.mpr h).length_le
  rw [nameStart, takeWhile_signature_drop (fun _ => isPlain_of_isBlank) h8, nameStart]

theorem nameIn_signature (h : keyword <+: after) : nameIn (signature after) = nameIn after := by
  rw [nameIn, nameStart_signature h, takeWhile_signature_drop (fun _ => isPlain_of_isWordChar)
    (nameStart_le_length_signature h), nameIn]

theorem isSignature_signature_iff :
    IsSignature before (signature after) ↔ IsSignature before after := by
  constructor
  · rintro ⟨hw, hk, hb, hn⟩
    have hk' := keyword_prefix_signature_iff.mp hk
    exact ⟨hw, hk', nameStart_signature hk' ▸ hb, nameIn_signature hk' ▸ hn⟩
  · rintro ⟨hw, hk, hb, hn⟩
    exact ⟨hw, keyword_prefix_signature_iff.mpr hk, (nameStart_signature hk).symm ▸ hb,
      (nameIn_signature hk).symm ▸ hn⟩

theorem head?_dropWhile_isPlain (after : List Char) :
    (after.dropWhile isPlain).head? = after[(signature after).length]? := by
  rw [← drop_length_takeWhile, List.head?_drop, signature]

/-- Cutting a text off keeps the headers that end before the cut, and makes no others. -/
theorem isHeader_take_iff :
    IsHeader before (after.take k) ↔ IsHeader before after ∧ headerWidth after ≤ k := by
  have hs := signature_take after k
  rcases Nat.lt_or_ge (signature after).length k with hlt | hge
  · rw [List.take_of_length_le (Nat.le_of_lt hlt)] at hs
    rw [IsHeader, IsHeader, ← isSignature_signature_iff, hs, isSignature_signature_iff,
      head?_dropWhile_isPlain, head?_dropWhile_isPlain, hs, List.getElem?_take_of_lt hlt]
    exact ⟨fun h => ⟨h, hlt⟩, And.left⟩
  · constructor
    · rintro ⟨_, hb⟩
      rw [head?_dropWhile_isPlain, hs, List.length_take_of_le hge,
        List.getElem?_eq_none (List.length_take_le ..)] at hb
      cases hb
    · rintro ⟨_, hw⟩
      exact absurd hw (by rw [headerWidth]; omega)

theorem headerWidth_take (hk : headerWidth after ≤ k) :
    headerWidth (after.take k) = headerWidth after := by
  rw [headerWidth, signature_take, List.take_of_length_le (Nat.le_of_lt hk), headerWidth]

theorem nameIn_take (h : IsHeader before after) (hk : headerWidth after ≤ k) :
    nameIn (after.take k) = nameIn after := by
  have hs : signature (after.take k) = signature after := by
    rw [signature_take, List.take_of_length_le (Nat.le_of_lt hk)]
  have h' := (isHeader_take_iff.mpr ⟨h, hk⟩).1.keyword
  rw [← nameIn_signature h', hs, nameIn_signature h.1.keyword]

end Cut

def Header.ofFound (m : Found) : Header :=
  ⟨(m.group? 1).getD "", m.last.offset⟩

theorem headers_eq_map (masked : List Char) :
    headers masked = (findAll functionHeader masked).map Header.ofFound := rfl

theorem ofFound_headerMatch (c : Cursor) :
    Header.ofFound (headerMatch c) =
      ⟨String.ofList (nameIn c.after), c.offset + headerWidth c.after⟩ := by
  have hn : (c.after.drop (nameStart c.after)).take (nameIn c.after).length = nameIn c.after :=
    take_length_takeWhile ..
  simp [Header.ofFound, Found.group?, headerMatch, Cursor.upTo_skip, hn]

theorem eq_headerMatch {advance : Bool} {c : Cursor} {m : Found}
    (h : matchAt functionHeader advance c = some m) :
    IsHeader c.before c.after ∧ m = headerMatch c := by
  rw [matchAt_functionHeader] at h
  split at h
  next hc => exact ⟨hc, (Option.some.inj h).symm⟩
  · cases h

theorem not_isHeader {advance : Bool} {c : Cursor}
    (h : matchAt functionHeader advance c = none) : ¬ IsHeader c.before c.after := fun hc => by
  rw [matchAt_functionHeader, if_pos hc] at h
  cases h

def cut (c : Cursor) (k : Nat) : Cursor :=
  ⟨c.before, c.after.take k, c.offset⟩

theorem skip_cut (c : Cursor) {n k : Nat} (h : n ≤ k) :
    (cut c k).skip n = cut (c.skip n) (k - n) := by
  simp [cut, Cursor.skip, List.take_take, Nat.min_eq_left h, List.drop_take]

theorem last_headerMatch_cut {c : Cursor} {k : Nat} (hk : headerWidth c.after ≤ k) :
    (headerMatch (cut c k)).last = cut (headerMatch c).last (k - headerWidth c.after) := by
  simp only [headerMatch, cut, headerWidth_take hk]
  exact skip_cut c hk

theorem ofFound_headerMatch_cut {c : Cursor} {k : Nat} (h : IsHeader c.before c.after)
    (hk : headerWidth c.after ≤ k) :
    Header.ofFound (headerMatch (cut c k)) = Header.ofFound (headerMatch c) := by
  simp only [ofFound_headerMatch, cut, headerWidth_take hk, nameIn_take h hk]

section Finds

variable {advance : Bool} {c : Cursor} {ms : List Found} {k : Nat}

/-- A header whose brace is cut off leaves none that begins inside it. -/
theorem finds_cut_eq_nil (h : Finds functionHeader advance (cut c k) ms)
    (hk : k < headerWidth c.after) : ms = [] := by
  generalize hd : cut c k = d at h
  induction h generalizing c k with
  | stop => rfl
  | @skip advance d x rest ms _ hx _ ih =>
    subst hd
    cases k with
    | zero => simp [cut] at hx
    | succ k =>
      have h1 : 1 ≤ (signature c.after).length := by rw [headerWidth] at hk; omega
      have hw : headerWidth (c.skip 1).after = headerWidth c.after - 1 := by
        rw [headerWidth, Cursor.skip_after, signature, takeWhile_drop h1, List.length_drop,
          headerWidth, signature] at *
        omega
      exact ih (c := c.skip 1) (k := k) (by omega) (skip_cut c (Nat.le_add_left 1 k)).symm
  | take hm =>
    subst hd
    have hw := (isHeader_take_iff.mp (eq_headerMatch hm).1).2
    omega

theorem filter_stop_eq_nil {n : Nat} (h : ∀ m ∈ ms, n < m.last.offset) :
    ((ms.map Header.ofFound).filter fun header => header.stop ≤ n) = [] := by
  rw [List.filter_eq_nil_iff]
  intro header hmem
  obtain ⟨m, hm, rfl⟩ := List.mem_map.mp hmem
  simp only [decide_eq_true_eq, Nat.not_le]
  exact h m hm

theorem leastWidth_functionHeader_pos : 0 < functionHeader.leastWidth := by decide

theorem map_ofFound_of_finds_cut {advance' : Bool} {ms' : List Found}
    (h : Finds functionHeader advance c ms) (h' : Finds functionHeader advance' (cut c k) ms') :
    ms'.map Header.ofFound =
      (ms.map Header.ofFound).filter fun header => header.stop ≤ c.offset + k := by
  induction h generalizing k advance' ms' with
  | @stop advance c _ hc =>
    have h0 : cut c k = cut c 0 := by simp [cut, hc]
    rw [h0] at h'
    rw [finds_cut_eq_nil h' (Nat.succ_pos _)]
    rfl
  | @skip advance c x rest ms hm hc h ih =>
    cases k with
    | zero =>
      have hlt : ∀ m ∈ ms, c.offset + 0 < m.last.offset := fun m hm =>
        Nat.lt_trans (Nat.lt_succ_self _) (h.lt_last_offset leastWidth_functionHeader_pos hm)
      rw [finds_cut_eq_nil h' (Nat.succ_pos _), filter_stop_eq_nil hlt]
      rfl
    | succ k =>
      cases h' with
      | stop _ he => simp [cut, hc] at he
      | skip _ _ h' =>
        rw [skip_cut c (Nat.le_add_left 1 k)] at h'
        have he := ih h'
        rwa [Cursor.skip_offset, Nat.add_assoc, Nat.add_comm 1] at he
      | take hm' =>
        exact absurd (isHeader_take_iff.mp (eq_headerMatch hm').1).1 (not_isHeader hm)
  | @take advance c m ms hm h ih =>
    obtain ⟨hh, rfl⟩ := eq_headerMatch hm
    by_cases hk : headerWidth c.after ≤ k
    · have hh' : IsHeader (cut c k).before (cut c k).after := isHeader_take_iff.mpr ⟨hh, hk⟩
      cases h' with
      | stop hn => exact absurd hh' (not_isHeader hn)
      | skip hn => exact absurd hh' (not_isHeader hn)
      | take hm' h' =>
        obtain ⟨_, rfl⟩ := eq_headerMatch hm'
        rw [last_headerMatch_cut hk] at h'
        have he := ih h'
        have hoff : (headerMatch c).last.offset + (k - headerWidth c.after) = c.offset + k := by
          simp only [headerMatch, Cursor.skip_offset]
          omega
        have hstop : (Header.ofFound (headerMatch c)).stop ≤ c.offset + k := by
          rw [ofFound_headerMatch]
          exact Nat.add_le_add_left hk _
        rw [List.map_cons, List.map_cons, List.filter_cons_of_pos (by simpa using hstop),
          ofFound_headerMatch_cut hh hk, he, hoff]
    · have hlt : ∀ m ∈ headerMatch c :: ms, c.offset + k < m.last.offset := by
        intro m hm
        have hl : c.offset + k < (headerMatch c).last.offset := by
          simp only [headerMatch, Cursor.skip_offset]
          omega
        rcases List.mem_cons.mp hm with rfl | hm
        · exact hl
        · exact Nat.lt_trans hl (h.lt_last_offset leastWidth_functionHeader_pos hm)
      rw [finds_cut_eq_nil h' (Nat.lt_of_not_le hk), filter_stop_eq_nil hlt]
      rfl

end Finds

/-- Searching a text that is cut off finds the headers that end before the cut. -/
theorem headers_take (text : List Char) (n : Nat) :
    headers (text.take n) = (headers text).filter fun header => header.stop ≤ n := by
  rw [headers_eq_map, headers_eq_map, map_ofFound_of_finds_cut (k := n)
    (findAll_finds functionHeader text) (findAll_finds functionHeader (text.take n))]
  simp [Cursor.start]

theorem getElem?_of_mem_headers {text : List Char} {header : Header} (h : header ∈ headers text) :
    ∃ brace, header.stop = brace + 1 ∧ text[brace]? = some '\x7b' := by
  rw [headers_eq_map] at h
  obtain ⟨m, hm, rfl⟩ := List.mem_map.mp h
  have hfinds := findAll_finds functionHeader text
  obtain ⟨advance, hat⟩ := hfinds.exists_matchAt m hm
  obtain ⟨n, _, _, hfirst⟩ := (hfinds.reaches m hm).1
  obtain ⟨⟨_, hbrace⟩, hmatch⟩ := eq_headerMatch hat
  rw [hmatch, ofFound_headerMatch]
  refine ⟨n + (signature (text.drop n)).length, ?_, ?_⟩
  · simp [hfirst, headerWidth, Cursor.start, Nat.add_assoc]
  · rw [head?_dropWhile_isPlain] at hbrace
    simpa [hfirst, Cursor.start, List.getElem?_drop] using hbrace

theorem headers_pairwise (text : List Char) :
    (headers text).Pairwise fun header header' => header.stop < header'.stop := by
  have hfinds := findAll_finds functionHeader text
  have hpos := leastWidth_functionHeader_pos
  rw [headers_eq_map, List.pairwise_map]
  refine hfinds.pairwise.imp_of_mem ?_
  intro m m' _ hm' hle
  have hl := (hfinds.reaches m' hm').2.add_le_offset
  change m.last.offset < m'.last.offset
  omega

end ContractScan.Source
