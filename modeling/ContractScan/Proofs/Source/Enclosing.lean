import ContractScan.Proofs.Source.Header
import ContractScan.Proofs.Source.Lines

/-! # The function around a place

Looking for headers only before the place finds the same function as looking
for all of them. The function is the one that matching the braces gives: its
body is the innermost one that is open.
-/

namespace ContractScan.Source

open Pattern

theorem functionName_contextAt (text : List Char) (offset : Int) :
    (contextAt text offset).functionName =
      openFunction (mask text) (headers (mask text)) offset := rfl

theorem openFunction_filter (masked : List Char) (hs : List Header) (offset : Int) :
    openFunction masked (hs.filter fun header => header.stop ≤ offset.toNat) offset =
      openFunction masked hs offset := by
  have hp : ∀ header : Header, header.isOpenAt masked offset = true →
      header.stop ≤ offset.toNat := by
    intro header hopen
    simp only [Header.isOpenAt, Bool.and_eq_true, decide_eq_true_eq] at hopen
    omega
  rw [openFunction, ← List.filter_reverse, List.find?_filter]
  congr 2
  funext header
  rw [Bool.eq_iff_iff, decide_eq_true_eq, decide_eq_true_eq]
  exact ⟨And.right, fun hopen => ⟨hp header hopen, hopen⟩⟩

/-- Both lookups of the function around a place agree wherever the place is a word of 64 bits;
elsewhere the bounded search is refused. -/
theorem enclosingFunction_eq_contextAt (text : List Char) (offset : Int) :
    enclosingFunction text offset =
      if -0x8000000000000000 ≤ offset ∧ offset < 0x8000000000000000 then
        .ok (contextAt text offset).functionName
      else .error (.tooLarge offset) := by
  have hfits : fitsWord offset = true ↔
      -0x8000000000000000 ≤ offset ∧ offset < 0x8000000000000000 := by
    rw [fitsWord, Bool.and_eq_true, decide_eq_true_eq, decide_eq_true_eq]
    rfl
  simp only [enclosingFunction, headers_take, openFunction_filter, functionName_contextAt, hfits]

/-- Past the words, the place is known and the bounded search is refused. -/
theorem enclosingFunction_ne_contextAt :
    (contextAt "function f() \x7b".toList 0x8000000000000000).functionName = some "f" ∧
      enclosingFunction "function f() \x7b".toList 0x8000000000000000 ≠
        .ok (contextAt "function f() \x7b".toList 0x8000000000000000).functionName := by
  constructor
  · decide +kernel
  · intro h
    rw [enclosingFunction, if_neg (by decide)] at h
    cases h

section Braces

/-- The positions of the braces that are open after a text, the innermost first. A closing brace
without an open one is passed over. -/
def openBraces (stack : List Nat) (position : Nat) : List Char → List Nat
  | [] => stack
  | c :: rest =>
    if c = '\x7b' then openBraces (position :: stack) (position + 1) rest
    else if c = '\x7d' then openBraces stack.tail (position + 1) rest
    else openBraces stack (position + 1) rest

variable {stack inner : List Nat} {position brace : Nat}

theorem openBraces_append (stack : List Nat) (position : Nat) (text text' : List Char) :
    openBraces stack position (text ++ text') =
      openBraces (openBraces stack position text) (position + text.length) text' := by
  induction text generalizing stack position with
  | nil => rfl
  | cons c rest ih =>
    simp only [List.cons_append, openBraces, ih, List.length_cons, Nat.add_assoc, Nat.add_comm 1]
    split
    · rfl
    · split <;> rfl

theorem not_mem_openBraces {text : List Char} (h : brace ∉ stack) (hlt : brace < position) :
    brace ∉ openBraces stack position text := by
  induction text generalizing stack position with
  | nil => exact h
  | cons c rest ih =>
    simp only [openBraces]
    split
    · have hne : brace ≠ position := Nat.ne_of_lt hlt
      exact ih (by simp [h, hne]) (Nat.lt_succ_of_lt hlt)
    · split
      · exact ih (fun hm => h (List.mem_of_mem_tail hm)) (Nat.lt_succ_of_lt hlt)
      · exact ih h (Nat.lt_succ_of_lt hlt)

/-- A brace is on the stack as long as the depth counted from it is positive. -/
theorem mem_openBraces_iff {text : List Char} (h : brace ∉ stack) (hlt : brace < position) :
    brace ∈ openBraces (inner ++ brace :: stack) position text ↔
      staysOpen (inner.length + 1) text = true := by
  induction text generalizing inner position with
  | nil => simp [openBraces, staysOpen]
  | cons c rest ih =>
    have hlt' : brace < position + 1 := Nat.lt_succ_of_lt hlt
    by_cases hopen : c = '\x7b'
    · have hi := @ih (position :: inner) _ hlt'
      simpa [openBraces, staysOpen, hopen] using hi
    · by_cases hclose : c = '\x7d'
      · cases inner with
        | nil =>
          have hn : brace ∉ openBraces stack (position + 1) rest := not_mem_openBraces h hlt'
          simp [openBraces, staysOpen, hclose, hn]
        | cons p inner =>
          have hi := @ih inner _ hlt'
          simpa [openBraces, staysOpen, hclose] using hi
      · have hi := @ih inner _ hlt'
        simpa [openBraces, staysOpen, hopen, hclose] using hi

theorem openBraces_pairwise {text : List Char} (h : (position :: stack).Pairwise (· > ·)) :
    ((position + text.length) :: openBraces stack position text).Pairwise (· > ·) := by
  induction text generalizing stack position with
  | nil => exact h
  | cons c rest ih =>
    obtain ⟨hlt, hs⟩ := List.pairwise_cons.mp h
    have hlt' : ∀ p ∈ stack, position + 1 > p := fun p hp => Nat.lt_succ_of_lt (hlt p hp)
    rw [List.length_cons, Nat.add_comm rest.length, ← Nat.add_assoc, openBraces]
    split
    · refine ih (.cons ?_ h)
      simpa using hlt'
    · split
      · exact ih (.cons (fun p hp => hlt' p (List.mem_of_mem_tail hp)) hs.tail)
      · exact ih (.cons hlt' hs)

theorem openBraces_nil_pairwise (text : List Char) :
    (text.length :: openBraces [] 0 text).Pairwise (· > ·) := by
  have h : ((0 + text.length) :: openBraces [] 0 text).Pairwise (· > ·) :=
    openBraces_pairwise (List.pairwise_singleton ..)
  rwa [Nat.zero_add] at h

theorem lt_length_of_mem_openBraces {text : List Char} (h : brace ∈ openBraces [] 0 text) :
    brace < text.length :=
  (List.pairwise_cons.mp (openBraces_nil_pairwise text)).1 brace h

theorem mem_openBraces_of_getElem? {text : List Char} (h : text[brace]? = some '\x7b') :
    brace ∈ openBraces [] 0 text ↔ staysOpen 0 (text.drop brace) = true := by
  obtain ⟨hlt, hget⟩ := List.getElem?_eq_some_iff.mp h
  have hdrop : text.drop brace = '\x7b' :: text.drop (brace + 1) := by
    rw [List.drop_eq_getElem_cons hlt, hget]
  have hlen : (text.take brace).length = brace := List.length_take_of_le (Nat.le_of_lt hlt)
  have hn : brace ∉ openBraces [] 0 (text.take brace) := by
    intro hm
    have hlt' := lt_length_of_mem_openBraces hm
    omega
  have hsplit : openBraces [] 0 text =
      openBraces ([] ++ brace :: openBraces [] 0 (text.take brace)) (brace + 1)
        (text.drop (brace + 1)) := by
    calc openBraces [] 0 text
        = openBraces [] 0 (text.take brace ++ text.drop brace) := by rw [List.take_append_drop]
      _ = openBraces (openBraces [] 0 (text.take brace)) brace
            ('\x7b' :: text.drop (brace + 1)) := by
          rw [openBraces_append, hlen, Nat.zero_add, hdrop]
      _ = _ := by simp [openBraces]
  rw [hsplit, mem_openBraces_iff hn (Nat.lt_succ_self brace), hdrop]
  simp [staysOpen]

end Braces

section Nesting

variable {masked : List Char} {offset : Nat}

theorem isOpenAt_iff {header : Header} {brace : Nat} (hstop : header.stop = brace + 1)
    (hbrace : masked[brace]? = some '\x7b') :
    header.isOpenAt masked offset = true ↔ brace ∈ openBraces [] 0 (masked.take offset) := by
  simp only [Header.isOpenAt, before_natCast, hstop, Nat.add_sub_cancel, Bool.and_eq_true,
    decide_eq_true_eq, Int.ofNat_le]
  rcases Nat.lt_or_ge brace offset with hlt | hge
  · have hget : (masked.take offset)[brace]? = some '\x7b' := by
      rw [List.getElem?_take_of_lt hlt, hbrace]
    rw [mem_openBraces_of_getElem? hget]
    exact ⟨And.right, fun h => ⟨hlt, h⟩⟩
  · constructor
    · rintro ⟨hle, _⟩
      omega
    · intro hm
      have hlt := lt_length_of_mem_openBraces hm
      have hle := List.length_take_le offset masked
      omega

def functionAt (hs : List Header) (brace : Nat) : Option String :=
  (hs.find? fun header => header.stop = brace + 1).map (·.name)

theorem functionAt_eq_none_iff {hs : List Header} {brace : Nat} :
    functionAt hs brace = none ↔ ∀ header ∈ hs, header.stop ≠ brace + 1 := by
  simp [functionAt]

theorem functionAt_eq_some {header : Header} (h : header ∈ headers masked) {brace : Nat}
    (hstop : header.stop = brace + 1) : functionAt (headers masked) brace = some header.name := by
  have hinj : ∀ a ∈ headers masked, ∀ b ∈ headers masked, a.stop = b.stop → a = b := by
    intro a ha b hb
    refine List.Pairwise.forall_of_forall_of_flip (R := fun a b => a.stop = b.stop → a = b)
      (fun _ _ _ => rfl) ?_ ?_ ha hb
    · exact (headers_pairwise masked).imp fun hlt he => absurd he (Nat.ne_of_lt hlt)
    · exact (headers_pairwise masked).imp fun hlt he => absurd he (Nat.ne_of_gt hlt)
  cases hfind : (headers masked).find? fun header => header.stop = brace + 1 with
  | none => exact absurd hstop (by simpa using List.find?_eq_none.mp hfind header h)
  | some header' =>
    have hstop' : header'.stop = brace + 1 := by simpa using List.find?_some hfind
    have he := hinj header' (List.mem_of_find?_eq_some hfind) header h (hstop'.trans hstop.symm)
    rw [functionAt, hfind, he, Option.map_some]

theorem isOpenAt_of_mem_openBraces {header : Header} (h : header ∈ headers masked) {brace : Nat}
    (hstop : header.stop = brace + 1) (hb : brace ∈ openBraces [] 0 (masked.take offset)) :
    header.isOpenAt masked offset = true := by
  obtain ⟨brace', hstop', hget⟩ := getElem?_of_mem_headers h
  have he : brace' = brace := by omega
  exact (isOpenAt_iff hstop (he ▸ hget)).mpr hb

/-- The last header with an open body is the one of the innermost open brace that has a header:
later headers have their braces further in. -/
theorem openFunction_eq_findSome? (masked : List Char) (offset : Nat) :
    openFunction masked (headers masked) offset =
      (openBraces [] 0 (masked.take offset)).findSome? (functionAt (headers masked)) := by
  rw [openFunction]
  cases hfind : (headers masked).reverse.find? (·.isOpenAt masked offset) with
  | none =>
    symm
    rw [Option.map_none, List.findSome?_eq_none_iff]
    intro brace hb
    rw [functionAt_eq_none_iff]
    intro header hmem hstop
    exact List.find?_eq_none.mp hfind header (List.mem_reverse.mpr hmem)
      (isOpenAt_of_mem_openBraces hmem hstop hb)
  | some header =>
    obtain ⟨hopen, later, earlier, hsplit, hclosed⟩ := List.find?_eq_some_iff_append.mp hfind
    have hmem : header ∈ headers masked := List.mem_reverse.mp (List.mem_of_find?_eq_some hfind)
    obtain ⟨brace, hstop, hget⟩ := getElem?_of_mem_headers hmem
    obtain ⟨inner, outer, hstack⟩ := List.append_of_mem ((isOpenAt_iff hstop hget).mp hopen)
    symm
    rw [Option.map_some, List.findSome?_eq_some_iff]
    refine ⟨inner, brace, outer, hstack, functionAt_eq_some hmem hstop, ?_⟩
    intro brace' hb'
    rw [functionAt_eq_none_iff]
    intro header' hmem' hstop'
    have hopen' : header'.isOpenAt masked offset = true :=
      isOpenAt_of_mem_openBraces hmem' hstop' (by simp [hstack, hb'])
    have hgt : brace' > brace := by
      have hdesc := (List.pairwise_cons.mp (openBraces_nil_pairwise (masked.take offset))).2
      rw [hstack] at hdesc
      exact (List.pairwise_append.mp hdesc).2.2 brace' hb' brace List.mem_cons_self
    have hrev := List.pairwise_reverse.mpr (headers_pairwise masked)
    rw [hsplit] at hrev
    rw [← List.mem_reverse, hsplit, List.mem_append, List.mem_cons] at hmem'
    rcases hmem' with hlater | rfl | hearlier
    · simpa [hopen'] using hclosed header' hlater
    · omega
    · have hlt := (List.pairwise_cons.mp (List.pairwise_append.mp hrev).2.1).1 header' hearlier
      omega

/-- The function around a place belongs to the innermost open brace that ends a header. -/
theorem functionName_eq_innermost (text : List Char) (offset : Nat) :
    (contextAt text offset).functionName =
        (openBraces [] 0 ((mask text).take offset)).findSome? (functionAt (headers (mask text))) ∧
      ((contextAt text offset).functionName = none ↔
        ∀ brace ∈ openBraces [] 0 ((mask text).take offset),
          ∀ header ∈ headers (mask text), header.stop ≠ brace + 1) := by
  have h : (contextAt text offset).functionName =
      (openBraces [] 0 ((mask text).take offset)).findSome? (functionAt (headers (mask text))) := by
    rw [functionName_contextAt, openFunction_eq_findSome?]
  refine ⟨h, ?_⟩
  simp only [h, List.findSome?_eq_none_iff, functionAt_eq_none_iff]

end Nesting

end ContractScan.Source
