import ContractScan.Json.Printer
import ContractScan.Json.Reader
import ContractScan.Proofs.Schema.Checked
import Mathlib.Data.List.Basic
import Mathlib.Tactic.SplitIfs

/-! # Reading what was written

The reader takes back every value that the printer writes, as long as its keys
are distinct texts, its integers are not too long, and there is no real number,
octet or moment in it. What is written stands on one line.
-/

namespace ContractScan.Json

/-- Values that come back as they were written, if integers of so many digits do. -/
inductive IsJson (digits : Nat) : Value → Prop where
  | null : IsJson digits .null
  | bool (b : Bool) : IsJson digits (.bool b)
  | int {n : Int} (h : (Nat.toDigits 10 n.natAbs).length ≤ digits) : IsJson digits (.int n)
  | str (s : String) : IsJson digits (.str s)
  | list {items : List Value} (h : ∀ item ∈ items, IsJson digits item) :
      IsJson digits (.list items)
  | record {fields : List (String × Value)} (hkeys : (fields.map (·.1)).Nodup)
      (h : ∀ field ∈ fields, IsJson digits field.2) : IsJson digits (.record fields)

section Texts

theorem hexDigits_eq : ∀ n < 0x20,
    Text.hexDigits 4 n = ['0', '0', Nat.digitChar (n / 16), Nat.digitChar (n % 16)] := by
  decide

theorem hexValue?_digitChar : ∀ n < 16, Text.hexValue? (Nat.digitChar n) = some n := by
  decide

theorem readEscapedUnits_hexDigits {n : Nat} (h : n < 0x20) (rest : List Char) :
    readEscapedUnits (Text.hexDigits 4 n ++ rest) = some (Char.ofNat n, rest) := by
  have hzero : Text.hexValue? '0' = some 0 := by decide
  have hunit : readUnit (Text.hexDigits 4 n ++ rest) = some (n, rest) := by
    rw [hexDigits_eq n h]
    simp [readUnit, hzero, hexValue?_digitChar (n / 16) (by omega),
      hexValue?_digitChar (n % 16) (by omega)]
    omega
  have hsmall : ¬ 0xD800 ≤ n := by omega
  simp [readEscapedUnits, hunit, hsmall]

theorem readChars_escapeChar (fuel : Nat) (done : List Char) (c : Char) (rest : List Char) :
    readChars (fuel + 1) done (escapeChar c ++ rest) = readChars fuel (c :: done) rest := by
  unfold escapeChar
  split_ifs with hquote hslash hfeed hreturn htab hback hform hcontrol
  · rw [beq_iff_eq.mp hquote]
    simp [readChars, readEscape]
  · rw [beq_iff_eq.mp hslash]
    simp [readChars, readEscape]
  · rw [beq_iff_eq.mp hfeed]
    simp [readChars, readEscape]
  · rw [beq_iff_eq.mp hreturn]
    simp [readChars, readEscape]
  · rw [beq_iff_eq.mp htab]
    simp [readChars, readEscape]
  · have hc : c = Char.ofNat 0x08 := by rw [← beq_iff_eq.mp hback, Char.ofNat_toNat]
    simp [readChars, readEscape, hc]
  · have hc : c = Char.ofNat 0x0C := by rw [← beq_iff_eq.mp hform, Char.ofNat_toNat]
    simp [readChars, readEscape, hc]
  · simp [readChars, readEscape, readEscapedUnits_hexDigits hcontrol]
  · simp [readChars, hquote, hslash, hcontrol]

theorem readChars_flatMap {fuel : Nat} (done chars rest : List Char) (h : chars.length < fuel) :
    readChars fuel done (chars.flatMap escapeChar ++ '"' :: rest) =
      some (String.ofList (done.reverse ++ chars), rest) := by
  induction chars generalizing fuel done with
  | nil =>
    obtain ⟨fuel, rfl⟩ : ∃ k, fuel = k + 1 := ⟨fuel - 1, by simp at h; omega⟩
    simp [readChars]
  | cons c chars ih =>
    obtain ⟨fuel, rfl⟩ : ∃ k, fuel = k + 1 := ⟨fuel - 1, by simp at h; omega⟩
    rw [List.flatMap_cons, List.append_assoc, readChars_escapeChar, ih _ (by simpa using h)]
    simp

theorem escapeChar_ne_nil (c : Char) : escapeChar c ≠ [] := by
  unfold escapeChar
  split_ifs <;> simp

theorem length_le_length_flatMap_escapeChar (chars : List Char) :
    chars.length ≤ (chars.flatMap escapeChar).length := by
  induction chars with
  | nil => simp
  | cons c chars ih =>
    have hpos := List.length_pos_iff.mpr (escapeChar_ne_nil c)
    simp only [List.flatMap_cons, List.length_append, List.length_cons]
    omega

theorem readText_flatMap (s : String) (rest : List Char) :
    readText (s.toList.flatMap escapeChar ++ '"' :: rest) = some (s, rest) := by
  have hlength := length_le_length_flatMap_escapeChar s.toList
  rw [readText, readChars_flatMap]
  · simp
  · simp only [List.length_append, List.length_cons]
    omega

theorem newline_not_mem_escapeChar (c : Char) : '\n' ∉ escapeChar c := by
  unfold escapeChar
  split_ifs with hquote hslash hfeed hreturn htab hback hform hcontrol
  any_goals decide
  · have hdigits : ∀ n < 0x20, '\n' ∉ Text.hexDigits 4 n := by decide
    simp only [List.mem_cons, not_or]
    exact ⟨by decide, by decide, hdigits _ hcontrol⟩
  · rw [List.mem_singleton]
    intro h
    exact hfeed (beq_iff_eq.mpr h.symm)

theorem newline_not_mem_renderText (s : String) : '\n' ∉ renderText s := by
  simp [renderText, newline_not_mem_escapeChar]

end Texts

section Numbers

/-- What follows does not go on with a number. -/
def EndsNumber : List Char → Prop
  | [] => True
  | c :: _ => c.isDigit = false ∧ c ≠ '.' ∧ c ≠ 'e' ∧ c ≠ 'E'

namespace EndsNumber

variable {rest : List Char}

theorem readFraction_eq_none (h : EndsNumber rest) : readFraction rest = none := by
  cases rest with
  | nil => rfl
  | cons c rest =>
    rw [readFraction]
    rintro rest' ⟨⟩
    exact h.2.1 rfl

theorem readExponent_eq_none (h : EndsNumber rest) : readExponent rest = none := by
  cases rest with
  | nil => rfl
  | cons c rest => simp [readExponent, h.2.2.1, h.2.2.2]

theorem takeWhile_isDigit (h : EndsNumber rest) {digits : List Char}
    (hdigits : ∀ c ∈ digits, c.isDigit = true) :
    (digits ++ rest).takeWhile Char.isDigit = digits := by
  rw [List.takeWhile_append_of_pos hdigits]
  cases rest with
  | nil => simp
  | cons c rest => simp [h.1]

end EndsNumber

theorem isDigit_of_mem_toDigits {c : Char} {n : Nat} (h : c ∈ Nat.toDigits 10 n) :
    c.isDigit = true :=
  Nat.isDigit_of_mem_toDigits (by decide) (by decide) h

theorem head?_toDigits_ne_zero {n : Nat} (h : 0 < n) : (Nat.toDigits 10 n).head? ≠ some '0' := by
  induction n using Nat.strongRecOn with
  | ind n ih =>
    rw [Nat.toDigits_eq_if (by decide)]
    split
    next hlt => simp [Nat.pos_iff_ne_zero.mp h]
    next hge =>
      rw [List.head?_append_of_ne_nil _ Nat.toDigits_ne_nil]
      exact ih (n / 10) (by omega) (by omega)

theorem readNumber_toDigits (negative : Bool) {n : Nat} {rest : List Char}
    (hn : (Nat.toDigits 10 n).length ≤ digitLimit) (hrest : EndsNumber rest) :
    readNumber negative (Nat.toDigits 10 n ++ rest) =
      .ok (.int (if negative then -n else n), rest) := by
  have hvalue : digitsValue (Nat.toDigits 10 n) = n := Nat.ofDigitChars_ten_toDigits
  unfold readNumber
  extract_lets whole rest' fraction? value
  have hwhole : whole = Nat.toDigits 10 n := by
    unfold whole
    split
    next more htext =>
      have hhead : (Nat.toDigits 10 n).head? = some '0' := by
        rw [← List.head?_append_of_ne_nil _ Nat.toDigits_ne_nil, htext, List.head?_cons]
      obtain rfl : n = 0 := by
        by_contra hpos
        exact head?_toDigits_ne_zero (Nat.pos_of_ne_zero hpos) hhead
      rfl
    next => exact hrest.takeWhile_isDigit fun c => isDigit_of_mem_toDigits
  have hrest' : rest' = rest := by simp [rest', hwhole]
  have hfraction : fraction? = none := by rw [← hrest.readFraction_eq_none, ← hrest']
  simp [hfraction, value, hwhole, hrest', hrest.readExponent_eq_none, hvalue, Nat.not_lt.mpr hn]

theorem renderInt_eq (n : Int) :
    renderInt n = if 0 ≤ n then Nat.toDigits 10 n.natAbs else '-' :: Nat.toDigits 10 n.natAbs := by
  rw [renderInt, Int.toString_eq_repr, Int.repr_eq_if]
  split
  next hn =>
    rw [Nat.repr_eq_ofList_toDigits, String.toList_ofList, show n.toNat = n.natAbs by omega]
  next hn =>
    rw [Nat.repr_eq_ofList_toDigits, show (-n).toNat = n.natAbs by omega]
    simp

theorem renderInt_ne_nil (n : Int) : renderInt n ≠ [] := by
  rw [renderInt_eq]
  split
  · exact Nat.toDigits_ne_nil
  · exact List.cons_ne_nil _ _

theorem isDigit_or_sign_of_mem_renderInt {c : Char} {n : Int} (h : c ∈ renderInt n) :
    c.isDigit = true ∨ c = '-' := by
  rw [renderInt_eq] at h
  split at h
  · exact .inl (isDigit_of_mem_toDigits h)
  · rcases List.mem_cons.mp h with hsign | hdigit
    · exact .inr hsign
    · exact .inl (isDigit_of_mem_toDigits hdigit)

end Numbers

section Values

theorem skipSpace_cons {c : Char} (h : isSpace c = false) (rest : List Char) :
    skipSpace (c :: rest) = c :: rest := by
  simp [skipSpace, h]

theorem skipSpace_space (rest : List Char) : skipSpace (' ' :: rest) = skipSpace rest := by
  simp [skipSpace, isSpace]

def StartsValue : List Char → Prop
  | [] => False
  | c :: _ => isSpace c = false ∧ c ≠ ']'

theorem StartsValue.skipSpace_eq {text : List Char} (h : StartsValue text) (rest : List Char) :
    skipSpace (text ++ rest) = text ++ rest := by
  cases text with
  | nil => exact h.elim
  | cons c more => exact skipSpace_cons h.1 _

theorem StartsValue.not_closed {text : List Char} (h : StartsValue text) (rest more : List Char) :
    text ++ rest ≠ ']' :: more := by
  cases text with
  | nil => exact h.elim
  | cons c more =>
    rintro ⟨⟩
    exact h.2 rfl

theorem startsValue_toDigits (n : Nat) : StartsValue (Nat.toDigits 10 n) := by
  cases hdigits : Nat.toDigits 10 n with
  | nil => exact absurd hdigits Nat.toDigits_ne_nil
  | cons c more =>
    have hc : c.isDigit = true := isDigit_of_mem_toDigits (n := n) (by simp [hdigits])
    constructor
    · rw [Bool.eq_false_iff]
      intro hspace
      simp only [isSpace, Bool.or_eq_true, beq_iff_eq] at hspace
      rcases hspace with ((rfl | rfl) | rfl) | rfl <;> exact absurd hc (by decide)
    · rintro rfl
      exact absurd hc (by decide)

theorem startsValue_render {digits : Nat} {v : Value} (h : IsJson digits v) :
    StartsValue (render v) := by
  cases h with
  | null => exact ⟨by decide, by decide⟩
  | bool b => cases b <;> exact ⟨by decide, by decide⟩
  | @int n hn =>
    rw [render, renderInt_eq]
    split
    · exact startsValue_toDigits _
    · exact ⟨by decide, by decide⟩
  | str s => exact ⟨by decide, by decide⟩
  | list => exact ⟨by decide, by decide⟩
  | record => exact ⟨by decide, by decide⟩

theorem readValue_digit (fuel : Nat) {c : Char} (hc : c.isDigit = true) (rest : List Char) :
    readValue (fuel + 1) (c :: rest) = readNumber false (c :: rest) := by
  rw [readValue]
  all_goals
    rintro more ⟨⟩
    exact absurd hc (by decide)

theorem readValue_minus (fuel : Nat) {c : Char} (hc : c.isDigit = true) (rest : List Char) :
    readValue (fuel + 1) ('-' :: c :: rest) = readNumber true (c :: rest) := by
  rw [readValue]
  rintro more ⟨⟩
  exact absurd hc (by decide)

theorem readValue_renderInt {fuel : Nat} {n : Int} {rest : List Char}
    (hn : (Nat.toDigits 10 n.natAbs).length ≤ digitLimit) (hrest : EndsNumber rest) :
    readValue (fuel + 1) (renderInt n ++ rest) = .ok (.int n, rest) := by
  rw [renderInt_eq]
  have hread := fun negative => readNumber_toDigits negative hn hrest
  cases hdigits : Nat.toDigits 10 n.natAbs with
  | nil => exact absurd hdigits Nat.toDigits_ne_nil
  | cons c more =>
    have hc : c.isDigit = true := isDigit_of_mem_toDigits (n := n.natAbs) (by simp [hdigits])
    rw [hdigits] at hread
    split
    next hle =>
      rw [List.cons_append, readValue_digit fuel hc, ← List.cons_append, hread]
      rw [if_neg Bool.false_ne_true, Int.natAbs_of_nonneg hle]
    next hlt =>
      rw [List.cons_append, List.cons_append, readValue_minus fuel hc, ← List.cons_append, hread]
      have habs : -(n.natAbs : Int) = n := by omega
      rw [if_pos rfl, habs]

/-- What is known of a value while lists and mappings around it are read. -/
def ComesBack (v : Value) : Prop :=
  ∀ (fuel : Nat) (rest : List Char), 2 * (render v).length ≤ fuel → EndsNumber rest →
    readValue fuel (render v ++ rest) = .ok (v, rest)

theorem endsNumber_cons {c : Char} {rest : List Char} (h : c = ',' ∨ c = ']' ∨ c = '\x7d') :
    EndsNumber (c :: rest) := by
  rcases h with rfl | rfl | rfl <;> exact ⟨by decide, by decide, by decide, by decide⟩

theorem startsValue_joined {part : List Char} (h : StartsValue part) (parts : List (List Char)) :
    StartsValue (joined (part :: parts)) := by
  cases part with
  | nil => exact h.elim
  | cons c more => cases parts <;> exact h

theorem readItems_joined {item : Value} {items : List Value}
    (hjson : ∀ v ∈ item :: items, IsJson digitLimit v) (hback : ∀ v ∈ item :: items, ComesBack v)
    {fuel : Nat} (done : List Value) (rest : List Char)
    (hfuel : 2 * (joined (renderAll (item :: items))).length < fuel) :
    readItems fuel done (joined (renderAll (item :: items)) ++ ']' :: rest) =
      .ok (.list (done.reverse ++ item :: items), rest) := by
  induction items generalizing item done fuel with
  | nil =>
    obtain ⟨fuel, rfl⟩ : ∃ k, fuel = k + 1 := ⟨fuel - 1, by omega⟩
    simp only [renderAll, joined] at hfuel ⊢
    rw [readItems, hback item (by simp) fuel _ (by omega) (endsNumber_cons (by simp))]
    simp [bind, Except.bind, skipSpace_cons, isSpace, pure, Except.pure]
  | cons next items ih =>
    obtain ⟨fuel, rfl⟩ : ∃ k, fuel = k + 1 := ⟨fuel - 1, by omega⟩
    have hjoined : joined (renderAll (item :: next :: items)) =
        render item ++ ',' :: ' ' :: joined (renderAll (next :: items)) := by
      simp [renderAll, joined]
    rw [hjoined] at hfuel ⊢
    simp only [List.length_append, List.length_cons] at hfuel
    have hstart : StartsValue (joined (renderAll (next :: items))) :=
      startsValue_joined (startsValue_render (hjson next (by simp))) _
    have hnext := ih (fun v hv => hjson v (List.mem_cons_of_mem _ hv))
      (fun v hv => hback v (List.mem_cons_of_mem _ hv)) (item :: done)
      (show 2 * (joined (renderAll (next :: items))).length < fuel by omega)
    rw [List.append_assoc, List.cons_append, List.cons_append, readItems,
      hback item (by simp) fuel _ (by omega) (endsNumber_cons (by simp))]
    simp only [bind, Except.bind, skipSpace_cons (c := ',') (by decide), skipSpace_space,
      hstart.skipSpace_eq, hnext]
    simp

def entriesOf (fields : List (String × Value)) : List (Value × Value) :=
  fields.map fun field => (.str field.1, field.2)

theorem render_record (fields : List (String × Value)) :
    render (.record fields) =
      '\x7b' :: joined (renderEntries (entriesOf fields)) ++ ['\x7d'] := rfl

theorem readEntries_joined {field : String × Value} {fields : List (String × Value)}
    (hjson : ∀ f ∈ field :: fields, IsJson digitLimit f.2)
    (hback : ∀ f ∈ field :: fields, ComesBack f.2)
    {fuel : Nat} (done : List (Value × Value)) (rest : List Char)
    (hfuel : 2 * (joined (renderEntries (entriesOf (field :: fields)))).length < fuel) :
    readEntries fuel done
        (joined (renderEntries (entriesOf (field :: fields))) ++ '\x7d' :: rest) =
      .ok (.map (Value.ofPairs (done.reverse ++ entriesOf (field :: fields))), rest) := by
  have hstart := startsValue_render (hjson field (by simp))
  induction fields generalizing field done fuel with
  | nil =>
    obtain ⟨fuel, rfl⟩ : ∃ k, fuel = k + 1 := ⟨fuel - 1, by omega⟩
    have hjoined : joined (renderEntries (entriesOf [field])) =
        renderText field.1 ++ ':' :: ' ' :: render field.2 := rfl
    rw [hjoined] at hfuel ⊢
    simp only [List.length_append, List.length_cons] at hfuel
    have hvalue := hback field (by simp) fuel ('\x7d' :: rest) (by omega)
      (endsNumber_cons (by simp))
    simp only [renderText, List.cons_append, List.append_assoc, readEntries, readText_flatMap,
      List.nil_append, ofOption]
    simp only [bind, Except.bind, skipSpace_cons (c := ':') (by decide), skipSpace_space,
      hstart.skipSpace_eq, hvalue, skipSpace_cons (c := '\x7d') (by decide)]
    simp [pure, Except.pure, entriesOf]
  | cons next fields ih =>
    obtain ⟨fuel, rfl⟩ : ∃ k, fuel = k + 1 := ⟨fuel - 1, by omega⟩
    have hjoined : joined (renderEntries (entriesOf (field :: next :: fields))) =
        renderText field.1 ++ ':' :: ' ' :: (render field.2 ++
          ',' :: ' ' :: joined (renderEntries (entriesOf (next :: fields)))) := by
      simp [entriesOf, renderEntries, renderKey, joined]
    rw [hjoined] at hfuel ⊢
    simp only [List.length_append, List.length_cons] at hfuel
    have hquote : StartsValue (joined (renderEntries (entriesOf (next :: fields)))) :=
      startsValue_joined (show StartsValue (renderText next.1 ++ _) from ⟨by decide, by decide⟩) _
    have hvalue := fun more => hback field (by simp) fuel (',' :: ' ' :: more) (by omega)
      (endsNumber_cons (by simp))
    have hnext := ih (fun f hf => hjson f (List.mem_cons_of_mem _ hf))
      (fun f hf => hback f (List.mem_cons_of_mem _ hf)) ((.str field.1, field.2) :: done)
      (show 2 * (joined (renderEntries (entriesOf (next :: fields)))).length < fuel by omega)
      (startsValue_render (hjson next (by simp)))
    simp only [renderText, List.cons_append, List.append_assoc, readEntries, readText_flatMap,
      List.nil_append, ofOption]
    simp only [bind, Except.bind, skipSpace_cons (c := ':') (by decide), skipSpace_space,
      hstart.skipSpace_eq, hvalue, skipSpace_cons (c := ',') (by decide), hquote.skipSpace_eq,
      hnext]
    simp [entriesOf]

theorem sameKey_str (s t : String) : (Value.str s).sameKey (.str t) = (s == t) := rfl

theorem put_of_fresh {entries : List (Value × Value)} {key value : Value}
    (h : ∀ entry ∈ entries, entry.1.sameKey key = false) :
    Value.put entries key value = entries ++ [(key, value)] := by
  rw [Value.put, if_neg]
  simpa using h

theorem foldl_put_entriesOf (done fields : List (String × Value))
    (h : ((done ++ fields).map (·.1)).Nodup) :
    (entriesOf fields).foldl (fun entries pair => Value.put entries pair.1 pair.2)
        (entriesOf done) = entriesOf (done ++ fields) := by
  induction fields generalizing done with
  | nil => simp [entriesOf]
  | cons field fields ih =>
    have hfresh : ∀ entry ∈ entriesOf done, entry.1.sameKey (.str field.1) = false := by
      simp only [entriesOf, List.mem_map]
      rintro _ ⟨f, hf, rfl⟩
      rw [sameKey_str, beq_eq_false_iff_ne]
      rintro heq
      rw [List.map_append, List.nodup_append] at h
      exact h.2.2 f.1 (List.mem_map_of_mem hf) field.1 (by simp) heq
    have hput : Value.put (entriesOf done) (.str field.1) field.2 =
        entriesOf (done ++ [field]) := by
      rw [put_of_fresh hfresh]
      simp [entriesOf]
    have hih := ih (done ++ [field]) (by simpa using h)
    rw [← hput] at hih
    simpa [entriesOf] using hih

theorem ofPairs_entriesOf {fields : List (String × Value)} (h : (fields.map (·.1)).Nodup) :
    Value.ofPairs (entriesOf fields) = entriesOf fields :=
  foldl_put_entriesOf [] fields h

theorem comesBack_of_succ {v : Value} (hstart : StartsValue (render v))
    (h : ∀ (fuel : Nat) (rest : List Char), 2 * (render v).length ≤ fuel + 1 → EndsNumber rest →
      readValue (fuel + 1) (render v ++ rest) = .ok (v, rest)) : ComesBack v := by
  intro fuel rest hfuel hrest
  cases fuel with
  | zero =>
    have hnil : render v = [] := List.eq_nil_of_length_eq_zero (by omega)
    rw [hnil] at hstart
    exact hstart.elim
  | succ fuel => exact h fuel rest hfuel hrest

theorem comesBack_list {items : List Value} (hitems : ∀ item ∈ items, IsJson digitLimit item)
    (hback : ∀ item ∈ items, ComesBack item) : ComesBack (.list items) := by
  refine comesBack_of_succ (startsValue_render (.list hitems)) ?_
  intro fuel rest hfuel _
  simp only [render, List.length_append, List.length_cons] at hfuel
  cases items with
  | nil => simp [render, renderAll, joined, readValue, skipSpace_cons, isSpace]
  | cons item items =>
    have hstart : StartsValue (joined (renderAll (item :: items))) :=
      startsValue_joined (startsValue_render (hitems item (by simp))) _
    have hread := readItems_joined hitems hback [] rest
      (show 2 * (joined (renderAll (item :: items))).length < fuel by omega)
    simp only [render, List.cons_append, List.append_assoc, List.nil_append, readValue,
      hstart.skipSpace_eq]
    split
    next more hclosed => exact absurd hclosed (hstart.not_closed _ more)
    next => exact hread

theorem comesBack_record {fields : List (String × Value)} (hkeys : (fields.map (·.1)).Nodup)
    (hfields : ∀ field ∈ fields, IsJson digitLimit field.2)
    (hback : ∀ field ∈ fields, ComesBack field.2) : ComesBack (.record fields) := by
  refine comesBack_of_succ (startsValue_render (.record hkeys hfields)) ?_
  intro fuel rest hfuel _
  rw [render_record] at hfuel ⊢
  simp only [List.length_append, List.length_cons] at hfuel
  cases fields with
  | nil =>
    simp [entriesOf, renderEntries, joined, readValue, skipSpace_cons, isSpace, Value.record]
  | cons field fields =>
    have hread := readEntries_joined hfields hback [] rest
      (show 2 * (joined (renderEntries (entriesOf (field :: fields)))).length < fuel by omega)
    rw [List.reverse_nil, List.nil_append, ofPairs_entriesOf hkeys] at hread
    obtain ⟨more, hmore⟩ :
        ∃ more, joined (renderEntries (entriesOf (field :: fields))) = '"' :: more := by
      cases fields <;> exact ⟨_, rfl⟩
    rw [hmore] at hread ⊢
    simp only [List.cons_append, List.append_assoc, List.nil_append, readValue,
      skipSpace_cons (c := '"') (by decide)] at hread ⊢
    exact hread

/-- A written value comes back, whatever follows it that does not go on with a number. -/
theorem comesBack {v : Value} (h : IsJson digitLimit v) : ComesBack v := by
  induction h with
  | null =>
    exact comesBack_of_succ (startsValue_render (.null : IsJson 0 .null)) fun _ _ _ _ => rfl
  | bool b =>
    refine comesBack_of_succ (startsValue_render (.bool b : IsJson 0 _)) ?_
    intro fuel rest _ _
    cases b <;> rfl
  | @int n hn =>
    refine comesBack_of_succ (startsValue_render (.int hn)) ?_
    intro fuel rest _ hrest
    exact readValue_renderInt hn hrest
  | str s =>
    refine comesBack_of_succ (startsValue_render (.str s : IsJson 0 _)) ?_
    intro fuel rest _ _
    simp only [render, renderText, List.cons_append, List.append_assoc, List.nil_append, readValue,
      readText_flatMap, ofOption]
    rfl
  | list hitems ih => exact comesBack_list hitems ih
  | record hkeys hfields ih => exact comesBack_record hkeys hfields ih

theorem skipSpace_append {space : List Char} (h : ∀ c ∈ space, isSpace c = true)
    (rest : List Char) : skipSpace (space ++ rest) = skipSpace rest :=
  List.dropWhile_append_of_pos h

theorem skipSpace_eq_nil {space : List Char} (h : ∀ c ∈ space, isSpace c = true) :
    skipSpace space = [] := by
  have hall := skipSpace_append h []
  rwa [List.append_nil] at hall

theorem endsNumber_of_isSpace {space : List Char} (h : ∀ c ∈ space, isSpace c = true) :
    EndsNumber space := by
  cases space with
  | nil => trivial
  | cons c rest =>
    have hc := h c List.mem_cons_self
    simp only [isSpace, Bool.or_eq_true, beq_iff_eq] at hc
    rcases hc with ((rfl | rfl) | rfl) | rfl <;>
      exact ⟨by decide, by decide, by decide, by decide⟩

/-- What is written is read back, whatever space is put around it. -/
theorem read_spaced {v : Value} (h : IsJson digitLimit v) {before after : List Char}
    (hbefore : ∀ c ∈ before, isSpace c = true) (hafter : ∀ c ∈ after, isSpace c = true) :
    read (before ++ (render v ++ after)) = .ok v := by
  have hback := comesBack h (2 * (before ++ (render v ++ after)).length + 2) after
    (by simp only [List.length_append]; omega) (endsNumber_of_isSpace hafter)
  rw [read, skipSpace_append hbefore, (startsValue_render h).skipSpace_eq, hback]
  simp only [bind, Except.bind, skipSpace_eq_nil hafter]
  rfl

theorem read_render {v : Value} (h : IsJson digitLimit v) : read (render v) = .ok v := by
  simpa using read_spaced h (List.forall_mem_nil _) (List.forall_mem_nil _)

theorem newline_not_mem_joined {parts : List (List Char)} (h : ∀ part ∈ parts, '\n' ∉ part) :
    '\n' ∉ joined parts := by
  fun_induction joined parts with
  | case1 => simp
  | case2 part => exact h part (by simp)
  | case3 part rest _ ih =>
    have hrest := ih fun part hpart => h part (List.mem_cons_of_mem _ hpart)
    simp [h part (by simp), hrest]

theorem renderAll_eq_map (items : List Value) : renderAll items = items.map render := by
  induction items with
  | nil => rfl
  | cons item items ih => rw [renderAll, ih, List.map_cons]

theorem renderEntries_entriesOf (fields : List (String × Value)) :
    renderEntries (entriesOf fields) =
      fields.map fun field => renderText field.1 ++ ':' :: ' ' :: render field.2 := by
  induction fields with
  | nil => rfl
  | cons field fields ih =>
    rw [List.map_cons, ← ih]
    rfl

theorem newline_not_mem_renderInt (n : Int) : '\n' ∉ renderInt n := by
  intro hmem
  rcases isDigit_or_sign_of_mem_renderInt hmem with hdigit | hsign
  · exact absurd hdigit (by decide)
  · exact absurd hsign (by decide)

theorem newline_not_mem_render_list {items : List Value} (h : ∀ item ∈ items, '\n' ∉ render item) :
    '\n' ∉ render (.list items) := by
  have hparts : ∀ part ∈ renderAll items, '\n' ∉ part := by
    rw [renderAll_eq_map]
    simpa using h
  simp [render, newline_not_mem_joined hparts]

theorem newline_not_mem_render_record {fields : List (String × Value)}
    (h : ∀ field ∈ fields, '\n' ∉ render field.2) : '\n' ∉ render (.record fields) := by
  have hparts : ∀ part ∈ renderEntries (entriesOf fields), '\n' ∉ part := by
    rw [renderEntries_entriesOf]
    simp only [List.mem_map]
    rintro _ ⟨field, hfield, rfl⟩
    simp [newline_not_mem_renderText, h field hfield]
  simp [render_record, newline_not_mem_joined hparts]

theorem newline_not_mem_render {digits : Nat} {v : Value} (h : IsJson digits v) :
    '\n' ∉ render v := by
  induction h with
  | null => decide
  | bool b => cases b <;> decide
  | int _ => exact newline_not_mem_renderInt _
  | str s => exact newline_not_mem_renderText s
  | list _ ih => exact newline_not_mem_render_list ih
  | record _ _ ih => exact newline_not_mem_render_record ih

end Values

end ContractScan.Json
