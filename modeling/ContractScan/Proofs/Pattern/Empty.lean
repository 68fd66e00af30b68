import ContractScan.Proofs.Pattern.Search

/-! # Matches without characters

A pattern that matches somewhere without taking a character need not match the
empty text: it may have asked for a word boundary there, or looked around. Where
all that a pattern asks for holds in the empty text too, each of its empty matches
has a shadow there, made of the same choices.
-/

namespace ContractScan.Pattern

/-- Where the pattern can be empty, all that it asks of the text around holds in the empty text. A
way that is tried first and kept may be another one there, so with `cuts` no group is referred
to. -/
inductive Node.Indifferent (cuts : Bool) : Node → Prop where
  /-- What is never empty may ask for anything. -/
  | wide {p : Node} : 0 < p.leastWidth → Indifferent cuts p
  | empty : Indifferent cuts .empty
  /-- Only word boundaries do not hold in the empty text. -/
  | anchor {a : Anchor} : a.holds (.start []) = true → Indifferent cuts (.anchor a)
  | seq {first second : Node} : Indifferent cuts first → Indifferent cuts second →
      Indifferent cuts (.seq first second)
  | alt {first second : Node} : Indifferent cuts first → Indifferent cuts second →
      Indifferent cuts (.alt first second)
  | group {index : Nat} {body : Node} : Indifferent cuts body →
      Indifferent cuts (.group index body)
  | repetition {mode : RepeatMode} {least : Nat} {most : Option Nat} {body : Node} :
      (mode = .possessive → cuts = true) → Indifferent cuts body →
      Indifferent cuts (.repetition mode least most body)
  | backreference {index : Nat} {folding : Folding} : cuts = false →
      Indifferent cuts (.backreference index folding)
  | conditional {index : Nat} {matched unmatched : Node} : cuts = false →
      Indifferent cuts matched → Indifferent cuts unmatched →
      Indifferent cuts (.conditional index matched unmatched)
  /-- A look around that goes through in the empty text, whatever was matched before it. -/
  | look {direction : Direction} {negated : Bool} {body : Node} :
      (∀ e : State, e.cursor = .start [] → (Node.look direction negated body).ways e ≠ []) →
      (cuts = false → ∀ s, ∀ s' ∈ (Node.look direction negated body).ways s,
        s'.captures = s.captures) →
      Indifferent cuts (.look direction negated body)
  | atomic {body : Node} : cuts = true → Indifferent cuts body → Indifferent cuts (.atomic body)

section Captures

theorem State.capture?_record (s : State) (index index' : Nat) (first : Cursor) :
    (s.record index first).capture? index' =
      if index = index' then some ⟨index, first, s.cursor⟩ else s.capture? index' := by
  by_cases h : index = index'
  · simp [record, capture?, h]
  · have hother : ∀ capture : Capture, (!decide (capture.index = index) &&
        decide (capture.index = index')) = (capture.index == index') := by
      intro capture
      by_cases hc : capture.index = index'
      · simp [hc, Ne.symm h]
      · simp [hc]
    simp [record, capture?, h, List.find?_filter, hother]

/-- A state of a match in the empty text that stands for one elsewhere. Where groups can be
referred to, the same ones have matched. -/
structure Shadows (cuts : Bool) (e s : State) : Prop where
  cursor : e.cursor = .start []
  groups : cuts = false → ∀ index, (e.capture? index).isSome = (s.capture? index).isSome
  captures : cuts = false → ∀ capture ∈ e.captures, capture.first = .start []

namespace Shadows

variable {cuts : Bool} {e e' s s' : State}

theorem start (cuts : Bool) (c : Cursor) :
    Shadows cuts { cursor := .start [] } { cursor := c } :=
  ⟨rfl, fun _ _ => rfl, fun _ => by simp⟩

theorem of_captures_eq (h : Shadows cuts e s) (hcursor : e'.cursor = .start [])
    (he : cuts = false → e'.captures = e.captures)
    (hs : cuts = false → s'.captures = s.captures) : Shadows cuts e' s' where
  cursor := hcursor
  groups hcuts index := by
    have hgroups := h.groups hcuts index
    unfold State.capture? at hgroups ⊢
    rw [he hcuts, hs hcuts, hgroups]
  captures hcuts := by
    rw [he hcuts]
    exact h.captures hcuts

theorem record (h : Shadows cuts e s) (index : Nat) (c : Cursor) :
    Shadows cuts (e.record index (.start [])) (s.record index c) where
  cursor := h.cursor
  groups hcuts index' := by
    rw [State.capture?_record, State.capture?_record]
    split
    · rfl
    · exact h.groups hcuts index'
  captures hcuts capture hcapture := by
    rcases List.mem_cons.mp hcapture with rfl | hcapture
    · rfl
    · exact h.captures hcuts capture (List.mem_filter.mp hcapture).1

theorem of_cuts (hcuts : cuts = true) (h : e.cursor = .start []) : Shadows cuts e s :=
  ⟨h, by simp [hcuts], by simp [hcuts]⟩

end Shadows

end Captures

section EmptyText

variable {p : Node} {e e' : State}

theorem Cursor.Reaches.eq_start {least : Nat} {c : Cursor} (h : Reaches least (.start []) c) :
    c = .start [] := by
  obtain ⟨n, -, hn, rfl⟩ := h
  obtain rfl : n = 0 := by simpa [start] using hn
  rw [skip_zero]

theorem cursor_of_mem_ways (he : e.cursor = .start []) (h : e' ∈ p.ways e) :
    e'.cursor = .start [] :=
  Cursor.Reaches.eq_start (he ▸ ways_reaches h)

theorem ways_eq_nil_of_wide (hp : 0 < p.leastWidth) (he : e.cursor = .start []) :
    p.ways e = [] := by
  apply List.eq_nil_iff_forall_not_mem.mpr
  intro e' he'
  have hoffset := (ways_reaches he').add_le_offset
  rw [cursor_of_mem_ways he he', he] at hoffset
  omega

theorem matchesWhole_nil_iff :
    matchesWhole p [] = true ↔ ∃ e, e ∈ p.ways { cursor := .start [] } := by
  rw [matchesWhole, run_eq_findSome?_ways, List.findSome?_isSome_iff]
  constructor
  · rintro ⟨e, he, -⟩
    exact ⟨e, he⟩
  · rintro ⟨e, he⟩
    refine ⟨e, he, ?_⟩
    have hcursor : e.cursor = .start [] := cursor_of_mem_ways rfl he
    simp [hcursor, Cursor.start]

end EmptyText

section Rounds

variable {cuts : Bool} {round : State → List State} {least : Nat} {most : Option Nat}
  {s s' e : State}

theorem another_eq {count : Nat} {last last' : Option Nat}
    (hlast : last = some s.cursor.offset ↔ last' = some e.cursor.offset) :
    another most count last s = another most count last' e := by
  rw [another, another]
  congr 1
  rw [Bool.eq_iff_iff, bne_iff_ne, bne_iff_ne, ne_eq, ne_eq, hlast]

theorem exists_stays_of_mem_flatMap
    (hreach : ∀ s, ∀ s' ∈ round s, s.cursor.Reaches 0 s'.cursor) {fuel count : Nat}
    {last : Option Nat} (hs : s' ∈ (round s).flatMap (greedyWays round least most fuel count last))
    (hstay : s'.cursor.offset = s.cursor.offset) :
    ∃ t ∈ round s, t.cursor.offset = s.cursor.offset ∧
      s' ∈ greedyWays round least most fuel count last t := by
  obtain ⟨t, ht, hs⟩ := List.mem_flatMap.mp hs
  have hto := (hreach s t ht).add_le_offset
  have hfrom := (greedyWays_reaches hreach hs).add_le_offset
  exact ⟨t, ht, by omega, hs⟩

/-- Rounds that all stay at a place have their shadows in the empty text. There, after the least
number of rounds, at most one more is made, so little fuel is enough. -/
theorem exists_mem_greedyWays
    (hround : ∀ {s s' e : State}, Shadows cuts e s → s' ∈ round s →
      s'.cursor.offset = s.cursor.offset → ∃ e' ∈ round e, Shadows cuts e' s')
    (hreach : ∀ s, ∀ s' ∈ round s, s.cursor.Reaches 0 s'.cursor)
    {fuel fuel' count : Nat} {last last' : Option Nat} (he : Shadows cuts e s)
    (hs : s' ∈ greedyWays round least most fuel count last s)
    (hstay : s'.cursor.offset = s.cursor.offset)
    (hlast : last = some s.cursor.offset ↔ last' = some e.cursor.offset)
    (hfuel : least - count + (if last' = some e.cursor.offset then 1 else 2) ≤ fuel') :
    ∃ e' ∈ greedyWays round least most fuel' count last' e, Shadows cuts e' s' := by
  induction fuel generalizing fuel' count last last' s e with
  | zero => simp [greedyWays] at hs
  | succ fuel ih =>
    obtain ⟨fuel', rfl⟩ : ∃ n, fuel' = n + 1 := ⟨fuel' - 1, by split at hfuel <;> omega⟩
    have hstep : ∀ {last : Option Nat} (last' : Option Nat),
        s' ∈ (round s).flatMap (greedyWays round least most fuel (count + 1) last) →
        (last = some s.cursor.offset ↔ last' = some e.cursor.offset) →
        least - (count + 1) + (if last' = some e.cursor.offset then 1 else 2) ≤ fuel' →
        ∃ e' ∈ (round e).flatMap (greedyWays round least most fuel' (count + 1) last'),
          Shadows cuts e' s' := by
      intro last last' hs hlast hfuel
      obtain ⟨t, ht, htstay, hs⟩ := exists_stays_of_mem_flatMap hreach hs hstay
      obtain ⟨e₁, he₁, hshadow⟩ := hround he ht htstay
      have hcursor : e₁.cursor = e.cursor := by rw [hshadow.cursor, he.cursor]
      rw [← htstay, ← hcursor] at hlast
      rw [← hcursor] at hfuel
      obtain ⟨e', he', hshadow'⟩ := ih hshadow hs (by omega) hlast hfuel
      exact ⟨e', List.mem_flatMap.mpr ⟨e₁, he₁, he'⟩, hshadow'⟩
    simp only [greedyWays, ← another_eq hlast] at hs ⊢
    split at hs
    next hcount =>
      rw [if_pos hcount]
      exact hstep last' hs hlast (by omega)
    next hcount =>
      rw [if_neg hcount]
      split at hs
      next hanother =>
        rw [if_pos hanother]
        rcases List.mem_append.mp hs with hs | hs
        · have hnew : last' ≠ some e.cursor.offset := by
            rw [another_eq hlast] at hanother
            simpa [another] using (Bool.and_eq_true_iff.mp hanother).2
          rw [if_neg hnew] at hfuel
          obtain ⟨e', he', hshadow⟩ := hstep (some e.cursor.offset) hs (by simp)
            (by rw [if_pos rfl]; omega)
          exact ⟨e', List.mem_append_left _ he', hshadow⟩
        · obtain rfl := List.mem_singleton.mp hs
          exact ⟨e, List.mem_append_right _ (List.mem_singleton_self _), he⟩
      next hanother =>
        rw [if_neg hanother]
        obtain rfl := List.mem_singleton.mp hs
        exact ⟨e, List.mem_singleton_self _, he⟩

theorem exists_possessiveRounds (hstart : ∀ e : State, e.cursor = .start [] →
      ∀ e' ∈ round e, e'.cursor = .start [])
    {fuel count : Nat} {last : Option Nat} (he : e.cursor = .start [])
    (hneeded : count < least → ∀ e : State, e.cursor = .start [] → ∃ e', e' ∈ round e)
    (hfuel : least - count + (if last = some e.cursor.offset then 1 else 2) ≤ fuel) :
    ∃ e', possessiveRounds (fun s k => (round s).findSome? k) least most fuel count last e =
      some e' ∧ e'.cursor = .start [] := by
  induction fuel generalizing count last e with
  | zero => split at hfuel <;> omega
  | succ fuel ih =>
    simp only [possessiveRounds, findSome?_some]
    split
    next hcount =>
      obtain ⟨e', he'⟩ := hneeded hcount e he
      cases hfirst : (round e).head? with
      | none => simp [List.head?_eq_none_iff.mp hfirst] at he'
      | some e₁ =>
        have hcursor := hstart e he e₁ (List.mem_of_head? hfirst)
        refine ih hcursor (fun _ => hneeded hcount) ?_
        rw [hcursor, ← he]
        omega
    next hcount =>
      split
      next hanother =>
        cases hfirst : (round e).head? with
        | none => exact ⟨e, rfl, he⟩
        | some e₁ =>
          have hcursor := hstart e he e₁ (List.mem_of_head? hfirst)
          have hnew : last ≠ some e.cursor.offset := by
            simpa [another] using (Bool.and_eq_true_iff.mp hanother).2
          rw [if_neg hnew] at hfuel
          refine ih hcursor (fun hlt => absurd hlt (by omega)) ?_
          rw [hcursor, he, if_pos rfl]
          omega
      · exact ⟨e, rfl, he⟩

end Rounds

section Ways

variable {cuts : Bool} {p : Node} {s s' e : State}

theorem exists_strideWay {mode : RepeatMode} {least : Nat} {most : Option Nat} {set : CharSet}
    (he : Shadows cuts e s) (hs : s' ∈ (Node.repetition mode least most (.chars set)).ways s)
    (hstay : s'.cursor.offset = s.cursor.offset) :
    ∃ e' ∈ (Node.repetition mode least most (.chars set)).ways e, Shadows cuts e' s' := by
  simp only [Node.ways, List.mem_map] at hs
  obtain ⟨c, hc, rfl⟩ := hs
  obtain rfl : least = 0 := by
    have hoffset := (strideWays_reaches hc).add_le_offset
    have hsame : c.offset = s.cursor.offset := hstay
    omega
  refine ⟨e, ?_, he.of_captures_eq he.cursor (fun _ => rfl) fun _ => rfl⟩
  simp only [Node.ways, List.mem_map]
  refine ⟨.start [], ?_, by rw [← he.cursor]⟩
  rw [he.cursor]
  cases mode <;> simp [strideWays, strides_nil, Cursor.start]

theorem exists_roundWay {mode : RepeatMode} {least : Nat} {most : Option Nat} {body : Node}
    (hmode : mode = .possessive → cuts = true)
    (hbody : ∀ {s s' e : State}, Shadows cuts e s → s' ∈ body.ways s →
      s'.cursor.offset = s.cursor.offset → ∃ e' ∈ body.ways e, Shadows cuts e' s')
    (he : Shadows cuts e s) (hs : s' ∈ roundWays mode least most (fun s => body.ways s) s)
    (hstay : s'.cursor.offset = s.cursor.offset) :
    ∃ e' ∈ roundWays mode least most (fun s => body.ways s) e, Shadows cuts e' s' := by
  have hreach : ∀ s, ∀ s' ∈ body.ways s, s.cursor.Reaches 0 s'.cursor :=
    fun s s' h => (ways_reaches h).mono (Nat.zero_le _)
  have hgreedy : ∃ e' ∈ greedyWays (fun s => body.ways s) least most (roundLimit least e) 0 none e,
      Shadows cuts e' s' :=
    exists_mem_greedyWays hbody hreach he (mem_roundWays hs) hstay (by simp)
      (by simp [roundLimit])
  cases mode with
  | greedy => exact hgreedy
  | lazy =>
    obtain ⟨e', he', hshadow⟩ := hgreedy
    exact ⟨e', mem_lazyWays_iff.mpr he', hshadow⟩
  | possessive =>
    have hcuts := hmode rfl
    have hneeded : 0 < least → ∀ e : State, e.cursor = .start [] → ∃ e', e' ∈ body.ways e := by
      intro hleast e he
      have hdue := mem_roundWays hs
      rw [roundLimit, greedyWays, if_pos hleast] at hdue
      obtain ⟨t, ht, htstay, -⟩ := exists_stays_of_mem_flatMap hreach hdue hstay
      obtain ⟨e', he', -⟩ := hbody (.of_cuts hcuts he) ht htstay
      exact ⟨e', he'⟩
    have hrounds : ∃ e', possessiveRounds (fun s k => (body.ways s).findSome? k) least most
        (roundLimit least e) 0 none e = some e' ∧ e'.cursor = .start [] :=
      exists_possessiveRounds (fun _ he _ h => cursor_of_mem_ways he h) he.cursor hneeded
        (by simp [roundLimit])
    obtain ⟨e', he', hcursor⟩ := hrounds
    exact ⟨e', by simp [roundWays, he'], .of_cuts hcuts hcursor⟩

theorem exists_backreferenceWay {index : Nat} {folding : Folding} (hcuts : cuts = false)
    (he : Shadows cuts e s) (hs : s' ∈ (Node.backreference index folding).ways s) :
    ∃ e' ∈ (Node.backreference index folding).ways e, Shadows cuts e' s' := by
  simp only [Node.ways] at hs ⊢
  have hsome := he.groups hcuts index
  cases hcapture : s.capture? index with
  | none => simp [hcapture] at hs
  | some capture =>
    rw [hcapture, Option.isSome_some, Option.isSome_iff_exists] at hsome
    obtain ⟨shadow, hshadow⟩ := hsome
    have hfirst := he.captures hcuts shadow (List.mem_of_find?_eq_some hshadow)
    have hnothing : shadow.first.upTo shadow.last = [] := by
      simp [hfirst, Cursor.upTo, Cursor.start]
    have hcaptures : s'.captures = s.captures := by
      rw [hcapture] at hs
      dsimp only at hs
      split at hs
      · cases hs
      · rw [List.mem_singleton.mp hs]
    rw [hshadow]
    simp only [hnothing, follow]
    refine ⟨e, List.mem_singleton_self _, he.of_captures_eq he.cursor (fun _ => rfl) ?_⟩
    exact fun _ => hcaptures

theorem ways_lookNot {direction : Direction} {body : Node} (hbody : 0 < body.leastWidth)
    (he : e.cursor = .start []) : (Node.look direction true body).ways e = [e] := by
  cases direction with
  | ahead => simp [Node.ways, ways_eq_nil_of_wide hbody he]
  | behind width =>
    cases width with
    | zero => simp [Node.ways, Cursor.back?, ways_eq_nil_of_wide hbody he]
    | succ width => simp [Node.ways, he, Cursor.start, Cursor.back?]

theorem eq_of_mem_ways_lookNot {direction : Direction} {body : Node}
    (hs : s' ∈ (Node.look direction true body).ways s) : s' = s := by
  simp only [Node.ways] at hs
  split at hs
  next hfalse => cases hfalse
  · exact List.mem_singleton.mp hs
  · cases hs

theorem Node.Indifferent.lookNot {direction : Direction} {body : Node}
    (hbody : 0 < body.leastWidth) : Indifferent cuts (.look direction true body) := by
  refine .look (fun e he => ?_) (fun _ s s' hs => ?_)
  · simp [ways_lookNot hbody he]
  · rw [eq_of_mem_ways_lookNot hs]

/-- A way of an indifferent pattern that takes no character has a shadow in the empty text. -/
theorem Node.Indifferent.exists_way (h : p.Indifferent cuts) (he : Shadows cuts e s)
    (hs : s' ∈ p.ways s) (hstay : s'.cursor.offset = s.cursor.offset) :
    ∃ e' ∈ p.ways e, Shadows cuts e' s' := by
  induction h generalizing s s' e with
  | wide hp =>
    have hoffset := (ways_reaches hs).add_le_offset
    omega
  | empty =>
    obtain rfl := List.mem_singleton.mp hs
    exact ⟨e, List.mem_singleton_self _, he⟩
  | anchor ha =>
    simp only [Node.ways] at hs ⊢
    rw [he.cursor, if_pos ha]
    split at hs
    · obtain rfl := List.mem_singleton.mp hs
      exact ⟨e, List.mem_singleton_self _, he⟩
    · cases hs
  | seq _ _ ih ih' =>
    obtain ⟨t, ht, hs⟩ := List.mem_flatMap.mp hs
    have hto := (ways_reaches ht).add_le_offset
    have hfrom := (ways_reaches hs).add_le_offset
    obtain ⟨e₁, he₁, hshadow⟩ := ih he ht (by omega)
    obtain ⟨e', he', hshadow'⟩ := ih' hshadow hs (by omega)
    exact ⟨e', List.mem_flatMap.mpr ⟨e₁, he₁, he'⟩, hshadow'⟩
  | alt _ _ ih ih' =>
    rcases List.mem_append.mp hs with hs | hs
    · obtain ⟨e', he', hshadow⟩ := ih he hs hstay
      exact ⟨e', List.mem_append_left _ he', hshadow⟩
    · obtain ⟨e', he', hshadow⟩ := ih' he hs hstay
      exact ⟨e', List.mem_append_right _ he', hshadow⟩
  | @group index body _ ih =>
    obtain ⟨t, ht, rfl⟩ := List.mem_map.mp hs
    obtain ⟨e', he', hshadow⟩ := ih he ht hstay
    refine ⟨e'.record index (.start []), List.mem_map.mpr ⟨e', he', ?_⟩, hshadow.record index _⟩
    rw [he.cursor]
  | @repetition mode least most body hmode _ ih =>
    cases body with
    | chars set => exact exists_strideWay he hs hstay
    | _ => exact exists_roundWay hmode ih he hs hstay
  | backreference hcuts => exact exists_backreferenceWay hcuts he hs
  | @conditional index matched unmatched hcuts _ _ ih ih' =>
    simp only [Node.ways, he.groups hcuts] at hs ⊢
    split at hs
    next hsome =>
      rw [if_pos hsome]
      exact ih he hs hstay
    next hnone =>
      rw [if_neg hnone]
      exact ih' he hs hstay
  | look hholds hkept =>
    obtain ⟨e', he'⟩ := List.exists_mem_of_ne_nil _ (hholds e he.cursor)
    refine ⟨e', he', he.of_captures_eq (cursor_of_mem_ways he.cursor he') ?_ ?_⟩
    · exact fun hcuts => hkept hcuts e e' he'
    · exact fun hcuts => hkept hcuts s s' hs
  | atomic hcuts _ ih =>
    obtain ⟨e', he', -⟩ := ih he (List.mem_of_head? (by simpa [Node.ways] using hs)) hstay
    obtain ⟨e₁, rest, hways⟩ := List.exists_cons_of_ne_nil (List.ne_nil_of_mem he')
    refine ⟨e₁, by simp [Node.ways, hways], .of_cuts hcuts ?_⟩
    exact cursor_of_mem_ways he.cursor (by rw [hways]; exact List.mem_cons_self)

end Ways

section Matches

variable {p : Node} {text : List Char} {m : Found}

theorem exists_way_of_mem_findAll (hm : m ∈ findAll p text) :
    ∃ s ∈ p.ways { cursor := m.first }, s.cursor = m.last := by
  obtain ⟨advance, hmatch⟩ := (findAll_finds p text).exists_matchAt m hm
  obtain ⟨s, hs, hfound, -⟩ := matchAt_eq_some hmatch
  exact ⟨s, hs, by rw [hfound]⟩

theorem findAll_nil (h : matchesWhole p [] = false) : findAll p [] = [] := by
  apply List.eq_nil_iff_forall_not_mem.mpr
  intro m hm
  obtain ⟨s, hs, -⟩ := exists_way_of_mem_findAll hm
  rw [((findAll_finds p []).reaches m hm).1.eq_start] at hs
  rw [matchesWhole_nil_iff.mpr ⟨s, hs⟩] at h
  cases h

/-- The matches of an indifferent pattern have characters, if it does not match the empty text. -/
theorem Node.Indifferent.chars_ne_nil {cuts : Bool} (h : p.Indifferent cuts)
    (hempty : matchesWhole p [] = false) (hm : m ∈ findAll p text) : m.chars ≠ [] := by
  intro hchars
  obtain ⟨s, hs, hlast⟩ := exists_way_of_mem_findAll hm
  obtain ⟨start, width, hwithin, hfirst, hend, hspan⟩ := exists_span_of_mem_findAll hm
  have hstay : s.cursor.offset = m.first.offset := by
    have hlength := congrArg List.length (hspan.symm.trans hchars)
    simp only [List.length_take, List.length_drop, List.length_nil] at hlength
    rw [hlast]
    omega
  obtain ⟨e, he, -⟩ := h.exists_way (.start cuts m.first) hs hstay
  rw [matchesWhole_nil_iff.mpr ⟨e, he⟩] at hempty
  cases hempty

end Matches

end ContractScan.Pattern
