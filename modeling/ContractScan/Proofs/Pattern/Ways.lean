import ContractScan.Pattern.Match

/-! # Ways to match

A pattern matches from a place in several ways. They are listed in the order
in which the matcher tries them, so that running a pattern with a continuation
is asking for the first way that the continuation accepts.
-/

namespace ContractScan.Pattern

theorem findSome?_flatMap {α β γ : Type} (l : List α) (f : α → List β) (k : β → Option γ) :
    (l.flatMap f).findSome? k = l.findSome? fun a => (f a).findSome? k := by
  induction l with
  | nil => rfl
  | cons a l ih =>
    rw [List.flatMap_cons, List.findSome?_append, ih, List.findSome?_cons]
    cases (f a).findSome? k <;> rfl

theorem findSome?_some {α : Type} (l : List α) : l.findSome? some = l.head? := by
  cases l <;> rfl

def strides (set : CharSet) : Nat → List Char → List Char → Nat → List Cursor
  | limit + 1, before, x :: rest, offset =>
    ⟨before, x :: rest, offset⟩ ::
      if set.contains x then strides set limit (x :: before) rest (offset + 1) else []
  | _, before, after, offset => [⟨before, after, offset⟩]

theorem strides_zero (set : CharSet) (before after : List Char) (offset : Nat) :
    strides set 0 before after offset = [⟨before, after, offset⟩] := by
  cases after <;> rfl

theorem strides_nil (set : CharSet) (limit : Nat) (before : List Char) (offset : Nat) :
    strides set limit before [] offset = [⟨before, [], offset⟩] := by
  cases limit <;> rfl

theorem reach_eq_strides (set : CharSet) (limit : Nat) (before after : List Char) (offset : Nat)
    (found : List Cursor) :
    reach set before offset (⟨before, after, offset⟩ :: found) limit after =
      (strides set limit before after offset).reverse ++ found := by
  induction limit generalizing before after offset found with
  | zero => cases after <;> rfl
  | succ limit ih =>
    cases after with
    | nil => rfl
    | cons x rest =>
      simp only [reach, strides]
      split
      · rw [ih]
        simp
      · simp

theorem approach_eq_strides (set : CharSet) (s : State) (k : Continuation) (skip limit : Nat)
    (before after : List Char) (offset : Nat) :
    approach set s k skip limit before after offset =
      ((strides set limit before after offset).drop skip).findSome?
        fun c => k { s with cursor := c } := by
  induction limit generalizing skip before after offset with
  | zero =>
    unfold approach
    cases skip with
    | zero => cases h : k { s with cursor := ⟨before, after, offset⟩ } <;> simp [strides_zero, h]
    | succ skip => simp [strides_zero]
  | succ limit ih =>
    unfold approach
    cases after with
    | nil =>
      cases skip with
      | zero => cases h : k { s with cursor := ⟨before, [], offset⟩ } <;> simp [strides_nil, h]
      | succ skip => simp [strides_nil]
    | cons x rest =>
      cases skip with
      | zero =>
        cases h : k { s with cursor := ⟨before, x :: rest, offset⟩ } with
        | some r => simp [strides, h]
        | none => by_cases hx : set.contains x <;> simp [strides, ih, h, hx]
      | succ skip => by_cases hx : set.contains x <;> simp [strides, ih, hx]

def strideWays (mode : RepeatMode) (least : Nat) (places : List Cursor) : List Cursor :=
  match mode with
  | .greedy => (places.drop least).reverse
  | .lazy => places.drop least
  | .possessive => (places.drop least).getLast?.toList

theorem repeatChars_eq (mode : RepeatMode) (least : Nat) (most : Option Nat) (set : CharSet)
    (s : State) (k : Continuation) :
    repeatChars mode least most set s k =
      (strideWays mode least (strides set (most.getD s.cursor.after.length) s.cursor.before
        s.cursor.after s.cursor.offset)).findSome? fun c => k { s with cursor := c } := by
  obtain ⟨⟨before, after, offset⟩, captures⟩ := s
  cases mode with
  | greedy =>
    simp only [repeatChars, strideWays, reach_eq_strides, List.append_nil, List.length_reverse,
      List.reverse_drop]
  | lazy => simp only [repeatChars, strideWays, approach_eq_strides]
  | possessive =>
    simp only [repeatChars, strideWays, reach_eq_strides, List.append_nil, List.length_reverse,
      List.head?_reverse, List.getLast?_drop]
    split
    · rw [if_neg (by omega)]
      cases h : (strides set (most.getD after.length) before after offset).getLast? <;> simp
    · rw [if_pos (by omega)]
      rfl

def greedyWays (round : State → List State) (least : Nat) (most : Option Nat) :
    Nat → Nat → Option Nat → State → List State
  | 0, _, _, _ => []
  | fuel + 1, count, last, s =>
    if count < least then (round s).flatMap (greedyWays round least most fuel (count + 1) last)
    else if another most count last s then
      (round s).flatMap (greedyWays round least most fuel (count + 1) (some s.cursor.offset)) ++ [s]
    else [s]

def lazyWays (round : State → List State) (least : Nat) (most : Option Nat) :
    Nat → Nat → Option Nat → State → List State
  | 0, _, _, _ => []
  | fuel + 1, count, last, s =>
    if count < least then (round s).flatMap (lazyWays round least most fuel (count + 1) last)
    else if another most count last s then
      s :: (round s).flatMap (lazyWays round least most fuel (count + 1) (some s.cursor.offset))
    else [s]

theorem greedyRounds_eq {step : Round} {round : State → List State}
    (h : ∀ s k, step s k = (round s).findSome? k) (least : Nat) (most : Option Nat)
    (k : Continuation) (fuel count : Nat) (last : Option Nat) (s : State) :
    greedyRounds step least most k fuel count last s =
      (greedyWays round least most fuel count last s).findSome? k := by
  induction fuel generalizing count last s with
  | zero => rfl
  | succ fuel ih =>
    simp only [greedyRounds, greedyWays, h]
    split
    · simp only [findSome?_flatMap, ih]
    · split
      · simp only [List.findSome?_append, findSome?_flatMap, ih, List.findSome?_singleton]
        cases List.findSome? _ (round s) <;> rfl
      · simp

theorem lazyRounds_eq {step : Round} {round : State → List State}
    (h : ∀ s k, step s k = (round s).findSome? k) (least : Nat) (most : Option Nat)
    (k : Continuation) (fuel count : Nat) (last : Option Nat) (s : State) :
    lazyRounds step least most k fuel count last s =
      (lazyWays round least most fuel count last s).findSome? k := by
  induction fuel generalizing count last s with
  | zero => rfl
  | succ fuel ih =>
    simp only [lazyRounds, lazyWays, h]
    split
    · simp only [findSome?_flatMap, ih]
    · by_cases ha : another most count last s
      · simp only [ha, if_true, List.findSome?_cons, findSome?_flatMap, ih]
        cases k s <;> rfl
      · cases hk : k s <;> simp [ha, hk]

def roundWays (mode : RepeatMode) (least : Nat) (most : Option Nat) (round : State → List State)
    (s : State) : List State :=
  match mode with
  | .greedy => greedyWays round least most (roundLimit least s) 0 none s
  | .lazy => lazyWays round least most (roundLimit least s) 0 none s
  | .possessive =>
    (possessiveRounds (fun s k => (round s).findSome? k) least most (roundLimit least s) 0 none
      s).toList

theorem repeatRounds_eq {step : Round} {round : State → List State}
    (h : ∀ s k, step s k = (round s).findSome? k) (mode : RepeatMode) (least : Nat)
    (most : Option Nat) (s : State) (k : Continuation) :
    repeatRounds mode least most step s k = (roundWays mode least most round s).findSome? k := by
  cases mode with
  | greedy => exact greedyRounds_eq h ..
  | lazy => exact lazyRounds_eq h ..
  | possessive =>
    obtain rfl : step = fun s k => (round s).findSome? k := by
      funext s k
      exact h s k
    simp only [repeatRounds, roundWays]
    cases possessiveRounds _ least most (roundLimit least s) 0 none s <;> simp

namespace Node

/-- All ways in which a pattern matches from a place, in the order in which they are tried. -/
def ways : Node → State → List State
  | .empty, s => [s]
  | .chars set, s =>
    match s.cursor.next? with
    | none => []
    | some (x, c) => if set.contains x then [{ s with cursor := c }] else []
  | .anchor a, s => if a.holds s.cursor then [s] else []
  | .seq first second, s => (first.ways s).flatMap fun s' => second.ways s'
  | .alt first second, s => first.ways s ++ second.ways s
  | .group index body, s => (body.ways s).map fun s' => s'.record index s.cursor
  | .repetition mode least most (.chars set), s =>
    (strideWays mode least (strides set (most.getD s.cursor.after.length) s.cursor.before
      s.cursor.after s.cursor.offset)).map fun c => { s with cursor := c }
  | .repetition mode least most body, s => roundWays mode least most (fun s => body.ways s) s
  | .backreference index folding, s =>
    match s.capture? index with
    | none => []
    | some capture =>
      match follow folding (capture.first.upTo capture.last) s.cursor with
      | none => []
      | some c => [{ s with cursor := c }]
  | .conditional index matched unmatched, s =>
    if (s.capture? index).isSome then matched.ways s else unmatched.ways s
  | .look direction negated body, s =>
    let place? := match direction with
      | .ahead => some s.cursor
      | .behind width => Cursor.back? width s.cursor
    let found? := match place? with
      | none => none
      | some place => (body.ways { s with cursor := place }).head?
    match found?, negated with
    | some found, false => [{ s with captures := found.captures }]
    | none, true => [s]
    | _, _ => []
  | .atomic body, s => (body.ways s).head?.toList

end Node

/-- Running a pattern finds the first of its ways that the continuation accepts. -/
theorem run_eq_findSome?_ways (p : Node) (s : State) (k : Continuation) :
    p.run s k = (p.ways s).findSome? k := by
  induction p generalizing s k with
  | empty => simp [Node.run, Node.ways]
  | chars set =>
    simp only [Node.run, Node.ways]
    cases s.cursor.next? with
    | none => rfl
    | some xc => by_cases hx : set.contains xc.1 <;> simp [hx]
  | anchor a => by_cases ha : a.holds s.cursor <;> simp [Node.run, Node.ways, ha]
  | seq first second ih ih' => simp only [Node.run, Node.ways, findSome?_flatMap, ih, ih']
  | alt first second ih ih' =>
    simp only [Node.run, Node.ways, List.findSome?_append, ih, ih']
    cases (first.ways s).findSome? k <;> rfl
  | group index body ih => simp only [Node.run, Node.ways, List.findSome?_map, ih]; rfl
  | repetition mode least most body ih =>
    cases body with
    | chars set => simp only [Node.run, Node.ways, repeatChars_eq, List.findSome?_map]; rfl
    | _ =>
      simp only [Node.run, Node.ways]
      exact repeatRounds_eq (fun s k => ih s k) ..
  | backreference index folding =>
    simp only [Node.run, Node.ways]
    cases s.capture? index with
    | none => rfl
    | some capture =>
      cases hf : follow folding (capture.first.upTo capture.last) s.cursor <;> simp [hf]
  | conditional index matched unmatched ih ih' =>
    simp only [Node.run, Node.ways, ih, ih']
    split <;> rfl
  | look direction negated body ih =>
    have hb : ∀ s, body.run s some = (body.ways s).head? := fun s => by rw [ih, findSome?_some]
    simp only [Node.run, Node.ways, hb]
    cases direction with
    | ahead =>
      dsimp only
      cases (body.ways { s with cursor := s.cursor }).head? <;> cases negated <;> simp
    | behind width =>
      dsimp only
      cases Cursor.back? width s.cursor with
      | none => cases negated <;> simp
      | some place =>
        dsimp only
        cases (body.ways { s with cursor := place }).head? <;> cases negated <;> simp
  | atomic body ih =>
    simp only [Node.run, Node.ways, ih, findSome?_some]
    cases (body.ways s).head? <;> simp

end ContractScan.Pattern
