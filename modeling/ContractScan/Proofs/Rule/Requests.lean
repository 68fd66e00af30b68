import ContractScan.Proofs.Rule.Sound
import ContractScan.Rule.Requests

/-! # Histories of a registry

After any requests a name is bound to the predicate that was registered first
under it. A rule that was accepted once is therefore decided, ever after, by the
predicate that it was accepted with.
-/

namespace ContractScan.Registry

def Request.bindings : Request → List (String × Predicate)
  | .register name predicate => [(name, predicate)]
  | _ => []

section Answers

variable {r : Registry} {name : String} {predicate : Predicate}

theorem get_of_get? (h : r.get? name = some predicate) : r.get name = .ok predicate := by
  simp [get, h]

theorem register_of_contains (h : r.contains name = true) (predicate : Predicate) :
    r.register name predicate = .error (.alreadyRegistered name) := by
  simp [register, h]

theorem register_of_not_contains (h : r.contains name = false) (predicate : Predicate) :
    r.register name predicate = .ok ⟨r.entries ++ [(name, predicate)]⟩ := by
  simp [register, h]

theorem get?_answer (r : Registry) (request : Request) (name : String) :
    (r.answer request).1.get? name = (r.get? name).or (request.bindings.lookup name) := by
  cases request with
  | register bound predicate =>
    cases hbound : r.contains bound with
    | false =>
      rw [answer, register_of_not_contains hbound]
      exact List.lookup_append
    | true =>
      rw [answer, register_of_contains hbound]
      by_cases hname : name = bound
      · obtain ⟨first, hfirst⟩ := Option.isSome_iff_exists.mp hbound
        simp [hname, hfirst]
      · have hbeq : (name == bound) = false := by simpa using hname
        simp [Request.bindings, List.lookup_cons, hbeq]
  | check rule => simp [answer, Request.bindings]
  | apply rule content => simp [answer, Request.bindings]
  | call called content => simp [answer, Request.bindings]

end Answers

section Histories

variable {r : Registry} {name : String} {predicate : Predicate}

theorem afterAll_append (r : Registry) (before later : List Request) :
    r.afterAll (before ++ later) = (r.afterAll before).afterAll later :=
  List.foldl_append

/-- The first binding of a name counts. -/
theorem get?_afterAll (r : Registry) (requests : List Request) (name : String) :
    (r.afterAll requests).get? name =
      (r.entries ++ requests.flatMap Request.bindings).lookup name := by
  induction requests generalizing r with
  | nil => simp [afterAll, get?]
  | cons request rest ih =>
    have hstep := get?_answer r request name
    unfold get? at hstep
    rw [afterAll, List.foldl_cons, ← afterAll, ih, List.lookup_append, hstep, List.flatMap_cons,
      List.lookup_append, List.lookup_append, Option.or_assoc]

theorem get?_afterAll_of_bound (h : r.get? name = some predicate) (requests : List Request) :
    (r.afterAll requests).get? name = some predicate := by
  unfold get? at h
  rw [get?_afterAll, List.lookup_append, h, Option.some_or]

/-- What a sound rule decides is settled by the bindings of the registry it is sound for. -/
theorem appliesTo_afterAll {rule : Rule} (h : rule.IsSound r) (requests : List Request)
    (content : List Char) :
    rule.appliesTo (r.afterAll requests) content = rule.appliesTo r content := by
  unfold Rule.appliesTo
  cases hp : rule.predicate with
  | none => rfl
  | some name =>
    obtain ⟨predicate, hbound⟩ := Option.isSome_iff_exists.mp (h.known name hp)
    simp only [get_of_get? hbound, get_of_get? (get?_afterAll_of_bound hbound requests)]

end Histories

/-- Names keep their first predicate, a bound name is refused without effect, and a rule that was
accepted is decided later as it would have been decided then. -/
theorem bindings_persist (before later : List Request) :
    let early := Registry.builtin.afterAll before
    let late := Registry.builtin.afterAll (before ++ later)
    (∀ name, late.get? name =
      (Registry.builtin.entries ++ (before ++ later).flatMap Request.bindings).lookup name) ∧
    (∀ name predicate, early.get? name = some predicate → late.get? name = some predicate ∧
      ∀ content, (late.answer (.call name content)).2 = .decided (predicate content)) ∧
    (∀ name predicate, early.contains name = true →
      early.answer (.register name predicate) = (early, .refused (.alreadyRegistered name))) ∧
    ∀ document rule, (early.answer (.check document)).2 = .checked (.ok (.ok rule)) →
      ∀ content, ∃ verdict, (early.answer (.apply rule content)).2 = .decided verdict ∧
        (late.answer (.apply rule content)).2 = .decided verdict := by
  intro early late
  have hlate : late = early.afterAll later := afterAll_append _ before later
  refine ⟨get?_afterAll _ _, ?_, ?_, ?_⟩
  · intro name predicate hbound
    have hkept : late.get? name = some predicate := hlate ▸ get?_afterAll_of_bound hbound later
    refine ⟨hkept, fun content => ?_⟩
    rw [answer, get_of_get? hkept]
    rfl
  · intro name predicate hbound
    rw [answer, register_of_contains hbound]
  · intro document rule haccepted content
    have hvalue : Rule.ofValue early document = .ok (.ok rule) := Reply.checked.inj haccepted
    obtain ⟨entries, -, hdeclared⟩ := Rule.ofValue_iff_declared.mp hvalue
    obtain ⟨verdict, hverdict⟩ := Rule.appliesTo_eq_ok hdeclared.isSound content
    refine ⟨verdict, ?_, ?_⟩
    · rw [answer, hverdict]
      rfl
    · rw [hlate, answer, appliesTo_afterAll hdeclared.isSound, hverdict]
      rfl

def ownerRequests : List Request :=
  [.register "owned" (holding "owner"), .register "owned" (holding "nobody")]

def ownerDocument : Value :=
  .record [("id", .str "R"), ("name", .str "owned"), ("severity", .str "low"),
    ("pattern", .str "own"), ("description", .str "d"), ("recommendation", .str "r"),
    ("predicate", .str "owned")]

theorem bindings_persist_owner :
    let early := Registry.builtin.afterAll ownerRequests
    let late := Registry.builtin.afterAll (ownerRequests ++ ownerRequests)
    late.get? "owned" = some (holding "owner") ∧
    (∀ content, (late.answer (.call "owned" content)).2 = .decided (holding "owner" content)) ∧
    early.answer (.register "owned" (holding "nobody")) =
      (early, .refused (.alreadyRegistered "owned")) ∧
    ∃ rule, (early.answer (.check ownerDocument)).2 = .checked (.ok (.ok rule)) ∧
      ∀ content, ∃ verdict, (early.answer (.apply rule content)).2 = .decided verdict ∧
        (late.answer (.apply rule content)).2 = .decided verdict := by
  intro early late
  obtain ⟨-, hbound, hrefused, happlied⟩ := bindings_persist ownerRequests ownerRequests
  obtain ⟨hkept, hcalled⟩ := hbound "owned" (holding "owner") rfl
  have hsound : (Rule.ofValue early ownerDocument).toOption.map Checked.issueList = some [] := by
    decide +kernel
  obtain ⟨checked, hchecked, hissues⟩ := Option.map_eq_some_iff.mp hsound
  cases checked with
  | issues first rest => cases hissues
  | ok rule =>
    have haccepted : (early.answer (.check ownerDocument)).2 = .checked (.ok (.ok rule)) :=
      congrArg Reply.checked (toOption_eq_some_iff.mp hchecked)
    exact ⟨hkept, hcalled, hrefused "owned" _ rfl, rule, haccepted,
      happlied ownerDocument rule haccepted⟩

end ContractScan.Registry
