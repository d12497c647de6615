import Rulebook.Proofs.Rendering

/-!
# Issue trees

Issues wrap the issues of rules, so that a report is a forest.  A breadcrumb of positions leads
into it: the issues under a breadcrumb are those wrapped by the rule errors at its positions, one
inside the other.
-/

namespace Rulebook

namespace Issue

/-- The position of the element that an issue wraps, if it gives one. -/
def position? (issue : Issue) : Option Int :=
  match Assoc.get? (Text.ofString "index") issue.values with
  | some (.int position) => some position
  | _ => none

/-- The issue wraps the issues of the rule at a position. -/
def isRuleError (position : Nat) (issue : Issue) : Bool :=
  issue.code = .ruleError && issue.position? = some (position : Int)

/-- The issues wrapped by the rule errors at a position. -/
def wrapped (position : Nat) (issues : List Issue) : List Issue :=
  (issues.filter (·.isRuleError position)).flatMap (·.nested)

/-- The issues under a breadcrumb of positions. -/
def under : List Nat → List Issue → List Issue
  | [], issues => issues
  | position :: path, issues => under path (wrapped position issues)

/-- An issue stands somewhere among issues, at whatever level. -/
inductive Within : Issue → List Issue → Prop
  | here {issue : Issue} {issues : List Issue} (member : issue ∈ issues) : Within issue issues
  | nested {issue wrapper : Issue} {issues : List Issue} (member : wrapper ∈ issues)
      (inner : Within issue wrapper.nested) : Within issue issues

theorem not_within_nil (issue : Issue) : ¬Within issue [] := by
  intro within
  cases within with
  | here member => cases member
  | nested member _ => cases member

@[simp]
theorem wrapped_nil (position : Nat) : wrapped position [] = [] := rfl

theorem wrapped_append (position : Nat) (left right : List Issue) :
    wrapped position (left ++ right) = wrapped position left ++ wrapped position right := by
  rw [wrapped, List.filter_append, List.flatMap_append]
  rfl

theorem code_of_isRuleError {position : Nat} {issue : Issue}
    (wraps : issue.isRuleError position = true) : issue.code = .ruleError := by
  rw [isRuleError, Bool.and_eq_true] at wraps
  exact of_decide_eq_true wraps.1

theorem isRuleError_unique {position other : Nat} {issue : Issue}
    (wraps : issue.isRuleError position = true) (again : issue.isRuleError other = true) :
    other = position := by
  rw [isRuleError, Bool.and_eq_true] at wraps again
  have positioned : issue.position? = some (position : Int) := of_decide_eq_true wraps.2
  have otherwise : issue.position? = some (other : Int) := of_decide_eq_true again.2
  rw [positioned] at otherwise
  exact (Int.ofNat_inj.mp (Option.some.inj otherwise)).symm

theorem wrapped_eq_nil {issues : List Issue} {position : Nat}
    (none : ∀ issue ∈ issues, ¬issue.isRuleError position = true) :
    wrapped position issues = [] := by
  rw [wrapped, List.filter_eq_nil_iff.mpr none, List.flatMap_nil]

theorem isRuleError_iff {issue : Issue} {position : Nat} (coded : issue.code = .ruleError)
    (positioned : issue.position? = some (position : Int)) (other : Nat) :
    issue.isRuleError other = true ↔ position = other := by
  rw [isRuleError, positioned, Bool.and_eq_true, decide_eq_true_eq, decide_eq_true_eq,
    Option.some.injEq, Int.ofNat_inj]
  exact and_iff_right coded

/-- Under the position of a rule error alone stands what it wraps, and under any other position
nothing. -/
theorem wrapped_singleton {issue : Issue} {position : Nat} (coded : issue.code = .ruleError)
    (positioned : issue.position? = some (position : Int)) (other : Nat) :
    wrapped other [issue] = if position = other then issue.nested else [] := by
  have wraps := isRuleError_iff coded positioned other
  rw [wrapped]
  by_cases same : position = other
  · rw [List.filter_cons_of_pos (wraps.mpr same), List.filter_nil, List.flatMap_singleton,
      if_pos same]
  · rw [List.filter_cons_of_neg fun given => same (wraps.mp given), List.filter_nil,
      List.flatMap_nil, if_neg same]

@[simp]
theorem under_nil (path : List Nat) : under path [] = [] := by
  induction path with
  | nil => rfl
  | cons position path induction => rw [under, wrapped_nil, induction]

end Issue

/-! ## Issues of findings -/

namespace Finding

theorem mem_issues_iff (wording : Option Wording) (findings : List Finding) (issue : Issue) :
    issue ∈ issues wording findings ↔
      ∃ finding ∈ findings, issue? wording finding = some issue := by
  rw [issues_eq_filterMap, List.mem_filterMap]

/-- The code that a finding is reported under. -/
def code? : Finding → Option Code
  | .problem code _ => some code
  | .element code _ _ => some code
  | .fault _ => none

theorem code?_of_issue? {wording : Option Wording} {finding : Finding} {issue : Issue}
    (stands : issue? wording finding = some issue) : finding.code? = some issue.code := by
  cases finding with
  | problem code values =>
      rw [issue?] at stands
      cases stands
      rfl
  | element code position findings =>
      rw [issue?] at stands
      cases stands
      rfl
  | fault cause =>
      rw [issue?] at stands
      cases stands

/-- Some finding is reported under the code. -/
def Has (code : Code) (findings : List Finding) : Prop :=
  ∃ finding ∈ findings, finding.code? = some code

theorem has_issues_iff (wording : Option Wording) (code : Code) (findings : List Finding) :
    (∃ issue ∈ issues wording findings, issue.code = code) ↔ Has code findings := by
  constructor
  · rintro ⟨issue, member, rfl⟩
    obtain ⟨finding, findingMember, stands⟩ := (mem_issues_iff wording findings issue).mp member
    exact ⟨finding, findingMember, code?_of_issue? stands⟩
  · rintro ⟨finding, member, coded⟩
    cases stands : issue? wording finding with
    | some issue =>
        refine ⟨issue, (mem_issues_iff wording findings issue).mpr ⟨finding, member, stands⟩, ?_⟩
        exact Option.some.inj ((code?_of_issue? stands).symm.trans coded)
    | none =>
        cases finding with
        | problem other values =>
            rw [issue?] at stands
            cases stands
        | element other position nested =>
            rw [issue?] at stands
            cases stands
        | fault cause => cases coded

@[simp]
theorem not_has_nil (code : Code) : ¬Has code [] := by
  rintro ⟨finding, member, -⟩
  cases member

@[simp]
theorem has_append_iff (code : Code) (left right : List Finding) :
    Has code (left ++ right) ↔ Has code left ∨ Has code right := by
  simp only [Has, List.mem_append, or_and_right, exists_or]

@[simp]
theorem has_of_iff (code own : Code) (values : List (String × Value)) :
    Has code [.of own values] ↔ code = own := by
  constructor
  · rintro ⟨finding, member, coded⟩
    obtain rfl := List.mem_singleton.mp member
    exact (Option.some.inj coded).symm
  · rintro rfl
    exact ⟨_, List.mem_singleton_self _, rfl⟩

/-- The issue that wraps the issues of the findings about an element. -/
def elementIssue (wording : Option Wording) (code : Code) (position : Nat)
    (own : List Finding) : Issue :=
  let nested := issues wording own
  let values := Issue.elementValues position (nested.map (·.message))
  .mk code (code.text wording ⟨values, nested⟩) values nested

theorem issue?_element (wording : Option Wording) (code : Code) (position : Nat)
    (own : List Finding) :
    issue? wording (.element code position own) =
      some (elementIssue wording code position own) := by
  rw [issue?]
  rfl

theorem elementIssue_position? (wording : Option Wording) (code : Code) (position : Nat)
    (own : List Finding) :
    (elementIssue wording code position own).position? = some (position : Int) := rfl

theorem issues_ofElement (wording : Option Wording) (code : Code) (position : Nat)
    (own : List Finding) :
    issues wording (ofElement code position own) =
      if own.isEmpty then [] else [elementIssue wording code position own] := by
  rw [ofElement]
  split
  · rw [issues_nil]
  · rw [issues, issues_nil, issue?_element]
    rfl

theorem elementIssue_isRuleError_iff (wording : Option Wording) (position other : Nat)
    (own : List Finding) :
    (elementIssue wording .ruleError position own).isRuleError other = true ↔
      position = other :=
  Issue.isRuleError_iff rfl (elementIssue_position? wording .ruleError position own) other

/-- Under the position of a rule stand the issues of the findings about it, and under any other
position nothing. -/
theorem wrapped_ofElement (wording : Option Wording) (position other : Nat)
    (findings : List Finding) :
    Issue.wrapped other (issues wording (ofElement .ruleError position findings)) =
      if position = other then issues wording findings else [] := by
  rw [issues_ofElement]
  cases findings with
  | nil => simp
  | cons finding rest =>
      rw [List.isEmpty_cons, if_neg Bool.false_ne_true,
        Issue.wrapped_singleton rfl
          (elementIssue_position? wording .ruleError position (finding :: rest))]
      rfl

end Finding

end Rulebook
