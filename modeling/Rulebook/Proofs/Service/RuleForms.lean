import Mathlib.Data.List.Flatten
import Rulebook.Proofs.Service.Verdicts

/-!
# Rules as mappings and as typed payloads

A rule that arrives as a mapping is validated as it is, or read as a typed payload first, which is
what its route does.  The typed payload takes a section under either of its two names, while the
mapping is looked up under the first names alone.  A section that stands under its second name
alone is therefore validated in one form only.
-/

namespace Rulebook

namespace Section

/-- The second name under which a typed payload takes the section. -/
def otherKey : Section → Text
  | .condition => "condition_expression"
  | .successActions => "success_actions"
  | .failureActions => "failure_actions"

/-- What a typed payload holds as the section. -/
def typed (part : Section) (entries : Entries) : Value :=
  Payload.part entries part.key part.otherKey

theorem typed_of_key {part : Section} {entries : Entries} {given : Value}
    (found : entries.get? part.key = some given) : part.typed entries = entries.getD part.key := by
  rw [typed, Payload.part, Entries.either?, found, Entries.getD, found]
  rfl

theorem typed_of_no_key {part : Section} {entries : Entries}
    (absent : entries.get? part.key = none) :
    part.typed entries = entries.getD part.otherKey := by
  rw [typed, Payload.part, Entries.either?, absent, Entries.getD]
  cases entries.get? part.otherKey <;> rfl

/-- The mapping has the section under its second name alone, where its verdict is unfavourable. -/
structure IsOverlooked (limit : Value) (entries : Entries) (part : Section) : Prop where
  absent : entries.get? part.key = none
  unfavourable : ∃ verdict,
    part.verdict none limit (entries.getD part.otherKey) = .ok verdict ∧ verdict.valid = false

end Section

/-! ## Verdicts on both forms -/

theorem Payload.sectionVerdict_ofEntries (limit : Value) (entries : Entries) (part : Section) :
    (Payload.ofEntries entries).sectionVerdict none limit part =
      part.verdict none limit (part.typed entries) := by
  cases part <;> rfl

theorem Section.isGrounded_of_verdict {limit given : Value} {part : Section} {verdict : Verdict}
    (judged : part.verdict none limit given = .ok verdict) : verdict.IsGrounded := by
  cases part with
  | condition =>
      rw [Section.verdict, conditionVerdict_eq] at judged
      exact isGrounded_of_outcomeVerdict judged
  | successActions => exact isGrounded_of_actionsVerdict judged
  | failureActions => exact isGrounded_of_actionsVerdict judged

namespace SectionVerdicts

/-- The verdicts on all sections, given what each holds. -/
def ofEach (tell : Section → Value → Verdict) (given : Section → Value) : SectionVerdicts :=
  ⟨tell .condition (given .condition), tell .successActions (given .successActions),
    tell .failureActions (given .failureActions)⟩

@[simp]
theorem get_ofEach (tell : Section → Value → Verdict) (given : Section → Value)
    (part : Section) : (ofEach tell given).get part = tell part (given part) := by
  cases part <;> rfl

end SectionVerdicts

/-- Lists that are made of parts of others are those others only if each part is whole. -/
theorem flatMap_eq_flatMap_iff {α β : Type} {parts : List α} {some whole : α → List β}
    (below : ∀ part ∈ parts, (some part).Sublist (whole part)) :
    parts.flatMap some = parts.flatMap whole ↔ ∀ part ∈ parts, some part = whole part := by
  induction parts with
  | nil => simp
  | cons part rest induction =>
      have own := below part List.mem_cons_self
      have later := fun other member => below other (List.mem_cons_of_mem part member)
      have others := List.Sublist.flatMap_right rest later
      simp only [List.flatMap_cons, List.forall_mem_cons, ← induction later]
      constructor
      · intro same
        have lengths := congrArg List.length same
        simp only [List.length_append] at lengths
        have ownLength := own.length_le
        have othersLength := others.length_le
        exact ⟨own.eq_of_length (by omega), others.eq_of_length (by omega)⟩
      · intro both
        rw [both.1, both.2]

/-- The verdicts on both forms of a rule.  They agree on a section that the mapping has under its
first name, and a section that it does not have there is in order for it. -/
structure Entries.JudgedAs (limit : Value) (entries : Entries) (own typed : SectionVerdicts) :
    Prop where
  mapping : payloadVerdict none limit (.mapping entries) = .ok (.ofErrors own.errors none)
  payload : payloadVerdict none limit (Payload.ofEntries entries).toValue =
    .ok (.ofErrors typed.errors none)
  present : ∀ part : Section, entries.get? part.key ≠ none → own.get part = typed.get part
  absent : ∀ part : Section, entries.get? part.key = none →
    own.get part = .clean ∧
      part.verdict none limit (entries.getD part.otherKey) = .ok (typed.get part)

theorem Entries.exists_judgedAs (limit : Value) (entries : Entries) :
    ∃ own typed, Entries.JudgedAs limit entries own typed := by
  choose tell judged told using Section.verdict_tells speaksOfFailures_none limit
  refine ⟨.ofEach tell fun part => entries.getD part.key,
    .ofEach tell fun part => part.typed entries, ?mapping, ?payload, ?present, ?absent⟩
  case mapping =>
    refine (payloadVerdict_eq_ok_iff _ _ _ _).mpr ⟨_, ?_, rfl⟩
    rw [payloadSections_of_read rfl, Payload.sections_eq_ok_iff]
    intro part
    rw [Payload.sectionVerdict_eq none limit entries part rfl, SectionVerdicts.get_ofEach]
    exact judged part _
  case payload =>
    refine (payloadVerdict_eq_ok_iff _ _ _ _).mpr ⟨_, ?_, rfl⟩
    rw [payloadSections_of_read rfl, Payload.sections_eq_ok_iff]
    intro part
    rw [SectionVerdicts.get_ofEach, ← judged part (part.typed entries)]
    exact Payload.sectionVerdict_ofEntries limit entries part
  case present =>
    intro part present
    obtain ⟨given, found⟩ := Option.ne_none_iff_exists'.mp present
    rw [SectionVerdicts.get_ofEach, SectionVerdicts.get_ofEach, Section.typed_of_key found]
  case absent =>
    intro part absent
    have null : entries.getD part.key = .null := by rw [Entries.getD, absent]; rfl
    rw [SectionVerdicts.get_ofEach, SectionVerdicts.get_ofEach, Section.typed_of_no_key absent,
      null]
    exact ⟨(told part .null).absent rfl, judged part _⟩

namespace Entries.JudgedAs

variable {limit : Value} {entries : Entries} {own typed : SectionVerdicts}
  (forms : Entries.JudgedAs limit entries own typed)

include forms

theorem ledBy_sublist (part : Section) (lead : Text) :
    ((own.get part).ledBy lead).Sublist ((typed.get part).ledBy lead) := by
  by_cases absent : entries.get? part.key = none
  · rw [(forms.absent part absent).1]
    exact List.nil_sublist _
  · rw [forms.present part absent]

theorem errors_sublist : own.errors.Sublist typed.errors := by
  rw [own.errors_eq_flatMap, typed.errors_eq_flatMap]
  exact List.Sublist.flatMap_right _ fun part _ => forms.ledBy_sublist part part.lead

theorem ledBy_eq_iff (part : Section) (lead : Text) :
    (own.get part).ledBy lead = (typed.get part).ledBy lead ↔
      ¬part.IsOverlooked limit entries := by
  by_cases absent : entries.get? part.key = none
  · obtain ⟨clean, judged⟩ := forms.absent part absent
    have grounded := Section.isGrounded_of_verdict judged
    have none : Verdict.clean.ledBy lead = [] := rfl
    rw [clean, none, eq_comm, grounded.ledBy_eq_nil_iff]
    constructor
    · intro valid overlooked
      obtain ⟨verdict, again, invalid⟩ := overlooked.unfavourable
      rw [judged] at again
      cases again
      rw [valid] at invalid
      cases invalid
    · intro seen
      by_contra invalid
      exact seen ⟨absent, _, judged, Bool.eq_false_iff.mpr invalid⟩
  · rw [forms.present part absent]
    have seen : ¬part.IsOverlooked limit entries := fun overlooked => absent overlooked.absent
    simp [seen]

theorem errors_eq_iff :
    own.errors = typed.errors ↔ ∀ part : Section, ¬part.IsOverlooked limit entries := by
  rw [own.errors_eq_flatMap, typed.errors_eq_flatMap,
    flatMap_eq_flatMap_iff fun part _ => forms.ledBy_sublist part part.lead]
  constructor
  · intro same part
    exact (forms.ledBy_eq_iff part part.lead).mp (same part part.mem_all)
  · intro seen part _
    exact (forms.ledBy_eq_iff part part.lead).mpr (seen part)

end Entries.JudgedAs

/-! ## Rules as they are served -/

/-- The request sends that rule to its route, where it is validated under that depth limit and
without the guard. -/
structure Request.SendsRule (service : Service) (surroundings : Surroundings) (limit : Int)
    (entries : Entries) (request : Request) : Prop where
  passes : request.PassesBodyCheck service.settings.maxPayloadSize
  route : resolve request.method request.path = .route .rule
  content : ∃ members, Content.ofRequest request = .document (.object members) ∧
    Value.ofMembers members = entries
  unguarded : ∃ settings, surroundings.settings = .ok settings ∧
    settings.enforcesGuard = false ∧ settings.maxDepth = limit
  calm : surroundings.breakdown = none

theorem Request.SendsRule.gets {service : Service} {surroundings : Surroundings} {limit : Int}
    {entries : Entries} {request : Request} {verdict : Verdict}
    (sends : request.SendsRule service surroundings limit entries)
    (judged : payloadVerdict none (.int limit) (Payload.ofEntries entries).toValue =
      .ok verdict) : request.Gets surroundings verdict := by
  obtain ⟨members, content, rfl⟩ := sends.content
  obtain ⟨settings, found, unguarded, rfl⟩ := sends.unguarded
  have admits : settings.Admits (Payload.ofEntries (Value.ofMembers members)).condition := by
    intro enforced
    rw [unguarded] at enforced
    cases enforced
  exact .rule sends.route content found admits sends.calm judged

/-- A mapping and the payload read from it get the same verdict exactly if the mapping has no
section under its second name alone that is unfavourable there.  Whatever is told of the mapping is
told of the payload too, and the route for rules answers what is told of the payload. -/
theorem payloadVerdict_forms_agree_iff (limit : Int) (entries : Entries) :
    ∃ payload own typed, (Value.mapping entries).fitPayload = .ok payload ∧
      payloadVerdict none (.int limit) (.mapping entries) = .ok own ∧
      payloadVerdict none (.int limit) payload.toValue = .ok typed ∧
      (own = typed ↔ ∀ part : Section, ¬part.IsOverlooked (.int limit) entries) ∧
      own.errorList.Sublist typed.errorList ∧
      ∀ (service : Service) (occasion : Occasion) (metrics : Metrics) (request : Request),
        request.SendsRule service occasion.surroundings limit entries → typed.IsTellable →
          (service.handle occasion metrics request).outcome =
            .ok ((typed.told 200).withHeader correlationHeader
              (request.correlationId occasion.freshId)) := by
  obtain ⟨own, typed, forms⟩ := Entries.exists_judgedAs (.int limit) entries
  refine ⟨_, _, _, rfl, forms.mapping, forms.payload, ?agree, ?some, ?served⟩
  case agree =>
    rw [← forms.errors_eq_iff]
    constructor
    · intro same
      have errors := congrArg Verdict.errorList same
      rwa [Verdict.ofErrors_errorList, Verdict.ofErrors_errorList] at errors
    · intro same
      rw [same]
  case some =>
    rw [Verdict.ofErrors_errorList, Verdict.ofErrors_errorList]
    exact forms.errors_sublist
  case served =>
    intro service occasion metrics request sends tellable
    exact Service.outcome_handle_of_gets sends.passes (sends.gets forms.payload) tellable metrics

/-- A rule that has one section, which is no list, under the second name. -/
def Entries.secondNamed : Entries := [(.text "success_actions", .text "later")]

/-- A service with the guard off. -/
def Service.unguarded : Service := ⟨.default, { Settings.default with enforcesGuard := false }⟩

/-- An occasion on which that service finds its settings as they were at the start. -/
def Occasion.unguarded : Occasion :=
  ⟨⟨.ok Service.unguarded.settings, .measured 1073741824 1048576, none⟩, "third", []⟩

/-- A request that sends this rule. -/
def Request.secondNamed : Request where
  method := "POST"
  path := "/v1/rules/validate"
  headers := [("content-type", "application/json")]
  body :=
      [0x7B, 0x22, 0x73, 0x75, 0x63, 0x63, 0x65, 0x73, 0x73, 0x5F, 0x61, 0x63, 0x74, 0x69, 0x6F,
       0x6E, 0x73, 0x22, 0x3A, 0x22, 0x6C, 0x61, 0x74, 0x65, 0x72, 0x22, 0x7D]

theorem Request.content_secondNamed :
    ∃ members, Content.ofRequest Request.secondNamed = .document (.object members) ∧
      Value.ofMembers members = Entries.secondNamed := by
  have told : (Content.ofRequest Request.secondNamed).single? =
      some (Text.ofString "success_actions", Text.ofString "later") := by decide +kernel
  exact ⟨_, Content.eq_of_single? told, rfl⟩

theorem Request.sendsRule_secondNamed :
    Request.secondNamed.SendsRule Service.unguarded Occasion.unguarded.surroundings 5
      Entries.secondNamed where
  passes := passesBodyCheck_of_strict rfl ⟨none, rfl, nofun⟩ (by decide) (by decide +kernel)
  route := rfl
  content := Request.content_secondNamed
  unguarded := ⟨_, rfl, rfl, rfl⟩
  calm := rfl

/-- What is told of that rule as a typed payload. -/
def Verdict.noList : Verdict :=
  .ofErrors [Text.ofString "Success actions: successActions must be a list"] none

theorem payloadVerdict_secondNamed_forms :
    payloadVerdict none (.int 5) (.mapping Entries.secondNamed) ≠ .ok .noList ∧
      (Service.unguarded.handle Occasion.unguarded (Metrics.fresh .default)
          Request.secondNamed).outcome =
        .ok (((.noList : Verdict).told 200).withHeader correlationHeader "third") := by
  obtain ⟨payload, own, typed, fitted, judged, typedJudged, agree, -, served⟩ :=
    payloadVerdict_forms_agree_iff 5 Entries.secondNamed
  cases fitted
  have known : typed = .noList := by
    have told : payloadVerdict none (.int 5) (Payload.ofEntries Entries.secondNamed).toValue =
        .ok .noList := rfl
    exact Except.ok.inj (typedJudged.symm.trans told)
  have tellable : Verdict.noList.IsTellable := ⟨_, rfl⟩
  rw [known] at agree served
  refine ⟨?differ, ?answered⟩
  case differ =>
    intro same
    rw [judged] at same
    exact agree.mp (Except.ok.inj same) .successActions ⟨rfl, _, rfl, rfl⟩
  case answered =>
    exact served Service.unguarded Occasion.unguarded (Metrics.fresh .default)
      Request.secondNamed Request.sendsRule_secondNamed tellable

/-- What is no list under the second name is in order for the mapping and out of order for the
payload. -/
theorem payloadVerdict_secondNamed_differs :
    payloadVerdict none (.int 5) (.mapping Entries.secondNamed) = .ok .clean ∧
      ∃ payload typed, (Value.mapping Entries.secondNamed).fitPayload = .ok payload ∧
        payloadVerdict none (.int 5) payload.toValue = .ok typed ∧ typed.valid = false :=
  ⟨rfl, _, _, rfl, rfl, rfl⟩

end Rulebook
