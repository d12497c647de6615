import Rulebook.Action.Typed
import Rulebook.Proofs.Action.Findings
import Rulebook.Proofs.Condition.Fitting

/-!
# Actions and bare configurations

A configuration is checked for a type by itself, or together with the type as an action.  The two
checks agree on every type and every configuration, of whatever kind: an action is told what is
wrong with its type, and then what its configuration would be told by itself.  A typed action is
judged by its raw form, which is told the same as the data that the action was read from.
-/

namespace Rulebook

/-! ## Types and configurations of actions -/

/-- What an action gives as its type and as its configuration.  A mapping gives what stands under
the two keys and a typed action its two fields, absent where there is nothing.  Anything else that
is there gives neither. -/
inductive Value.Gives : Value → Value → Value → Prop
  | mapping (entries : Entries) :
      Gives (.mapping entries) (entries.getD "type") (entries.getD "config")
  | typed (known : ActionType) (config : Option Entries) :
      Gives (.action known config) (.text known.symbol) (config.elim .null .mapping)
  | neither {action : Value} (present : action ≠ .null)
      (noMapping : ∀ entries, action ≠ .mapping entries)
      (untyped : ∀ known config, action ≠ .action known config) : Gives action .null .null

/-- The issue of a code about values, in a wording. -/
def Issue.about (wording : Option Wording) (code : Code) (values : List (Text × Value)) : Issue :=
  .mk code (code.text wording ⟨values, []⟩) values []

/-- The issues about the type of an action. -/
inductive Value.TypeIssues (wording : Option Wording) : Value → List Issue → Prop
  | required {type : Value} (missing : type.truthy = false ∨ ∀ word, type ≠ .text word) :
      TypeIssues wording type [.about wording .actionTypeRequired []]
  | unknown {word : Text} (filled : word ≠ [])
      (foreign : ∀ known : ActionType, word ≠ known.symbol) :
      TypeIssues wording (.text word)
        [.about wording .unknownActionType
          [("type", .text word), ("valid_types", .text (Text.join ", " ActionType.symbols))]]
  | known (known : ActionType) : TypeIssues wording (.text known.symbol) []

theorem typeIssues_of_typeFindings (wording : Option Wording) (type : Value) :
    type.TypeIssues wording (Finding.issues wording (typeFindings type)) := by
  cases type with
  | text word =>
      rw [typeFindings]
      by_cases empty : word = []
      · subst empty
        exact .required (.inl rfl)
      · have filled : word.isEmpty = false := by simpa using empty
        rw [filled]
        cases found : ActionType.ofSymbol? word with
        | none =>
            refine .unknown empty fun known same => ?_
            rw [(ActionType.ofSymbol?_eq_some_iff _ _).mpr same.symm] at found
            cases found
        | some known =>
            rw [← (ActionType.ofSymbol?_eq_some_iff _ _).mp found]
            exact .known known
  | _ =>
      refine .required (.inr fun word same => ?_)
      cases same

/-! ## Raw configurations -/

theorem Value.isMissing_raw (value : Value) : value.raw.isMissing = value.isMissing := by
  cases value with
  | action type config => cases config <;> rfl
  | _ => rfl

theorem Entries.getD_rawEntries (key : Text) (entries : Entries) :
    getD key (rawEntries entries) = (entries.getD key).raw := by
  induction entries with
  | nil => rfl
  | cons entry rest induction =>
      obtain ⟨name, value⟩ := entry
      rw [rawEntries, getD, getD, get?_cons, get?_cons]
      split
      · rfl
      · exact induction

/-- A typed record in a configuration is as good as its raw form. -/
theorem configFindings_rawEntries (type : Value) (entries : Entries) :
    configFindings type (.mapping (rawEntries entries)) =
      configFindings type (.mapping entries) := by
  have each : keyFindings (rawEntries entries) = keyFindings entries := by
    funext key
    rw [keyFindings, keyFindings, Entries.getD_rawEntries, Value.isMissing_raw]
  simp only [configFindings, Value.mapping?, requiredFindings, each]

/-! ## Findings of the two checks -/

/-- An action is found wanting in its type, and then in its configuration as that is by itself. -/
theorem Value.Gives.actionFindings_eq {action type config : Value}
    (gives : action.Gives type config) :
    actionFindings action = typeFindings type ++ configFindings type config := by
  cases gives with
  | mapping entries => rfl
  | typed known config =>
      cases config with
      | none => rfl
      | some entries =>
          exact congrArg (typeFindings (.text known.symbol) ++ ·)
            (configFindings_rawEntries (.text known.symbol) entries)
  | neither present noMapping untyped =>
      cases action with
      | null => exact absurd rfl present
      | mapping entries => exact absurd rfl (noMapping entries)
      | action known config => exact absurd rfl (untyped known config)
      | condition typed => cases typed <;> rfl
      | _ => rfl

theorem typeFindings_complete (type : Value) : ∀ finding ∈ typeFindings type, finding.Complete :=
  fun _ member => (typeFindings_cases member).1.complete

theorem configFindings_complete {type config : Value} (small : ¬type.HasOverlargeKey config) :
    ∀ finding ∈ configFindings type config, finding.Complete := by
  intro finding member
  obtain plain | rfl := configFindings_cases member
  · exact plain.complete
  · exact absurd ((fault_mem_configFindings_iff type config).mp member) small

/-! ## Typed actions -/

theorem Value.fitConfig_eq_ok {value : Value} {config : Option Entries}
    (read : value.fitConfig = .ok config) : value = config.elim .null .mapping := by
  cases value with
  | null =>
      cases read
      rfl
  | mapping entries =>
      rw [fitConfig] at read
      split at read
      · cases read
        rfl
      · cases read
  | _ => cases read

/-- An action that is read gives what the data gives that it is read from. -/
theorem gives_of_fitActionEntries {entries : Entries} {typed : Action}
    (read : fitActionEntries entries = .ok typed) :
    ∃ type config, (Value.mapping entries).Gives type config ∧ typed.toValue.Gives type config := by
  rw [fitActionEntries] at read
  split at read
  · rename_i known config both
    cases read
    obtain ⟨typeRead, configRead⟩ := (Fit.both_eq_ok_iff _ _ _).mp both
    obtain ⟨type, hasType, spelled⟩ := (Entries.fitRequired_eq_ok_iff _ _ _ _).mp typeRead
    rw [Value.fitWord_eq_ok_iff ActionType.ofSymbol?_eq_some_iff] at spelled
    have sameType : entries.getD "type" = .text known.symbol := by
      rw [Entries.getD, hasType, Option.getD_some, spelled]
    have sameConfig : entries.getD "config" = config.elim .null .mapping :=
      Value.fitConfig_eq_ok ((Fit.under_eq_ok_iff _ _ _).mp configRead)
    have data := Value.Gives.mapping entries
    rw [sameType, sameConfig] at data
    exact ⟨_, _, data, .typed known config⟩
  · cases read

/-! ## Reports of the two checks -/

/-- The report on an action tells the issues about its type, and then those that the report on its
configuration tells.  A typed action has the report of the data that it was read from. -/
theorem checkAction_agrees_with_checkConfig :
    (∀ wording : Option Wording, Speaks wording → ∀ action type config : Value,
      action.Gives type config → ¬type.HasOverlargeKey config →
        ∃ own report, type.TypeIssues wording own ∧ checkConfig wording type config = .ok report ∧
          checkAction wording action = .ok (.ofIssues (own ++ report.issues))) ∧
    ∀ (wording : Option Wording) (entries : Entries) (typed : Action),
      fitActionEntries entries = .ok typed →
        checkAction wording typed.toValue = checkAction wording (.mapping entries) := by
  refine ⟨?agree, ?typed⟩
  case agree =>
    intro wording spoken action type given gives small
    have config := configFindings_complete small
    have whole : ∀ finding ∈ actionFindings action, finding.Complete := by
      rw [gives.actionFindings_eq, List.forall_mem_append]
      exact ⟨typeFindings_complete type, config⟩
    have checked : checkConfig wording type given =
        .ok (.ofIssues (Finding.issues wording (configFindings type given))) := by
      rw [checkConfig_eq_ofFindings, Report.ofFindings_of_complete spoken config]
    refine ⟨_, _, typeIssues_of_typeFindings wording type, checked, ?_⟩
    rw [checkAction_eq_ofFindings, Report.ofFindings_of_complete spoken whole,
      gives.actionFindings_eq, Finding.issues_append, Report.ofIssues_issues]
  case typed =>
    intro wording entries typed read
    obtain ⟨type, config, data, action⟩ := gives_of_fitActionEntries read
    rw [checkAction_eq_ofFindings, checkAction_eq_ofFindings, data.actionFindings_eq,
      action.actionFindings_eq]

/-- A notification with an empty message, whose recipients are a typed condition. -/
def Entries.notifying : Entries :=
  [(.text "type", .text "NOTIFY"), (.text "config", .mapping config)]
where
  config : Entries :=
    [(.text "message", .text []),
      (.text "recipients", .condition (.simple "team" .equal .null none))]

theorem not_hasOverlargeKey_notifying :
    ¬(Value.text "NOTIFY").HasOverlargeKey (.mapping Entries.notifying.config) := by
  rintro ⟨_, key, same, required, number, given, -⟩
  cases same
  have schema : (Value.text "NOTIFY").schema.required =
      ([.ofString "message", .ofString "recipients"] : List Text) := rfl
  rw [schema, List.mem_pair] at required
  obtain rfl | rfl := required <;> cases given

theorem checkAction_notifying_agrees :
    (Value.mapping Entries.notifying).Gives (.text "NOTIFY") (.mapping Entries.notifying.config) ∧
      ¬(Value.text "NOTIFY").HasOverlargeKey (.mapping Entries.notifying.config) ∧
      (∃ own report, (Value.text "NOTIFY").TypeIssues none own ∧
        checkConfig none (.text "NOTIFY") (.mapping Entries.notifying.config) = .ok report ∧
        report.errors = [.ofString "Required config field missing: message"] ∧
        checkAction none (.mapping Entries.notifying) = .ok (.ofIssues (own ++ report.issues))) ∧
      fitActionEntries Entries.notifying = .ok ⟨.notify, some Entries.notifying.config⟩ ∧
      checkAction none (.action .notify (some Entries.notifying.config)) =
        checkAction none (.mapping Entries.notifying) := by
  obtain ⟨agree, typed⟩ := checkAction_agrees_with_checkConfig
  have gives := Value.Gives.mapping Entries.notifying
  have read : fitActionEntries Entries.notifying =
      .ok ⟨.notify, some Entries.notifying.config⟩ := rfl
  obtain ⟨own, report, head, checked, whole⟩ :=
    agree none speaks_none _ _ _ gives not_hasOverlargeKey_notifying
  have errors : report.errors = [.ofString "Required config field missing: message"] := by
    cases checked
    rfl
  exact ⟨gives, not_hasOverlargeKey_notifying, ⟨own, report, head, checked, errors, whole⟩, read,
    typed none _ _ read⟩

end Rulebook
