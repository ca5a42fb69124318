import SchemaSeed.Command.Arguments
import SchemaSeed.Proofs.Decimal.Natural
import SchemaSeed.Settings

/-! The number of rows that a run is asked for.  It comes from the command line, from a
source of settings or from the defaults, and wherever it comes from, it is short enough to
be written. -/

namespace SchemaSeed

/-! ## Whole numbers in a text -/

namespace Command

theorem magnitude?_short {numeral : Text} {magnitude : Nat}
    (read : magnitude? numeral = some magnitude) {number : Int}
    (same : number.natAbs = magnitude) : Decimal.isTooLong number = false := by
  rw [magnitude?] at read
  cases grouped : groupedDigits? false numeral with
  | none => simp [grouped] at read
  | some digits =>
      simp only [grouped, Option.bind_some] at read
      split at read
      · cases read
      · rename_i short
        cases read
        exact Decimal.isTooLong_value (Nat.not_lt.mp short) same

theorem integer?_short {written : Text} {number : Int} (read : integer? written = some number) :
    Decimal.isTooLong number = false := by
  unfold integer? at read
  split at read
  · simp only [Option.map_eq_some_iff, Option.bind_eq_bind, Option.bind_eq_some_iff] at read
    rcases read with ⟨_, ⟨magnitude, found, same⟩, rfl⟩
    cases same
    exact magnitude?_short found (by simp)
  all_goals
    rcases Option.map_eq_some_iff.mp read with ⟨magnitude, found, rfl⟩
    exact magnitude?_short found rfl

end Command

namespace Validation

theorem plainNatural_short {numeral : Text} {magnitude : Nat}
    (read : plainNatural numeral = .ok magnitude) {number : Int}
    (same : number.natAbs = magnitude) : Decimal.isTooLong number = false := by
  simp only [plainNatural] at read
  split at read
  · cases read
    exact @Decimal.isTooLong_value ['0'] (by decide) _ same
  · split at read
    · cases read
    · split at read
      · cases read
      · rename_i short
        split at read
        · cases read
          exact Decimal.isTooLong_value (Nat.not_lt.mp short) same
        · cases read

theorem plainInteger_short {numeral : Text} {number : Int}
    (read : plainInteger numeral = .ok number) : Decimal.isTooLong number = false := by
  unfold plainInteger at read
  split at read
  · rename_i digits
    cases found : plainNatural digits with
    | error complaint =>
        rw [found] at read
        cases read
    | ok magnitude =>
        rw [found] at read
        cases read
        exact plainNatural_short found (Int.natAbs_neg magnitude)
  · cases found : plainNatural numeral with
    | error complaint =>
        rw [found] at read
        cases read
    | ok magnitude =>
        rw [found] at read
        cases read
        exact plainNatural_short found rfl

theorem integerText_short {numeral : Text} {number : Int}
    (read : integerText numeral = .ok number) : Decimal.isTooLong number = false := by
  simp only [integerText] at read
  split at read
  all_goals
    split at read
    · exact plainInteger_short read
    · cases read

theorem integer_text_short {written : Text} {number : Int}
    (read : integer (.text written) = .valid number) : Decimal.isTooLong number = false := by
  simp only [integer] at read
  split at read
  · rename_i whole
    cases read
    exact integerText_short whole
  · cases read

end Validation

/-! ## Settings -/

namespace Checked

/-- What holds of every value that is not refused. -/
def Ensures (claim : α → Prop) (checked : Checked α) : Prop :=
  ∀ value, checked = .valid value → claim value

theorem ensures_seq_right {argument : α → Prop} {claim : β → Prop} {transform : Checked (α → β)}
    {value : Checked α} (reads : Ensures argument value)
    (ensures : Ensures (fun transform => ∀ value, argument value → claim (transform value))
      transform) :
    Ensures claim (transform <*> value) := by
  intro result valid
  cases transform with
  | invalid issues => cases value <;> cases valid
  | valid transform =>
      cases value with
      | invalid issues => cases valid
      | valid value =>
          cases valid
          exact ensures transform rfl value (reads value rfl)

theorem ensures_seq {claim : β → Prop} {transform : Checked (α → β)} {value : Checked α}
    (ensures : Ensures (fun transform => ∀ value, claim (transform value)) transform) :
    Ensures claim (transform <*> value) := by
  have anything : Ensures (fun _ => True) value := fun _ _ => trivial
  exact ensures_seq_right anything fun transform valid value _ => ensures transform valid value

theorem ensures_map {claim : β → Prop} {transform : α → β} {value : Checked α}
    (ensures : Ensures (fun value => claim (transform value)) value) :
    Ensures claim (transform <$> value) := by
  intro result valid
  cases value with
  | invalid issues => cases valid
  | valid value =>
      cases valid
      exact ensures value rfl

end Checked

namespace Settings

/-- Sources without arguments give texts. -/
theorem Sources.find?_text {sources : Sources} (texts : sources.arguments = []) {field name : Text}
    {value : Datum} (found : sources.find? field = some (name, value)) :
    ∃ written, value = .text written := by
  simp only [find?, texts, Datum.field?] at found
  split at found
  · cases found
    exact ⟨_, rfl⟩
  · cases found

theorem Sources.setting_short {sources : Sources} (texts : sources.arguments = []) (field : Text)
    {absent : Int} (short : Decimal.isTooLong absent = false) :
    Checked.Ensures (fun number => Decimal.isTooLong number = false)
      (sources.setting field absent Validation.integer) := by
  intro number valid
  rw [setting] at valid
  split at valid
  · rename_i name value found
    rcases find?_text texts found with ⟨written, rfl⟩
    cases read : Validation.integer (.text written) with
    | invalid issues =>
        rw [read] at valid
        cases valid
    | valid whole =>
        rw [read] at valid
        cases valid
        exact Validation.integer_text_short read
  · cases valid
    exact short

theorem rowCount_short {sources : Sources} (texts : sources.arguments = []) {settings : Settings}
    (valid : ofSources sources = .valid settings) :
    Decimal.isTooLong settings.rowCount = false := by
  suffices ensures : Checked.Ensures (fun settings => Decimal.isTooLong settings.rowCount = false)
      (ofSources sources) from ensures settings valid
  rw [ofSources]
  -- Behind the number of rows stand fifteen more fields.
  iterate 15 refine Checked.ensures_seq ?_
  have one : Decimal.isTooLong 1 = false :=
    @Decimal.isTooLong_value ['1'] (by decide) _ (by decide)
  refine Checked.ensures_seq_right (Sources.setting_short texts _ one) (Checked.ensures_map ?_)
  intro schemaFile _ count short
  intros
  exact short

end Settings

namespace Command

namespace Overrides

/-- The number of rows, if there is one, can be written. -/
def Short (overrides : Overrides) : Prop :=
  ∀ count, overrides.rowCount = some count → Decimal.isTooLong count = false

theorem Short.setValue {overrides : Overrides} (short : overrides.Short) {value : Int}
    (shortValue : Decimal.isTooLong value = false) (option : Valued) :
    (overrides.setValue value option).Short := by
  cases option with
  | rowCount =>
      intro count set
      cases set
      exact shortValue
  | low | high | seed => exact short

theorem Short.setFlag {overrides : Overrides} (short : overrides.Short) (flag : Flag) :
    (overrides.setFlag flag).Short := by
  cases flag <;> exact short

end Overrides

theorem overrideValues?_short {overrides : Overrides} (short : overrides.Short)
    {values : List (Valued × Text)} {set : Overrides}
    (read : overrideValues? overrides values = some set) : set.Short := by
  induction values generalizing overrides with
  | nil =>
      cases read
      exact short
  | cons first rest induction =>
      rcases first with ⟨option, written⟩
      simp only [overrideValues?] at read
      split at read
      · rename_i value found
        exact induction (short.setValue (integer?_short found) option) read
      · cases read

theorem withPath_eq_some {path : Text} {rest : List Text} {invocation found : Invocation}
    (read : withPath path rest invocation = some found) :
    found = .unusablePath ∨ found = invocation := by
  rw [withPath] at read
  split at read
  · exact .inl (Option.some.inj read).symm
  · split at read
    · exact .inr (Option.some.inj read).symm
    · cases read

theorem fillInvocation?_short {words : List Text} {schema : Option Text} {overrides : Overrides}
    (invoked : fillInvocation? words = some (.fill schema overrides)) : overrides.Short := by
  simp only [fillInvocation?, Option.bind_eq_some_iff] at invoked
  rcases invoked with ⟨arguments, -, valued, read, invoked⟩
  have shortValued : valued.Short := by
    refine overrideValues?_short ?_ read
    rintro count ⟨⟩
  have flagged : ∀ flags : List Flag, ∀ overrides : Overrides, overrides.Short →
      (flags.foldl Overrides.setFlag overrides).Short := by
    intro flags
    induction flags with
    | nil => exact fun _ short => short
    | cons flag rest induction => exact fun _ short => induction _ (short.setFlag flag)
  have all := flagged arguments.flags valued shortValued
  split at invoked
  · cases invoked
    exact all
  · rcases withPath_eq_some invoked with unusable | same
    · cases unusable
    · cases same
      exact all

theorem invocation?_short {words : List Text} {schema : Option Text} {overrides : Overrides}
    (invoked : invocation? words = some (.fill schema overrides)) : overrides.Short := by
  unfold invocation? at invoked
  dsimp only at invoked
  split at invoked
  · cases invoked
  · split at invoked
    · split at invoked <;> cases invoked
    · split at invoked
      · split at invoked
        · rcases withPath_eq_some invoked with other | other <;> cases other
        · cases invoked
      · split at invoked
        · exact fillInvocation?_short invoked
        · cases invoked

end Command

namespace Policy

theorem rowCount_of_fields {draft : Draft} {policy : Policy}
    (valid : ofFields draft.fields = .valid policy) : (policy.rowCount : Int) = draft.rowCount := by
  have field : Datum.field? "row_count" draft.fields = some (.integer draft.rowCount) := rfl
  have count : Checked.Ensures (fun count => count = draft.rowCount)
      (Validation.defaulted "row_count" (default.rowCount : Int) (Validation.integerFrom 1)
        draft.fields) := by
    intro count read
    simp only [Validation.defaulted, field, Validation.integerFrom, Validation.integer,
      Validation.atLeast] at read
    split at read <;> cases read
    rfl
  simp only [ofFields] at valid
  split at valid
  · cases valid
  · rename_i drafted read
    have same : drafted.rowCount = draft.rowCount := by
      revert drafted
      suffices ensures : ∀ randomized low high, Checked.Ensures
          (fun drafted : Draft => drafted.rowCount = draft.rowCount)
          (Draft.mk <$> Validation.defaulted "row_count" (default.rowCount : Int)
            (Validation.integerFrom 1) draft.fields <*> randomized <*> low <*> high) from
        fun drafted read _ => ensures _ _ _ drafted read
      intro randomized low high
      iterate 3 refine Checked.ensures_seq ?_
      exact Checked.ensures_map fun found read _ _ _ => count found read
    split at valid
    · rename_i fits
      cases valid
      have positive := fits.1
      show (drafted.rowCount.toNat : Int) = draft.rowCount
      omega
    · cases valid

end Policy

end SchemaSeed
