import SchemaSeed.Proofs.Fill.Durability
import SchemaSeed.Proofs.Report.Results
import SchemaSeed.Proofs.Table.Reading

/-! What a run leaves to the command that started it: results that can be shown where all of
them are successes, and a destination that was handed row sets and nothing else. -/

namespace SchemaSeed

namespace Filler

universe u v

variable {Sink : Type u} {Random : Type v} (filler : Filler Sink Random)

/-! ## Names -/

theorem no_bracket_of_isName {name : Text} (proper : Sql.IsName name) : '[' ∉ name := by
  intro member
  exact absurd (proper.2 _ member) (by decide)

theorem no_bracket_of_mem_plan {blocks : List Text} {random : Random} {preparation : Preparation}
    (planned : preparation ∈ filler.plan blocks random) {name : Text}
    (named : preparation.name = some name) : '[' ∉ name := by
  induction blocks generalizing random with
  | nil => cases planned
  | cons block rest induction =>
      rcases List.mem_cons.mp planned with rfl | later
      · rw [Filler.preparation] at named
        cases parsed : Table.parse block with
        | error fault =>
            rw [parsed] at named
            cases named
        | ok table =>
            simp only [parsed] at named
            have same : table.name = name := by
              split at named <;> exact Option.some.inj named
            rw [← same]
            exact no_bracket_of_isName (Table.names_of_parse parsed).1
      · exact induction later

/-- The name of an ending is that of a block. -/
theorem exists_of_mem_endings {number : Nat} {plan : List Preparation}
    {answers : List (Except Fault Outcome)} {ending : Ending}
    (member : ending ∈ endings number plan answers) :
    ∃ preparation ∈ plan, preparation.name = ending.name := by
  fun_induction endings number plan answers with
  | case1 => cases member
  | case2 number name fault rest answers induction =>
      rcases List.mem_cons.mp member with rfl | later
      · exact ⟨_, List.mem_cons_self, rfl⟩
      · rcases induction later with ⟨preparation, planned, named⟩
        exact ⟨preparation, List.mem_cons_of_mem _ planned, named⟩
  | case3 => cases member
  | case4 number name rowSet rest answer answers induction =>
      rcases List.mem_cons.mp member with rfl | later
      · exact ⟨_, List.mem_cons_self, rfl⟩
      · rcases induction later with ⟨preparation, planned, named⟩
        exact ⟨preparation, List.mem_cons_of_mem _ planned, named⟩

/-! ## Results -/

theorem Reports.showable {policy : Policy} {ending : Ending} {result : TableResult}
    (reports : Reports policy ending result) (succeeded : result.success = true)
    (plain : ∀ name, ending.name = some name → '[' ∉ name)
    (short : Decimal.isTooLong policy.rowCount = false) : Report.Showable result where
  table := by
    have answered : ∃ outcome, ending.outcome = .ok outcome := by
      have success : ending.succeeds = true := reports.success.symm.trans succeeded
      rw [Ending.succeeds] at success
      split at success
      · cases success
      · exact ⟨_, ‹_›⟩
    rcases answered with ⟨outcome, answered⟩
    rw [reports.table, Ending.label, answered]
    cases named : ending.name with
    | some name => exact plain name named
    | none =>
        have numeral : '[' ∉ Decimal.natural ending.number :=
          fun member => absurd (Decimal.natural_subset _ member) (by decide)
        have sign : '[' ∉ "#".toList := by decide
        simp only [Option.getD_none, Ending.placeholder, List.mem_append, not_or]
        exact ⟨sign, numeral⟩
  mode := by
    rw [reports.mode, Policy.mode]
    split <;> decide
  written := by
    have success : ending.succeeds = true := reports.success.symm.trans succeeded
    rw [reports.written, success, if_pos rfl]
    exact short
  requested := by rw [reports.requested]; exact short

theorem showable_of_run {document : Text} {state final : State Sink Random}
    {results : List TableResult} (ran : filler.run document state = (.ok results, final))
    (short : Decimal.isTooLong filler.policy.rowCount = false)
    (succeeded : ∀ result ∈ results, result.success = true) :
    ∀ result ∈ results, Report.Showable result := by
  rcases filler.run_of_quiet document state (filler.quiet_of_run_ok ran) with
    ⟨_, _, ranSo, reports, -⟩
  rw [ran] at ranSo
  cases ranSo
  intro result member
  rcases exists_of_mem_right reports member with ⟨ending, among, reported⟩
  rcases exists_of_mem_endings among with ⟨preparation, planned, named⟩
  exact reported.showable (succeeded result member)
    (fun name of_ending => filler.no_bracket_of_mem_plan planned (named.trans of_ending)) short

end Filler

end SchemaSeed
