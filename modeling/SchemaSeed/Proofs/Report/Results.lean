import SchemaSeed.Proofs.Decimal.Numerals
import SchemaSeed.Proofs.Report.Readable

/-! When the results of a run can be shown.  Cells without a bracket hold no markup, and numbers
that are short enough can be written. -/

namespace SchemaSeed

namespace Report

/-- A result whose texts hold no markup and whose numbers can be written. -/
structure Showable (result : TableResult) : Prop where
  table : '[' ∉ result.table
  mode : '[' ∉ result.mode
  written : Decimal.isTooLong result.written = false
  requested : Decimal.isTooLong result.requested = false

theorem number_of_short {value : Int} (short : Decimal.isTooLong value = false)
    (form : Int → Text) : number form value = .ok (form value) := by
  rw [number, short]
  rfl

theorem resultRow_of_showable {result : TableResult} (showable : Showable result) :
    ∃ row, resultRow result = .ok row ∧ ∀ cell ∈ row, '[' ∉ cell := by
  have grouped (value : Int) : '[' ∉ Decimal.grouped value :=
    fun member => absurd (Decimal.grouped_subset value member) (by decide)
  have fixed (number : Float) : '[' ∉ Decimal.fixed 6 number :=
    fun member => absurd (Decimal.fixed_subset 6 number member) (by decide)
  rw [resultRow, number_of_short showable.written, number_of_short showable.requested]
  refine ⟨_, rfl, ?_⟩
  simp only [List.forall_mem_cons, List.not_mem_nil, false_implies, implies_true, and_true]
  refine ⟨showable.table, ?_, showable.mode, ?_, fixed _, fixed _⟩
  · have slash : '[' ∉ "/".toList := by decide
    simp only [List.mem_append, not_or]
    exact ⟨⟨grouped _, slash⟩, grouped _⟩
  · split <;> decide

theorem results_of_showable {results : List TableResult}
    (showable : ∀ result ∈ results, Showable result) :
    ∃ text, Report.results results = .ok text := by
  have written : ∃ rows, results.mapM resultRow = .ok rows :=
    exists_mapM_iff.mpr fun result member =>
      (resultRow_of_showable (showable result member)).imp fun _ => And.left
  rw [Report.results]
  split
  · exact ⟨_, rfl⟩
  · rcases written with ⟨rows, shown⟩
    rw [shown]
    refine exists_grid_iff.mpr ⟨readable_of_no_bracket (by decide), fun row among cell inside => ?_⟩
    rcases exists_of_mem_right (mapM_eq_ok_iff.mp shown) among with ⟨result, member, rowShown⟩
    rcases resultRow_of_showable (showable result member) with ⟨same, sameShown, plain⟩
    cases rowShown.symm.trans sameShown
    exact readable_of_no_bracket (plain cell inside)

end Report

end SchemaSeed
