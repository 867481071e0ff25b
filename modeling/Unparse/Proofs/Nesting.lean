import Mathlib.Data.List.Chain
import Unparse.Proofs.Heads
import Unparse.Proofs.Layout

/-!
The nesting of statements. Read by depth alone, as indentation is read, the lines of a statement are
its outline again, and they grow deeper only from a header to the suite right below it.
-/

namespace Unparse

/-! ### Reading lines by depth -/

namespace Outline

/-- The outlines that lines show by their depths: the suite of a line is the longest run of strictly
deeper lines right after it. -/
def ofLines : List LaidLine → List Outline
  | [] => []
  | l :: rest =>
    .line l.text (ofLines (rest.takeWhile fun next => l.depth < next.depth)) ::
      ofLines (rest.dropWhile fun next => l.depth < next.depth)
termination_by lines => lines.length
decreasing_by
  all_goals rw [List.length_cons]
  · exact Nat.lt_succ_of_le (List.takeWhile_sublist _).length_le
  · exact Nat.lt_succ_of_le (List.dropWhile_sublist _).length_le

mutual

theorem depth_le_of_mem_lines (depth : Nat) (o : Outline) : ∀ l ∈ o.lines depth, depth ≤ l.depth := by
  cases o with
  | line text suite =>
      intro l hl
      rcases List.mem_cons.1 hl with rfl | hl
      · exact le_rfl
      · exact (Nat.le_succ depth).trans (depth_le_of_mem_linesAll (depth + 1) suite l hl)

theorem depth_le_of_mem_linesAll (depth : Nat) (os : List Outline) :
    ∀ l ∈ linesAll depth os, depth ≤ l.depth := by
  cases os with
  | nil => simp [linesAll]
  | cons o os =>
      intro l hl
      rcases List.mem_append.1 hl with hl | hl
      · exact depth_le_of_mem_lines depth o l hl
      · exact depth_le_of_mem_linesAll depth os l hl

end

theorem depth_of_head_linesAll {depth : Nat} {os : List Outline} {l : LaidLine}
    (h : (linesAll depth os).head? = some l) : l.depth = depth := by
  cases os with
  | nil => simp [linesAll] at h
  | cons o os =>
      cases o with
      | line text suite =>
          simp only [linesAll, lines, List.cons_append, List.head?_cons, Option.some.injEq] at h
          rw [← h]

mutual

/-- The lines of an outline, followed by lines that are no deeper than it, are read as the outline. -/
theorem ofLines_lines_append (depth : Nat) (o : Outline) (rest : List LaidLine)
    (hrest : ∀ l ∈ rest.head?, l.depth ≤ depth) :
    ofLines (o.lines depth ++ rest) = o :: ofLines rest := by
  cases o with
  | line text suite =>
      have hdeep : ∀ l ∈ linesAll (depth + 1) suite, decide (depth < l.depth) = true := by
        intro l hl
        have := depth_le_of_mem_linesAll (depth + 1) suite l hl
        exact decide_eq_true (by omega)
      have hshallow : rest.takeWhile (fun next => decide (depth < next.depth)) = [] ∧
          rest.dropWhile (fun next => decide (depth < next.depth)) = rest := by
        cases rest with
        | nil => exact ⟨rfl, rfl⟩
        | cons l rest =>
            have hl := Nat.not_lt.2 (hrest l rfl)
            simp [hl]
      rw [lines, List.cons_append, ofLines, List.takeWhile_append_of_pos hdeep,
        List.dropWhile_append_of_pos hdeep, hshallow.1, hshallow.2, List.append_nil,
        ofLines_linesAll (depth + 1) suite]

/-- The lines of outlines are read as the outlines. -/
theorem ofLines_linesAll (depth : Nat) (os : List Outline) : ofLines (linesAll depth os) = os := by
  cases os with
  | nil => rw [linesAll, ofLines]
  | cons o os =>
      rw [linesAll, ofLines_lines_append depth o _ fun l hl => (depth_of_head_linesAll hl).le,
        ofLines_linesAll depth os]

end

/-! ### Where lines grow deeper -/

end Outline

end Unparse
