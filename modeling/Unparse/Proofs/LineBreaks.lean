import Unparse.Proofs.Charset

/-!
Line breaks. Nothing a statement is built from can break a line of it, the specifications of format
strings aside, so a file is broken between its lines and nowhere else.
-/

namespace Unparse

/-- A text on one line: neither a line feed nor a carriage return is in it. -/
def BreakFree (text : String) : Prop :=
  '\n' ∉ text.toList ∧ '\r' ∉ text.toList

instance (text : String) : Decidable (BreakFree text) :=
  inferInstanceAs (Decidable (_ ∧ _))

theorem breakFree_iff {text : String} :
    BreakFree text ↔ AllChars (fun c => c ≠ '\n' ∧ c ≠ '\r') text := by
  constructor
  · rintro ⟨hfeed, hreturn⟩ c hc
    exact ⟨fun h => hfeed (h ▸ hc), fun h => hreturn (h ▸ hc)⟩
  · intro h
    exact ⟨fun hfeed => (h _ hfeed).1 rfl, fun hreturn => (h _ hreturn).2 rfl⟩

theorem holdsOfInk_breakFree : HoldsOfInk fun c => c ≠ '\n' ∧ c ≠ '\r' := by
  intro c hc
  constructor
  · rintro rfl
    exact absurd hc (by decide)
  · rintro rfl
    exact absurd hc (by decide)

/-! ### Lines -/

theorem formatTextChar_breakFree {c d : Char} (h : d ∈ formatTextChar c) : d ≠ '\n' ∧ d ≠ '\r' := by
  have hpair {a b : Char} (ha : a ≠ '\n' ∧ a ≠ '\r') (hb : b ≠ '\n' ∧ b ≠ '\r') (h : d ∈ [a, b]) :
      d ≠ '\n' ∧ d ≠ '\r' := by
    simp only [List.mem_cons, List.not_mem_nil, or_false] at h
    rcases h with rfl | rfl
    · exact ha
    · exact hb
  unfold formatTextChar at h
  split_ifs at h with hbrace hescaped hfeed hreturn _
  · rcases hbrace with rfl | rfl
    · exact hpair (by decide) (by decide) h
    · exact hpair (by decide) (by decide) h
  · rcases hescaped with rfl | rfl
    · exact hpair (by decide) (by decide) h
    · exact hpair (by decide) (by decide) h
  · exact hpair (by decide) (by decide) h
  · exact hpair (by decide) (by decide) h
  · exact hpair (by decide) (by decide) h
  · rw [List.mem_singleton.1 h]
    exact ⟨hfeed, hreturn⟩

/-- The text of a format string is escaped, so only a specification can break a line. -/
theorem FormatPart.writes_breakFree {part : FormatPart} (h : BreakFree part.spec) :
    part.Writes fun c => c ≠ '\n' ∧ c ≠ '\r' := by
  cases part with
  | plain content =>
      refine allChars_ofList.2 fun d hd => ?_
      obtain ⟨c, -, hd⟩ := List.mem_flatMap.1 hd
      exact formatTextChar_breakFree hd
  | field value conversion spec => exact breakFree_iff.1 h

theorem Stmt.breakFree_lines (s : Stmt) (h : ∀ part ∈ s.formatParts, BreakFree part.spec) :
    ∀ l ∈ s.lines, BreakFree l.text := by
  intro l hl
  have hwrites : ∀ part ∈ s.formatParts, part.Writes fun c => c ≠ '\n' ∧ c ≠ '\r' :=
    fun part hpart => FormatPart.writes_breakFree (h part hpart)
  exact breakFree_iff.2 (s.allChars_lines holdsOfInk_breakFree hwrites l hl)

/-! ### Files -/

theorem count_newline_join {texts : List String} (h : ∀ text ∈ texts, BreakFree text) :
    (String.join (texts.map ("\n" ++ ·))).toList.count '\n' = texts.length := by
  induction texts with
  | nil => rfl
  | cons text texts ih =>
      obtain ⟨htext, htexts⟩ := List.forall_mem_cons.1 h
      rw [List.map_cons, String.join_cons, String.toList_append, String.toList_append,
        List.count_append, List.count_append, List.count_eq_zero_of_not_mem htext.1, ih htexts,
        List.length_cons]
      simp [Nat.add_comm]

/-- Texts on one line each have the line breaks between them and no others. -/
theorem count_newline_intercalate {texts : List String} (h : ∀ text ∈ texts, BreakFree text) :
    ("\n".intercalate texts).toList.count '\n' = texts.length - 1 := by
  cases texts with
  | nil => rfl
  | cons text texts =>
      obtain ⟨htext, htexts⟩ := List.forall_mem_cons.1 h
      rw [intercalate_cons_eq_join, String.toList_append, List.count_append,
        List.count_eq_zero_of_not_mem htext.1, count_newline_join htexts, List.length_cons]
      omega

theorem breakFree_lineText {unit : String} (hunit : BreakFree unit) (depth : Nat) {l : LaidLine}
    (hl : BreakFree l.text) : BreakFree (String.join (List.replicate depth unit) ++ l.text) := by
  rw [breakFree_iff] at hunit hl ⊢
  refine allChars_append.2 ⟨allChars_join fun text htext => ?_, hl⟩
  rw [List.eq_of_mem_replicate htext]
  exact hunit

/-- Whatever strings, names and numbers statements are built from, their lines have no line break in
them as long as the specifications of their format strings have none. So a file of them has exactly one
line feed between any two lines that follow one another, and no carriage return. -/
theorem SourceFile.render_breaks_between_lines (body : List Stmt)
    (h : ∀ s ∈ body, ∀ part ∈ s.formatParts, BreakFree part.spec) :
    (∀ s ∈ body, (∀ sheet : Sheet, sheet.writeStmt s = sheet.lay s.lines) ∧
      ∀ l ∈ s.lines, BreakFree l.text) ∧
    ∀ (unit : String) (depth : Nat), BreakFree unit →
      ((SourceFile.mk body).render ⟨unit, depth, "\n"⟩).toList.count '\n' =
        (body.flatMap Stmt.lines).length - 1 ∧
      '\r' ∉ ((SourceFile.mk body).render ⟨unit, depth, "\n"⟩).toList := by
  have hlines (s : Stmt) (hs : s ∈ body) : ∀ l ∈ s.lines, BreakFree l.text :=
    s.breakFree_lines (h s hs)
  refine ⟨fun s hs => ⟨Sheet.writeStmt_eq_lay s, hlines s hs⟩, fun unit depth hunit => ?_⟩
  have htexts : ∀ text ∈ (body.flatMap Stmt.lines).map (fun l =>
      String.join (List.replicate (depth + l.depth) unit) ++ l.text), BreakFree text := by
    intro text htext
    obtain ⟨l, hl, rfl⟩ := List.mem_map.1 htext
    obtain ⟨s, hs, hl⟩ := List.mem_flatMap.1 hl
    exact breakFree_lineText hunit (depth + l.depth) (hlines s hs l hl)
  rw [SourceFile.render_eq_layout]
  constructor
  · rw [LayoutStyle.layout, count_newline_intercalate htexts, List.length_map]
  · have hbreak : AllChars (· ≠ '\r') "\n" := by simp [AllChars]
    have hall : AllChars (· ≠ '\r') (LayoutStyle.layout ⟨unit, depth, "\n"⟩
        (body.flatMap Stmt.lines)) :=
      allChars_intercalate hbreak fun text htext c hc => (breakFree_iff.1 (htexts text htext) c hc).2
    exact fun hreturn => hall '\r' hreturn rfl

/-- A branch on a format string with line breaks in its text and a specification without any, over a
return of a string that is nothing but line breaks. -/
def breakingBranch : Stmt :=
  .branch (.formatString [.plain "\r\n", .field (.identifier ⟨"n", by decide⟩) .none ">10"])
    [.simple (.returning (some (.literal (.str "\n\r\n"))))] [] none

theorem breakingBranch_render_breaks :
    (∀ s ∈ [breakingBranch], ∀ part ∈ s.formatParts, BreakFree part.spec) ∧ BreakFree "\t" ∧
    (∀ l ∈ breakingBranch.lines, BreakFree l.text) ∧
    ((SourceFile.mk [breakingBranch]).render ⟨"\t", 1, "\n"⟩).toList.count '\n' = 1 ∧
    '\r' ∉ ((SourceFile.mk [breakingBranch]).render ⟨"\t", 1, "\n"⟩).toList := by
  have hspecs : ∀ s ∈ [breakingBranch], ∀ part ∈ s.formatParts, BreakFree part.spec := by decide
  have hunit : BreakFree "\t" := by decide
  obtain ⟨hlines, hbreaks⟩ := SourceFile.render_breaks_between_lines [breakingBranch] hspecs
  exact ⟨hspecs, hunit, (hlines breakingBranch List.mem_cons_self).2, hbreaks "\t" 1 hunit⟩

end Unparse
