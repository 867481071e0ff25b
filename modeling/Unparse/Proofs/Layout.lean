import Unparse.Stmt.Outline
import Unparse.Stmt.Text

/-!
The layout of statements. A statement stands for a list of lines, each at a depth of its own, which
the sheet it is written on has no part in: the indentations in force, the unit and the line break
decide only what goes before each line and between the lines.
-/

namespace Unparse

/-! ### Laying lines out -/

/-- Between texts there is as much as before each of them but the first. -/
theorem intercalate_cons_eq_join (s t : String) (texts : List String) :
    s.intercalate (t :: texts) = t ++ String.join (texts.map (s ++ ·)) := by
  induction texts generalizing t with
  | nil => simp
  | cons u texts ih =>
      rw [String.intercalate_cons_cons, ih, List.map_cons, String.join_cons, String.append_assoc,
        String.append_assoc]

namespace Sheet

/-- A line on a sheet: the indentations in force, one unit for each step of depth, and the text. -/
def lineText (sheet : Sheet) (l : LaidLine) : String :=
  String.join sheet.indents ++ String.join (List.replicate l.depth sheet.unit) ++ l.text

/-- A sheet with lines after its text and line breaks between them. -/
def lay (sheet : Sheet) (lines : List LaidLine) : Sheet :=
  sheet.add (sheet.newline.intercalate (lines.map sheet.lineText))

/-- A sheet with lines after its text and a line break before each of them. -/
def layBelow (sheet : Sheet) (lines : List LaidLine) : Sheet :=
  sheet.add (String.join (lines.map fun l => sheet.newline ++ sheet.lineText l))

@[simp] theorem lay_nil (sheet : Sheet) : sheet.lay [] = sheet :=
  sheet.add_empty

@[simp] theorem layBelow_nil (sheet : Sheet) : sheet.layBelow [] = sheet :=
  sheet.add_empty

theorem layBelow_append (sheet : Sheet) (lines more : List LaidLine) :
    sheet.layBelow (lines ++ more) = (sheet.layBelow lines).layBelow more := by
  rw [layBelow, List.map_append, String.join_append, ← add_add]
  rfl

theorem lay_cons (sheet : Sheet) (l : LaidLine) (lines : List LaidLine) :
    sheet.lay (l :: lines) = (sheet.add (sheet.lineText l)).layBelow lines := by
  rw [lay, List.map_cons, intercalate_cons_eq_join, ← add_add, List.map_map]
  rfl

/-- A line break and lines after it, if there are any. -/
theorem lay_addNewline (sheet : Sheet) {lines : List LaidLine} (hne : lines ≠ []) :
    sheet.addNewline.lay lines = sheet.layBelow lines := by
  obtain ⟨l, lines, rfl⟩ := List.exists_cons_of_ne_nil hne
  rw [lay_cons, layBelow, layBelow, List.map_cons, String.join_cons, ← add_add, ← add_add]
  rfl

theorem lay_append (sheet : Sheet) {lines : List LaidLine} (hne : lines ≠ []) (more : List LaidLine) :
    sheet.lay (lines ++ more) = (sheet.lay lines).layBelow more := by
  obtain ⟨l, lines, rfl⟩ := List.exists_cons_of_ne_nil hne
  rw [List.cons_append, lay_cons, lay_cons, layBelow_append]

theorem beginLine_eq_lay (sheet : Sheet) (text : String) :
    sheet.beginLine text = sheet.lay [⟨0, text⟩] := by
  rw [lay_cons, layBelow_nil, beginLine, addIndent, add_add, lineText]
  simp

/-- Under one more indentation lines stand as they would stand one step deeper. -/
theorem layBelow_indent (sheet : Sheet) (lines : List LaidLine) :
    ((sheet.indent sheet.unit).layBelow lines).dedent =
      sheet.layBelow (lines.map fun l => ⟨l.depth + 1, l.text⟩) := by
  have hline (l : LaidLine) :
      (sheet.indent sheet.unit).lineText l = sheet.lineText ⟨l.depth + 1, l.text⟩ := by
    simp only [lineText, indent, String.join_append, String.join_cons, String.join_nil,
      List.replicate_succ, String.append_empty, String.append_assoc]
  have hlines : (lines.map fun l => sheet.newline ++ (sheet.indent sheet.unit).lineText l) =
      (lines.map fun l => (⟨l.depth + 1, l.text⟩ : LaidLine)).map
        fun l => sheet.newline ++ sheet.lineText l := by
    rw [List.map_map]
    exact List.map_congr_left fun l _ => by rw [hline]; rfl
  have hbreak : (sheet.indent sheet.unit).newline = sheet.newline := rfl
  rw [layBelow, layBelow, hbreak, hlines]
  simp only [dedent, indent, add, List.dropLast_concat]

end Sheet

/-! ### The lines of an outline -/

namespace Outline

mutual

theorem lines_succ (depth : Nat) (o : Outline) :
    o.lines (depth + 1) = (o.lines depth).map fun l => ⟨l.depth + 1, l.text⟩ := by
  cases o with
  | line text suite => simp only [lines, List.map_cons, linesAll_succ (depth + 1) suite]

theorem linesAll_succ (depth : Nat) (os : List Outline) :
    linesAll (depth + 1) os = (linesAll depth os).map fun l => ⟨l.depth + 1, l.text⟩ := by
  cases os with
  | nil => rfl
  | cons o os => simp only [linesAll, List.map_append, lines_succ depth o, linesAll_succ depth os]

end

theorem linesAll_append (depth : Nat) (os more : List Outline) :
    linesAll depth (os ++ more) = linesAll depth os ++ linesAll depth more := by
  induction os with
  | nil => rfl
  | cons o os ih => rw [List.cons_append, linesAll, linesAll, ih, List.append_assoc]

theorem linesAll_eq_nil_iff {depth : Nat} {os : List Outline} : linesAll depth os = [] ↔ os = [] := by
  cases os with
  | nil => simp [linesAll]
  | cons o os => cases o; simp [linesAll, lines]

end Outline

/-! ### Blank statements -/

mutual

/-- A statement is blank just when it has no lines. -/
theorem Stmt.isBlank_eq (s : Stmt) : s.isBlank = s.outline.isEmpty := by
  cases s with
  | block body => rw [Stmt.isBlank, Stmt.outline, allBlank_eq]
  | tryBlock parts =>
      obtain ⟨body, handlers, orElse, cleanup⟩ := parts
      simp [Stmt.isBlank, Stmt.outline, Try.outline]
  | _ => simp [Stmt.isBlank, Stmt.outline]

theorem allBlank_eq (body : List Stmt) : allBlank body = (outlineAll body).isEmpty := by
  cases body with
  | nil => rfl
  | cons s ss =>
      rw [allBlank, outlineAll, s.isBlank_eq, allBlank_eq ss]
      cases s.outline <;> rfl

end

/-! ### Writing is laying out -/

namespace Sheet

open Outline

/-- The suite of a header is laid out below it, one step deeper. -/
theorem addSuite_eq (sheet : Sheet) (suite : List Outline) {write : Sheet → Sheet}
    (hwrite : ∀ sheet, write sheet = sheet.lay (linesAll 0 suite)) :
    sheet.addSuite suite.isEmpty write = (sheet.add ":").layBelow
      (linesAll 1 (if suite.isEmpty then [leaf "pass"] else suite)) := by
  have hopened : ((sheet.add ":").addNewline.indent sheet.unit) =
      ((sheet.add ":").indent sheet.unit).addNewline := rfl
  have hbelow (os : List Outline) (hne : os ≠ []) :
      (((sheet.add ":").indent sheet.unit).addNewline.lay (linesAll 0 os)).dedent =
        (sheet.add ":").layBelow (linesAll 1 os) := by
    rw [lay_addNewline _ (mt linesAll_eq_nil_iff.1 hne), linesAll_succ]
    exact layBelow_indent (sheet.add ":") _
  rw [addSuite, hopened]
  by_cases hempty : suite.isEmpty = true
  · rw [if_pos hempty, if_pos hempty, beginLine_eq_lay]
    exact hbelow [leaf "pass"] (by simp)
  · rw [if_neg hempty, if_neg hempty, hwrite]
    exact hbelow suite (by simpa using hempty)

/-- A header with its suite is laid out as a clause. -/
theorem beginLine_addSuite (sheet : Sheet) (header : String) (suite : List Outline)
    {write : Sheet → Sheet} (hwrite : ∀ sheet, write sheet = sheet.lay (linesAll 0 suite)) :
    (sheet.beginLine header).addSuite suite.isEmpty write =
      sheet.lay (linesAll 0 [clause header suite]) := by
  have hheader : (sheet.beginLine header).add ":" = sheet.add (sheet.lineText ⟨0, header ++ ":"⟩) := by
    simp [beginLine, addIndent, add_add, lineText, String.append_assoc]
  rw [addSuite_eq _ suite hwrite, hheader]
  simp only [clause, linesAll, lines, List.append_nil, lay_cons]

/-- A clause on a new line is laid out below what the sheet ends with. -/
theorem addNewline_beginLine_addSuite (sheet : Sheet) (header : String) (suite : List Outline)
    {write : Sheet → Sheet} (hwrite : ∀ sheet, write sheet = sheet.lay (linesAll 0 suite)) :
    (sheet.addNewline.beginLine header).addSuite suite.isEmpty write =
      sheet.layBelow (linesAll 0 [clause header suite]) := by
  rw [beginLine_addSuite _ _ _ hwrite]
  exact lay_addNewline sheet (mt linesAll_eq_nil_iff.1 (by simp))

theorem layBelow_linesAll_append (sheet : Sheet) (os more : List Outline) :
    sheet.layBelow (linesAll 0 (os ++ more)) =
      (sheet.layBelow (linesAll 0 os)).layBelow (linesAll 0 more) := by
  rw [linesAll_append, layBelow_append]

theorem lay_linesAll_append (sheet : Sheet) {os : List Outline} (hne : os ≠ [])
    (more : List Outline) :
    sheet.lay (linesAll 0 (os ++ more)) =
      (sheet.lay (linesAll 0 os)).layBelow (linesAll 0 more) := by
  rw [linesAll_append]
  exact lay_append sheet (mt linesAll_eq_nil_iff.1 hne) _

theorem lay_linesAll_cons (sheet : Sheet) (o : Outline) (more : List Outline) :
    sheet.lay (linesAll 0 (o :: more)) =
      (sheet.lay (linesAll 0 [o])).layBelow (linesAll 0 more) :=
  lay_linesAll_append sheet (List.cons_ne_nil o []) more

/-- Lines that are each followed by a line break go before the others. -/
theorem lay_addLines (sheet : Sheet) (texts : List String) (o : Outline) :
    (sheet.addLines texts).lay (linesAll 0 [o]) = sheet.lay (linesAll 0 (texts.map leaf ++ [o])) := by
  induction texts generalizing sheet with
  | nil => rfl
  | cons text texts ih =>
      have hne : linesAll 0 (texts.map leaf ++ [o]) ≠ [] := mt linesAll_eq_nil_iff.1 (by simp)
      rw [addLines, ih, lay_addNewline _ hne, beginLine_eq_lay, List.map_cons, List.cons_append,
        lay_linesAll_cons]
      rfl

mutual

/-- A statement is written as the lines of its outline. The induction is on the statement: each clause
finds its body written in this way already, on whatever sheet. -/
theorem writeStmt_eq_lay (s : Stmt) (sheet : Sheet) :
    sheet.writeStmt s = sheet.lay (linesAll 0 s.outline) := by
  cases s with
  | simple statement =>
      rw [writeStmt, beginLine_eq_lay]
      rfl
  | branch test body arms orElse =>
      rw [writeStmt, allBlank_eq, beginLine_addSuite _ _ _ (writeBody_eq_lay body),
        writeArms_eq_layBelow arms, writeClause_eq_layBelow "else" orElse, ← lay_linesAll_cons,
        ← lay_linesAll_append sheet (by simp), Stmt.outline]
  | forLoop header body orElse =>
      rw [writeStmt, allBlank_eq, beginLine_addSuite _ _ _ (writeBody_eq_lay body),
        writeClause_eq_layBelow "else" orElse, ← lay_linesAll_cons, Stmt.outline]
  | whileLoop test body orElse =>
      rw [writeStmt, allBlank_eq, beginLine_addSuite _ _ _ (writeBody_eq_lay body),
        writeClause_eq_layBelow "else" orElse, ← lay_linesAll_cons, Stmt.outline]
  | tryBlock parts => rw [writeStmt, writeTry_eq_lay parts, Stmt.outline]
  | withBlock header body =>
      rw [writeStmt, allBlank_eq, beginLine_addSuite _ _ _ (writeBody_eq_lay body), Stmt.outline]
  | matchBlock subject cases =>
      have hcases : sheet.writeStmt (.matchBlock subject cases) =
          (sheet.beginLine ("match " ++ subject.text)).addSuite (outlineCases cases).isEmpty
            fun sheet => sheet.lay (linesAll 0 (outlineCases cases)) := by
        rw [writeStmt, addSuite]
        cases hempty : cases with
        | nil => rfl
        | cons c cs =>
            rw [← hempty, writeCases_eq_layBelow cases, ← lay_addNewline _ (mt linesAll_eq_nil_iff.1
              (by simp [hempty, outlineCases]))]
            rw [hempty, outlineCases]
            rfl
      rw [hcases, beginLine_addSuite _ _ _ fun _ => rfl, Stmt.outline]
  | functionDef header body =>
      rw [writeStmt, allBlank_eq, beginLine_addSuite _ _ _ (writeBody_eq_lay body), lay_addLines,
        Stmt.outline]
  | classDef header body =>
      rw [writeStmt, allBlank_eq, beginLine_addSuite _ _ _ (writeBody_eq_lay body), lay_addLines,
        Stmt.outline]
  | block body => rw [writeStmt, writeBody_eq_lay body, Stmt.outline]
termination_by structural s

/-- Statements are written as the lines of their outlines. -/
theorem writeBody_eq_lay (body : List Stmt) (sheet : Sheet) :
    sheet.writeBody true body = sheet.lay (linesAll 0 (outlineAll body)) := by
  cases body with
  | nil => exact sheet.lay_nil.symm
  | cons s ss =>
      rw [writeBody, outlineAll]
      by_cases hblank : s.outline = []
      · rw [s.isBlank_eq, hblank, writeBody_eq_lay ss]
        rfl
      · have hkept : s.isBlank = false := by simpa [s.isBlank_eq] using hblank
        rw [hkept, linesAll_append, lay_append _ (mt linesAll_eq_nil_iff.1 hblank)]
        simp only [Bool.false_eq_true, if_false, if_true]
        rw [writeStmt_eq_lay s, writeRest_eq_layBelow ss]
termination_by structural body

/-- Statements after others are written below them. -/
theorem writeRest_eq_layBelow (body : List Stmt) (sheet : Sheet) :
    sheet.writeBody false body = sheet.layBelow (linesAll 0 (outlineAll body)) := by
  cases body with
  | nil => exact sheet.layBelow_nil.symm
  | cons s ss =>
      rw [writeBody, outlineAll]
      by_cases hblank : s.outline = []
      · rw [s.isBlank_eq, hblank, writeRest_eq_layBelow ss]
        rfl
      · have hkept : s.isBlank = false := by simpa [s.isBlank_eq] using hblank
        rw [hkept, layBelow_linesAll_append]
        simp only [Bool.false_eq_true, if_false]
        rw [writeStmt_eq_lay s, writeRest_eq_layBelow ss,
          lay_addNewline _ (mt linesAll_eq_nil_iff.1 hblank)]
termination_by structural body

theorem writeClause_eq_layBelow (word : String) (body : Option (List Stmt)) (sheet : Sheet) :
    sheet.writeClause word body = sheet.layBelow (linesAll 0 (outlineClause word body)) := by
  cases body with
  | none => exact sheet.layBelow_nil.symm
  | some body =>
      rw [writeClause, allBlank_eq, addNewline_beginLine_addSuite _ _ _ (writeBody_eq_lay body),
        outlineClause]
termination_by structural body

theorem writeArms_eq_layBelow (arms : List ElifArm) (sheet : Sheet) :
    sheet.writeArms arms = sheet.layBelow (linesAll 0 (outlineArms arms)) := by
  cases arms with
  | nil => exact sheet.layBelow_nil.symm
  | cons a as =>
      rw [writeArms, writeArm_eq_layBelow a, writeArms_eq_layBelow as, outlineArms,
        ← layBelow_linesAll_append, List.singleton_append]
termination_by structural arms

theorem writeArm_eq_layBelow (arm : ElifArm) (sheet : Sheet) :
    sheet.addNewline.writeArm arm = sheet.layBelow (linesAll 0 [arm.outline]) := by
  cases arm with
  | mk test body =>
      rw [writeArm, allBlank_eq, addNewline_beginLine_addSuite _ _ _ (writeBody_eq_lay body),
        ElifArm.outline]
termination_by structural arm

theorem writeHandlers_eq_layBelow (handlers : List Handler) (sheet : Sheet) :
    sheet.writeHandlers handlers = sheet.layBelow (linesAll 0 (outlineHandlers handlers)) := by
  cases handlers with
  | nil => exact sheet.layBelow_nil.symm
  | cons h hs =>
      rw [writeHandlers, writeHandler_eq_layBelow h, writeHandlers_eq_layBelow hs, outlineHandlers,
        ← layBelow_linesAll_append, List.singleton_append]
termination_by structural handlers

theorem writeHandler_eq_layBelow (handler : Handler) (sheet : Sheet) :
    sheet.addNewline.writeHandler handler = sheet.layBelow (linesAll 0 [handler.outline]) := by
  cases handler with
  | mk header body =>
      rw [writeHandler, allBlank_eq, addNewline_beginLine_addSuite _ _ _ (writeBody_eq_lay body),
        Handler.outline]
termination_by structural handler

theorem writeCases_eq_layBelow (cases : List MatchCase) (sheet : Sheet) :
    sheet.writeCases cases = sheet.layBelow (linesAll 0 (outlineCases cases)) := by
  cases cases with
  | nil => exact sheet.layBelow_nil.symm
  | cons c cs =>
      rw [writeCases, writeCase_eq_layBelow c, writeCases_eq_layBelow cs, outlineCases,
        ← layBelow_linesAll_append, List.singleton_append]
termination_by structural cases

theorem writeCase_eq_layBelow (case : MatchCase) (sheet : Sheet) :
    sheet.addNewline.writeCase case = sheet.layBelow (linesAll 0 [case.outline]) := by
  cases case with
  | mk header body =>
      rw [writeCase, allBlank_eq, addNewline_beginLine_addSuite _ _ _ (writeBody_eq_lay body),
        MatchCase.outline]
termination_by structural case

theorem writeTry_eq_lay (parts : Try) (sheet : Sheet) :
    sheet.writeTry parts = sheet.lay (linesAll 0 parts.outline) := by
  cases parts with
  | mk body handlers orElse cleanup =>
      have hclauses : ((((sheet.beginLine "try").addSuite (allBlank body)
          (·.writeBody true body)).writeHandlers handlers).writeClause "else" orElse).writeClause
            "finally" cleanup = sheet.lay (linesAll 0 (.clause "try" (outlineAll body) ::
              outlineHandlers handlers ++ outlineClause "else" orElse ++
              outlineClause "finally" cleanup)) := by
        rw [allBlank_eq, beginLine_addSuite _ _ _ (writeBody_eq_lay body),
          writeHandlers_eq_layBelow handlers, writeClause_eq_layBelow "else" orElse,
          writeClause_eq_layBelow "finally" cleanup, ← lay_linesAll_cons,
          ← lay_linesAll_append sheet (by simp), ← lay_linesAll_append sheet (by simp)]
      rw [writeTry, Try.outline]
      by_cases hbare : (handlers.isEmpty && cleanup.isNone) = true
      · have hempty (sheet : Sheet) : id sheet = sheet.lay (linesAll 0 []) := sheet.lay_nil.symm
        rw [if_pos hbare, if_pos hbare, hclauses]
        refine (addNewline_beginLine_addSuite _ "finally" [] hempty).trans ?_
        exact (lay_linesAll_append sheet (by simp) _).symm
      · rw [if_neg hbare, if_neg hbare, hclauses, List.append_nil]
termination_by structural parts

end

end Sheet

/-! ### Lines and styles -/

/-- The lines of a statement, each with the depth that it has under the statement. -/
def Stmt.lines (s : Stmt) : List LaidLine :=
  Outline.linesAll 0 s.outline

theorem linesAll_outlineAll (body : List Stmt) :
    Outline.linesAll 0 (outlineAll body) = body.flatMap Stmt.lines := by
  induction body with
  | nil => rfl
  | cons s ss ih => rw [outlineAll, Outline.linesAll_append, ih, List.flatMap_cons, Stmt.lines]

/-- Lines in a style: each below as many indentations as the style begins with and the line is deep,
and line breaks between them. -/
def LayoutStyle.layout (style : LayoutStyle) (lines : List LaidLine) : String :=
  style.newline.intercalate
    (lines.map fun l => String.join (List.replicate (style.initialDepth + l.depth) style.indent) ++
      l.text)

theorem LayoutStyle.text_lay_ofStyle (style : LayoutStyle) (lines : List LaidLine) :
    ((Sheet.ofStyle style).lay lines).text = style.layout lines := by
  have hline (l : LaidLine) : (Sheet.ofStyle style).lineText l =
      String.join (List.replicate (style.initialDepth + l.depth) style.indent) ++ l.text := by
    rw [Sheet.lineText, Sheet.ofStyle, ← List.replicate_append_replicate, String.join_append]
  rw [Sheet.lay, LayoutStyle.layout, ← funext hline]
  exact String.empty_append

theorem SourceFile.render_eq_layout (body : List Stmt) (style : LayoutStyle) :
    (SourceFile.mk body).render style = style.layout (body.flatMap Stmt.lines) := by
  rw [SourceFile.render, Sheet.writeStmts, Sheet.writeBody_eq_lay, linesAll_outlineAll,
    LayoutStyle.text_lay_ofStyle]

/-- Writing a statement on any sheet adds its lines to the text and leaves the rest of the sheet as it
was, and whatever writes statements in a style differs in nothing but what goes before the lines and
between them. -/
theorem Stmt.written_as_lines (s : Stmt) (body : List Stmt) :
    (∀ sheet : Sheet,
      (sheet.writeStmt s).indents = sheet.indents ∧ (sheet.writeStmt s).newline = sheet.newline ∧
      (sheet.writeStmt s).unit = sheet.unit ∧
      (sheet.writeStmt s).text = sheet.text ++ sheet.newline.intercalate (s.lines.map fun l =>
        String.join sheet.indents ++ String.join (List.replicate l.depth sheet.unit) ++ l.text)) ∧
    s.text = LayoutStyle.layout {} s.lines ∧
    (∀ depth unit, s.indented depth unit =
      LayoutStyle.layout { indent := unit, initialDepth := depth } s.lines) ∧
    ∀ style : LayoutStyle, (SourceFile.mk body).render style =
      style.layout (body.flatMap Stmt.lines) := by
  refine ⟨fun sheet => ?_, ?_, fun depth unit => ?_, SourceFile.render_eq_layout body⟩
  · rw [Sheet.writeStmt_eq_lay]
    exact ⟨rfl, rfl, rfl, rfl⟩
  · rw [Stmt.text, Sheet.writeStmt_eq_lay, LayoutStyle.text_lay_ofStyle, Stmt.lines]
  · rw [Stmt.indented, Sheet.writeStmt_eq_lay, LayoutStyle.text_lay_ofStyle, Stmt.lines]

end Unparse
