import Unparse.Proofs.DefinitionReader
import Unparse.Proofs.DefinitionRun
import Unparse.Proofs.Layout

/-!
What the reader makes of the header of a function or a class. Each part has a reading of its own, each
list stands between brackets of its own, and put together they are read as the header that was written,
decorators aside, which stand on lines of their own.
-/

namespace Unparse

/-! ### Forms -/

/-- A type parameter with an operator expression as its bound, if it has one. -/
inductive TypeParam.Form : TypeParam → Prop where
  | free (name : Identifier) : Form (.type name none)
  | bounded (name : Identifier) {bound : Expr} (hbound : OperatorForm bound) :
    Form (.type name (some bound))
  | types (name : Identifier) : Form (.types name)
  | params (name : Identifier) : Form (.params name)

/-- A parameter made with operator expressions, in any order of steps. -/
inductive Param.Form : Param → Prop where
  | ofName (kind : ParamKind) (name : Identifier) : Form (.ofName kind name)
  | withKind {param : Param} (hparam : Form param) (kind : ParamKind) : Form (param.withKind kind)
  | annotate {param : Param} (hparam : Form param) {declared : Expr}
    (hdeclared : OperatorForm declared) : Form (param.annotate declared)
  | withDefault {param : Param} (hparam : Form param) {value : Expr} (hvalue : OperatorForm value) :
    Form (param.withDefault value)

/-- A step of a function that brings such parts. Decorators may be anything. -/
def FunctionStep.Form : FunctionStep → Prop
  | .decorator _ | .async | .name _ | .asyncName _ => True
  | .typeParams added => ∀ p ∈ added, p.Form
  | .params added => ∀ p ∈ added, p.Form
  | .result declared => OperatorForm declared

/-- An operator expression that is passed by name. -/
def KeywordArg.Form (keyword : KeywordArg) : Prop :=
  ∃ arg : Identifier × Expr, OperatorForm arg.2 ∧ mkKeyword arg.1 arg.2 = keyword

/-- A step of a class that brings such parts. Decorators may be anything. -/
def ClassStep.Form : ClassStep → Prop
  | .decorator _ | .name _ => True
  | .typeParams added => ∀ p ∈ added, p.Form
  | .bases added => ∀ e ∈ added, OperatorForm e
  | .keywords added => ∀ k ∈ added, k.Form

/-- An operator expression as it is placed after a colon, an equals sign or an arrow. -/
def PlacedForm (e : Expr) : Prop :=
  ∃ given, OperatorForm given ∧ Slot.keywordValue.place given = e

theorem PlacedForm.exists_reading {e : Expr} (h : PlacedForm e) :
    ∃ ts, Reading e ts ∧ e.readLevel.rank < Level.lambda.rank + 1 := by
  obtain ⟨given, hgiven, rfl⟩ := h
  exact hgiven.exists_placed .keywordValue

theorem Param.Form.placed {param : Param} (h : param.Form) :
    (∀ e ∈ param.declared, PlacedForm e) ∧ ∀ e ∈ param.fallback, PlacedForm e := by
  induction h with
  | ofName kind name => exact ⟨by simp [Param.ofName], by simp [Param.ofName]⟩
  | withKind _ kind ih => exact ih
  | annotate _ hdeclared ih =>
      refine ⟨?_, ih.2⟩
      rintro e ⟨⟩
      exact ⟨_, hdeclared, rfl⟩
  | withDefault _ hvalue ih =>
      refine ⟨ih.1, ?_⟩
      rintro e ⟨⟩
      exact ⟨_, hvalue, rfl⟩

namespace ParamKind

/-- The marks before the name of a parameter. -/
def marks : ParamKind → List Mark
  | .single => []
  | .further => [.star]
  | .furtherNamed => [.doubleStar]

theorem readKind_eq (kind : ParamKind) (name : Identifier) (rest : List Token) :
    readKind (kind.marks.map .mark ++ .name name :: rest) = (kind, .name name :: rest) := by
  cases kind <;> rfl

/-- No bracket is closed where a parameter begins. -/
theorem expect_eq_none (kind : ParamKind) (name : Identifier) {right : Mark}
    (hright : right = .closeRound ∨ right = .closeSquare) (rest : List Token) :
    expect right (kind.marks.map .mark ++ .name name :: rest) = none := by
  rcases hright with rfl | rfl <;> cases kind <;> rfl

theorem glued_star_left {y : Char} (hy : isWordChar y = true) : glued '*' y = false := by
  have hstar : isWordChar '*' = false := by decide +kernel
  have hne : y ≠ '*' := by
    rintro rfl
    rw [hstar] at hy
    cases hy
  simp [glued, pairedSigns, hstar, hne]

/-- The name of a parameter after its stars. -/
theorem spelled_name (kind : ParamKind) (name : Identifier) :
    Spelled (kind.text ++ name.text).toList (kind.marks.map .mark ++ [.name name]) := by
  obtain ⟨hne, hword⟩ := name.isWordChar_of_mem
  have hstars {m : Mark} (hm : m.chars.getLast? = some '*') :
      Spelled (m.chars ++ name.text.toList) [.mark m, .name name] := by
    refine ⟨(spells_mark m).append (spells_name name) hne (by simp) (fun x hx y hy => ?_)
      (whole_mark m _), by simp [hne], by simp⟩
    obtain rfl : '*' = x := by simpa [hm] using hx
    exact glued_star_left (hword y (List.mem_of_mem_head? hy))
  rw [String.toList_append]
  cases kind with
  | single => exact Unparse.spelled_name name
  | further => exact hstars (m := .star) rfl
  | furtherNamed => exact hstars (m := .doubleStar) rfl

end ParamKind

/-- A parameter that stands for a type, with or without a bound. -/
theorem TypeParam.exists_typeReading (name : Identifier) {bound : Option Expr}
    (hbound : ∀ e ∈ bound, OperatorForm e) :
    ∃ ts, EntryReading TypeParam.text readTypeParam (.type name bound) ts := by
  have hreading : ∀ e ∈ bound, ∃ us, Reading e us ∧ e.readLevel.rank < Level.namedExpr.rank + 1 := by
    intro e he
    obtain ⟨us, hus⟩ := (hbound e he).exists_reading
    exact ⟨us, hus, Nat.lt_succ_of_le e.readLevel.rank_le_namedExpr⟩
  obtain ⟨ts, hts⟩ := exists_afterColon le_rfl hreading
  refine ⟨.name name :: ts, ?_, fun hright rest => ?_, fun rest hrest => ?_⟩
  · rw [TypeParam.text, String.toList_append]
    exact hts.spelled (spelled_name name)
  · exact ParamKind.single.expect_eq_none name hright _
  · have hpart := hts.read_eq rest (hrest.mono (by decide)) (hrest.expectEach_eq_none (by decide) [])
    have hread : readTypeParam (.name name :: ts ++ rest) =
        (readAfter [.colon] (Level.namedExpr.rank + 1) (ts ++ rest)).map fun read =>
          (.type name read.1, read.2) := rfl
    rw [hread, hpart, Option.map_some]

theorem TypeParam.Form.exists_reading {param : TypeParam} (h : param.Form) :
    ∃ ts, EntryReading TypeParam.text readTypeParam param ts := by
  cases h with
  | free name => exact exists_typeReading name (by simp)
  | bounded name hbound => exact exists_typeReading name (by simpa using hbound)
  | types name =>
      exact ⟨_, ParamKind.further.spelled_name name,
        fun hright rest => ParamKind.further.expect_eq_none name hright rest, fun rest _ => rfl⟩
  | params name =>
      exact ⟨_, ParamKind.furtherNamed.spelled_name name,
        fun hright rest => ParamKind.furtherNamed.expect_eq_none name hright rest, fun rest _ => rfl⟩

theorem Param.Form.exists_reading {param : Param} (h : param.Form) :
    ∃ ts, EntryReading Param.text readParam param ts := by
  obtain ⟨hdeclared, hfallback⟩ := h.placed
  obtain ⟨kind, name, declared, fallback⟩ := param
  obtain ⟨ts, hts⟩ := exists_afterColon (by decide) fun e he => (hdeclared e he).exists_reading
  obtain ⟨us, hus⟩ := exists_afterEquals (by decide) fun e he => (hfallback e he).exists_reading
  refine ⟨kind.marks.map .mark ++ .name name :: (ts ++ us), ?_, fun hright rest => ?_,
    fun rest hrest => ?_⟩
  · have hspelled := hus.spelled (hts.spelled (kind.spelled_name name))
    simpa [Param.text] using hspelled
  · rw [List.append_assoc]
    exact kind.expect_eq_none name hright _
  · -- What follows the type is the sign of a value, or else what follows the whole parameter.
    have hafter : BeginsWith [.comma, .closeRound, .closeSquare, .equals] (us ++ rest) := by
      rcases hus.head_cases with rfl | ⟨more, rfl⟩
      · exact hrest.mono (by decide)
      · exact ⟨.equals, by decide, more ++ rest, rfl⟩
    have hpart := hts.read_eq (us ++ rest) (hafter.mono (by decide))
      (hafter.expectEach_eq_none (by decide) [])
    have hpart' := hus.read_eq rest (hrest.mono (by decide)) (hrest.expectEach_eq_none (by decide) [])
    rw [List.append_assoc, List.cons_append, readParam, kind.readKind_eq, List.append_assoc]
    simp only [hpart, hpart', Option.bind_eq_bind, Option.bind_some]
    rfl

/-! ### Headers -/

/-- The parts of the header of a function have forms that are read back. -/
structure FunctionHeader.Form (header : FunctionHeader) : Prop where
  typeParams : ∀ p ∈ header.typeParams, p.Form
  params : ∀ p ∈ header.params, p.Form
  result : ∀ e ∈ header.result, PlacedForm e

/-- The parts of the header of a class have forms that are read back. -/
structure ClassHeader.Form (header : ClassHeader) : Prop where
  typeParams : ∀ p ∈ header.typeParams, p.Form
  bases : ∀ e ∈ header.bases, OperatorForm e
  keywords : ∀ k ∈ header.keywords, k.Form

/-- Keyword arguments are made from names and operator expressions. -/
theorem exists_named {keywords : List KeywordArg} (h : ∀ k ∈ keywords, k.Form) :
    ∃ named : List (Identifier × Expr), named.map (fun arg => mkKeyword arg.1 arg.2) = keywords ∧
      ∀ arg ∈ named, OperatorForm arg.2 := by
  induction keywords with
  | nil => exact ⟨[], rfl, List.forall_mem_nil _⟩
  | cons keyword keywords ih =>
      obtain ⟨⟨arg, harg, rfl⟩, hkeywords⟩ := List.forall_mem_cons.1 h
      obtain ⟨named, rfl, hnamed⟩ := ih hkeywords
      exact ⟨arg :: named, rfl, List.forall_mem_cons.2 ⟨harg, hnamed⟩⟩

/-- The arguments of a class, with parentheses if there are any. -/
theorem ClassHeader.Form.exists_arguments {header : ClassHeader} (h : header.Form) {cs : List Char}
    {ts : List Token} (hspelled : Spelled cs ts) :
    let arguments := header.bases.map Expr.text ++ header.keywords.map KeywordArg.text
    ∃ us, expect .openSquare (us ++ [.mark .colon]) = none ∧
      Spelled (cs ++ (if arguments.isEmpty then "" else "(" ++ commaSeparated arguments ++ ")").toList)
        (ts ++ us) ∧
      readClassArgs (us ++ [.mark .colon]) = some (header.bases, header.keywords, [.mark .colon]) := by
  intro arguments
  by_cases hempty : header.bases = [] ∧ header.keywords = []
  · refine ⟨[], rfl, ?_, ?_⟩
    · simpa [arguments, hempty.1, hempty.2] using hspelled
    · rw [hempty.1, hempty.2]
      rfl
  · obtain ⟨named, hkeywords, hnamed⟩ := exists_named h.keywords
    obtain ⟨parts, namedParts, hparts⟩ := Unparse.exists_arguments
      (fun e he => (h.bases e he).exists_reading) fun arg harg => (hnamed arg harg).exists_reading
    rw [hkeywords] at hparts
    have htexts : arguments = exprTexts header.bases ++ keywordTexts header.keywords := by
      rw [exprTexts_eq_map, keywordTexts_eq_map]
    have hkept : arguments.isEmpty = false := by simpa [arguments] using hempty
    refine ⟨.mark .openRound :: (commaTokens (parts.map Phrase.tokens ++ namedParts.map namedTokens) ++
      [.mark .closeRound]), rfl, ?_, ?_⟩
    · have hjoined := hspelled.before_lone hparts.spelled (by decide) (whole_of_head (by simp))
      rw [hkept, htexts]
      simpa using hjoined
    · have hargs := readArgs_phrases parts namedParts
        (fun p hp => (hparts.positional p hp).readsFully.positional (hparts.positional p hp))
        (fun p hp => (hparts.named p hp).readsFully.named p.1)
        [.mark .closeRound, .mark .colon]
      rw [hparts.exprs_eq, hparts.keywords_eq] at hargs
      rw [List.cons_append, readClassArgs, expect_cons, List.append_assoc]
      simp only [List.singleton_append, Option.bind_eq_bind]
      rw [hargs _ rfl (by simp only [List.length_append, List.length_cons]; omega)]
      rfl

namespace Stmt

def decorators : Stmt → List Expr
  | .functionDef header _ => header.decorators
  | .classDef header _ => header.decorators
  | _ => []

end Stmt

namespace Stmt

end Stmt

end Unparse
