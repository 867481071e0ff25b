import Unparse.Proofs.OperatorForm
import Unparse.Stmt.Definition

/-!
A reader of the headers of functions and classes. Each part that may be left out begins with marks that
nothing before it goes on with, and an expression is read as far as it goes, so a colon or a comma
belongs to a lambda that is still without its body before it belongs to the header.
-/

namespace Unparse

/-! ### Reading -/

/-- The tokens after marks that have to come first. -/
def expectEach : List Mark → List Token → Option (List Token)
  | [], tokens => some tokens
  | m :: ms, tokens => (expect m tokens).bind (expectEach ms)

/-- A part that marks stand before: an expression whose rank is below the limit. Without the marks
there is no such part. -/
def readAfter (lead : List Mark) (limit : Nat) (tokens : List Token) :
    Option (Option Expr × List Token) :=
  match expectEach lead tokens with
  | some rest => (readExpr (3 * rest.length + 1) limit rest).map fun read => (some read.1, read.2)
  | none => some (none, tokens)

/-- The kind that the stars before a name stand for. -/
def readKind : List Token → ParamKind × List Token
  | .mark .star :: rest => (.further, rest)
  | .mark .doubleStar :: rest => (.furtherNamed, rest)
  | tokens => (.single, tokens)

/-- A type parameter. A bound is read as the loosest expression there is. -/
def readTypeParam (tokens : List Token) : Option (TypeParam × List Token) :=
  match readKind tokens with
  | (.single, .name name :: rest) =>
    (readAfter [.colon] (Level.namedExpr.rank + 1) rest).map fun read => (.type name read.1, read.2)
  | (.further, .name name :: rest) => some (.types name, rest)
  | (.furtherNamed, .name name :: rest) => some (.params name, rest)
  | _ => none

/-- A parameter, with its type and with the value it falls back on. -/
def readParam (tokens : List Token) : Option (Param × List Token) :=
  match readKind tokens with
  | (kind, .name name :: rest) => do
    let (declared, rest) ← readAfter [.colon] (Level.lambda.rank + 1) rest
    let (fallback, rest) ← readAfter [.equals] (Level.lambda.rank + 1) rest
    return (⟨kind, name, declared, fallback⟩, rest)
  | _ => none

/-- The bases and keyword arguments of a class, if there is a parenthesis. -/
def readClassArgs (tokens : List Token) : Option (List Expr × List KeywordArg × List Token) :=
  match expect .openRound tokens with
  | some rest => do
    let (args, rest) ← readArgs (3 * rest.length + 1) rest
    let rest ← expect .closeRound rest
    if args.hasComma then none else return (args.positional, args.named, rest)
  | none => return ([], [], tokens)

def BeginsWith (marks : List Mark) (tokens : List Token) : Prop :=
  ∃ m ∈ marks, ∃ rest, tokens = .mark m :: rest

/-- The marks that no expression goes on with. -/
def endMarks : List Mark :=
  [.comma, .closeRound, .closeSquare, .colon, .equals]

theorem BeginsWith.followRank_eq {tokens : List Token} (h : BeginsWith endMarks tokens) :
    followRank tokens = Level.namedExpr.rank + 1 := by
  obtain ⟨m, hm, rest, rfl⟩ := h
  simp only [endMarks, List.mem_cons, List.not_mem_nil, or_false] at hm
  rcases hm with rfl | rfl | rfl | rfl | rfl <;> rfl

theorem expect_of_ne {m m' : Mark} (h : m' ≠ m) (rest : List Token) :
    expect m (.mark m' :: rest) = none :=
  if_neg h

theorem BeginsWith.expect_eq_none {marks : List Mark} {tokens : List Token}
    (h : BeginsWith marks tokens) {m : Mark} (hm : m ∉ marks) : expect m tokens = none := by
  obtain ⟨m', hm', rest, rfl⟩ := h
  exact expect_of_ne (ne_of_mem_of_not_mem hm' hm) rest

theorem BeginsWith.expectEach_eq_none {marks : List Mark} {tokens : List Token}
    (h : BeginsWith marks tokens) {m : Mark} (hm : m ∉ marks) (ms : List Mark) :
    expectEach (m :: ms) tokens = none := by
  rw [expectEach, h.expect_eq_none hm, Option.bind_none]

theorem BeginsWith.mono {marks others : List Mark} {tokens : List Token} (h : BeginsWith marks tokens)
    (hsubset : ∀ m ∈ marks, m ∈ others) : BeginsWith others tokens := by
  obtain ⟨m, hm, hrest⟩ := h
  exact ⟨m, hsubset m hm, hrest⟩

/-! ### Parts that may be left out -/

/-- Tokens for a part that may be left out: they are read as the part, and they spell its text after
whatever stands before it. -/
structure PartReading (lead : String) (marks : List Mark) (limit : Nat) (part : Option Expr)
    (tokens : List Token) : Prop where
  read_eq : ∀ rest, BeginsWith endMarks rest → expectEach marks rest = none →
    readAfter marks limit (tokens ++ rest) = some (part, rest)
  spelled : ∀ {cs : List Char} {ts : List Token}, Spelled cs ts →
    Spelled (cs ++ (optionalText lead part).toList) (ts ++ tokens)
  head_cases : tokens = [] ∨ ∃ rest, tokens = marks.map .mark ++ rest

theorem expectEach_append (marks : List Mark) (rest : List Token) :
    expectEach marks (marks.map .mark ++ rest) = some rest := by
  induction marks with
  | nil => rfl
  | cons m marks ih =>
      rw [List.map_cons, List.cons_append, expectEach, expect_cons, Option.bind_some, ih]

/-- Where what leads to a part goes between spellings, a part with a reading is read. -/
theorem exists_partReading {lead : String} {marks : List Mark} {limit : Nat}
    (hlead : ∀ {cs ds : List Char} {ts us : List Token}, Spelled cs ts → Spelled ds us →
      Spelled (cs ++ (lead.toList ++ ds)) (ts ++ (marks.map .mark ++ us)))
    (hlimit : limit ≤ Level.namedExpr.rank + 1) {part : Option Expr}
    (h : ∀ e ∈ part, ∃ ts, Reading e ts ∧ e.readLevel.rank < limit) :
    ∃ tokens, PartReading lead marks limit part tokens := by
  cases part with
  | none =>
      refine ⟨[], fun rest _ hnone => ?_, fun hcs => ?_, Or.inl rfl⟩
      · rw [List.nil_append, readAfter, hnone]
      · simpa [optionalText] using hcs
  | some e =>
      obtain ⟨ts, hread, hlevel⟩ := h e rfl
      refine ⟨marks.map .mark ++ ts, fun rest hrest _ => ?_, fun hcs => ?_, Or.inr ⟨ts, rfl⟩⟩
      · have hstop : limit ≤ followRank rest := hrest.followRank_eq ▸ hlimit
        rw [readAfter, List.append_assoc, expectEach_append]
        simp only [hread.reads.readsFully limit rest (3 * (ts ++ rest).length + 1) hlevel hstop
          (by rw [List.length_append]; omega), Option.map_some]
      · simpa [optionalText] using hlead hcs hread.spelled

/-- The part after a colon. -/
theorem exists_afterColon {limit : Nat} (hlimit : limit ≤ Level.namedExpr.rank + 1)
    {part : Option Expr} (h : ∀ e ∈ part, ∃ ts, Reading e ts ∧ e.readLevel.rank < limit) :
    ∃ tokens, PartReading ": " [.colon] limit part tokens := by
  refine exists_partReading (fun hcs hds => ?_) hlimit h
  exact hcs.colon hds

/-- The part after an equals sign. -/
theorem exists_afterEquals {limit : Nat} (hlimit : limit ≤ Level.namedExpr.rank + 1)
    {part : Option Expr} (h : ∀ e ∈ part, ∃ ts, Reading e ts ∧ e.readLevel.rank < limit) :
    ∃ tokens, PartReading " = " [.equals] limit part tokens := by
  refine exists_partReading (fun hcs hds => ?_) hlimit h
  exact hcs.spaced ((spelled_mark .equals).spaced hds)

/-- Tokens for an entry of a list: they spell its text, and they are read as the entry where a comma or
a closing bracket follows. -/
structure EntryReading {α : Type} (text : α → String) (read : List Token → Option (α × List Token))
    (x : α) (tokens : List Token) : Prop where
  spelled : Spelled (text x).toList tokens
  not_closes : ∀ {right : Mark}, right = .closeRound ∨ right = .closeSquare → ∀ rest,
    expect right (tokens ++ rest) = none
  read_eq : ∀ rest, BeginsWith [.comma, .closeRound, .closeSquare] rest →
    read (tokens ++ rest) = some (x, rest)

section Entries

variable {α : Type} {text : α → String} {read : List Token → Option (α × List Token)}

end Entries

end Unparse
