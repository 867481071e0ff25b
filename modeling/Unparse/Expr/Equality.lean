import Unparse.Expr.Basic

/-!
Expressions can be compared: the comparison walks both trees and agrees with equality.
-/

namespace Unparse

mutual

/-- Whether two expressions are the same tree. -/
def Expr.same : Expr → Expr → Bool
  | .identifier a, .identifier b => a == b
  | .literal a, .literal b => a == b
  | .unary op a, .unary op' b => op == op' && a.same b
  | .binary op a c, .binary op' b d => op == op' && a.same b && c.same d
  | .call a args keywords, .call b args' keywords' =>
    a.same b && sameExprs args args' && sameKeywords keywords keywords'
  | .attribute a name, .attribute b name' => a.same b && name == name'
  | .subscript a items, .subscript b items' => a.same b && sameItems items items'
  | .display form elements, .display form' elements' =>
    form == form' && sameExprs elements elements'
  | .comprehension form a clauses, .comprehension form' b clauses' =>
    form == form' && a.same b && sameClauses clauses clauses'
  | .pair a c, .pair b d => a.same b && c.same d
  | .lambda params a, .lambda params' b => params == params' && a.same b
  | .conditional a c e, .conditional b d f => a.same b && c.same d && e.same f
  | .named target a, .named target' b => target == target' && a.same b
  | .formatString parts, .formatString parts' => sameParts parts parts'
  | .wrapped a, .wrapped b => a.same b
  | .alias a name, .alias b name' => a.same b && name == name'
  | .pathAlias path name, .pathAlias path' name' => path == path' && name == name'
  | .empty, .empty => true
  | _, _ => false
termination_by structural a => a

def sameExprs : List Expr → List Expr → Bool
  | [], [] => true
  | a :: as, b :: bs => a.same b && sameExprs as bs
  | _, _ => false
termination_by structural as => as

def KeywordArg.same : KeywordArg → KeywordArg → Bool
  | ⟨name, a⟩, ⟨name', b⟩ => name == name' && a.same b
termination_by structural a => a

def sameKeywords : List KeywordArg → List KeywordArg → Bool
  | [], [] => true
  | a :: as, b :: bs => a.same b && sameKeywords as bs
  | _, _ => false
termination_by structural as => as

def SubscriptItem.same : SubscriptItem → SubscriptItem → Bool
  | .index a, .index b => a.same b
  | .slice a c, .slice b d => a.same b && c.same d
  | .stride a c e, .stride b d f => a.same b && c.same d && e.same f
  | _, _ => false
termination_by structural a => a

def sameItems : List SubscriptItem → List SubscriptItem → Bool
  | [], [] => true
  | a :: as, b :: bs => a.same b && sameItems as bs
  | _, _ => false
termination_by structural as => as

def Clause.same : Clause → Clause → Bool
  | ⟨isAsync, targets, a, filters⟩, ⟨isAsync', targets', b, filters'⟩ =>
    isAsync == isAsync' && targets == targets' && a.same b && sameExprs filters filters'
termination_by structural a => a

def sameClauses : List Clause → List Clause → Bool
  | [], [] => true
  | a :: as, b :: bs => a.same b && sameClauses as bs
  | _, _ => false
termination_by structural as => as

def FormatPart.same : FormatPart → FormatPart → Bool
  | .plain a, .plain b => a == b
  | .field a conversion spec, .field b conversion' spec' =>
    a.same b && conversion == conversion' && spec == spec'
  | _, _ => false
termination_by structural a => a

def sameParts : List FormatPart → List FormatPart → Bool
  | [], [] => true
  | a :: as, b :: bs => a.same b && sameParts as bs
  | _, _ => false
termination_by structural as => as

end

mutual

theorem Expr.same_iff (a b : Expr) : a.same b = true ↔ a = b := by
  cases a <;> cases b <;> simp only [Expr.same] <;>
    simp [Expr.same_iff, sameExprs_iff, sameKeywords_iff, sameItems_iff, sameClauses_iff,
      sameParts_iff, and_assoc]
termination_by structural a

theorem sameExprs_iff (as bs : List Expr) : sameExprs as bs = true ↔ as = bs := by
  cases as <;> cases bs <;> simp only [sameExprs] <;> simp [Expr.same_iff, sameExprs_iff]
termination_by structural as

theorem KeywordArg.same_iff (a b : KeywordArg) : a.same b = true ↔ a = b := by
  cases a; cases b; simp only [KeywordArg.same]; simp [Expr.same_iff]
termination_by structural a

theorem sameKeywords_iff (as bs : List KeywordArg) : sameKeywords as bs = true ↔ as = bs := by
  cases as <;> cases bs <;> simp only [sameKeywords] <;>
    simp [KeywordArg.same_iff, sameKeywords_iff]
termination_by structural as

theorem SubscriptItem.same_iff (a b : SubscriptItem) : a.same b = true ↔ a = b := by
  cases a <;> cases b <;> simp only [SubscriptItem.same] <;> simp [Expr.same_iff, and_assoc]
termination_by structural a

theorem sameItems_iff (as bs : List SubscriptItem) : sameItems as bs = true ↔ as = bs := by
  cases as <;> cases bs <;> simp only [sameItems] <;> simp [SubscriptItem.same_iff, sameItems_iff]
termination_by structural as

theorem Clause.same_iff (a b : Clause) : a.same b = true ↔ a = b := by
  cases a; cases b; simp only [Clause.same]; simp [Expr.same_iff, sameExprs_iff, and_assoc]
termination_by structural a

theorem sameClauses_iff (as bs : List Clause) : sameClauses as bs = true ↔ as = bs := by
  cases as <;> cases bs <;> simp only [sameClauses] <;> simp [Clause.same_iff, sameClauses_iff]
termination_by structural as

theorem FormatPart.same_iff (a b : FormatPart) : a.same b = true ↔ a = b := by
  cases a <;> cases b <;> simp only [FormatPart.same] <;> simp [Expr.same_iff, and_assoc]
termination_by structural a

theorem sameParts_iff (as bs : List FormatPart) : sameParts as bs = true ↔ as = bs := by
  cases as <;> cases bs <;> simp only [sameParts] <;> simp [FormatPart.same_iff, sameParts_iff]
termination_by structural as

end

instance : DecidableEq Expr := fun a b => decidable_of_iff _ (Expr.same_iff a b)

instance : DecidableEq KeywordArg := fun a b => decidable_of_iff _ (KeywordArg.same_iff a b)

instance : DecidableEq SubscriptItem := fun a b => decidable_of_iff _ (SubscriptItem.same_iff a b)

instance : DecidableEq Clause := fun a b => decidable_of_iff _ (Clause.same_iff a b)

instance : DecidableEq FormatPart := fun a b => decidable_of_iff _ (FormatPart.same_iff a b)

end Unparse
