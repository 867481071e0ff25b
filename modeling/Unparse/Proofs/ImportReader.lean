import Unparse.Proofs.Charset
import Unparse.Stmt.Text

/-!
Imports are read back from the characters of their line. A path is as many dots as it starts with and
the names between the others, a name is told from what it is called by `as`, and names are told from one
another by commas. No identifier has a dot, a comma, a space or a star in it, so each separator stands
only where the line was put together with it.
-/

namespace Unparse

/-! ### Pieces between separators -/

/-- The pieces of a text between separators, where the given number of characters is still to be
skipped as part of a separator. -/
def piecesFrom (separator : List Char) : Nat → List Char → List (List Char)
  | _, [] => [[]]
  | skip + 1, _ :: cs => piecesFrom separator skip cs
  | 0, c :: cs =>
    if separator.isPrefixOf (c :: cs) then [] :: piecesFrom separator (separator.length - 1) cs
    else match piecesFrom separator 0 cs with
      | [] => [[c]]
      | piece :: pieces => (c :: piece) :: pieces

/-- The pieces of a text between separators. -/
def pieces (separator cs : List Char) : List (List Char) :=
  piecesFrom separator 0 cs

section Pieces

variable {s : Char} {ss : List Char}

theorem piecesFrom_length (separator skipped cs : List Char) :
    piecesFrom separator skipped.length (skipped ++ cs) = piecesFrom separator 0 cs := by
  induction skipped with
  | nil => rfl
  | cons c skipped ih => exact ih

/-- A character that the separator does not begin with belongs to the first piece. -/
theorem pieces_cons_of_ne {c : Char} (hc : s ≠ c) {cs piece : List Char} {more : List (List Char)}
    (h : pieces (s :: ss) cs = piece :: more) : pieces (s :: ss) (c :: cs) = (c :: piece) :: more := by
  have hprefix : ¬(s :: ss).isPrefixOf (c :: cs) = true := by simp [hc]
  rw [pieces] at h
  rw [pieces, piecesFrom, if_neg hprefix, h]

/-- A piece ends with the first separator, if the separator begins with a character that the piece
does not have. -/
theorem pieces_append {piece : List Char} (h : s ∉ piece) (cs : List Char) :
    pieces (s :: ss) (piece ++ (s :: ss) ++ cs) = piece :: pieces (s :: ss) cs := by
  induction piece with
  | nil =>
      have hprefix : (s :: ss).isPrefixOf (s :: (ss ++ cs)) = true := by simp
      rw [List.nil_append, List.cons_append, pieces, piecesFrom, if_pos hprefix, pieces]
      exact congrArg ([] :: ·) (piecesFrom_length _ ss cs)
  | cons c piece ih =>
      obtain ⟨hc, hpiece⟩ := List.ne_and_not_mem_of_not_mem_cons h
      exact pieces_cons_of_ne hc (ih hpiece)

theorem pieces_of_not_mem {piece : List Char} (h : s ∉ piece) : pieces (s :: ss) piece = [piece] := by
  induction piece with
  | nil => rfl
  | cons c piece ih =>
      obtain ⟨hc, hpiece⟩ := List.ne_and_not_mem_of_not_mem_cons h
      exact pieces_cons_of_ne hc (ih hpiece)

/-- Items with separators between them are the pieces of the text. -/
theorem pieces_intercalate {items : List (List Char)} (hne : items ≠ []) (h : ∀ item ∈ items, s ∉ item) :
    pieces (s :: ss) (List.intercalate (s :: ss) items) = items := by
  induction items with
  | nil => exact absurd rfl hne
  | cons item items ih =>
      obtain ⟨hitem, hitems⟩ := List.forall_mem_cons.1 h
      cases items with
      | nil => rw [List.intercalate_singleton, pieces_of_not_mem hitem]
      | cons next items =>
          rw [List.intercalate_cons_cons, pieces_append hitem, ih (List.cons_ne_nil _ _) hitems]

end Pieces

/-- What is written item by item is read item by item. -/
theorem mapM_map_eq_some {α β : Type} {write : α → β} {read : β → Option α} {xs : List α}
    (h : ∀ x ∈ xs, read (write x) = some x) : (xs.map write).mapM read = some xs := by
  induction xs with
  | nil => rfl
  | cons x xs ih =>
      obtain ⟨hx, hxs⟩ := List.forall_mem_cons.1 h
      rw [List.map_cons, List.mapM_cons, hx, ih hxs]
      rfl

/-! ### Reading -/

/-- An identifier that is made of the given characters. -/
def readIdentifier (cs : List Char) : Option Identifier :=
  (Identifier.ofText (String.ofList cs)).toOption

/-- A path: dots are counted as long as there are some, and the rest is split at dots. -/
def readPath (cs : List Char) : Option ModulePath := do
  let dotted := cs.dropWhile (· = '.')
  let names ← if dotted = [] then some [] else (pieces ['.'] dotted).mapM readIdentifier
  return ⟨(cs.takeWhile (· = '.')).length, names⟩

/-- A name of an import, split at `as`. -/
def readImportName (cs : List Char) : Option ImportName :=
  if cs = ['*'] then some .star
  else match pieces " as ".toList cs with
    | [source] => (readPath source).map .path
    | [source, name] => do return .pathAlias (← readPath source) (← readIdentifier name)
    | _ => none

/-- The names of an import, split at commas. -/
def readImportNames (cs : List Char) : Option (List ImportName) :=
  (pieces ", ".toList cs).mapM readImportName

/-- An import: what it is called from, if anything, and the names. -/
def readImport (cs : List Char) : Option SimpleStmt :=
  match cs.dropPrefix? "import ".toList with
  | some names => do return .imports (← readImportNames names)
  | none => do
    let rest ← cs.dropPrefix? "from ".toList
    let names ← (rest.dropWhile (· ≠ ' ')).dropPrefix? " import ".toList
    return .importsFrom (← readPath (rest.takeWhile (· ≠ ' '))) (← readImportNames names)

/-! ### What the parts are free of -/

/-- The signs that stand between the parts of an import. -/
def importSigns : List Char :=
  ['.', ',', ' ', '*']

theorem Identifier.ne_of_mem_importSigns (name : Identifier) {c : Char} (hc : c ∈ importSigns) :
    AllChars (· ≠ c) name.text := by
  have hsigns : importSigns.all (fun c => !isWordChar c) = true := by decide +kernel
  rintro d hd rfl
  have hsign := List.all_eq_true.1 hsigns d hc
  rw [name.isWordChar_of_mem.2 d hd] at hsign
  cases hsign

theorem readIdentifier_text (name : Identifier) : readIdentifier name.text.toList = some name := by
  rw [readIdentifier, String.ofList_toList, Identifier.ofText_eq_ok_iff.2 rfl]
  rfl

namespace ModulePath

/-- Of the signs in an import a path has only dots. -/
theorem ne_of_mem_importSigns (path : ModulePath) {c : Char} (hc : c ∈ importSigns) (hdot : '.' ≠ c) :
    AllChars (· ≠ c) path.text := by
  refine allChars_append.2 ⟨allChars_ofList.2 fun d hd => ?_,
    allChars_intercalate (by simpa [AllChars] using hdot) fun text htext => ?_⟩
  · rwa [List.eq_of_mem_replicate hd]
  · obtain ⟨name, -, rfl⟩ := List.mem_map.1 htext
    exact name.ne_of_mem_importSigns hc

/-- The names of a path with dots between them. -/
def dotted (names : List Identifier) : List Char :=
  List.intercalate ['.'] (names.map fun name => name.text.toList)

theorem toList_text (path : ModulePath) :
    path.text.toList = List.replicate path.dots '.' ++ dotted path.names := by
  rw [text, String.toList_append, String.toList_ofList, String.toList_intercalate, List.map_map]
  rfl

/-- The names of a path begin with a character of a name, if there are any. -/
theorem dotted_eq_nil_or_cons (names : List Identifier) :
    names = [] ∧ dotted names = [] ∨
      names ≠ [] ∧ ∃ c cs, dotted names = c :: cs ∧ c ≠ '.' := by
  cases names with
  | nil => exact Or.inl ⟨rfl, rfl⟩
  | cons name names =>
      obtain ⟨c, cs, htext⟩ := List.exists_cons_of_ne_nil name.isWordChar_of_mem.1
      have hdot : c ≠ '.' := name.ne_of_mem_importSigns (by decide) c (htext ▸ List.mem_cons_self)
      refine Or.inr ⟨List.cons_ne_nil _ _, ?_⟩
      cases names with
      | nil => exact ⟨c, cs, by rw [dotted, List.map_singleton, List.intercalate_singleton, htext], hdot⟩
      | cons next names =>
          rw [dotted, List.map_cons, List.map_cons, List.intercalate_cons_cons, htext]
          exact ⟨c, _, rfl, hdot⟩

theorem readPath_text (path : ModulePath) : readPath path.text.toList = some path := by
  obtain ⟨dots, names⟩ := path
  have hdots : ∀ c ∈ List.replicate dots '.', decide (c = '.') = true := fun c hc =>
    decide_eq_true (List.eq_of_mem_replicate hc)
  rw [readPath, toList_text, List.takeWhile_append_of_pos hdots, List.dropWhile_append_of_pos hdots]
  rcases dotted_eq_nil_or_cons names with ⟨rfl, hnames⟩ | ⟨hne, c, cs, hnames, hc⟩
  · rw [hnames]
    simp
  · have hsplit : pieces ['.'] (dotted names) = names.map fun name => name.text.toList := by
      refine pieces_intercalate (by simpa using hne) fun item hitem hdot => ?_
      obtain ⟨name, -, rfl⟩ := List.mem_map.1 hitem
      exact name.ne_of_mem_importSigns (by decide) '.' hdot rfl
    have hread : (pieces ['.'] (dotted names)).mapM readIdentifier = some names := by
      rw [hsplit]
      exact mapM_map_eq_some fun name _ => readIdentifier_text name
    rw [hnames] at hread ⊢
    simp [hc, hread]

/-- The text of a path tells which path it is. -/
theorem text_injective {path other : ModulePath} (h : path.text = other.text) : path = other := by
  have hread := readPath_text path
  rw [h, readPath_text other] at hread
  exact (Option.some.inj hread).symm

end ModulePath

/-! ### Names and statements -/

namespace ImportName

/-- Everything, a module, or a module under another name. -/
def OfModule : ImportName → Prop
  | .alias _ _ => False
  | _ => True

/-- The text of a name has no comma in it. -/
theorem ne_comma {name : ImportName} (h : name.OfModule) : AllChars (· ≠ ',') name.text := by
  cases name with
  | star => simp [AllChars, text]
  | path source => exact source.ne_of_mem_importSigns (by decide) (by decide)
  | pathAlias source name =>
      refine allChars_append.2 ⟨allChars_append.2 ⟨source.ne_of_mem_importSigns (by decide) (by decide),
        by simp [AllChars]⟩, name.ne_of_mem_importSigns (by decide)⟩
  | «alias» _ _ => exact h.elim

theorem readImportName_text {name : ImportName} (h : name.OfModule) :
    readImportName name.text.toList = some name := by
  cases name with
  | star => rfl
  | path source =>
      have hstar : source.text.toList ≠ ['*'] := fun hstar =>
        source.ne_of_mem_importSigns (c := '*') (by decide) (by decide) '*' (by simp [hstar]) rfl
      have hpieces : pieces " as ".toList source.text.toList = [source.text.toList] :=
        pieces_of_not_mem fun hspace =>
          source.ne_of_mem_importSigns (by decide) (by decide) ' ' hspace rfl
      rw [text, readImportName, if_neg hstar, hpieces]
      simp [source.readPath_text]
  | pathAlias source name =>
      have hspace : ' ' ∉ source.text.toList := fun hspace =>
        source.ne_of_mem_importSigns (by decide) (by decide) ' ' hspace rfl
      have hname : ' ' ∉ name.text.toList := fun hspace =>
        name.ne_of_mem_importSigns (by decide) ' ' hspace rfl
      have hpieces : pieces " as ".toList (text (.pathAlias source name)).toList =
          [source.text.toList, name.text.toList] := by
        rw [text, String.toList_append, String.toList_append]
        exact (pieces_append hspace _).trans (congrArg (_ :: ·) (pieces_of_not_mem hname))
      have hstar : (text (.pathAlias source name)).toList ≠ ['*'] := by
        intro hstar
        have hmem : ' ' ∈ (text (.pathAlias source name)).toList := by simp [text]
        rw [hstar] at hmem
        simp at hmem
      rw [readImportName, if_neg hstar, hpieces]
      simp [source.readPath_text, readIdentifier_text]
  | «alias» _ _ => exact h.elim

end ImportName

/-- Names between commas. -/
theorem readImportNames_text {names : List ImportName} (hne : names ≠ [])
    (h : ∀ name ∈ names, name.OfModule) :
    readImportNames (commaSeparated (names.map ImportName.text)).toList = some names := by
  have hpieces : pieces ", ".toList (commaSeparated (names.map ImportName.text)).toList =
      names.map fun name => name.text.toList := by
    rw [toList_commaSeparated, List.map_map]
    refine pieces_intercalate (by simpa using hne) fun item hitem hcomma => ?_
    obtain ⟨name, hname, rfl⟩ := List.mem_map.1 hitem
    exact ImportName.ne_comma (h name hname) ',' hcomma rfl
  rw [readImportNames, hpieces]
  exact mapM_map_eq_some fun name hname => ImportName.readImportName_text (h name hname)

namespace SimpleStmt

theorem readImport_imports {names : List ImportName} (hne : names ≠ [])
    (h : ∀ name ∈ names, name.OfModule) :
    readImport (SimpleStmt.imports names).text.toList = some (.imports names) := by
  rw [text, String.toList_append, readImport, dropPrefix?_append]
  simp [readImportNames_text hne h]

theorem readImport_importsFrom (source : ModulePath) {names : List ImportName} (hne : names ≠ [])
    (h : ∀ name ∈ names, name.OfModule) :
    readImport (SimpleStmt.importsFrom source names).text.toList = some (.importsFrom source names) := by
  have htext : (SimpleStmt.importsFrom source names).text.toList = "from ".toList ++
      (source.text.toList ++ (" import ".toList ++
        (commaSeparated (names.map ImportName.text)).toList)) := by
    simp [text]
  have hlead : (SimpleStmt.importsFrom source names).text.toList.dropPrefix? "import ".toList =
      none := by
    rw [htext]
    rfl
  have hspace : ∀ c ∈ source.text.toList, decide (c ≠ ' ') = true := fun c hc =>
    decide_eq_true (source.ne_of_mem_importSigns (by decide) (by decide) c hc)
  have hsource (rest : List Char) :
      (source.text.toList ++ (" import ".toList ++ rest)).takeWhile (· ≠ ' ') = source.text.toList := by
    rw [List.takeWhile_append_of_pos hspace]
    simp
  have hnames (rest : List Char) :
      (source.text.toList ++ (" import ".toList ++ rest)).dropWhile (· ≠ ' ') =
        " import ".toList ++ rest := by
    rw [List.dropWhile_append_of_pos hspace]
    simp
  rw [readImport, hlead, htext, dropPrefix?_append]
  dsimp only [Option.bind_eq_bind, Option.bind_some]
  rw [hsource, hnames, dropPrefix?_append]
  simp [source.readPath_text, readImportNames_text hne h]

/-- An import of modules, or of names from one, as it can be built, whose names are modules and not
expressions. -/
inductive ImportForm : SimpleStmt → Prop where
  | imports {names : List ImportName} {s : SimpleStmt} (hnames : ∀ name ∈ names, name.OfModule)
    (hmade : mkImports names = .ok s) : ImportForm s
  | importsFrom {source : ModulePath} {names : List ImportName} {s : SimpleStmt}
    (hnames : ∀ name ∈ names, name.OfModule) (hmade : mkImportsFrom source names = .ok s) :
    ImportForm s

theorem ImportForm.readImport_eq {s : SimpleStmt} (h : s.ImportForm) :
    readImport s.text.toList = some s := by
  cases h with
  | imports hnames hmade =>
      obtain ⟨hne, rfl⟩ := requireSome_eq_ok_iff.1 hmade
      exact readImport_imports hne hnames
  | importsFrom hnames hmade =>
      obtain ⟨hne, rfl⟩ := requireSome_eq_ok_iff.1 hmade
      exact readImport_importsFrom _ hne hnames

/-- A simple statement is written as its line. -/
theorem text_simple (s : SimpleStmt) : (Stmt.simple s).text = s.text := by
  simp [Stmt.text, Sheet.writeStmt, Sheet.beginLine, Sheet.addIndent, Sheet.add, Sheet.ofStyle]

/-- The text of an import is read back as the import, by counting dots and splitting at separators, and
so no other import is written like it. The same holds of paths, with whatever number of dots and with or
without names. -/
theorem ImportForm.readImport_text {s : SimpleStmt} (h : s.ImportForm) :
    readImport (Stmt.simple s).text.toList = some s ∧
    (∀ t : SimpleStmt, t.ImportForm → (Stmt.simple t).text = (Stmt.simple s).text → t = s) ∧
    ∀ path : ModulePath, readPath path.text.toList = some path ∧
      ∀ other : ModulePath, other.text = path.text → other = path := by
  refine ⟨?_, fun t ht heq => ?_, fun path => ⟨path.readPath_text, fun _ => ModulePath.text_injective⟩⟩
  · rw [text_simple]
    exact h.readImport_eq
  · rw [text_simple, text_simple] at heq
    have hread := ht.readImport_eq
    rw [heq, h.readImport_eq] at hread
    exact (Option.some.inj hread).symm

/-- Everything, a module under another name, and a place without a name. -/
def mixedNames : List ImportName :=
  [.star, .pathAlias ⟨0, [⟨"os", by decide⟩, ⟨"path", by decide⟩]⟩ ⟨"paths", by decide⟩, .path ⟨1, []⟩]

/-- An import of these from a module next to the one above. -/
def relativeImport : SimpleStmt :=
  .importsFrom ⟨2, [⟨"pkg", by decide⟩, ⟨"mod", by decide⟩]⟩ mixedNames

theorem importForm_relativeImport : relativeImport.ImportForm := by
  have hnames : ∀ name ∈ mixedNames, name.OfModule := by
    simp [mixedNames, ImportName.OfModule]
  exact .importsFrom hnames (requireSome_eq_ok_iff.2 ⟨List.cons_ne_nil _ _, rfl⟩)

theorem relativeImport_readImport_text :
    (Stmt.simple relativeImport).text = "from ..pkg.mod import *, os.path as paths, ." ∧
    readImport "from ..pkg.mod import *, os.path as paths, .".toList = some relativeImport := by
  have htext : (Stmt.simple relativeImport).text = "from ..pkg.mod import *, os.path as paths, ." := by
    decide +kernel
  exact ⟨htext, htext ▸ importForm_relativeImport.readImport_text.1⟩

end SimpleStmt

end Unparse
