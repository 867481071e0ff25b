import Unparse.Proofs.LeadingWord
import Unparse.Proofs.TryClauses

/-!
Headers of handlers. A handler is opened by what it catches and may be named, even more than once,
before its body is given. The grammar has a name only behind a type, and what is written keeps to that
unless a handler of anything is named.
-/

namespace Unparse

/-! ### Calls -/

/-- The calls that make a handler: how it is opened, the names it is given, and its body. -/
structure HandlerCalls where
  caught : Caught
  names : List Identifier
  body : List Stmt

namespace HandlerCalls

/-- The header of a handler that has just been opened. -/
def opened (calls : HandlerCalls) : HandlerHeader :=
  match calls.caught with
  | .anything => .catchingAnything
  | .type type => .catchingType type
  | .group type => .catchingGroup type

/-- The header when the body is given. -/
def header (calls : HandlerCalls) : HandlerHeader :=
  calls.names.foldl HandlerHeader.named calls.opened

def handler (calls : HandlerCalls) : Handler :=
  ⟨calls.header, calls.body⟩

end HandlerCalls

/-- The calls that bring a `try` one step further. -/
inductive TryCall where
  | handle (calls : HandlerCalls)
  | orElse (body : List Stmt)
  | cleanup (body : List Stmt)

namespace TryCall

def step : TryCall → TryStep
  | .handle calls => .handler calls.handler
  | .orElse body => .orElse body
  | .cleanup body => .cleanup body

def handle? : TryCall → Option HandlerCalls
  | .handle calls => some calls
  | _ => none

theorem handler?_step (call : TryCall) :
    call.step.handler? = call.handle?.map HandlerCalls.handler := by
  cases call <;> rfl

end TryCall

/-! ### Forms of a header -/

/-- The words before a type. -/
def handlerWords : List String :=
  ["except", "except*"]

/-- The headers that the grammar has for a handler, without the colon. The type is the text of an
expression, and neither nothing nor a gap. -/
inductive HeaderForm : String → Prop where
  | anything : HeaderForm "except"
  | type {word : String} (hword : word ∈ handlerWords) {type : Expr} (htype : Begins type.text) :
    HeaderForm (word ++ " " ++ type.text)
  | named {word : String} (hword : word ∈ handlerWords) {type : Expr} (htype : Begins type.text)
    (name : Identifier) : HeaderForm (word ++ " " ++ type.text ++ " as " ++ name.text)

/-- Behind the word and a space, a header of the grammar goes on, with no other space and not with the
word `as`. -/
theorem HeaderForm.rest {text : String} (h : HeaderForm text) :
    text = "except" ∨ ∃ word ∈ handlerWords, ∃ rest, text = word ++ " " ++ rest ∧ Begins rest ∧
      leadingWord rest ≠ asWord := by
  cases h with
  | anything => exact Or.inl rfl
  | @type word hword type htype =>
      exact Or.inr ⟨word, hword, type.text, rfl, htype, type.leadingWord_ne⟩
  | @named word hword type htype name =>
      refine Or.inr ⟨word, hword, type.text ++ (" as " ++ name.text), ?_, htype.append _, ?_⟩
      · simp only [String.append_assoc]
      · exact leadingWord_ne_append type.leadingWord_ne " as " rfl (isWordChar_sign ' ' (by decide)) _

/-- The rest is told by the word: neither word is the other one and a space. -/
theorem HeaderForm.of_word {word rest : String} (hword : word ∈ handlerWords)
    (h : HeaderForm (word ++ " " ++ rest)) : Begins rest ∧ leadingWord rest ≠ asWord := by
  obtain heq | ⟨word', hword', rest', heq, hrest'⟩ := h.rest
  · have hchars := congrArg String.toList heq
    rcases List.mem_pair.1 hword with rfl | rfl
    · simp at hchars
    · simp at hchars
  · have hchars := congrArg String.toList heq
    suffices h : rest = rest' by rwa [h]
    rcases List.mem_pair.1 hword with rfl | rfl <;> rcases List.mem_pair.1 hword' with rfl | rfl
    · simpa [String.toList_inj] using hchars
    · simp at hchars
    · simp at hchars
    · simpa [String.toList_inj] using hchars

namespace HandlerHeader

/-- What the forms ask of a header: no name where anything is caught, and a type that is written out
where one is given. -/
def TypeTold (header : HandlerHeader) : Prop :=
  match header.caught with
  | .anything => header.name = none
  | .type type | .group type => type.opensEmpty = false

theorem headerForm_type_iff {word : String} (hword : word ∈ handlerWords) (type : Expr)
    (name : Option Identifier) :
    HeaderForm (match name with
      | none => word ++ " " ++ type.text
      | some name => word ++ " " ++ type.text ++ " as " ++ name.text) ↔ Begins type.text := by
  constructor
  · intro h
    cases name with
    | none => exact (HeaderForm.of_word hword h).1
    | some name =>
        have hrest : HeaderForm (word ++ " " ++ (type.text ++ (" as " ++ name.text))) := by
          simpa [String.append_assoc] using h
        exact (begins_append_gap_iff rfl _).1 (HeaderForm.of_word hword hrest).1
  · intro htype
    cases name with
    | none => exact .type hword htype
    | some name => exact .named hword htype name

/-- A header has one of the forms unless it names what no type tells or its type is not written out. -/
theorem headerForm_text_iff (header : HandlerHeader) : HeaderForm header.text ↔ header.TypeTold := by
  obtain ⟨caught, name⟩ := header
  cases caught with
  | anything =>
      cases name with
      | none => exact iff_of_true .anything rfl
      | some name =>
          refine iff_of_false (fun h => ?_) (fun h => by cases h)
          have hrest : leadingWord ("as" ++ (" " ++ name.text)) = asWord := by
            rw [leadingWord_append (by simp [isWordChar_sign ' ' (by decide)])]
            decide +kernel
          have hform : HeaderForm ("except" ++ " " ++ ("as" ++ (" " ++ name.text))) := by
            simpa [text, Caught.text, ← String.append_assoc] using h
          exact (HeaderForm.of_word (by decide) hform).2 hrest
  | type type =>
      have hword : "except" ∈ handlerWords := by decide
      exact (headerForm_type_iff hword type name).trans type.begins_text_iff
  | group type =>
      have hword : "except*" ∈ handlerWords := by decide
      exact (headerForm_type_iff hword type name).trans type.begins_text_iff

end HandlerHeader

/-! ### Headers of a run -/

namespace HandlerCalls

/-- Calls make a header that tells a type: a handler of anything is given no name, and the type of any
other is written out. -/
def TypeTold (calls : HandlerCalls) : Prop :=
  match calls.caught with
  | .anything => calls.names = []
  | .type type | .group type => (statementValue type).opensEmpty = false

theorem foldl_named (header : HandlerHeader) (names : List Identifier) :
    names.foldl HandlerHeader.named header = { header with name := names.getLast?.or header.name } := by
  induction names generalizing header with
  | nil => rfl
  | cons name names ih =>
      rw [List.foldl_cons, ih, List.getLast?_cons]
      cases names.getLast? <;> rfl

/-- Of the names the last one is left. -/
theorem header_eq (calls : HandlerCalls) :
    calls.header = { calls.opened with name := calls.names.getLast? } := by
  have hname : calls.opened.name = none := by
    unfold opened
    split <;> rfl
  rw [header, foldl_named, hname, Option.or_none]

theorem typeTold_header_iff (calls : HandlerCalls) : calls.header.TypeTold ↔ calls.TypeTold := by
  obtain ⟨caught, names, body⟩ := calls
  rw [header_eq]
  cases caught with
  | anything => exact List.getLast?_eq_none_iff
  | type type => exact Iff.rfl
  | group type => exact Iff.rfl

/-- A handler of anything is written with its last name right behind the word. -/
theorem text_header_anything {calls : HandlerCalls} (h : calls.caught = .anything) {name : Identifier}
    (hname : calls.names.getLast? = some name) : calls.header.text = "except as " ++ name.text := by
  rw [header_eq, opened, h, hname]
  rfl

end HandlerCalls

/-- The handlers that a run has made are written in the order of their calls, and the header of each is
one that the grammar has just when no name was given to a handler of anything and the type of any
other does not open with an empty expression. A handler of anything that was named has the name where
a type would stand. -/
theorem Try.handler_headers {body : List Stmt} {calls : List TryCall} {parts : Try}
    (hrun : (start body).run (calls.map TryCall.step) = .ok parts) :
    parts.handlers = (calls.filterMap TryCall.handle?).map HandlerCalls.handler ∧
    (∃ rest, (Stmt.tryBlock parts).margin =
      "try:" :: (calls.filterMap TryCall.handle?).map (·.header.text ++ ":") ++ rest) ∧
    ∀ opened ∈ calls.filterMap TryCall.handle?,
      (HeaderForm opened.header.text ↔ opened.TypeTold) ∧
      ∀ name, opened.caught = .anything → opened.names.getLast? = some name →
        opened.header.text = "except as " ++ name.text := by
  have hhandlers : parts.handlers = (calls.filterMap TryCall.handle?).map HandlerCalls.handler := by
    obtain ⟨-, hfail⟩ | ⟨-, hgiven⟩ := run_start body (calls.map TryCall.step)
    · rw [hrun] at hfail
      cases hfail
    · rw [hrun, Except.ok.injEq] at hgiven
      rw [hgiven, given, List.filterMap_map, List.map_filterMap]
      exact List.filterMap_congr fun call _ => call.handler?_step
  refine ⟨hhandlers, ?_, fun opened _ => ⟨?_, fun name h hname => ?_⟩⟩
  · rw [margin_tryBlock, hhandlers, List.map_map, List.append_assoc]
    exact ⟨_, rfl⟩
  · rw [opened.header.headerForm_text_iff, opened.typeTold_header_iff]
  · exact HandlerCalls.text_header_anything h hname

def caughtName : Identifier :=
  ⟨"e", by decide⟩

/-- A `try` with one handler of each kind. Those with a type are named, the first one twice. -/
def mixedCalls : List TryCall :=
  [.cleanup [], .handle ⟨.type (.identifier ⟨"E", by decide⟩), [⟨"first", by decide⟩, caughtName], []⟩,
    .handle ⟨.group (.named ⟨"t", by decide⟩ (.identifier ⟨"E", by decide⟩)), [caughtName], []⟩,
    .orElse [], .handle ⟨.anything, [], []⟩]

theorem mixedCalls_handler_headers :
    ∃ parts, (Try.start []).run (mixedCalls.map TryCall.step) = .ok parts ∧
      (Stmt.tryBlock parts).margin =
        ["try:", "except E as e:", "except* (t := E) as e:", "except:", "else:", "finally:"] ∧
      ∀ opened ∈ mixedCalls.filterMap TryCall.handle?,
        HeaderForm opened.header.text ↔ opened.TypeTold := by
  refine ⟨_, rfl, ?_, fun opened hopened => ?_⟩
  · decide
  · exact ((@Try.handler_headers [] mixedCalls _ rfl).2.2 opened hopened).1

/-- Not every run makes handlers with headers of the grammar: a handler of anything can be named. -/
theorem not_forall_headerForm :
    (Try.start []).run ([.handle ⟨.anything, [caughtName], []⟩].map TryCall.step) =
      .ok ⟨[], [⟨⟨.anything, some caughtName⟩, []⟩], none, none⟩ ∧
    (HandlerHeader.mk .anything (some caughtName)).text = "except as e" ∧
    ¬ ∀ (body : List Stmt) (calls : List TryCall) (parts : Try),
      (Try.start body).run (calls.map TryCall.step) = .ok parts →
      ∀ handler ∈ parts.handlers, HeaderForm handler.header.text := by
  refine ⟨rfl, by decide, fun hall => ?_⟩
  have hform := hall [] [.handle ⟨.anything, [caughtName], []⟩] _ rfl
    ⟨⟨.anything, some caughtName⟩, []⟩ List.mem_cons_self
  cases (HandlerHeader.headerForm_text_iff _).1 hform

end Unparse
