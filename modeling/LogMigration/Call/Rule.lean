import LogMigration.Call.Console
import LogMigration.Call.Template
import LogMigration.Text.WhiteSpace

/-!
# Substitution rules

A rule recognises one shape of console call with one kind of quote, and says which logger call
takes its place.  The message is copied as it stands; it is any non-empty text without the quote.

* `Rule.match?` — the call at the start of a text, as its source, its message and what follows it.
* `Rule.pieces` — a text divided at the leftmost, non-overlapping calls; `source_pieces` says that
  the pieces make up the text.
* `Rule.apply` — the text with every such call replaced, and the number of calls.
* `Rule.all` — the rules of a binding in the order in which they are applied.
* `replacement_eq` — the replacement template stands for the logger call, literally.
-/

set_option autoImplicit false

namespace LogMigration

/-- The shapes of console call that have a logger equivalent. -/
inductive CallShape where
  /-- `console.error('message', error);` -/
  | errorWithException
  /-- `console.error('message');` -/
  | error
  /-- `console.log('message');` -/
  | info
  /-- `console.warn('message');` -/
  | warn
  deriving DecidableEq, Repr

namespace CallShape

/-- All shapes, the exception form before the plain one. -/
def all : List CallShape := [.errorWithException, .error, .info, .warn]

def consoleMethod : CallShape → Console.Method
  | .errorWithException | .error => .error
  | .info => .log
  | .warn => .warn

def loggerMethod : CallShape → Text
  | .errorWithException | .error => "error".toList
  | .info => "info".toList
  | .warn => "warn".toList

def name : CallShape → String
  | .errorWithException => "ErrorWithException"
  | .error => "Error"
  | .info => "Info"
  | .warn => "Warn"

/-- The arguments after the message, up to the end of the call, and what follows them: an exception
argument or nothing, then the closing bracket and the semicolon. -/
def splitArguments? : CallShape → Text → Option (Text × Text)
  | .errorWithException, s =>
    (Text.dropPrefix? ",".toList s).bind fun r =>
      (Text.dropPrefix? "error);".toList (Text.trimStart r)).map fun rest =>
        (",".toList ++ r.takeWhile Text.isWhite ++ "error);".toList, rest)
  | _, s => (Text.dropPrefix? ");".toList s).map fun rest => (");".toList, rest)

/-- What a logger call passes after the message. -/
def details : CallShape → Text
  | .errorWithException => ", \x7b error: error.message, stack: error.stack \x7d".toList
  | _ => []

end CallShape

/-- The quotes around a message. -/
inductive Quote where
  | single
  | double
  deriving DecidableEq, Repr

namespace Quote

def all : List Quote := [.single, .double]

def char : Quote → Char
  | .single => '\x27'
  | .double => '"'

def name : Quote → String
  | .single => "Single"
  | .double => "Double"

end Quote

/-- A call shape with a kind of quote, and the name of the logger that is called instead. -/
structure Rule where
  shape : CallShape
  quote : Quote
  binding : Text
  deriving DecidableEq, Repr

namespace Rule

/-- The rules for a logger name: by shape, then by quote. -/
def all (binding : Text) : List Rule :=
  CallShape.all.flatMap fun shape => Quote.all.map fun quote => ⟨shape, quote, binding⟩

/-! ## Recognising a call -/

/-- A call up to the start of its message. -/
def head (r : Rule) : Text := r.shape.consoleMethod.head ++ ['(', r.quote.char]

/-- The call at the start of a text: its source, its message, and what follows the call. -/
def match? (r : Rule) (s : Text) : Option (Text × Text × Text) :=
  (Text.dropPrefix? r.head s).bind fun body =>
    let message := body.takeWhile (· ≠ r.quote.char)
    if message = [] then none
    else
      (Text.dropPrefix? [r.quote.char] (body.dropWhile (· ≠ r.quote.char))).bind fun tail =>
        (r.shape.splitArguments? tail).map fun (arguments, rest) =>
          (r.head ++ message ++ [r.quote.char] ++ arguments, message, rest)

/-- The pattern of the rule in the usual notation for regular expressions. -/
def pattern (r : Rule) : Text :=
  let q := r.quote.char
  let tail := match r.shape with
    | .errorWithException => ",\\s*error".toList
    | _ => []
  "console\\.".toList ++ r.shape.consoleMethod.name ++ "\\(".toList ++ [q] ++ "([^".toList ++ [q]
    ++ "]+)".toList ++ [q] ++ tail ++ "\\);".toList

theorem eq_append_of_splitArguments? {shape : CallShape} {s arguments rest : Text}
    (h : shape.splitArguments? s = some (arguments, rest)) : s = arguments ++ rest := by
  cases shape with
  | errorWithException =>
    simp only [CallShape.splitArguments?, Option.bind_eq_some_iff, Option.map_eq_some_iff,
      Prod.mk.injEq] at h
    obtain ⟨u, hu, v, hv, rfl, rfl⟩ := h
    rw [Text.eq_append_of_dropPrefix? hu, List.append_assoc, List.append_assoc,
      ← Text.eq_append_of_dropPrefix? hv, Text.trimStart, List.takeWhile_append_dropWhile]
  | error | info | warn =>
    simp only [CallShape.splitArguments?, Option.map_eq_some_iff, Prod.mk.injEq] at h
    obtain ⟨v, hv, rfl, rfl⟩ := h
    exact Text.eq_append_of_dropPrefix? hv

/-- A text with a call at its start is the call and what follows it. -/
theorem eq_append_of_match? {r : Rule} {s source message rest : Text}
    (h : r.match? s = some (source, message, rest)) : s = source ++ rest := by
  simp only [match?, Option.bind_eq_some_iff] at h
  obtain ⟨body, hbody, h⟩ := h
  split at h
  · simp at h
  · simp only [Option.bind_eq_some_iff, Option.map_eq_some_iff, Prod.mk.injEq] at h
    obtain ⟨tail, hquote, ⟨arguments, rest'⟩, harg, rfl, rfl, rfl⟩ := h
    rw [Text.eq_append_of_dropPrefix? hbody, List.append_assoc, List.append_assoc,
      List.append_assoc, ← eq_append_of_splitArguments? harg,
      ← Text.eq_append_of_dropPrefix? hquote, List.takeWhile_append_dropWhile]

/-- A call is never empty. -/
theorem length_lt_of_match? {r : Rule} {s source message rest : Text}
    (h : r.match? s = some (source, message, rest)) : rest.length < s.length := by
  have nonempty : source ≠ [] := by
    simp only [match?, Option.bind_eq_some_iff] at h
    obtain ⟨body, -, h⟩ := h
    split at h
    · simp at h
    · simp only [Option.bind_eq_some_iff, Option.map_eq_some_iff, Prod.mk.injEq] at h
      obtain ⟨tail, -, ⟨arguments, rest'⟩, -, rfl, -, -⟩ := h
      simp
  have positive := List.length_pos_iff.2 nonempty
  rw [eq_append_of_match? h, List.length_append]
  omega

/-! ## Dividing a text at its calls -/

/-- A piece of a text as a rule sees it. -/
inductive Piece where
  /-- A character outside every call. -/
  | copied (c : Char)
  /-- A call with its message. -/
  | call (source message : Text)
  deriving DecidableEq, Repr

def Piece.source : Piece → Text
  | .copied c => [c]
  | .call source _ => source

def Piece.isCall : Piece → Bool
  | .copied _ => false
  | .call _ _ => true

/-- The text divided at its calls: from left to right, each call as early as possible, and a new one
looked for after the end of the last. -/
def pieces (r : Rule) : Text → List Piece
  | [] => []
  | c :: cs =>
    match _h : r.match? (c :: cs) with
    | some (source, message, rest) => .call source message :: pieces r rest
    | none => .copied c :: pieces r cs
  termination_by s => s.length
  decreasing_by
    · exact length_lt_of_match? _h
    · simp

/-- The pieces make up the text. -/
theorem source_pieces (r : Rule) (s : Text) : (r.pieces s).flatMap Piece.source = s := by
  fun_induction pieces r s with
  | case1 => rfl
  | case2 c cs source message rest h ih =>
    rw [List.flatMap_cons, ih]
    exact (eq_append_of_match? h).symm
  | case3 c cs h ih =>
    rw [List.flatMap_cons, ih]
    rfl

/-! ## Replacing the calls -/

/-- The replacement as a template in which group 1 is the message. -/
def template (r : Rule) : Text :=
  Template.quote r.binding ++ ".".toList ++ r.shape.loggerMethod ++ ['(', r.quote.char]
    ++ "$\x7b1\x7d".toList ++ [r.quote.char] ++ r.shape.details ++ ");".toList

/-- The text that takes the place of a piece. -/
def render (r : Rule) : Piece → Text
  | .copied c => [c]
  | .call source message => Template.expand [source, message] r.template

/-- The template of a rule stands for the logger call, literally. -/
theorem replacement_eq (r : Rule) (source message : Text) :
    r.render (.call source message)
      = r.binding ++ ".".toList ++ r.shape.loggerMethod ++ ['(', r.quote.char] ++ message
        ++ [r.quote.char] ++ r.shape.details ++ ");".toList := by
  have method : '$' ∉ r.shape.loggerMethod := by cases r.shape <;> decide
  have opening : '$' ∉ ['(', r.quote.char] := by cases r.quote <;> decide
  have closing : '$' ∉ [r.quote.char] := by cases r.quote <;> decide
  have details : '$' ∉ r.shape.details := by cases r.shape <;> decide
  have finish : Template.expand [source, message] ");".toList = ");".toList := by
    simp [Template.expand]
  simp only [render, template, List.append_assoc]
  rw [Template.expand_quote_append, Template.expand_plain_append _ (by decide : '$' ∉ ".".toList),
    Template.expand_plain_append _ method, Template.expand_plain_append _ opening,
    Template.expand_first_group, Template.expand_plain_append _ closing,
    Template.expand_plain_append _ details, finish]

/-- The text with every call of this rule replaced, and the number of calls. -/
def apply (r : Rule) (s : Text) : Text × Nat :=
  let ps := r.pieces s
  (ps.flatMap r.render, ps.countP Piece.isCall)

end Rule

end LogMigration
