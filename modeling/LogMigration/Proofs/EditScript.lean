import LogMigration.Proofs.StatementBalance

/-!
# The edit script of a conversion

The rules are applied one after the other, but what they do together is a single edit of the text:
some segments are replaced and all others are copied.  A replaced segment is a statement up to the
end of its method, or an exception argument.

* `Segment` — a segment of a text, with its `source` and its `result`.
* `Segment.Fits` — where a segment that is replaced may stand.
* `Mark.segments` — the segments of a mark; `source_segments`, `result_segments` and
  `placed_segments` are the three laws of a script for one mark.
* `Conversion.exists_edit_script` — every conversion has an edit script.
-/

set_option autoImplicit false

namespace LogMigration

/-- A segment of a text that is converted. -/
inductive Segment where
  /-- Text that stays as it is. -/
  | copied (s : Text)
  /-- A statement, `console` with its method. -/
  | statement (m : Console.Method)
  /-- An exception argument, with the white space behind its comma. -/
  | exception (white : Text)
  deriving DecidableEq, Repr

namespace Segment

/-- A segment in the original text. -/
def source : Segment → Text
  | .copied s => s
  | .statement m => m.head
  | .exception white => ",".toList ++ white ++ "error".toList

/-- A segment in the converted text. -/
def result (binding : Text) : Segment → Text
  | .copied s => s
  | .statement m => binding ++ ".".toList ++ m.plainShape.loggerMethod
  | .exception _ => CallShape.errorWithException.details

def isStatement : Segment → Bool
  | .statement _ => true
  | _ => false

/-- Whether a segment may stand between two parts of the original text: a statement in front of a
bracket and a quote, and an exception argument between a quote and the end of a call. -/
def Fits (before after : Text) : Segment → Prop
  | .copied _ => True
  | .statement _ => ∃ q : Quote, ['(', q.char] <+: after
  | .exception white =>
    (∀ c ∈ white, Text.isWhite c = true) ∧ (∃ q : Quote, [q.char] <:+ before)
      ∧ ");".toList <+: after

/-- Whether each segment fits between what stands in front of it and what follows it. -/
def Placed (before : Text) : List Segment → Prop
  | [] => True
  | x :: xs => x.Fits before (xs.flatMap source) ∧ Placed (before ++ x.source) xs

end Segment

namespace Mark

open Segment

/-! ## The segments of a mark -/

/-- What stands in front of the quote. -/
def callSegments (k : Mark) : List Segment :=
  match k.call, k.opened with
  | some m, some _ => [.statement m, .copied ['(']]
  | some m, none => [.copied m.opening]
  | none, _ => []

/-- What stands between the quote and the body. -/
def argumentSegments (k : Mark) : List Segment :=
  match k.exception, k.closed with
  | some white, some _ => [.exception white]
  | some _, none => [.copied k.toJoint.argumentText]
  | none, _ => []

/-- The segments of a mark. -/
def segments (k : Mark) : List Segment :=
  k.callSegments ++ .copied [k.quote.char] :: (k.argumentSegments ++ [.copied k.body])

theorem source_callSegments (k : Mark) : k.callSegments.flatMap source = k.toJoint.callText := by
  unfold callSegments Joint.callText
  split <;> simp_all [source, Console.Method.opening]

theorem source_argumentSegments (k : Mark) :
    k.argumentSegments.flatMap source = k.toJoint.argumentText := by
  unfold argumentSegments
  split <;> simp_all [source, Joint.argumentText]

theorem source_segments (k : Mark) : k.segments.flatMap source = k.toJoint.text := by
  simp only [segments, List.flatMap_append, List.flatMap_cons, source_callSegments,
    source_argumentSegments, Joint.text]
  simp [source]

section Result

variable (binding : Text) (k : Mark)

theorem result_callSegments :
    k.callSegments.flatMap (result binding) = k.callText binding (Rule.all binding) := by
  unfold callSegments callText
  rw [Conversion.isDone_all]
  split <;> simp_all [result, Console.Method.loggerOpening]

theorem result_argumentSegments :
    k.argumentSegments.flatMap (result binding) = k.argumentText binding (Rule.all binding) := by
  unfold argumentSegments argumentText
  rw [Conversion.isDone_all]
  split
  · rename_i white shape he hc
    rw [he, hc]
    exact List.append_nil _
  · rename_i white he hc
    rw [he, hc]
    simp [result, Joint.argumentText, he]
  · rename_i he
    rw [he]
    rfl

theorem result_segments :
    k.segments.flatMap (result binding) = k.text binding (Rule.all binding) := by
  simp only [segments, List.flatMap_append, List.flatMap_cons, result_callSegments,
    result_argumentSegments, text]
  simp [result]

end Result

/-- The segments of a mark fit, and so does what follows if it fits behind the mark. -/
theorem placed_segments {k : Mark} (hk : k.toJoint.Sound) {before : Text} {xs : List Segment}
    (h : Placed (before ++ k.toJoint.text) xs) : Placed before (k.segments ++ xs) := by
  have call : ∀ {ys : List Segment}, [k.quote.char] <+: ys.flatMap source →
      Placed (before ++ k.toJoint.callText) ys → Placed before (k.callSegments ++ ys) := by
    rintro ys ⟨t, ht⟩ hys
    unfold callSegments
    split
    · rename_i m shape hm ho
      refine ⟨⟨k.quote, t, ?_⟩, trivial, ?_⟩
      · simp [source, ← ht]
      · simpa [source, Joint.callText, hm, Console.Method.opening] using hys
    · rename_i m hm ho
      exact ⟨trivial, by simpa [source, Joint.callText, hm] using hys⟩
    · rename_i hm
      simpa [Joint.callText, hm] using hys
  have argument : ∀ {before : Text} {ys : List Segment}, [k.quote.char] <:+ before →
      k.body <+: ys.flatMap source →
      Placed (before ++ k.toJoint.argumentText) ys → Placed before (k.argumentSegments ++ ys) := by
    intro before ys hquote hbody hys
    unfold argumentSegments
    split
    · rename_i white shape he hc
      obtain ⟨hwhite, rest, hrest⟩ := hk.argument white he
      have closing : ");".toList <+: k.body := ⟨rest, hrest.symm⟩
      refine ⟨⟨hwhite, ⟨k.quote, hquote⟩, closing.trans hbody⟩, ?_⟩
      simpa [source, Joint.argumentText, he] using hys
    · rename_i he hc
      exact ⟨trivial, by simpa [source] using hys⟩
    · rename_i he
      simpa [Joint.argumentText, he] using hys
  rw [segments, List.append_assoc, List.cons_append, List.append_assoc]
  refine call ?_ ⟨trivial, argument ?_ ?_ ⟨trivial, ?_⟩⟩
  · simp [source]
  · exact List.suffix_append _ _
  · simp [source]
  · simpa [source, Joint.text] using h

theorem countP_segments {k : Mark} (h : k.opened.isSome = true → k.call.isSome = true) :
    k.segments.countP isStatement = if k.opened.isSome then 1 else 0 := by
  have call : k.callSegments.countP isStatement = if k.opened.isSome then 1 else 0 := by
    unfold callSegments
    split
    · rename_i m shape hm ho
      rw [ho]
      rfl
    · rename_i m hm ho
      rw [ho]
      rfl
    · rename_i hm
      have none_opened : k.opened = none := by simpa [hm] using h
      simp [none_opened]
  have argument : k.argumentSegments.countP isStatement = 0 := by
    unfold argumentSegments
    split <;> simp [isStatement]
  simp [segments, argument, call, isStatement]

/-! ## The segments of a list of marks -/

variable {binding : Text}

theorem placed_flatMap_segments {ks : List Mark} (hs : ∀ k ∈ ks, k.toJoint.Sound) (before : Text) :
    Placed before (ks.flatMap segments) := by
  induction ks generalizing before with
  | nil => trivial
  | cons k ks ih =>
    obtain ⟨hk, hks⟩ := List.forall_mem_cons.1 hs
    exact placed_segments hk (ih hks _)

theorem countP_flatMap_segments {pending : Quote → Option CallShape} {ks : List Mark}
    (hl : Linked pending ks) :
    (ks.flatMap segments).countP isStatement = ks.countP (·.opened.isSome) := by
  induction ks generalizing pending with
  | nil => rfl
  | cons k ks ih =>
    have call := hl.call_of_opened k (by simp)
    rw [List.flatMap_cons, List.countP_append, countP_segments call, ih hl.2.2, List.countP_cons,
      Nat.add_comm]

end Mark

namespace Conversion

open Segment

/-- All rules together edit a text once: there are segments that make up the text, the converted text
is made of their results, only statements in front of a bracket with a quote and exception arguments
at the end of a call are replaced, and there is one statement for each replacement. -/
theorem exists_edit_script {binding : Text} (hb : Config.isIdentifier binding = true) (s : Text) :
    ∃ xs : List Segment, xs.flatMap source = s
      ∧ xs.flatMap (result binding) = (ofBinding binding s).text
      ∧ Placed [] xs
      ∧ xs.countP isStatement = (ofBinding binding s).replacements := by
  have word := Text.isWord_of_isIdentifier hb
  have sound := Mark.sound_of_division (sound_marks s)
  refine ⟨.copied (lead s) :: (marks s).flatMap Mark.segments, ?_, ?_, ?_, ?_⟩
  · have original : ((marks s).flatMap Mark.segments).flatMap source
        = Mark.textOf binding [] (marks s) := by
      rw [List.flatMap_assoc, Mark.textOf]
      congr 1
      funext k
      rw [Mark.source_segments, Mark.text, Mark.callText_nil, Mark.argumentText_nil, Joint.text]
    rw [List.flatMap_cons, original]
    exact text_marks binding s
  · have converted : ((marks s).flatMap Mark.segments).flatMap (result binding)
        = Mark.textOf binding (Rule.all binding) (marks s) := by
      rw [List.flatMap_assoc, Mark.textOf]
      congr 1
      funext k
      exact Mark.result_segments binding k
    rw [List.flatMap_cons, converted, ofBinding_eq word]
    rfl
  · exact ⟨trivial, Mark.placed_flatMap_segments sound _⟩
  · rw [List.countP_cons_of_neg (by simp [isStatement]),
      Mark.countP_flatMap_segments (linked_marks s), replacements_eq_countP word]

/-- The script of two calls, one in the message of the other: two statements are replaced. -/
theorem edit_script_nested_call :
    Config.isIdentifier "logger".toList = true
      ∧ ∃ xs : List Segment, xs.flatMap source = "console.error('console.log(\"a\");', error);".toList
        ∧ xs.flatMap (result "logger".toList)
          = "logger.error('logger.info(\"a\");', \x7b error: error.message, stack: error.stack \x7d);".toList
        ∧ Placed [] xs ∧ xs.countP isStatement = 2 := by
  obtain ⟨xs, hsource, hresult, hplaced, hcount⟩ := exists_edit_script
    (by decide : Config.isIdentifier "logger".toList = true)
    "console.error('console.log(\"a\");', error);".toList
  exact ⟨by decide, xs, hsource, hresult.trans (by decide +kernel), hplaced,
    hcount.trans (by decide +kernel)⟩

end Conversion

end LogMigration
