import LogMigration.Proofs.SecondPass

/-!
# A call in any context

Whatever stands around a call, the call is converted, as long as its message cannot be taken for
parts of other calls.  A call around it could only end at its opening quote, and then the message
would begin like the end of a call; a call inside its message would need an opening of its own.

* `Mark.textOf_of_plain` — quotes that no part of a call touches read the same after any rules.
* `Mark.messageText_of_plain` — a message that holds no part of a call stays as it is.
* `Conversion.opened_of_shape?` — a call whose message does not begin like the end of a call is
  converted.
* `Conversion.converted_call_in_context` — the logger call stands in the converted text.
-/

set_option autoImplicit false

namespace LogMigration

theorem CallShape.IsEnding.exists_first {shape : CallShape} {e : Text} (h : shape.IsEnding e) :
    ∃ c ∈ [')', ','], [c] <+: e := by
  cases shape with
  | errorWithException =>
    obtain ⟨w, -, rfl⟩ := h
    exact ⟨',', by simp, w ++ "error);".toList, by simp⟩
  | error | info | warn =>
    obtain rfl : e = ");".toList := h
    exact ⟨')', by simp, [';'], rfl⟩

namespace Mark

variable {binding : Text}

/-! ## Quotes that no part of a call touches -/

/-- Whether no part of a call touches the quote. -/
def IsPlain (k : Mark) : Prop := k.call = none ∧ k.exception = none

theorem textOf_of_plain {ks : List Mark} (h : ∀ k ∈ ks, k.IsPlain) (done done' : List Rule) :
    textOf binding done ks = textOf binding done' ks := by
  induction ks with
  | nil => rfl
  | cons k ks ih =>
    obtain ⟨⟨hcall, hexception⟩, hks⟩ := List.forall_mem_cons.1 h
    simp only [textOf_cons, ih hks, callText, argumentText, hcall, hexception, Option.elim_none]

/-- In a text without openings and without commas behind quotes, no part of a call touches a
quote. -/
theorem isPlain_of_infix {k : Mark} {ks : List Mark} {message : Text} (hk : k ∈ ks)
    (hin : textOf binding [] ks <:+: message)
    (hcalls : ∀ m : Console.Method, ¬ m.opening <:+: message)
    (hcomma : ∀ q : Quote, ¬ [q.char, ','] <:+: message) : k.IsPlain := by
  obtain ⟨pre, post, rfl⟩ := List.append_of_mem hk
  have here : k.toJoint.callText ++ k.quote.char :: k.toJoint.argumentText <:+: message := by
    refine List.IsInfix.trans ⟨textOf binding [] pre, k.body ++ textOf binding [] post, ?_⟩ hin
    simp
  constructor
  · cases hc : k.call with
    | none => rfl
    | some m =>
      have front : m.opening <+: k.toJoint.callText ++ k.quote.char :: k.toJoint.argumentText := by
        simp [Joint.callText, hc]
      exact absurd (front.isInfix.trans here) (hcalls m)
  · cases he : k.exception with
    | none => rfl
    | some w =>
      have behind : [k.quote.char, ',']
          <:+: k.toJoint.callText ++ k.quote.char :: k.toJoint.argumentText :=
        ⟨k.toJoint.callText, w ++ "error".toList, by simp [Joint.argumentText, he]⟩
      exact absurd (behind.trans here) (hcomma k.quote)

theorem messageText_of_plain {k n : Mark} {mid : List Mark} {message : Text}
    (h : messageText binding [] k mid n = message)
    (hcalls : ∀ m : Console.Method, ¬ m.opening <:+: message)
    (hfirst : ¬ [','] <+: message) (hcomma : ∀ q : Quote, ¬ [q.char, ','] <:+: message)
    (done : List Rule) : messageText binding done k mid n = message := by
  have split : k.toJoint.argumentText ++ k.body ++ textOf binding [] mid ++ n.toJoint.callText
      = message := by simpa [messageText] using h
  have plain : ∀ x ∈ mid, x.IsPlain := fun x hx =>
    isPlain_of_infix hx ⟨k.toJoint.argumentText ++ k.body, n.toJoint.callText, split⟩ hcalls hcomma
  have no_exception : k.exception = none := by
    cases he : k.exception with
    | none => rfl
    | some w =>
      have comma : [','] <+: message := by
        rw [← split, Joint.argumentText, he]
        simp
      exact absurd comma hfirst
  have no_call : n.call = none := by
    cases hc : n.call with
    | none => rfl
    | some m =>
      have opening : m.opening <:+ message := by
        rw [← split, Joint.callText, hc]
        exact List.suffix_append _ _
      exact absurd opening.isInfix (hcalls m)
  rw [← h, messageText, messageText, textOf_of_plain plain done []]
  simp only [argumentText, callText, no_exception, no_call, Option.elim_none]

end Mark

namespace Conversion

variable {binding s : Text}

/-- The two marks of a call that stands in a text: its message is the text between their quotes. -/
theorem exists_marks_of_call (hb : Text.IsWord binding) {r : Rule} {p message ending t : Text}
    (hs : s = p ++ (r.head ++ (message ++ r.quote.char :: (ending ++ t))))
    (hbody : r.body? (message ++ r.quote.char :: (ending ++ t)) = some (message, ending, t)) :
    ∃ pre k mid n rest, marks s = pre ++ k :: (mid ++ n :: rest) ∧ k.quote = r.quote
      ∧ (∀ x ∈ mid, x.quote ≠ r.quote) ∧ n.quote = r.quote
      ∧ k.shape? ((mid ++ n :: rest).map Mark.toJoint) = some r.shape
      ∧ Mark.messageText binding [] k mid n = message := by
  have found : r.begins (r.head ++ (message ++ r.quote.char :: (ending ++ t))) = true :=
    Rule.begins_iff.2 ⟨_, rfl, by rw [hbody]; rfl⟩
  obtain ⟨pre, k, post, hks, hk, hshape, -, htext⟩ := (begins_iff hb).1 ⟨hs, found⟩
  obtain ⟨hcall, hsilent, n', hn', hends⟩ := Joint.shape?_eq_some_iff.1 hshape
  rcases Mark.next_cases r.quote post with hlast | ⟨mid, n, rest, rfl, hmid, hn⟩
  · have absent : (post.map Mark.toJoint).find? (fun j => j.quote = k.quote) = none := by
      simpa [hk] using hlast
    simp [absent] at hn'
  · refine ⟨pre, k, mid, n, rest, hks, hk, hmid, hn, hshape, ?_⟩
    rw [Mark.find?_next (by rwa [hk]) (by rw [hn, hk])] at hn'
    cases hn'
    have layout : message ++ r.quote.char :: (ending ++ t)
        = k.argumentText binding [] ++ k.body ++ Mark.textOf binding [] (mid ++ n :: rest) := by
      rw [Mark.textOf_cons, Mark.callText_nil, Joint.callText, hcall, Rule.head_eq, hk,
        List.append_assoc] at htext
      exact (List.cons.inj (List.append_cancel_left htext)).2
    have here := Mark.body?_of_next hb [] (sound_of_marks hks) hk hmid hn
    rw [if_pos ⟨hsilent, hends, fun _ => Mark.isDone_nil binding n n.closed⟩, ← layout, hbody]
      at here
    simp only [Option.some.injEq, Prod.mk.injEq] at here
    exact here.1.symm

/-- A call that begins at a mark is converted if no end of a call stands behind its quote. -/
theorem opened_of_shape? {pre post : List Mark} {k : Mark} (hks : marks s = pre ++ k :: post)
    {shape : CallShape} (hshape : k.shape? (post.map Mark.toJoint) = some shape)
    (hfirst : ∀ c ∈ [')', ','], ¬ [c] <+: k.toJoint.argumentText ++ k.body) :
    k.opened = some shape := by
  obtain ⟨pending, hl⟩ := exists_linked hks
  rw [hl.opened_of_shape? hshape, if_neg]
  intro hclosed
  have linked := linked_marks s
  rw [hks] at linked
  have sound : k.toJoint.Sound := sound_of_marks hks k (by simp)
  obtain ⟨e, he, hprefix⟩ := Mark.ending_of_ends sound (Mark.ends_of_closed linked hclosed)
  obtain ⟨c, hc, hce⟩ := he.exists_first
  exact hfirst c hc (hce.trans hprefix)

/-- A call is converted wherever it stands: its message is not empty and without the quote, holds no
opening of a statement, does not begin like the end of a call, and has no comma behind a quote. -/
theorem converted_call_in_context (hb : Config.isIdentifier binding = true) (shape : CallShape)
    (q : Quote) {message ending : Text} (hending : shape.IsEnding ending) (hne : message ≠ [])
    (hquote : q.char ∉ message)
    (hcalls : ∀ m : Console.Method, ¬ m.head ++ ['('] <:+: message)
    (hfirst : ∀ c ∈ [')', ','], ¬ [c] <+: message)
    (hcomma : ∀ q' : Quote, ¬ [q'.char, ','] <:+: message) (p t : Text) :
    binding ++ ".".toList ++ shape.loggerMethod ++ ['(', q.char] ++ message ++ [q.char]
        ++ shape.details ++ ");".toList
      <:+: (ofBinding binding (p ++ (shape.consoleMethod.head ++ ['(', q.char] ++ message
        ++ [q.char] ++ ending) ++ t)).text := by
  have word := Text.isWord_of_isIdentifier hb
  generalize hs : p ++ (shape.consoleMethod.head ++ ['(', q.char] ++ message ++ [q.char] ++ ending)
    ++ t = s
  have source : s = p ++ ((⟨shape, q, binding⟩ : Rule).head
      ++ (message ++ q.char :: (ending ++ t))) := by
    simp only [← hs, Rule.head, List.append_assoc, List.cons_append, List.nil_append]
  obtain ⟨pre, k, mid, n, rest, hks, hk, hmid, hn, hshape, hmessage⟩ :=
    exists_marks_of_call word source (Rule.body?_of_parts _ hne hquote hending t)
  have front : k.toJoint.argumentText ++ k.body <+: message :=
    ⟨Mark.textOf binding [] mid ++ n.toJoint.callText, by simp [← hmessage, Mark.messageText]⟩
  have opened : k.opened = some shape :=
    opened_of_shape? hks hshape fun c hc h => hfirst c hc (h.trans front)
  have unchanged : Mark.messageText binding (Rule.all binding) k mid n = message :=
    Mark.messageText_of_plain hmessage hcalls (hfirst ',' (by simp)) hcomma _
  obtain ⟨pending, hl⟩ := exists_linked hks
  have converted : Mark.textOf binding (⟨shape, q, binding⟩ :: Rule.all binding)
        (k :: (mid ++ n :: rest))
      = shape.consoleMethod.loggerOpening binding ++ q.char
        :: (Mark.messageText binding (Rule.all binding) k mid n ++ q.char
          :: (shape.details ++ ");".toList ++ (n.body.drop 2
            ++ Mark.textOf binding (⟨shape, q, binding⟩ :: Rule.all binding) rest))) :=
    Mark.textOf_cons_self rfl hl (sound_of_marks hks n (by simp)) hk opened hmid hn
  have same : ∀ x, x ∈ (⟨shape, q, binding⟩ : Rule) :: Rule.all binding ↔ x ∈ Rule.all binding := by
    simp only [List.mem_cons, Rule.mem_all_iff, or_iff_right_iff_imp]
    rintro x rfl
    rfl
  rw [Mark.textOf_congr same, Mark.textOf_congr same, unchanged] at converted
  refine ⟨lead s ++ Mark.textOf binding (Rule.all binding) pre,
    n.body.drop 2 ++ Mark.textOf binding (Rule.all binding) rest, ?_⟩
  rw [ofBinding_eq word, hks, Mark.textOf_append, converted, CallShape.loggerMethod_eq shape,
    Console.Method.loggerOpening]
  have stop : ".".toList = ['.'] := rfl
  simp only [stop, List.append_assoc, List.cons_append, List.nil_append]

/-- A call between an opened string and an unsupported call, with quotes of the other kind in its
message. -/
theorem converted_call_behind_open_quote :
    "logger.error('say \"hi\"', \x7b error: error.message, stack: error.stack \x7d);".toList
      <:+: (ofBinding "logger".toList ("x = 'a; console.log(".toList
        ++ "console.error('say \"hi\"',  error);".toList
        ++ "console.warn(`b`, '".toList)).text := by
  have ending : CallShape.errorWithException.IsEnding ",  error);".toList :=
    ⟨"  ".toList, List.forall_mem_cons.2 ⟨by decide, List.forall_mem_cons.2 ⟨by decide, by simp⟩⟩,
      rfl⟩
  have plain : ∀ (m : Console.Method), ¬ m.head ++ ['('] <:+: "say \"hi\"".toList := by
    intro m
    rw [← Text.contains_iff]
    cases m <;> decide
  have comma : ∀ q' : Quote, ¬ [q'.char, ','] <:+: "say \"hi\"".toList := by
    intro q'
    rw [← Text.contains_iff]
    cases q' <;> decide
  have first : ∀ c ∈ [')', ','], ¬ [c] <+: "say \"hi\"".toList :=
    List.forall_mem_cons.2 ⟨by decide, List.forall_mem_cons.2 ⟨by decide, by simp⟩⟩
  have found := converted_call_in_context (by decide : Config.isIdentifier "logger".toList = true)
    .errorWithException .single ending (by decide) (by decide) plain first comma
    "x = 'a; console.log(".toList "console.warn(`b`, '".toList
  have written : "logger".toList ++ ".".toList ++ CallShape.errorWithException.loggerMethod
      ++ ['(', Quote.single.char] ++ "say \"hi\"".toList ++ [Quote.single.char]
      ++ CallShape.errorWithException.details ++ ");".toList
    = "logger.error('say \"hi\"', \x7b error: error.message, stack: error.stack \x7d);".toList := by
    decide +kernel
  have call : CallShape.errorWithException.consoleMethod.head ++ ['(', Quote.single.char]
      ++ "say \"hi\"".toList ++ [Quote.single.char] ++ ",  error);".toList
    = "console.error('say \"hi\"',  error);".toList := by decide +kernel
  rwa [written, call] at found

end Conversion

end LogMigration
