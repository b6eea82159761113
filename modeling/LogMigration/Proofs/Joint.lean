import LogMigration.Proofs.RuleScan

/-!
# The joints of a text

Whatever a rule reads of a call touches a quote: the statement that opens in front of it, and the
exception argument behind it.  A quote with these two parts is a joint, and a text is a lead followed
by joints, each with the plain text up to the next one.

* `Joint` — a quote with the parts that touch it and the text that follows.
* `divide` — a text divided at its joints; `text_divide` says that nothing is lost.
* `Sound` — a division that leaves no part of a call outside the joints; `sound_divide` says that
  `divide` is sound.
* `Joint.shape?` — the shape of the call that begins at a joint, from the joints alone.
-/

set_option autoImplicit false

namespace LogMigration

/-! ## The end of a call -/

namespace CallShape

/-- What stands between the closing quote of a call and the text that follows the call. -/
def IsEnding : CallShape → Text → Prop
  | .errorWithException, a =>
    ∃ w : Text, (∀ c ∈ w, Text.isWhite c = true) ∧ a = ",".toList ++ w ++ "error);".toList
  | _, a => a = ");".toList

theorem splitArguments?_eq_some_iff {shape : CallShape} {s a rest : Text} :
    shape.splitArguments? s = some (a, rest) ↔ shape.IsEnding a ∧ s = a ++ rest := by
  constructor
  · intro h
    refine ⟨?_, Rule.eq_append_of_splitArguments? h⟩
    cases shape with
    | errorWithException =>
      simp only [splitArguments?, Option.bind_eq_some_iff, Option.map_eq_some_iff,
        Prod.mk.injEq] at h
      obtain ⟨u, -, v, -, rfl, -⟩ := h
      exact ⟨u.takeWhile Text.isWhite, fun c hc => List.mem_takeWhile_imp hc, rfl⟩
    | error | info | warn =>
      simp only [splitArguments?, Option.map_eq_some_iff, Prod.mk.injEq] at h
      obtain ⟨v, -, rfl, -⟩ := h
      rfl
  · rintro ⟨ha, rfl⟩
    cases shape with
    | errorWithException =>
      obtain ⟨w, hw, rfl⟩ := ha
      have stop : ∀ x : Text, ("error);".toList ++ x).takeWhile Text.isWhite = [] := fun _ => rfl
      have trimmed : ∀ x : Text,
          Text.trimStart (w ++ ("error);".toList ++ x)) = "error);".toList ++ x := by
        intro x
        rw [Text.trimStart, List.dropWhile_append_of_pos hw]
        rfl
      simp only [splitArguments?, List.append_assoc, Text.dropPrefix?_append, Option.bind_some,
        trimmed, Option.map_some, List.takeWhile_append_of_pos hw, stop, List.append_nil]
    | error | info | warn =>
      obtain rfl : a = ");".toList := ha
      simp only [splitArguments?, Text.dropPrefix?_append, Option.map_some]

/-- Without an exception argument, a call ends with the bracket and the semicolon. -/
theorem splitArguments?_of_ne {shape : CallShape} (h : shape ≠ .errorWithException) (s : Text) :
    shape.splitArguments? s
      = if Text.startsWith ");".toList s then some (");".toList, s.drop 2) else none := by
  have bare : shape.splitArguments? s
      = (Text.dropPrefix? ");".toList s).map fun rest => (");".toList, rest) := by
    cases shape with
    | errorWithException => exact absurd rfl h
    | error | info | warn => rfl
  rw [bare, Text.startsWith]
  split
  · rename_i found
    obtain ⟨rest, hrest⟩ := Option.isSome_iff_exists.1 found
    rw [hrest, Text.eq_append_of_dropPrefix? hrest]
    rfl
  · rename_i missing
    rw [Option.not_isSome_iff_eq_none.1 missing]
    rfl

theorem IsEnding.suffix {shape : CallShape} {a v : Text} (h : shape.IsEnding a) (hv : v ≠ [])
    (hs : v <:+ a) : ';' ∈ v ∧ '.' ∉ v ∧ Text.QuoteFree v := by
  obtain ⟨u, hu, plain⟩ : ∃ u, a = u ++ [';'] ∧ '.' ∉ a ∧ Text.QuoteFree a := by
    cases shape with
    | errorWithException =>
      obtain ⟨w, hw, rfl⟩ := h
      have outside : ∀ c, Text.isWhite c = false → c ∉ w := by
        intro c hc hcw
        simp [hw c hcw] at hc
      refine ⟨",".toList ++ w ++ "error)".toList, by simp, ?_, ?_⟩
      · simpa using outside '.' (by decide)
      · intro q
        cases q
        · simpa [Quote.char] using outside '\x27' (by decide)
        · simpa [Quote.char] using outside '"' (by decide)
    | error | info | warn =>
      obtain rfl : a = ");".toList := h
      exact ⟨[')'], rfl, by decide, fun q => by cases q <;> decide⟩
  refine ⟨?_, fun hd => plain.1 (hs.subset hd), plain.2.of_suffix hs⟩
  rw [hu] at hs
  obtain ⟨y, rfl, -⟩ := (List.suffix_concat_iff.1 hs).resolve_left hv
  simp

end CallShape

namespace Rule

/-- The texts that the pattern of a rule stands for: a head, a message that is not empty and holds no
quote, the closing quote, and an ending. -/
def IsCall (r : Rule) (source message : Text) : Prop :=
  message ≠ [] ∧ r.quote.char ∉ message ∧ ∃ ending, r.shape.IsEnding ending
    ∧ source = r.head ++ message ++ [r.quote.char] ++ ending

theorem body?_of_parts (r : Rule) {message ending : Text} (hne : message ≠ [])
    (hquote : r.quote.char ∉ message) (he : r.shape.IsEnding ending) (s : Text) :
    r.body? (message ++ r.quote.char :: (ending ++ s)) = some (message, ending, s) := by
  have arguments : r.shape.splitArguments? (ending ++ s) = some (ending, s) :=
    CallShape.splitArguments?_eq_some_iff.2 ⟨he, rfl⟩
  rw [r.body?_append_cons hquote, if_neg hne, arguments]
  rfl

/-- A rule matches at the start of a text that begins with a call. -/
theorem match?_eq_some_iff {r : Rule} {s source message rest : Text} :
    r.match? s = some (source, message, rest) ↔ r.IsCall source message ∧ s = source ++ rest := by
  constructor
  · intro h
    refine ⟨?_, eq_append_of_match? h⟩
    simp only [match?, Option.bind_eq_some_iff] at h
    obtain ⟨body, -, h⟩ := h
    split at h
    · simp at h
    · rename_i hne
      simp only [Option.bind_eq_some_iff, Option.map_eq_some_iff, Prod.mk.injEq] at h
      obtain ⟨tail, -, ⟨ending, rest'⟩, hending, rfl, rfl, -⟩ := h
      refine ⟨hne, fun hquote => ?_, ending,
        (CallShape.splitArguments?_eq_some_iff.1 hending).1, rfl⟩
      simpa using List.mem_takeWhile_imp hquote
  · rintro ⟨⟨hne, hquote, ending, hending, rfl⟩, rfl⟩
    simp only [List.append_assoc, List.cons_append, List.nil_append, match?_head_append,
      r.body?_of_parts hne hquote hending, Option.map_some]

end Rule

/-! ## Joints -/

/-- A quote with the parts of calls that touch it, and the plain text that follows. -/
structure Joint where
  /-- The method of the statement that opens directly in front of the quote. -/
  call : Option Console.Method
  quote : Quote
  /-- The white space in the exception argument directly behind the quote. -/
  exception : Option Text
  /-- What follows, up to the next joint. -/
  body : Text
  deriving DecidableEq, Repr

namespace Joint

/-- The statement in front of the quote. -/
def callText (j : Joint) : Text := j.call.elim [] Console.Method.opening

/-- The exception argument behind the quote. -/
def argumentText (j : Joint) : Text :=
  j.exception.elim [] fun w => ",".toList ++ w ++ "error".toList

/-- A joint as it is written. -/
def text (j : Joint) : Text := j.callText ++ j.quote.char :: (j.argumentText ++ j.body)

/-- The joint of a quote in front of a plain text. -/
def ofQuote (q : Quote) (s : Text) : Joint :=
  match CallShape.errorWithException.splitArguments? s with
  | some (_, rest) => ⟨none, q, some ((s.drop 1).takeWhile Text.isWhite), ");".toList ++ rest⟩
  | none => ⟨none, q, none, s⟩

/-- Whether the parts behind the quote are what they seem: an exception argument is closed at once,
and no exception argument is left in the body. -/
structure Sound (j : Joint) : Prop where
  quoteFree : Text.QuoteFree j.body
  argument : ∀ w, j.exception = some w →
    (∀ c ∈ w, Text.isWhite c = true) ∧ ∃ rest, j.body = ");".toList ++ rest
  plain : j.exception = none → CallShape.errorWithException.splitArguments? j.body = none

theorem text_ofQuote (q : Quote) (s : Text) : (ofQuote q s).text = q.char :: s := by
  unfold ofQuote
  split
  · rename_i a rest h
    obtain ⟨⟨w, hw, rfl⟩, rfl⟩ := CallShape.splitArguments?_eq_some_iff.1 h
    have blank : (w ++ ("error);".toList ++ rest)).takeWhile Text.isWhite = w := by
      rw [List.takeWhile_append_of_pos hw]
      exact List.append_nil w
    simpa [text, callText, argumentText] using blank
  · simp [text, callText, argumentText]

theorem body_ofQuote_suffix (q : Quote) (s : Text) : (ofQuote q s).body <:+ s := by
  unfold ofQuote
  split
  · rename_i a rest h
    obtain ⟨⟨w, -, rfl⟩, rfl⟩ := CallShape.splitArguments?_eq_some_iff.1 h
    exact ⟨",".toList ++ w ++ "error".toList, by simp⟩
  · exact List.suffix_rfl

theorem sound_ofQuote (q : Quote) {s : Text} (hs : Text.QuoteFree s) : (ofQuote q s).Sound := by
  unfold ofQuote
  split
  · rename_i a rest h
    obtain ⟨-, rfl⟩ := CallShape.splitArguments?_eq_some_iff.1 h
    refine ⟨?_, ?_, by simp⟩
    · refine Text.quoteFree_append.2 ⟨fun q => by cases q <;> decide, ?_⟩
      exact (Text.quoteFree_append.1 hs).2
    · rintro w hw
      cases hw
      exact ⟨fun c hc => List.mem_takeWhile_imp hc, rest, rfl⟩
  · rename_i h
    exact ⟨hs, by simp, fun _ => h⟩

end Joint

/-! ## Dividing a text -/

/-- The quote that a character is. -/
def Quote.ofChar? (c : Char) : Option Quote := Quote.all.find? fun q => q.char = c

theorem Quote.ofChar?_eq_some {c : Char} {q : Quote} (h : Quote.ofChar? c = some q) :
    q.char = c := by
  simpa using List.find?_some h

theorem Quote.quoteFree_of_ofChar?_eq_none {c : Char} (h : Quote.ofChar? c = none) :
    Text.QuoteFree [c] := by
  intro q hq
  have := List.find?_eq_none.1 h q (by cases q <;> decide)
  simp_all

/-- The method of the statement that opens with exactly this text. -/
def Console.Method.ofOpening? (s : Text) : Option Console.Method :=
  [Method.log, .error, .warn].find? fun m => m.opening = s

namespace Division

/-- Puts a text in front of the first joint; a statement that opens there becomes part of it. -/
def attach (lead : Text) : List Joint → Text × List Joint
  | [] => (lead, [])
  | j :: js =>
    match j.call, Console.Method.ofOpening? lead with
    | none, some m => ([], { j with call := some m } :: js)
    | _, _ => (lead, j :: js)

/-- A text as a lead and the joints behind it. -/
def divide : Text → Text × List Joint
  | [] => ([], [])
  | c :: cs =>
    let (lead, js) := divide cs
    match Quote.ofChar? c with
    | some q => ([], Joint.ofQuote q lead :: js)
    | none => attach (c :: lead) js

/-- Whether no part of a call is left outside the joints. -/
def Sound (lead : Text) : List Joint → Prop
  | [] => Text.QuoteFree lead
  | j :: js =>
    Text.QuoteFree lead ∧ (j.call = none → ∀ m : Console.Method, ¬ m.opening <:+ lead) ∧ j.Sound
      ∧ Sound j.body js

theorem Sound.quoteFree {lead : Text} {js : List Joint} (h : Sound lead js) :
    Text.QuoteFree lead := by
  cases js with
  | nil => exact h
  | cons j js => exact h.1

theorem Sound.forall_joint {lead : Text} {js : List Joint} (h : Sound lead js) :
    ∀ j ∈ js, j.Sound := by
  induction js generalizing lead with
  | nil => simp
  | cons j js ih => exact List.forall_mem_cons.2 ⟨h.2.2.1, ih h.2.2.2⟩

theorem Sound.behind {lead : Text} (pre : List Joint) {js : List Joint} {j : Joint}
    (h : Sound lead (pre ++ j :: js)) : Sound j.body js := by
  induction pre generalizing lead with
  | nil => exact h.2.2.2
  | cons x pre ih => exact ih h.2.2.2

/-- A lead may be replaced by another one that opens no other statement. -/
theorem Sound.replace {lead lead' : Text} {js : List Joint} (h : Sound lead js)
    (hq : Text.QuoteFree lead')
    (ho : ∀ m : Console.Method, m.opening <:+ lead' → m.opening <:+ lead) : Sound lead' js := by
  cases js with
  | nil => exact hq
  | cons j js => exact ⟨hq, fun hj m hm => h.2.1 hj m (ho m hm), h.2.2⟩

theorem text_attach (lead : Text) (js : List Joint) :
    (attach lead js).1 ++ (attach lead js).2.flatMap Joint.text
      = lead ++ js.flatMap Joint.text := by
  unfold attach
  split
  · rfl
  · split
    · rename_i j js _ _ m hj hm
      have : m.opening = lead := by simpa using List.find?_some hm
      simp [Joint.text, Joint.callText, Joint.argumentText, hj, ← this]
    · rfl

theorem text_divide (s : Text) : (divide s).1 ++ (divide s).2.flatMap Joint.text = s := by
  induction s with
  | nil => rfl
  | cons c cs ih =>
    simp only [divide]
    split
    · rename_i q hq
      rw [List.nil_append, List.flatMap_cons, Joint.text_ofQuote, Quote.ofChar?_eq_some hq,
        List.cons_append, ih]
    · rw [text_attach, List.cons_append, ih]

/-- One more character in front of a sound division: a statement can only be completed by it. -/
theorem sound_attach {c : Char} {lead : Text} {js : List Joint} (hc : Text.QuoteFree [c])
    (h : Sound lead js) : Sound (attach (c :: lead) js).1 (attach (c :: lead) js).2 := by
  have free : Text.QuoteFree (c :: lead) := by
    have := Text.quoteFree_append.2 ⟨hc, h.quoteFree⟩
    exact this
  unfold attach
  split
  · exact free
  · rename_i j js
    split
    · rename_i hj m hm
      exact ⟨Text.quoteFree_nil, by simp, ⟨h.2.2.1.1, h.2.2.1.2, h.2.2.1.3⟩, h.2.2.2⟩
    · rename_i hne
      refine ⟨free, fun hj m hm => ?_, h.2.2⟩
      rcases List.suffix_cons_iff.1 hm with heq | hm
      · have : Console.Method.ofOpening? (c :: lead) = some m := by
          rw [← heq]
          cases m <;> decide
        exact hne m hj this
      · exact h.2.1 hj m hm

theorem sound_divide (s : Text) : Sound (divide s).1 (divide s).2 := by
  induction s with
  | nil => exact Text.quoteFree_nil
  | cons c cs ih =>
    simp only [divide]
    split
    · rename_i q hq
      refine ⟨Text.quoteFree_nil, fun _ m hm => ?_, Joint.sound_ofQuote q ih.quoteFree, ?_⟩
      · rw [List.suffix_nil] at hm
        cases m <;> exact absurd hm (by decide)
      · exact ih.replace (Joint.sound_ofQuote q ih.quoteFree).quoteFree fun m hm =>
          hm.trans (Joint.body_ofQuote_suffix q _)
    · rename_i hc
      exact sound_attach (Quote.quoteFree_of_ofChar?_eq_none hc) ih

end Division

/-! ## The calls of a division -/

namespace Joint

/-- Whether a call of the shape can end at the joint. -/
def ends (n : Joint) : CallShape → Bool
  | .errorWithException => n.exception.isSome
  | _ => n.exception.isNone && Text.startsWith ");".toList n.body

theorem ends_of_ne {shape : CallShape} (h : shape ≠ .errorWithException) (n : Joint) :
    n.ends shape = (n.exception.isNone && Text.startsWith ");".toList n.body) := by
  cases shape with
  | errorWithException => exact absurd rfl h
  | error | info | warn => rfl

/-- Whether the quote of the joint is followed by the same quote at once. -/
def silent (j : Joint) : List Joint → Bool
  | [] => false
  | n :: _ => j.exception.isNone && j.body.isEmpty && n.call.isNone && n.quote = j.quote

/-- The shape of the call that begins at the joint, given the joints behind it: the next joint with
the same quote ends the message, which must not be empty. -/
def shape? (j : Joint) (js : List Joint) : Option CallShape :=
  match j.call, js.find? (fun n => n.quote = j.quote) with
  | some m, some n =>
    if j.silent js then none
    else CallShape.all.find? fun shape => shape.consoleMethod = m && n.ends shape
  | _, _ => none

theorem find?_shape_eq_some_iff {m : Console.Method} {n : Joint} {shape : CallShape} :
    (CallShape.all.find? fun s => s.consoleMethod = m && n.ends s) = some shape
      ↔ shape.consoleMethod = m ∧ n.ends shape = true := by
  constructor
  · intro h
    simpa using List.find?_some h
  · rintro ⟨rfl, h⟩
    -- An exception argument and a bare `);` exclude each other.
    cases he : n.exception with
    | none => cases shape <;> simp_all [CallShape.all, CallShape.consoleMethod, ends]
    | some w => cases shape <;> simp_all [CallShape.all, CallShape.consoleMethod, ends]

theorem shape?_eq_some_iff {j : Joint} {js : List Joint} {shape : CallShape} :
    j.shape? js = some shape ↔ j.call = some shape.consoleMethod ∧ j.silent js = false
      ∧ ∃ n, js.find? (fun n => n.quote = j.quote) = some n ∧ n.ends shape = true := by
  unfold shape?
  split
  · rename_i m n hm hn
    by_cases hs : j.silent js = true
    · simp [hs]
    · rw [if_neg hs, find?_shape_eq_some_iff, hm, hn]
      constructor
      · rintro ⟨rfl, he⟩
        exact ⟨rfl, by simpa using hs, n, rfl, he⟩
      · rintro ⟨hm', -, n', hn', he⟩
        cases hm'
        cases hn'
        exact ⟨rfl, he⟩
  · rename_i h
    constructor
    · simp
    · rintro ⟨hm, -, n, hn, -⟩
      exact (h _ _ hm hn).elim

end Joint

end LogMigration
