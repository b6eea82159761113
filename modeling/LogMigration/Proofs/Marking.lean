import LogMigration.Config.Basic
import LogMigration.Proofs.Joint

/-!
# Marked joints

Which rule converts which part of a text can be read off the joints before any rule is applied.  A
mark is a joint with the shape of the call that is converted there, if its message begins at the
quote, and of the call whose message ends at the quote.  A rule takes its calls from left to right
and a call that begins inside another one of the same rule is left out, so along the quotes of one
kind the same shape is never opened where it is closed.

* `Mark.text` — a joint after some of the rules have been applied.
* `Linked` — the marks are those that the rules make; `linked_link` says that each division has them.
* `body?_of_next` — what a rule finds behind a quote of the partly converted text.
* `body?_linked_iff` — it is the call that the joints say begins there.
-/

set_option autoImplicit false

namespace LogMigration

/-! ## Names -/

/-- The characters of a name. -/
def Text.isWordChar (c : Char) : Bool := c.isAlphanum || c = '_' || c = '$'

/-- A text in which every character belongs to a name. -/
def Text.IsWord (s : Text) : Prop := ∀ c ∈ s, Text.isWordChar c = true

instance (s : Text) : Decidable (Text.IsWord s) :=
  List.decidableBAll (fun c => Text.isWordChar c = true) s

theorem Text.isWord_of_isIdentifier {s : Text} (h : Config.isIdentifier s = true) : IsWord s := by
  cases s with
  | nil => simp [Config.isIdentifier] at h
  | cons c cs =>
    simp only [Config.isIdentifier, Bool.and_eq_true, List.all_eq_true] at h
    intro d hd
    rcases List.mem_cons.1 hd with rfl | hd
    · have first := h.1
      simp only [isWordChar, Char.isAlphanum, Bool.or_eq_true] at first ⊢
      rcases first with (first | first) | first <;> simp [first]
    · have later := h.2 d hd
      exact later

theorem Text.IsWord.notMem {s : Text} (h : IsWord s) {c : Char} (hc : isWordChar c = false) :
    c ∉ s := fun hm => by simp [h c hm] at hc

theorem Text.IsWord.quoteFree {s : Text} (h : IsWord s) : QuoteFree s :=
  fun q => h.notMem (by cases q <;> decide)

/-- A text with a semicolon and without a full stop does not begin a call on a name. -/
theorem Text.IsWord.not_isPrefix {name v x : Text} (h : IsWord name) (hs : ';' ∈ v) (hd : '.' ∉ v) :
    ¬ v <+: name ++ '.' :: x := by
  intro hp
  rcases Text.prefix_append_cases hp with hn | ⟨u, hu, rfl, ht⟩
  · exact h.notMem (by decide) (hn.subset hs)
  · obtain ⟨c, u, rfl⟩ := List.exists_cons_of_ne_nil hu
    obtain ⟨rfl, -⟩ := List.cons_prefix_cons.1 ht
    exact hd (by simp)

/-! ## Marks -/

namespace Console.Method

/-- The shape of a call of the method with a message only. -/
def plainShape : Method → CallShape
  | .log => .info
  | .error => .error
  | .warn => .warn

/-- The logger call that takes the place of a statement, up to its opening bracket. -/
def loggerOpening (binding : Text) (m : Method) : Text :=
  binding ++ '.' :: (m.plainShape.loggerMethod ++ ['('])

theorem opening_eq (m : Method) : m.opening = "console".toList ++ '.' :: (m.name ++ ['(']) := by
  cases m <;> rfl

end Console.Method

theorem CallShape.loggerMethod_eq (shape : CallShape) :
    shape.loggerMethod = shape.consoleMethod.plainShape.loggerMethod := by
  cases shape <;> rfl

/-- A joint with the calls that are converted at it. -/
structure Mark extends Joint where
  /-- The shape of the converted call whose message begins at the quote. -/
  opened : Option CallShape
  /-- The shape of the converted call whose message ends at the quote. -/
  closed : Option CallShape
  deriving DecidableEq, Repr

namespace Mark

section Text

variable (binding : Text) (done : List Rule)

/-- Whether the rule for a shape and the quote of the mark is among those applied. -/
def isDone (k : Mark) (shape : Option CallShape) : Bool :=
  shape.any fun s => decide ((⟨s, k.quote, binding⟩ : Rule) ∈ done)

/-- What stands in front of the quote. -/
def callText (k : Mark) : Text :=
  k.call.elim [] fun m =>
    if k.isDone binding done k.opened then m.loggerOpening binding else m.opening

/-- What stands between the quote and the body. -/
def argumentText (k : Mark) : Text :=
  k.exception.elim [] fun w =>
    if k.isDone binding done k.closed then CallShape.errorWithException.details
    else ",".toList ++ w ++ "error".toList

/-- A mark after the rules have been applied. -/
def text (k : Mark) : Text :=
  k.callText binding done ++ k.quote.char :: (k.argumentText binding done ++ k.body)

/-- Marks after the rules have been applied. -/
def textOf (ks : List Mark) : Text := ks.flatMap (text binding done)

end Text

variable {binding : Text} {done : List Rule}

@[simp]
theorem textOf_nil : textOf binding done [] = [] := rfl

@[simp]
theorem textOf_cons (k : Mark) (ks : List Mark) :
    textOf binding done (k :: ks)
      = k.callText binding done ++ k.quote.char
        :: (k.argumentText binding done ++ k.body ++ textOf binding done ks) := by
  simp [textOf, text]

@[simp]
theorem textOf_append (ks ls : List Mark) :
    textOf binding done (ks ++ ls) = textOf binding done ks ++ textOf binding done ls := by
  simp [textOf]

theorem callText_cases (hb : Text.IsWord binding) (done : List Rule) (k : Mark) :
    k.call = none ∧ k.callText binding done = []
      ∨ ∃ name method, Text.IsWord name ∧ k.callText binding done = name ++ '.' :: (method ++ ['('])
        ∧ Text.IsWord method := by
  unfold callText
  cases k.call with
  | none => exact .inl ⟨rfl, rfl⟩
  | some m =>
    refine .inr ?_
    simp only [Option.elim_some]
    split
    · exact ⟨_, _, hb, rfl, by cases m <;> decide⟩
    · exact ⟨_, _, by decide, m.opening_eq, by cases m <;> decide⟩

theorem quoteFree_callText (hb : Text.IsWord binding) (k : Mark) :
    Text.QuoteFree (k.callText binding done) := by
  rcases callText_cases hb done k with ⟨-, h⟩ | ⟨name, method, hn, h, hm⟩
  · rw [h]
    exact Text.quoteFree_nil
  · rw [h]
    refine Text.quoteFree_append.2 ⟨hn.quoteFree, ?_⟩
    have bracket : Text.QuoteFree ['('] := fun q => by cases q <;> decide
    have stop : Text.QuoteFree ['.'] := fun q => by cases q <;> decide
    exact Text.quoteFree_append.2 ⟨stop, Text.quoteFree_append.2 ⟨hm.quoteFree, bracket⟩⟩

theorem quoteFree_argumentText {k : Mark} (hk : k.toJoint.Sound) :
    Text.QuoteFree (k.argumentText binding done) := by
  unfold argumentText
  cases he : k.exception with
  | none => exact Text.quoteFree_nil
  | some w =>
    simp only [Option.elim_some]
    split
    · exact fun q => by cases q <;> decide
    · have ending : CallShape.errorWithException.IsEnding (",".toList ++ w ++ "error);".toList) :=
        ⟨w, (hk.argument w he).1, rfl⟩
      have whole := (ending.suffix (by simp) List.suffix_rfl).2.2
      have split : ",".toList ++ w ++ "error);".toList
          = (",".toList ++ w ++ "error".toList) ++ ");".toList := by simp
      rw [split] at whole
      exact (Text.quoteFree_append.1 whole).1

theorem notMem_textOf (hb : Text.IsWord binding) {q : Quote} {ks : List Mark}
    (hk : ∀ k ∈ ks, k.toJoint.Sound ∧ k.quote ≠ q) : q.char ∉ textOf binding done ks := by
  induction ks with
  | nil => simp
  | cons k ks ih =>
    obtain ⟨⟨hs, hq⟩, hks⟩ := List.forall_mem_cons.1 hk
    have other : q.char ≠ k.quote.char := fun h => hq (Quote.char_injective h.symm)
    simp [quoteFree_callText hb k q, quoteFree_argumentText hs q, hs.quoteFree q, other, ih hks]

theorem not_isPrefix_textOf (hb : Text.IsWord binding) {v : Text} (hv : v ≠ []) (hs : ';' ∈ v)
    (hd : '.' ∉ v) (hq : Text.QuoteFree v) (ks : List Mark) : ¬ v <+: textOf binding done ks := by
  cases ks with
  | nil => simpa using hv
  | cons k ks =>
    rw [textOf_cons]
    rcases callText_cases hb done k with ⟨-, h⟩ | ⟨name, method, hn, h, -⟩
    · obtain ⟨c, v, rfl⟩ := List.exists_cons_of_ne_nil hv
      rw [h, List.nil_append, List.cons_prefix_cons]
      rintro ⟨rfl, -⟩
      exact hq k.quote (by simp)
    · rw [h, List.append_assoc]
      exact hn.not_isPrefix hs hd

/-- The end of a call in front of a joint is found in the text before the joint. -/
theorem splitArguments?_append_textOf (hb : Text.IsWord binding) (shape : CallShape) (s : Text)
    (ks : List Mark) :
    shape.splitArguments? (s ++ textOf binding done ks)
      = (shape.splitArguments? s).map fun (a, rest) => (a, rest ++ textOf binding done ks) := by
  have found : ∀ a rest, shape.splitArguments? s = some (a, rest) →
      shape.splitArguments? (s ++ textOf binding done ks)
        = some (a, rest ++ textOf binding done ks) := by
    intro a rest h
    obtain ⟨ha, rfl⟩ := CallShape.splitArguments?_eq_some_iff.1 h
    exact CallShape.splitArguments?_eq_some_iff.2 ⟨ha, List.append_assoc ..⟩
  cases hs : shape.splitArguments? s with
  | some p => exact found p.1 p.2 hs
  | none =>
    rw [Option.map_none, Option.eq_none_iff_forall_ne_some]
    rintro ⟨a, rest⟩ h
    obtain ⟨ha, heq⟩ := CallShape.splitArguments?_eq_some_iff.1 h
    rcases Text.prefix_append_cases (⟨rest, heq.symm⟩ : a <+: _) with ⟨t, rfl⟩ | ⟨v, hv, rfl, hp⟩
    · have := CallShape.splitArguments?_eq_some_iff.2 ⟨ha, (rfl : a ++ t = a ++ t)⟩
      simp [hs] at this
    · obtain ⟨hsemi, hstop, hfree⟩ := ha.suffix hv ⟨s, rfl⟩
      exact not_isPrefix_textOf hb hv hsemi hstop hfree ks hp

/-- The end of a call behind a quote: the joint says whether there is one, unless the exception
argument has been converted already. -/
theorem splitArguments?_after (hb : Text.IsWord binding) (done : List Rule) {k : Mark}
    (hk : k.toJoint.Sound) (shape : CallShape) (ks : List Mark) :
    shape.splitArguments? (k.argumentText binding done ++ k.body ++ textOf binding done ks)
      = if k.ends shape = true ∧ (k.exception.isSome = true → k.isDone binding done k.closed = false)
        then some (k.toJoint.argumentText ++ ");".toList,
          k.body.drop 2 ++ textOf binding done ks)
        else none := by
  rw [splitArguments?_append_textOf hb]
  cases he : k.exception with
  | none =>
    have plain := hk.plain he
    by_cases hshape : shape = .errorWithException
    · simp [hshape, argumentText, he, plain, Joint.ends]
    · simp only [argumentText, he, Option.elim_none, List.nil_append, Joint.argumentText,
        Joint.ends_of_ne hshape, CallShape.splitArguments?_of_ne hshape]
      split <;> simp_all
  | some w =>
    obtain ⟨hw, rest, hbody⟩ := hk.argument w he
    cases hdone : k.isDone binding done k.closed with
    | true =>
      have converted : ∀ t : Text,
          shape.splitArguments? (CallShape.errorWithException.details ++ t) = none := by
        intro t
        cases shape <;> rfl
      simp [argumentText, he, hdone, converted]
    | false =>
      by_cases hshape : shape = .errorWithException
      · have found : shape.splitArguments? (",".toList ++ w ++ "error);".toList ++ rest)
            = some (",".toList ++ w ++ "error);".toList, rest) := by
          rw [hshape]
          exact CallShape.splitArguments?_eq_some_iff.2 ⟨⟨w, hw, rfl⟩, rfl⟩
        simpa [argumentText, Joint.argumentText, he, hdone, Joint.ends, hbody, hshape] using found
      · simp [argumentText, he, hdone, Joint.ends_of_ne hshape,
          CallShape.splitArguments?_of_ne hshape, Text.startsWith, Text.dropPrefix?]

/-! ## What a rule finds behind a quote -/

theorem next_cases (q : Quote) (ks : List Mark) :
    (∀ k ∈ ks, k.quote ≠ q)
      ∨ ∃ mid n rest, ks = mid ++ n :: rest ∧ (∀ k ∈ mid, k.quote ≠ q) ∧ n.quote = q := by
  cases h : ks.find? (fun k => k.quote = q) with
  | none => exact .inl (by simpa using h)
  | some n =>
    obtain ⟨hn, mid, rest, hks, hmid⟩ := List.find?_eq_some_iff_append.1 h
    exact .inr ⟨mid, n, rest, hks, by simpa using hmid, by simpa using hn⟩

theorem find?_next {q : Quote} {mid rest : List Mark} {n : Mark} (hmid : ∀ k ∈ mid, k.quote ≠ q)
    (hn : n.quote = q) :
    ((mid ++ n :: rest).map toJoint).find? (fun j => j.quote = q) = some n.toJoint := by
  rw [List.find?_eq_some_iff_append]
  refine ⟨by simpa using hn, mid.map toJoint, rest.map toJoint, by simp, ?_⟩
  simpa using hmid

/-- The text between the quotes of two marks. -/
def messageText (binding : Text) (done : List Rule) (k : Mark) (mid : List Mark) (n : Mark) : Text :=
  k.argumentText binding done ++ k.body ++ textOf binding done mid ++ n.callText binding done

theorem messageText_eq_nil_iff {k n : Mark} {mid rest : List Mark}
    (hmid : ∀ x ∈ mid, x.quote ≠ k.quote) (hn : n.quote = k.quote) :
    messageText binding done k mid n = [] ↔ k.silent ((mid ++ n :: rest).map toJoint) = true := by
  have argument : k.argumentText binding done = [] ↔ k.exception = none := by
    unfold argumentText
    cases k.exception with
    | none => simp
    | some w =>
      simp only [Option.elim_some, reduceCtorEq, iff_false]
      split
      · decide
      · simp
  have call : n.callText binding done = [] ↔ n.call = none := by
    unfold callText
    cases n.call with
    | none => simp
    | some m =>
      simp only [Option.elim_some, reduceCtorEq, iff_false]
      split <;> simp [Console.Method.loggerOpening, Console.Method.opening]
  simp only [messageText, List.append_eq_nil_iff, argument, call]
  cases mid with
  | nil => simp [Joint.silent, hn, and_assoc]
  | cons x mid =>
    have := (List.forall_mem_cons.1 hmid).1
    simp [Joint.silent, this]

section Body

variable {r : Rule} {k : Mark} {ks : List Mark}

theorem body?_of_last (hb : Text.IsWord binding) (hs : ∀ x ∈ k :: ks, x.toJoint.Sound)
    (hks : ∀ x ∈ ks, x.quote ≠ r.quote) :
    r.body? (k.argumentText binding done ++ k.body ++ textOf binding done ks) = none := by
  obtain ⟨hk, hall⟩ := List.forall_mem_cons.1 hs
  have later : r.quote.char ∉ textOf binding done ks :=
    notMem_textOf hb fun x hx => ⟨hall x hx, hks x hx⟩
  apply Rule.body?_of_notMem
  simp [quoteFree_argumentText hk r.quote, hk.quoteFree r.quote, later]

theorem body?_of_next (hb : Text.IsWord binding) (done : List Rule) {mid rest : List Mark} {n : Mark}
    (hs : ∀ x ∈ k :: (mid ++ n :: rest), x.toJoint.Sound) (hk : k.quote = r.quote)
    (hmid : ∀ x ∈ mid, x.quote ≠ r.quote) (hn : n.quote = r.quote) :
    r.body? (k.argumentText binding done ++ k.body ++ textOf binding done (mid ++ n :: rest))
      = if k.silent ((mid ++ n :: rest).map toJoint) = false ∧ n.ends r.shape = true
            ∧ (n.exception.isSome = true → n.isDone binding done n.closed = false)
        then some (messageText binding done k mid n, n.toJoint.argumentText ++ ");".toList,
          n.body.drop 2 ++ textOf binding done rest)
        else none := by
  obtain ⟨hsk, hall⟩ := List.forall_mem_cons.1 hs
  obtain ⟨hsmid, hsrest⟩ := List.forall_mem_append.1 hall
  have hsn := (List.forall_mem_cons.1 hsrest).1
  have between : r.quote.char ∉ messageText binding done k mid n := by
    have middle : r.quote.char ∉ textOf binding done mid :=
      notMem_textOf hb fun x hx => ⟨hsmid x hx, hmid x hx⟩
    simp [messageText, quoteFree_argumentText hsk r.quote, hsk.quoteFree r.quote, middle,
      quoteFree_callText hb n r.quote]
  have layout : k.argumentText binding done ++ k.body ++ textOf binding done (mid ++ n :: rest)
      = messageText binding done k mid n ++ r.quote.char
        :: (n.argumentText binding done ++ n.body ++ textOf binding done rest) := by
    simp [messageText, hn]
  have empty : messageText binding done k mid n = []
      ↔ k.silent ((mid ++ n :: rest).map toJoint) = true :=
    messageText_eq_nil_iff (by rwa [hk]) (by rw [hn, hk])
  rw [layout, r.body?_append_cons between, splitArguments?_after hb done hsn]
  by_cases hsilent : k.silent ((mid ++ n :: rest).map toJoint) = true
  · rw [if_pos (empty.2 hsilent), if_neg]
    simp only [hsilent, Bool.true_eq_false, false_and, not_false_eq_true]
  · rw [if_neg (mt empty.1 hsilent)]
    simp only [Bool.not_eq_true] at hsilent
    simp only [hsilent, true_and]
    split <;> rfl

end Body

/-! ## Linked marks -/

/-- The call whose message runs at each quote behind a mark, given those in front of it. -/
def after (pending : Quote → Option CallShape) (k : Mark) : Quote → Option CallShape :=
  fun q => if q = k.quote then k.opened else pending q

/-- Whether the marks are those that the rules make: a call that begins at a joint is converted
unless the message of a call of the same shape ends there. -/
def Linked (pending : Quote → Option CallShape) : List Mark → Prop
  | [] => True
  | k :: ks =>
    k.closed = pending k.quote
      ∧ k.opened = (if k.shape? (ks.map toJoint) = k.closed then none
        else k.shape? (ks.map toJoint))
      ∧ Linked (k.after pending) ks

/-- The marks of a list of joints. -/
def link (pending : Quote → Option CallShape) : List Joint → List Mark
  | [] => []
  | j :: js =>
    let k : Mark := { j with
      opened := if j.shape? js = pending j.quote then none else j.shape? js
      closed := pending j.quote }
    k :: link (k.after pending) js

theorem map_toJoint_link (pending : Quote → Option CallShape) (js : List Joint) :
    (link pending js).map toJoint = js := by
  induction js generalizing pending with
  | nil => rfl
  | cons j js ih => simp [link, ih]

theorem linked_link (pending : Quote → Option CallShape) (js : List Joint) :
    Linked pending (link pending js) := by
  induction js generalizing pending with
  | nil => trivial
  | cons j js ih => exact ⟨rfl, by simp [map_toJoint_link], ih _⟩

namespace Linked

variable {pending : Quote → Option CallShape} {k n : Mark} {ks mid rest : List Mark}

theorem shape?_of_opened (h : Linked pending (k :: ks)) {shape : CallShape}
    (ho : k.opened = some shape) : k.shape? (ks.map toJoint) = some shape := by
  have := h.2.1
  rw [ho] at this
  split at this
  · simp at this
  · exact this.symm

theorem opened_of_shape? (h : Linked pending (k :: ks)) {shape : CallShape}
    (hs : k.shape? (ks.map toJoint) = some shape) :
    k.opened = if k.closed = some shape then none else some shape := by
  rw [h.2.1, hs]
  simp only [eq_comm]

theorem opened_ne_closed (h : Linked pending (k :: ks)) {shape : CallShape}
    (hc : k.closed = some shape) : k.opened ≠ some shape := by
  intro ho
  have := h.opened_of_shape? (h.shape?_of_opened ho)
  simp [hc, ho] at this

/-- Only statements in front of a quote are converted. -/
theorem call_of_opened (h : Linked pending ks) :
    ∀ k ∈ ks, k.opened.isSome = true → k.call.isSome = true := by
  induction ks generalizing pending with
  | nil => simp
  | cons k ks ih =>
    refine List.forall_mem_cons.2 ⟨fun ho => ?_, ih h.2.2⟩
    obtain ⟨shape, ho⟩ := Option.isSome_iff_exists.1 ho
    rw [(Joint.shape?_eq_some_iff.1 (h.shape?_of_opened ho)).1]
    rfl

/-- What runs behind some marks is unchanged at the quotes that they do not have. -/
theorem of_append (h : Linked pending (mid ++ ks)) :
    ∃ pending', Linked pending' ks
      ∧ ∀ q, (∀ x ∈ mid, x.quote ≠ q) → pending' q = pending q := by
  induction mid generalizing pending with
  | nil => exact ⟨pending, h, fun _ _ => rfl⟩
  | cons x mid ih =>
    obtain ⟨pending', h', hq⟩ := ih h.2.2
    refine ⟨pending', h', fun q hmid => ?_⟩
    obtain ⟨hx, hmid⟩ := List.forall_mem_cons.1 hmid
    rw [hq q hmid, after, if_neg (Ne.symm hx)]

/-- The call that begins at a mark ends at the next mark with the same quote. -/
theorem next (h : Linked pending (k :: (mid ++ n :: rest)))
    (hmid : ∀ x ∈ mid, x.quote ≠ k.quote) (hn : n.quote = k.quote) :
    n.closed = k.opened ∧ ∃ pending', Linked pending' (n :: rest) := by
  obtain ⟨pending', h', hq⟩ := h.2.2.of_append
  refine ⟨?_, pending', h'⟩
  rw [h'.1, hn, hq _ hmid, after, if_pos rfl]

/-- A call that ends at a mark began at the mark before it with the same quote, or was running
before. -/
theorem closed_cases (h : Linked pending (mid ++ k :: ks)) {shape : CallShape}
    (hc : k.closed = some shape) :
    (pending k.quote = some shape ∧ ∀ x ∈ mid, x.quote ≠ k.quote)
      ∨ ∃ pre j post, mid = pre ++ j :: post ∧ j.quote = k.quote
        ∧ (∀ x ∈ post, x.quote ≠ k.quote) ∧ j.opened = some shape := by
  induction mid generalizing pending with
  | nil => exact .inl ⟨by rw [← h.1, hc], by simp⟩
  | cons x mid ih =>
    rcases ih h.2.2 with ⟨hp, hmid⟩ | ⟨pre, j, post, rfl, hj⟩
    · by_cases hx : k.quote = x.quote
      · rw [after, if_pos hx] at hp
        exact .inr ⟨[], x, mid, rfl, hx.symm, hmid, hp⟩
      · rw [after, if_neg hx] at hp
        exact .inl ⟨hp, List.forall_mem_cons.2 ⟨Ne.symm hx, hmid⟩⟩
    · exact .inr ⟨x :: pre, j, post, rfl, hj⟩

end Linked

/-- Behind a statement in front of a quote, a rule finds exactly the call that the joints say begins
there, unless the exception argument of that call has been converted. -/
theorem body?_linked_iff (hb : Text.IsWord binding) {pending : Quote → Option CallShape} {r : Rule}
    {k : Mark} {ks : List Mark} (hl : Linked pending (k :: ks))
    (hs : ∀ x ∈ k :: ks, x.toJoint.Sound) (hq : k.quote = r.quote)
    (hc : k.call = some r.shape.consoleMethod) :
    (r.body? (k.argumentText binding done ++ k.body ++ textOf binding done ks)).isSome = true
      ↔ k.shape? (ks.map toJoint) = some r.shape
        ∧ (r.shape = .errorWithException → k.isDone binding done k.opened = false) := by
  rcases next_cases r.quote ks with hlast | ⟨mid, n, rest, rfl, hmid, hn⟩
  · have absent : (ks.map toJoint).find? (fun j => j.quote = k.quote) = none := by
      simpa [hq] using hlast
    rw [body?_of_last hb hs hlast]
    simp [Joint.shape?_eq_some_iff, absent]
  · have chained := (hl.next (by rwa [hq]) (by rw [hn, hq])).1
    have sameDone : n.isDone binding done n.closed = k.isDone binding done k.opened := by
      simp only [isDone, chained, hn, hq]
    have found : ((mid ++ n :: rest).map toJoint).find? (fun j => j.quote = k.quote)
        = some n.toJoint := find?_next (by rwa [hq]) (by rw [hn, hq])
    rw [body?_of_next hb done hs hq hmid hn, Joint.shape?_eq_some_iff, found, sameDone]
    have ending : n.ends r.shape = true →
        (n.exception.isSome = true ↔ r.shape = .errorWithException) := by
      intro h
      by_cases hshape : r.shape = .errorWithException
      · simp_all [Joint.ends]
      · rw [Joint.ends_of_ne hshape] at h
        simp_all
    split
    · rename_i h
      exact ⟨fun _ => ⟨⟨hc, h.1, _, rfl, h.2.1⟩, fun he => h.2.2 ((ending h.2.1).2 he)⟩,
        fun _ => rfl⟩
    · rename_i h
      constructor
      · simp
      · rintro ⟨⟨-, hsilent, n', hn', he⟩, hd⟩
        cases hn'
        exact absurd ⟨hsilent, he, fun hx => hd ((ending he).1 hx)⟩ h

end Mark

end LogMigration
