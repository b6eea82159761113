import LogMigration.Proofs.Marking

/-!
# The rules on marked joints

Applying a rule to a partly converted text converts the parts that its marks name and nothing else.
Since the marks are fixed before the first rule is applied, the text after a list of rules depends
only on which rules are in the list.

* `apply_textOf` — one rule: the parts marked with it are converted, and the hits are their number.
* `run_textOf` — a list of rules without repetition.
* `Conversion.run_eq` — the conversion of any text, read off its division.
-/

set_option autoImplicit false

namespace LogMigration

/-! ## Statements and logger calls as endings -/

/-- The last full stop of a text stands in one place only. -/
theorem Text.append_cons_inj_last {c : Char} {s t u v : Text} (hu : c ∉ u) (hv : c ∉ v)
    (h : s ++ c :: u = t ++ c :: v) : s = t ∧ u = v := by
  rcases List.append_eq_append_iff.1 h with ⟨d, rfl, hd⟩ | ⟨d, rfl, hd⟩
  · cases d with
    | nil => simpa using hd
    | cons x d =>
      obtain ⟨-, rfl⟩ := List.cons.inj hd
      exact absurd (by simp) hu
  · cases d with
    | nil => simpa [eq_comm] using hd
    | cons x d =>
      obtain ⟨-, rfl⟩ := List.cons.inj hd
      exact absurd (by simp) hv

/-- A statement that ends a text with a call on a name: the methods agree, and the name completes
`console`. -/
theorem Console.Method.suffix_call {m : Method} {x name method : Text} (hm : Text.IsWord method)
    (h : m.opening <:+ x ++ (name ++ '.' :: (method ++ ['(']))) :
    m.name = method ∧ "console".toList <:+ x ++ name := by
  obtain ⟨u, hu⟩ := h
  have stop : Text.isWordChar '.' = false := by decide
  have names : Text.IsWord m.name := by cases m <;> decide
  have split : (u ++ "console".toList) ++ '.' :: (m.name ++ ['('])
      = (x ++ name) ++ '.' :: (method ++ ['(']) := by
    rw [m.opening_eq] at hu
    simpa using hu
  obtain ⟨hname, hmethod⟩ := Text.append_cons_inj_last (by simp [names.notMem stop])
    (by simp [hm.notMem stop]) split
  exact ⟨List.append_cancel_right hmethod, u, hname⟩

theorem Console.Method.eq_of_suffix_opening {m m' : Method} {x : Text}
    (h : m.opening <:+ x ++ m'.opening) : m = m' := by
  rw [m'.opening_eq] at h
  have same := (suffix_call (by cases m' <;> decide) h).1
  cases m <;> cases m' <;> first | rfl | exact absurd same (by decide)

/-- A logger call ends like a statement only where its name completes `console`. -/
theorem Console.Method.of_suffix_loggerOpening {m m' : Method} {x binding : Text}
    (h : m.opening <:+ x ++ m'.loggerOpening binding) :
    m = m' ∧ m ≠ .log ∧ "console".toList <:+ x ++ binding := by
  obtain ⟨same, hc⟩ := suffix_call (by cases m' <;> decide) h
  refine ⟨?_, ?_, hc⟩
  · cases m <;> cases m' <;> first | rfl | exact absurd same (by decide)
  · rintro rfl
    cases m' <;> exact absurd same (by decide)

namespace Mark

variable {binding : Text} {done : List Rule}

/-! ## Adding a rule -/

theorem isDone_iff {k : Mark} {shape : Option CallShape} :
    k.isDone binding done shape = true
      ↔ ∃ s, shape = some s ∧ (⟨s, k.quote, binding⟩ : Rule) ∈ done := by
  cases shape <;> simp [isDone]

@[simp]
theorem isDone_nil (binding : Text) (k : Mark) (shape : Option CallShape) :
    k.isDone binding [] shape = false := by
  cases shape <;> simp [isDone]

@[simp]
theorem callText_nil (k : Mark) : k.callText binding [] = k.toJoint.callText := by
  simp [callText, Joint.callText]

@[simp]
theorem argumentText_nil (k : Mark) : k.argumentText binding [] = k.toJoint.argumentText := by
  simp [argumentText, Joint.argumentText]

theorem isDone_cons_of_ne {r : Rule} {k : Mark} {shape : Option CallShape}
    (h : k.quote = r.quote → shape ≠ some r.shape) :
    k.isDone binding (r :: done) shape = k.isDone binding done shape := by
  rw [Bool.eq_iff_iff, isDone_iff, isDone_iff]
  constructor
  · rintro ⟨s, rfl, hs⟩
    rcases List.mem_cons.1 hs with rfl | hs
    · exact absurd rfl (h rfl)
    · exact ⟨s, rfl, hs⟩
  · rintro ⟨s, rfl, hs⟩
    exact ⟨s, rfl, List.mem_cons_of_mem _ hs⟩

theorem isDone_cons_self {r : Rule} (hr : r.binding = binding) {k : Mark} (hq : k.quote = r.quote) :
    k.isDone binding (r :: done) (some r.shape) = true := by
  simp [isDone, hq, ← hr]

theorem isDone_of_notMem {r : Rule} (hr : r.binding = binding) (hnew : r ∉ done) {k : Mark}
    (hq : k.quote = r.quote) : k.isDone binding done (some r.shape) = false := by
  simpa [isDone, hq, ← hr] using hnew

theorem callText_cons_of_ne {r : Rule} {k : Mark} (h : k.quote = r.quote → k.opened ≠ some r.shape) :
    k.callText binding (r :: done) = k.callText binding done := by
  simp only [callText, isDone_cons_of_ne h]

theorem argumentText_cons_of_ne {r : Rule} {k : Mark}
    (h : k.quote = r.quote → k.closed ≠ some r.shape) :
    k.argumentText binding (r :: done) = k.argumentText binding done := by
  simp only [argumentText, isDone_cons_of_ne h]

theorem textOf_cons_of_ne {r : Rule} {ks : List Mark} (h : ∀ k ∈ ks, k.quote ≠ r.quote) :
    textOf binding (r :: done) ks = textOf binding done ks := by
  induction ks with
  | nil => rfl
  | cons k ks ih =>
    obtain ⟨hk, hks⟩ := List.forall_mem_cons.1 h
    rw [textOf_cons, textOf_cons, ih hks, callText_cons_of_ne fun hq => absurd hq hk,
      argumentText_cons_of_ne fun hq => absurd hq hk]

/-! ## Soundness of what is left -/

theorem sound_of_division {lead : Text} {ks : List Mark}
    (h : Division.Sound lead (ks.map toJoint)) : ∀ k ∈ ks, k.toJoint.Sound :=
  fun _ hk => h.forall_joint _ (List.mem_map_of_mem hk)

theorem sound_of_append {lead : Text} {pre ks : List Mark}
    (h : Division.Sound lead ((pre ++ ks).map toJoint)) : ∀ k ∈ ks, k.toJoint.Sound :=
  fun k hk => sound_of_division h k (List.mem_append_right _ hk)

theorem body_of_ends {k : Mark} (hk : k.toJoint.Sound) {shape : CallShape}
    (h : k.ends shape = true) : ∃ rest, k.body = ");".toList ++ rest := by
  cases he : k.exception with
  | some w => exact (hk.argument w he).2
  | none =>
    have plain : shape ≠ .errorWithException := by
      rintro rfl
      simp [Joint.ends, he] at h
    rw [Joint.ends_of_ne plain, Bool.and_eq_true, Text.startsWith] at h
    obtain ⟨rest, hrest⟩ := Option.isSome_iff_exists.1 h.2
    exact ⟨rest, Text.eq_append_of_dropPrefix? hrest⟩

/-- The text behind a quote opens a statement only where the body does. -/
theorem suffix_body_of_suffix_after {k : Mark} (hk : k.toJoint.Sound) {m : Console.Method}
    (h : m.opening <:+ k.argumentText binding done ++ k.body) : m.opening <:+ k.body := by
  rcases Text.suffix_append_cases h with h | ⟨v, hv, heq, hs⟩
  · exact h
  · cases he : k.exception with
    | none =>
      simp only [argumentText, he, Option.elim_none, List.suffix_nil] at hs
      exact absurd hs hv
    | some w =>
      obtain ⟨-, rest, hbody⟩ := hk.argument w he
      have semicolon : ';' ∈ m.opening := by simp [heq, hbody]
      exact absurd semicolon (by cases m <;> decide)

theorem sound_after {k : Mark} {ks : List Mark} (hk : k.toJoint.Sound)
    (h : Division.Sound k.body (ks.map toJoint)) :
    Division.Sound (k.argumentText binding done ++ k.body) (ks.map toJoint) :=
  h.replace (Text.quoteFree_append.2 ⟨quoteFree_argumentText hk, hk.quoteFree⟩)
    fun _ => suffix_body_of_suffix_after hk

/-! ## One rule -/

/-- The number of calls that a rule converts. -/
def hits (r : Rule) (ks : List Mark) : Nat :=
  ks.countP fun k => k.quote = r.quote && k.opened = some r.shape

theorem hits_append (r : Rule) (ks ls : List Mark) : hits r (ks ++ ls) = hits r ks + hits r ls :=
  List.countP_append

theorem hits_cons_of_ne {r : Rule} {k : Mark} (h : k.quote = r.quote → k.opened ≠ some r.shape)
    (ks : List Mark) : hits r (k :: ks) = hits r ks := by
  rw [hits, List.countP_cons_of_neg]
  · rfl
  · simpa using h

theorem hits_of_ne {r : Rule} {ks : List Mark} (h : ∀ k ∈ ks, k.quote ≠ r.quote) :
    hits r ks = 0 := by
  simp only [hits, List.countP_eq_zero]
  intro k hk
  simp [h k hk]

section Rule

variable {r : Rule} {pending : Quote → Option CallShape} {lead : Text} {k : Mark} {ks : List Mark}

/-- What a rule finds at a mark: the call that the joints say begins there, as a statement or as a
logger call that reads like one. -/
theorem found_cases (hb : Text.IsWord binding) (hl : Linked pending (k :: ks))
    (hs : ∀ x ∈ k :: ks, x.toJoint.Sound)
    (hfront : k.call = none → ∀ m : Console.Method, ¬ m.opening <:+ lead) (hq : k.quote = r.quote)
    (hbody : (r.body? (k.argumentText binding done ++ k.body ++ textOf binding done ks)).isSome
      = true)
    (ho : r.shape.consoleMethod.opening <:+ lead ++ k.callText binding done) :
    k.shape? (ks.map toJoint) = some r.shape
      ∧ (k.isDone binding done k.opened = false
        ∨ k.isDone binding done k.opened = true ∧ r.shape ≠ .errorWithException
          ∧ r.shape.consoleMethod ≠ .log ∧ "console".toList <:+ lead ++ binding) := by
  cases hc : k.call with
  | none =>
    simp only [callText, hc, Option.elim_none, List.append_nil] at ho
    exact absurd ho (hfront hc _)
  | some m =>
    cases hd : k.isDone binding done k.opened with
    | false =>
      simp only [callText, hc, hd, Option.elim_some, Bool.false_eq_true, if_false] at ho
      obtain rfl := Console.Method.eq_of_suffix_opening ho
      exact ⟨((body?_linked_iff hb hl hs hq hc).1 hbody).1, .inl rfl⟩
    | true =>
      simp only [callText, hc, hd, Option.elim_some, if_true] at ho
      obtain ⟨rfl, hlog, hcon⟩ := Console.Method.of_suffix_loggerOpening ho
      obtain ⟨hshape, hexc⟩ := (body?_linked_iff hb hl hs hq hc).1 hbody
      exact ⟨hshape, .inr ⟨rfl, fun he => by simp [hexc he] at hd, hlog, hcon⟩⟩

/-- A rule copies the marks that are not its own. -/
theorem pieces_miss (hb : Text.IsWord binding) (hl : Linked pending (k :: ks))
    (hs : Division.Sound lead ((k :: ks).map toJoint)) (hp : pending r.quote ≠ some r.shape)
    (hk : k.quote = r.quote → k.opened ≠ some r.shape) :
    r.pieces (lead ++ textOf binding done (k :: ks))
      = (lead ++ k.callText binding done ++ [k.quote.char]).map .copied
        ++ r.pieces (k.argumentText binding done ++ k.body ++ textOf binding done ks) := by
  rw [textOf_cons, ← List.append_assoc]
  refine Rule.pieces_miss (Text.quoteFree_append.2 ⟨hs.quoteFree, quoteFree_callText hb k⟩) ?_
  intro hq hbody ho
  obtain ⟨hshape, -⟩ := found_cases hb hl (sound_of_division hs) hs.2.1 hq hbody ho
  have opened : k.opened = some r.shape := by
    rw [hl.opened_of_shape? hshape, if_neg]
    rwa [hl.1, hq]
  exact hk hq opened

/-- A mark of the rule's own is a call, up to the end of the next mark with its quote. -/
theorem pieces_hit (hb : Text.IsWord binding) (hr : r.binding = binding) (hnew : r ∉ done)
    {mid rest : List Mark} {n : Mark} (hl : Linked pending (k :: (mid ++ n :: rest)))
    (hs : Division.Sound lead ((k :: (mid ++ n :: rest)).map toJoint))
    (hq : k.quote = r.quote) (hk : k.opened = some r.shape) (hmid : ∀ x ∈ mid, x.quote ≠ r.quote)
    (hn : n.quote = r.quote) :
    ∃ source, r.pieces (lead ++ textOf binding done (k :: (mid ++ n :: rest)))
      = lead.map .copied ++ .call source (messageText binding done k mid n)
        :: r.pieces (n.body.drop 2 ++ textOf binding done rest) := by
  have untouched : k.isDone binding done k.opened = false := by
    rw [hk]
    exact isDone_of_notMem hr hnew hq
  obtain ⟨hcall, hsilent, n', hn', hends⟩ := Joint.shape?_eq_some_iff.1 (hl.shape?_of_opened hk)
  rw [find?_next (by rwa [hq]) (by rw [hn, hq])] at hn'
  cases hn'
  have closed : n.isDone binding done n.closed = false := by
    rw [(hl.next (by rwa [hq]) (by rw [hn, hq])).1, hk]
    exact isDone_of_notMem hr hnew hn
  have body := body?_of_next hb done (sound_of_division hs) hq hmid hn
  rw [if_pos ⟨hsilent, hends, fun _ => closed⟩] at body
  have front : k.callText binding done = r.shape.consoleMethod.opening := by
    simp [callText, hcall, untouched]
  rw [textOf_cons, front, hq, Rule.pieces_hit hs.quoteFree body]
  exact ⟨_, rfl⟩

theorem textOf_cons_self (hr : r.binding = binding) {mid rest : List Mark} {n : Mark}
    (hl : Linked pending (k :: (mid ++ n :: rest))) (hs : n.toJoint.Sound) (hq : k.quote = r.quote)
    (hk : k.opened = some r.shape) (hmid : ∀ x ∈ mid, x.quote ≠ r.quote) (hn : n.quote = r.quote) :
    textOf binding (r :: done) (k :: (mid ++ n :: rest))
      = r.shape.consoleMethod.loggerOpening binding ++ r.quote.char
        :: (messageText binding done k mid n ++ r.quote.char :: (r.shape.details ++ ");".toList
          ++ (n.body.drop 2 ++ textOf binding (r :: done) rest))) := by
  obtain ⟨hcall, -, n', hn', hends⟩ := Joint.shape?_eq_some_iff.1 (hl.shape?_of_opened hk)
  rw [find?_next (by rwa [hq]) (by rw [hn, hq])] at hn'
  cases hn'
  obtain ⟨hclosed, pending', hl'⟩ := hl.next (by rwa [hq]) (by rw [hn, hq])
  have front : k.callText binding (r :: done) = r.shape.consoleMethod.loggerOpening binding := by
    simp [callText, hcall, hk, isDone_cons_self hr hq]
  have first : k.argumentText binding (r :: done) = k.argumentText binding done :=
    argumentText_cons_of_ne fun _ hc => hl.opened_ne_closed hc hk
  have last : n.callText binding (r :: done) = n.callText binding done :=
    callText_cons_of_ne fun _ => hl'.opened_ne_closed (hclosed.trans hk)
  have converted : n.isDone binding (r :: done) n.closed = true := by
    rw [hclosed, hk]
    exact isDone_cons_self hr hn
  obtain ⟨t, ht⟩ := body_of_ends hs hends
  have argument : n.argumentText binding (r :: done) = r.shape.details := by
    by_cases hshape : r.shape = .errorWithException
    · rw [hshape, Joint.ends] at hends
      obtain ⟨w, hw⟩ := Option.isSome_iff_exists.1 hends
      simp [argumentText, hw, converted, hshape]
    · rw [Joint.ends_of_ne hshape, Bool.and_eq_true] at hends
      have none : n.exception = none := by simpa using hends.1
      have details : r.shape.details = [] := by
        cases hr : r.shape <;> first | rfl | exact absurd hr hshape
      simp [argumentText, none, details]
  rw [textOf_cons, textOf_append, textOf_cons, textOf_cons_of_ne hmid, front, first, last,
    argument, ht, hq, hn]
  simp [messageText]

end Rule

/-- The marks as a rule that has not been applied yet goes through them: it copies a mark that is not
its own, and goes from one of its own to the mark where the call ends. -/
theorem pass_induction (hb : Text.IsWord binding) {r : Rule} (hr : r.binding = binding)
    (hnew : r ∉ done) {motive : Text → List Mark → Prop}
    (nil : ∀ lead, Text.QuoteFree lead → motive lead [])
    (miss : ∀ (lead : Text) (k : Mark) (ks : List Mark),
      (k.quote = r.quote → k.opened ≠ some r.shape) → (k.quote = r.quote → k.closed ≠ some r.shape) →
      r.pieces (lead ++ textOf binding done (k :: ks))
        = (lead ++ k.callText binding done ++ [k.quote.char]).map .copied
          ++ r.pieces (k.argumentText binding done ++ k.body ++ textOf binding done ks) →
      motive (k.argumentText binding done ++ k.body) ks → motive lead (k :: ks))
    (hit : ∀ (lead : Text) (k : Mark) (mid : List Mark) (n : Mark) (rest : List Mark) (source : Text),
      k.quote = r.quote → k.opened = some r.shape → (∀ x ∈ mid, x.quote ≠ r.quote) →
      n.quote = r.quote → n.opened ≠ some r.shape →
      textOf binding (r :: done) (k :: (mid ++ n :: rest))
        = r.shape.consoleMethod.loggerOpening binding ++ r.quote.char
          :: (messageText binding done k mid n ++ r.quote.char :: (r.shape.details ++ ");".toList
            ++ (n.body.drop 2 ++ textOf binding (r :: done) rest))) →
      r.pieces (lead ++ textOf binding done (k :: (mid ++ n :: rest)))
        = lead.map .copied ++ .call source (messageText binding done k mid n)
          :: r.pieces (n.body.drop 2 ++ textOf binding done rest) →
      motive (n.body.drop 2) rest → motive lead (k :: (mid ++ n :: rest)))
    {pending : Quote → Option CallShape} {lead : Text} {ks : List Mark}
    (hs : Division.Sound lead (ks.map toJoint)) (hl : Linked pending ks)
    (hp : pending r.quote ≠ some r.shape) : motive lead ks := by
  -- A hit jumps to the end of its call, so the induction is on the number of marks left.
  induction h : ks.length using Nat.strong_induction_on generalizing ks lead pending with
  | _ size ih =>
    cases ks with
    | nil => exact nil lead hs.quoteFree
    | cons k ks =>
      by_cases hk : k.quote = r.quote ∧ k.opened = some r.shape
      · obtain ⟨hq, ho⟩ := hk
        rcases next_cases r.quote ks with hlast | ⟨mid, n, rest, rfl, hmid, hn⟩
        · obtain ⟨-, -, n, hn, -⟩ := Joint.shape?_eq_some_iff.1 (hl.shape?_of_opened ho)
          have := List.find?_some hn
          obtain ⟨x, hx, rfl⟩ := List.mem_map.1 (List.mem_of_find?_eq_some hn)
          exact absurd (by simpa [hq] using this) (hlast x hx)
        · have soundRest : Division.Sound (n.body.drop 2) (rest.map toJoint) := by
            have behind : Division.Sound n.body (rest.map toJoint) :=
              Division.Sound.behind ((k :: mid).map toJoint) (by simpa using hs)
            have shorter := List.drop_suffix 2 n.body
            exact behind.replace (behind.quoteFree.of_suffix shorter) fun _ hm => hm.trans shorter
          obtain ⟨hclosed, pending', hl'⟩ := hl.next (by rwa [hq]) (by rw [hn, hq])
          have free : n.opened ≠ some r.shape := hl'.opened_ne_closed (hclosed.trans ho)
          have running : n.after pending' r.quote ≠ some r.shape := by
            rwa [after, if_pos hn.symm]
          have sound := sound_of_division hs n (by simp)
          obtain ⟨source, hpieces⟩ := pieces_hit hb hr hnew hl hs hq ho hmid hn
          exact hit lead k mid n rest source hq ho hmid hn free
            (textOf_cons_self hr hl sound hq ho hmid hn) hpieces
            (ih rest.length (by simp [← h]; omega) soundRest hl'.2.2 running rfl)
      · have hk' : k.quote = r.quote → k.opened ≠ some r.shape := fun hq ho => hk ⟨hq, ho⟩
        have hclosed : k.quote = r.quote → k.closed ≠ some r.shape := by
          intro hq
          rwa [hl.1, hq]
        have running : k.after pending r.quote ≠ some r.shape := by
          rw [after]
          split
          · rename_i hq
            exact hk' hq.symm
          · exact hp
        exact miss lead k ks hk' hclosed (pieces_miss hb hl hs hp hk')
          (ih ks.length (by simp [← h]) (sound_after hs.2.2.1 hs.2.2.2) hl.2.2 running rfl)

section Pass

variable {r : Rule} {pending : Quote → Option CallShape} {lead : Text} {ks : List Mark}

/-- The part of a rule in a partly converted text. -/
theorem apply_textOf (hb : Text.IsWord binding) (hr : r.binding = binding) (hnew : r ∉ done)
    (hs : Division.Sound lead (ks.map toJoint)) (hl : Linked pending ks)
    (hp : pending r.quote ≠ some r.shape) :
    r.apply (lead ++ textOf binding done ks)
      = (lead ++ textOf binding (r :: done) ks, hits r ks) := by
  refine pass_induction hb hr hnew (motive := fun lead ks => r.apply (lead ++ textOf binding done ks)
    = (lead ++ textOf binding (r :: done) ks, hits r ks)) ?nil ?miss ?hit hs hl hp
  case nil =>
    intro lead free
    simpa [hits] using Rule.apply_of_quoteFree free
  case miss =>
    intro lead k ks hopened hclosed hpieces ih
    rw [Rule.apply_of_copied hpieces, ih, hits_cons_of_ne hopened, textOf_cons,
      callText_cons_of_ne hopened, argumentText_cons_of_ne hclosed]
    simp
  case hit =>
    intro lead k mid n rest source hq ho hmid hn free converted hpieces ih
    have count : hits r (k :: (mid ++ n :: rest)) = hits r rest + 1 := by
      rw [hits, List.countP_cons_of_pos (by simp [hq, ho]), ← hits, hits_append,
        hits_of_ne hmid, hits_cons_of_ne fun _ => free, Nat.zero_add]
    rw [Rule.apply_of_call hpieces, ih, count, converted, hr, r.shape.loggerMethod_eq]
    simp [Console.Method.loggerOpening]

/-- A rule replaces the calls at its own marks, and no others. -/
theorem replaces_textOf_iff (hb : Text.IsWord binding) (hr : r.binding = binding) (hnew : r ∉ done)
    (hs : Division.Sound lead (ks.map toJoint)) (hl : Linked pending ks)
    (hp : pending r.quote ≠ some r.shape) (a : Text) :
    r.Replaces (lead ++ textOf binding done ks) a
      ↔ ∃ pre k post, ks = pre ++ k :: post ∧ k.quote = r.quote ∧ k.opened = some r.shape
        ∧ a = lead ++ textOf binding done pre := by
  refine pass_induction hb hr hnew (motive := fun lead ks => ∀ a,
    r.Replaces (lead ++ textOf binding done ks) a
      ↔ ∃ pre k post, ks = pre ++ k :: post ∧ k.quote = r.quote ∧ k.opened = some r.shape
        ∧ a = lead ++ textOf binding done pre) ?nil ?miss ?hit hs hl hp a
  case nil =>
    intro lead free a
    simpa using Rule.not_replaces_of_quoteFree free a
  case miss =>
    intro lead k ks hopened _ hpieces ih a
    rw [Rule.replaces_of_copied hpieces]
    constructor
    · rintro ⟨a', ha', rfl⟩
      obtain ⟨pre, k', post, rfl, hq, ho, rfl⟩ := (ih a').1 ha'
      exact ⟨k :: pre, k', post, rfl, hq, ho, by simp⟩
    · rintro ⟨pre, k', post, hks, hq, ho, rfl⟩
      rcases List.cons_eq_append_iff.1 hks with ⟨rfl, hks⟩ | ⟨pre, rfl, rfl⟩
      · obtain ⟨rfl, -⟩ := List.cons.inj hks
        exact absurd ho (hopened hq)
      · exact ⟨_, (ih _).2 ⟨pre, k', post, rfl, hq, ho, rfl⟩, by simp⟩
  case hit =>
    intro lead k mid n rest source hq ho hmid hn free _ hpieces ih a
    -- The source of the call is the text of the marks that it goes through.
    have layout : source ++ n.body.drop 2 = textOf binding done (k :: (mid ++ [n])) := by
      have whole := r.source_pieces (lead ++ textOf binding done (k :: (mid ++ n :: rest)))
      have later := r.source_pieces (n.body.drop 2 ++ textOf binding done rest)
      rw [hpieces, List.flatMap_append, Rule.source_copied, List.flatMap_cons, later,
        Rule.Piece.source] at whole
      have extended : source ++ n.body.drop 2 ++ textOf binding done rest
          = textOf binding done (k :: (mid ++ [n])) ++ textOf binding done rest := by
        simpa using whole
      exact List.append_cancel_right extended
    rw [Rule.replaces_of_call hpieces]
    constructor
    · rintro (rfl | ⟨a', ha', rfl⟩)
      · exact ⟨[], k, mid ++ n :: rest, rfl, hq, ho, by simp⟩
      · obtain ⟨pre, k', post, rfl, hq', ho', rfl⟩ := (ih a').1 ha'
        refine ⟨k :: (mid ++ n :: pre), k', post, by simp, hq', ho', ?_⟩
        have extended := congrArg (lead ++ · ++ textOf binding done pre) layout
        simpa using extended
    · rintro ⟨pre, k', post, hks, hq', ho', rfl⟩
      rcases List.cons_eq_append_iff.1 hks with ⟨rfl, -⟩ | ⟨pre, rfl, hks'⟩
      · exact .inl (by simp)
      · have behind : ∃ pre', pre = mid ++ n :: pre' ∧ rest = pre' ++ k' :: post := by
          rcases List.append_eq_append_iff.1 hks' with ⟨d, rfl, hd⟩ | ⟨d, rfl, hd⟩
          · rcases List.cons_eq_append_iff.1 hd with ⟨rfl, hd⟩ | ⟨d, rfl, rfl⟩
            · obtain ⟨rfl, -⟩ := List.cons.inj hd
              exact absurd ho' free
            · exact ⟨d, rfl, rfl⟩
          · cases d with
            | nil =>
              obtain ⟨rfl, -⟩ := List.cons.inj hd
              exact absurd ho' free
            | cons x d =>
              obtain ⟨rfl, -⟩ := List.cons.inj hd
              exact absurd hq' (hmid _ (by simp))
        obtain ⟨pre', rfl, rfl⟩ := behind
        refine .inr ⟨_, (ih _).2 ⟨pre', k', post, rfl, hq', ho', rfl⟩, ?_⟩
        have extended := congrArg (lead ++ · ++ textOf binding done pre') layout
        simpa using extended.symm

end Pass

/-! ## A list of rules -/

theorem textOf_congr {done done' : List Rule} (h : ∀ r, r ∈ done ↔ r ∈ done') (ks : List Mark) :
    textOf binding done ks = textOf binding done' ks := by
  have same : ∀ (k : Mark) (shape : Option CallShape),
      k.isDone binding done shape = k.isDone binding done' shape := by
    intro k shape
    simp only [isDone, h]
  have text : Mark.text binding done = Mark.text binding done' := by
    funext k
    simp only [Mark.text, callText, argumentText, same]
  rw [textOf, textOf, text]

theorem textOf_link (pending : Quote → Option CallShape) (js : List Joint) :
    textOf binding [] (link pending js) = js.flatMap Joint.text := by
  have untouched : ∀ k : Mark, k.text binding [] = k.toJoint.text := by
    intro k
    rw [text, callText_nil, argumentText_nil, Joint.text]
  calc textOf binding [] (link pending js)
      = (link pending js).flatMap fun k => k.toJoint.text := by
        rw [textOf, funext untouched]
    _ = ((link pending js).map toJoint).flatMap Joint.text := by rw [List.flatMap_map]
    _ = js.flatMap Joint.text := by rw [map_toJoint_link]

theorem run_textOf (hb : Text.IsWord binding) {rs : List Rule} (hr : ∀ r ∈ rs, r.binding = binding)
    (hnodup : rs.Nodup) (hnew : ∀ r ∈ rs, r ∉ done) {lead : Text} {ks : List Mark}
    (hs : Division.Sound lead (ks.map toJoint)) (hl : Linked (fun _ => none) ks) :
    Conversion.run rs (lead ++ textOf binding done ks)
      = ⟨lead ++ textOf binding (rs.reverse ++ done) ks, rs.map fun r => (r, hits r ks)⟩ := by
  induction rs generalizing done with
  | nil => rfl
  | cons r rs ih =>
    obtain ⟨hr₁, hr₂⟩ := List.forall_mem_cons.1 hr
    obtain ⟨hnew₁, hnew₂⟩ := List.forall_mem_cons.1 hnew
    obtain ⟨hnot, hnodup⟩ := List.nodup_cons.1 hnodup
    have fresh : ∀ x ∈ rs, x ∉ r :: done := by
      intro x hx hmem
      rcases List.mem_cons.1 hmem with rfl | hmem
      · exact hnot hx
      · exact hnew₂ x hx hmem
    rw [Conversion.run, apply_textOf hb hr₁ hnew₁ hs hl (by simp), ih hr₂ hnodup fresh]
    simp

end Mark

/-! ## Conversion of a text -/

namespace Conversion

/-- The text in front of the first joint. -/
def lead (s : Text) : Text := (Division.divide s).1

def marks (s : Text) : List Mark := Mark.link (fun _ => none) (Division.divide s).2

theorem linked_marks (s : Text) : Mark.Linked (fun _ => none) (marks s) := Mark.linked_link _ _

theorem sound_marks (s : Text) : Division.Sound (lead s) ((marks s).map Mark.toJoint) := by
  rw [marks, Mark.map_toJoint_link]
  exact Division.sound_divide s

/-- The marks behind some of a text are linked as well, whatever calls run there. -/
theorem exists_linked {s : Text} {pre ks : List Mark} (h : marks s = pre ++ ks) :
    ∃ pending, Mark.Linked pending ks := by
  obtain ⟨pending, hl, -⟩ := (h ▸ linked_marks s).of_append
  exact ⟨pending, hl⟩

theorem sound_of_marks {s : Text} {pre ks : List Mark} (h : marks s = pre ++ ks) :
    ∀ k ∈ ks, k.toJoint.Sound :=
  fun k hk => Mark.sound_of_division (sound_marks s) k (h ▸ List.mem_append_right pre hk)

theorem text_marks (binding s : Text) : lead s ++ Mark.textOf binding [] (marks s) = s := by
  rw [marks, Mark.textOf_link]
  exact Division.text_divide s

/-- The rules of a list, each applied once, convert the parts that are marked with them. -/
theorem run_eq {binding : Text} (hb : Text.IsWord binding) {rs : List Rule}
    (hr : ∀ r ∈ rs, r.binding = binding) (hnodup : rs.Nodup) (s : Text) :
    run rs s = ⟨lead s ++ Mark.textOf binding rs (marks s),
      rs.map fun r => (r, Mark.hits r (marks s))⟩ := by
  have run := Mark.run_textOf hb hr hnodup (fun _ _ => List.not_mem_nil) (sound_marks s)
    (linked_marks s)
  rw [text_marks, List.append_nil] at run
  rw [run, Mark.textOf_congr fun r => List.mem_reverse]

end Conversion

/-! ## All rules -/

theorem Rule.mem_all_iff {binding : Text} {r : Rule} :
    r ∈ Rule.all binding ↔ r.binding = binding := by
  obtain ⟨shape, quote, b⟩ := r
  constructor
  · intro h
    simp only [Rule.all, List.mem_flatMap, List.mem_map, Rule.mk.injEq] at h
    obtain ⟨_, -, _, -, -, -, rfl⟩ := h
    rfl
  · rintro rfl
    simp only [Rule.all, List.mem_flatMap, List.mem_map]
    exact ⟨shape, by cases shape <;> decide, quote, by cases quote <;> decide, rfl⟩

theorem Rule.nodup_all (binding : Text) : (Rule.all binding).Nodup := by
  simp [Rule.all, CallShape.all, Quote.all]

theorem Conversion.ofBinding_eq {binding : Text} (hb : Text.IsWord binding) (s : Text) :
    Conversion.ofBinding binding s
      = ⟨lead s ++ Mark.textOf binding (Rule.all binding) (marks s),
        (Rule.all binding).map fun r => (r, Mark.hits r (marks s))⟩ :=
  run_eq hb (fun _ => Rule.mem_all_iff.1) (Rule.nodup_all binding) s

end LogMigration
