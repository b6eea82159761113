import LogMigration.Proofs.MarkedRun

/-!
# Calls in a converted text

Where a rule matches in a text that has been converted, fully or in part.  A match opens directly in
front of a quote, so it belongs to a joint: either its statement was left alone, or a logger call in
its place reads like the statement again.

* `exists_joint_of_quote` — every quote of a converted text is the quote of a joint.
* `begins_textOf_iff` — the matches of a rule, by the joint that they open at.
* `begins_of_kept`, `occursIn_of_converted` — the two ways in which a match can be there.
* `kept_or_reads_back` — there is no other.
-/

set_option autoImplicit false

namespace LogMigration

/-- A text without quotes that ends another one lies behind its last quote. -/
theorem Text.QuoteFree.suffix_behind {p s t : Text} (hp : QuoteFree p) {q : Quote}
    (h : p <:+ s ++ q.char :: t) : p <:+ t := by
  rcases suffix_append_cases h with h | ⟨v, -, rfl, -⟩
  · rcases List.suffix_cons_iff.1 h with rfl | h
    · exact absurd (by simp) (hp q)
    · exact h
  · exact absurd (by simp) (hp q)

namespace Mark

variable {binding : Text} {done : List Rule}

/-! ## The text in front of a joint -/

/-- A text without quotes that stands in front of a joint stands behind the quote before it. -/
theorem suffix_front_iff {lead p : Text} {pre : List Mark} {x : Mark} (hp : Text.QuoteFree p) :
    p <:+ lead ++ textOf binding done (pre ++ [x])
      ↔ p <:+ x.argumentText binding done ++ x.body := by
  have split : lead ++ textOf binding done (pre ++ [x])
      = (lead ++ textOf binding done pre ++ x.callText binding done) ++ x.quote.char
        :: (x.argumentText binding done ++ x.body) := by simp
  rw [split]
  refine ⟨hp.suffix_behind, fun h => h.trans ?_⟩
  exact (List.suffix_cons _ _).trans (List.suffix_append _ _)

/-- A statement that is no part of a joint does not stand in front of it. -/
theorem not_suffix_front {lead : Text} {pre post : List Mark} {k : Mark}
    (hs : Division.Sound lead ((pre ++ k :: post).map toJoint)) (hc : k.call = none)
    (m : Console.Method) : ¬ m.opening <:+ lead ++ textOf binding done pre := by
  rcases List.eq_nil_or_concat pre with rfl | ⟨pre, x, rfl⟩
  · simpa using hs.2.1 hc m
  · rw [List.concat_eq_append] at hs ⊢
    rw [suffix_front_iff m.quoteFree_opening]
    intro h
    have sound := sound_of_division hs x (by simp)
    have behind : Division.Sound x.body (k.toJoint :: post.map toJoint) :=
      Division.Sound.behind (pre.map toJoint) (by simpa using hs)
    exact behind.2.1 hc m (suffix_body_of_suffix_after sound h)

/-- A text without quotes and closing brackets that stands in front of a joint stands there whatever
has been converted. -/
theorem suffix_front_of_suffix_front {lead p : Text} {pre : List Mark} {done' : List Rule}
    (hs : ∀ x ∈ pre, x.toJoint.Sound) (hp : Text.QuoteFree p) (hclose : ')' ∉ p)
    (h : p <:+ lead ++ textOf binding done pre) : p <:+ lead ++ textOf binding done' pre := by
  rcases List.eq_nil_or_concat pre with rfl | ⟨pre, x, rfl⟩
  · simpa using h
  · rw [List.concat_eq_append] at hs h ⊢
    rw [suffix_front_iff hp] at h ⊢
    refine List.IsSuffix.trans ?_ (List.suffix_append _ _)
    rcases Text.suffix_append_cases h with h | ⟨v, hv, rfl, hsuf⟩
    · exact h
    · cases he : x.exception with
      | none =>
        simp only [argumentText, he, Option.elim_none, List.suffix_nil] at hsuf
        exact absurd hsuf hv
      | some w =>
        obtain ⟨-, rest, hbody⟩ := (hs x (by simp)).argument w he
        exact absurd (by simp [hbody]) hclose

theorem exists_joint_of_quote (hb : Text.IsWord binding) {lead : Text} {ks : List Mark}
    (hs : Division.Sound lead (ks.map toJoint)) {q : Quote} {a z : Text}
    (h : lead ++ textOf binding done ks = a ++ q.char :: z) :
    ∃ pre k post, ks = pre ++ k :: post ∧ k.quote = q
      ∧ a = lead ++ textOf binding done pre ++ k.callText binding done
      ∧ z = k.argumentText binding done ++ k.body ++ textOf binding done post := by
  induction ks generalizing lead a with
  | nil =>
    have free := hs.quoteFree q
    rw [textOf_nil, List.append_nil] at h
    simp [h] at free
  | cons k ks ih =>
    have free : Text.QuoteFree (lead ++ k.callText binding done) :=
      Text.quoteFree_append.2 ⟨hs.quoteFree, quoteFree_callText hb k⟩
    rw [textOf_cons, ← List.append_assoc] at h
    rcases List.append_eq_append_iff.1 h with ⟨d, hd, hrest⟩ | ⟨d, hd, hrest⟩
    · cases d with
      | nil =>
        -- It is the quote of the first joint.
        obtain ⟨hq, rfl⟩ := List.cons.inj hrest
        exact ⟨[], k, ks, rfl, Quote.char_injective hq, by simpa using hd, rfl⟩
      | cons x d =>
        -- It stands behind the quote of the first joint.
        rw [List.cons_append] at hrest
        obtain ⟨rfl, hbehind⟩ := List.cons.inj hrest
        have sound : Division.Sound (k.argumentText binding done ++ k.body) (ks.map toJoint) :=
          sound_after hs.2.2.1 hs.2.2.2
        obtain ⟨pre, k', post, rfl, hq, hfront, hz⟩ := ih sound hbehind
        exact ⟨k :: pre, k', post, rfl, hq, by simp [hd, hfront], hz⟩
    · cases d with
      | nil =>
        obtain ⟨hq, rfl⟩ := List.cons.inj hrest
        exact ⟨[], k, ks, rfl, Quote.char_injective hq.symm, by simpa using hd.symm, rfl⟩
      | cons x d =>
        obtain ⟨rfl, -⟩ := List.cons.inj hrest
        exact absurd (by simp [hd]) (free q)

/-! ## Matches by their joint -/

section Match

variable {r : Rule} {lead : Text} {ks : List Mark}

theorem begins_textOf_iff (hb : Text.IsWord binding)
    (hs : Division.Sound lead (ks.map toJoint)) {a c : Text} :
    lead ++ textOf binding done ks = a ++ c ∧ r.begins c = true
      ↔ ∃ pre k post, ks = pre ++ k :: post ∧ k.quote = r.quote
        ∧ a ++ r.shape.consoleMethod.opening
          = lead ++ textOf binding done pre ++ k.callText binding done
        ∧ c = r.shape.consoleMethod.opening ++ r.quote.char
          :: (k.argumentText binding done ++ k.body ++ textOf binding done post)
        ∧ (r.body? (k.argumentText binding done ++ k.body ++ textOf binding done post)).isSome
          = true := by
  constructor
  · rintro ⟨heq, hc⟩
    obtain ⟨z, rfl, hz⟩ := Rule.begins_iff.1 hc
    rw [Rule.head_eq, List.append_assoc, List.singleton_append] at heq ⊢
    rw [← List.append_assoc] at heq
    obtain ⟨pre, k, post, rfl, hq, hfront, rfl⟩ := exists_joint_of_quote hb hs heq
    exact ⟨pre, k, post, rfl, hq, hfront, rfl, hz⟩
  · rintro ⟨pre, k, post, rfl, hq, hfront, rfl, hz⟩
    refine ⟨?_, Rule.begins_iff.2 ⟨_, by simp [Rule.head_eq], hz⟩⟩
    rw [textOf_append, textOf_cons, ← List.append_assoc, ← List.append_assoc, ← hfront, hq]
    simp

theorem begins_of_kept (hb : Text.IsWord binding) {pending : Quote → Option CallShape} {k : Mark}
    {post : List Mark} (hl : Linked pending (k :: post)) (hs : ∀ x ∈ k :: post, x.toJoint.Sound)
    (hq : k.quote = r.quote) (hshape : k.shape? (post.map toJoint) = some r.shape)
    (hd : k.isDone binding done k.opened = false) :
    r.begins (textOf binding done (k :: post)) = true := by
  have hc := (Joint.shape?_eq_some_iff.1 hshape).1
  have front : k.callText binding done = r.shape.consoleMethod.opening := by
    simp [callText, hc, hd]
  rw [Rule.begins_iff]
  refine ⟨_, ?_, (body?_linked_iff hb hl hs hq hc).2 ⟨hshape, fun _ => hd⟩⟩
  rw [textOf_cons, front, hq, Rule.head_eq]
  simp

/-- A logger call whose name completes `console` is a call again. -/
theorem occursIn_of_converted (hb : Text.IsWord binding) {pending : Quote → Option CallShape}
    {pre post : List Mark} {k : Mark} (hl : Linked pending (k :: post))
    (hs : Division.Sound lead ((pre ++ k :: post).map toJoint)) (hq : k.quote = r.quote)
    (hshape : k.shape? (post.map toJoint) = some r.shape)
    (hd : k.isDone binding done k.opened = true) (hexc : r.shape ≠ .errorWithException)
    (hlog : r.shape.consoleMethod ≠ .log)
    (hcon : "console".toList <:+ lead ++ textOf binding done pre ++ binding) :
    r.occursIn (lead ++ textOf binding done (pre ++ k :: post)) = true := by
  have sound := sound_of_append hs
  have hc := (Joint.shape?_eq_some_iff.1 hshape).1
  have body : (r.body? (k.argumentText binding done ++ k.body ++ textOf binding done post)).isSome
      = true := (body?_linked_iff hb hl sound hq hc).2 ⟨hshape, fun h => absurd h hexc⟩
  obtain ⟨a, ha⟩ := hcon
  have method : r.shape.consoleMethod.plainShape.loggerMethod = r.shape.consoleMethod.name := by
    cases hm : r.shape.consoleMethod <;> first | rfl | exact absurd hm hlog
  have front : a ++ r.shape.consoleMethod.opening
      = lead ++ textOf binding done pre ++ k.callText binding done := by
    simp only [callText, hc, hd, Option.elim_some, if_true, Console.Method.loggerOpening, method,
      Console.Method.opening_eq]
    rw [← List.append_assoc, ← List.append_assoc, ha]
  have found := (begins_textOf_iff hb hs).2 ⟨pre, k, post, rfl, hq, front, rfl, body⟩
  exact Rule.occursIn_iff.2 ⟨_, _, found⟩

/-- Every call in a converted text is one that was left alone or a logger call that reads like it. -/
theorem kept_or_reads_back (hb : Text.IsWord binding) {pending : Quote → Option CallShape}
    (hl : Linked pending ks) (hs : Division.Sound lead (ks.map toJoint))
    (h : r.occursIn (lead ++ textOf binding done ks) = true) :
    ∃ pre k post, ks = pre ++ k :: post ∧ k.quote = r.quote
      ∧ k.shape? (post.map toJoint) = some r.shape
      ∧ (k.isDone binding done k.opened = false
        ∨ k.isDone binding done k.opened = true ∧ r.shape ≠ .errorWithException
          ∧ r.shape.consoleMethod ≠ .log
          ∧ "console".toList <:+ lead ++ textOf binding done pre ++ binding) := by
  obtain ⟨a, c, h⟩ := Rule.occursIn_iff.1 h
  obtain ⟨pre, k, post, rfl, hq, hfront, -, hbody⟩ := (begins_textOf_iff hb hs).1 h
  obtain ⟨pending', hl', -⟩ := hl.of_append
  have sound := sound_of_append hs
  exact ⟨pre, k, post, rfl, hq,
    found_cases hb hl' sound (not_suffix_front hs) hq hbody ⟨a, hfront⟩⟩

end Match

/-! ## Calls that end at a joint -/

theorem ends_of_closed {pre post : List Mark} {k : Mark}
    (hl : Linked (fun _ => none) (pre ++ k :: post)) {shape : CallShape}
    (hc : k.closed = some shape) : k.ends shape = true := by
  rcases hl.closed_cases hc with ⟨h, -⟩ | ⟨pre', j, mid, rfl, hj, hmid, ho⟩
  · simp at h
  · rw [List.append_assoc, List.cons_append] at hl
    obtain ⟨_, hl', -⟩ := hl.of_append
    obtain ⟨-, -, n, hn, hends⟩ := Joint.shape?_eq_some_iff.1 (hl'.shape?_of_opened ho)
    rw [find?_next (by rwa [hj]) hj.symm] at hn
    cases hn
    exact hends

theorem ending_of_ends {k : Mark} (hs : k.toJoint.Sound) {shape : CallShape}
    (h : k.ends shape = true) :
    ∃ e, shape.IsEnding e ∧ e <+: k.toJoint.argumentText ++ k.body := by
  have found := splitArguments?_after (by decide : Text.IsWord []) [] hs shape []
  rw [if_pos ⟨h, fun _ => isDone_nil _ _ _⟩] at found
  obtain ⟨he, heq⟩ := CallShape.splitArguments?_eq_some_iff.1 found
  exact ⟨_, he, k.body.drop 2, by simpa using heq.symm⟩

end Mark

end LogMigration
