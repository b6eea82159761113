import LogMigration.Proofs.ByteLines
import LogMigration.Proofs.ImportPlace

/-!
# Line ends of one and of two characters

A text may end its lines with a newline or with a carriage return and a newline.  Statements and
references are found in both alike.  A declaration is not: the carriage return belongs to its line,
and only the last line of a text has none.

* `Text.withReturns` — the text with a carriage return in front of each newline.
* `Text.lines_withReturns` — its lines.
* `Console.count_withReturns`, `Reference.inText_withReturns` — what does not change.
* `Anchor.declares_withReturns_iff` — which declarations are left.
* `LoggerTarget.outcome_withReturns_iff` — when the import comes to the same.
-/

set_option autoImplicit false

namespace LogMigration

namespace Text

/-- The text with a carriage return in front of each newline. -/
def withReturns (s : Text) : Text := s.flatMap fun c => if c = '\n' then ['\r', '\n'] else [c]

theorem withReturns_append (s t : Text) : withReturns (s ++ t) = withReturns s ++ withReturns t :=
  List.flatMap_append ..

theorem withReturns_of_notMem {s : Text} (h : '\n' ∉ s) : withReturns s = s := by
  induction s with
  | nil => rfl
  | cons c s ih =>
    obtain ⟨hc, hs⟩ := List.ne_and_not_mem_of_not_mem_cons h
    rw [withReturns, List.flatMap_cons, if_neg (Ne.symm hc), ← withReturns, ih hs,
      List.singleton_append]

/-- The carriage returns can be taken out again, if there was none before. -/
theorem filter_withReturns {s : Text} (h : '\r' ∉ s) : (withReturns s).filter (· ≠ '\r') = s := by
  induction s with
  | nil => rfl
  | cons c s ih =>
    obtain ⟨hc, hs⟩ := List.ne_and_not_mem_of_not_mem_cons h
    rw [withReturns, List.flatMap_cons, ← withReturns, List.filter_append, ih hs]
    split
    · rename_i hnewline
      rw [hnewline]
      rfl
    · simp [Ne.symm hc]

/-- Each line but the last one ends in a carriage return. -/
theorem lines_withReturns {s : Text} {front : List Text} {last : Text}
    (h : lines s = front ++ [last]) :
    lines (withReturns s) = front.map (· ++ ['\r']) ++ [last] := by
  have newline_free : ∀ l ∈ front ++ [last], '\n' ∉ l := h ▸ fun l hl => notMem_of_mem_splitAt hl
  obtain ⟨hfront, hlast⟩ := List.forall_mem_append.1 newline_free
  have line : ∀ l ∈ front, withReturns (l ++ ['\n']) = l ++ ['\r'] ++ ['\n'] := by
    intro l hl
    rw [withReturns_append, withReturns_of_notMem (hfront l hl), List.append_assoc]
    rfl
  have text : withReturns s = ofLines (front.map (· ++ ['\r']) ++ [last]) := by
    rw [← ofLines_lines s, h, ofLines_append_cons, ofLines_append_cons, List.flatMap_nil,
      List.append_nil, List.append_nil, withReturns_append,
      withReturns_of_notMem (hlast last List.mem_cons_self), List.flatMap_map, withReturns,
      List.flatMap_assoc]
    exact congrArg (· ++ last) (List.flatMap_congr line)
  rw [text]
  refine splitAt_joinWith (by simp) (List.forall_mem_append.2 ⟨?_, hlast⟩)
  intro _ hmem
  obtain ⟨l, hl, rfl⟩ := List.mem_map.1 hmem
  simpa using hfront l hl

theorem endsInLine_iff {s l : Text} : EndsInLine s l ↔ ∃ front, lines s = front ++ [l] := by
  constructor
  · rintro ⟨hl, x, rfl, hx⟩
    have alone : lines l = [l] := splitAt_of_notMem hl
    rcases hx with rfl | hx
    · exact ⟨[], alone⟩
    · obtain ⟨x, rfl⟩ := List.getLast?_eq_some_iff.1 hx
      refine ⟨lines x, ?_⟩
      rw [List.append_assoc, List.singleton_append, lines_append_newline, alone]
  · rintro ⟨front, h⟩
    have mem : l ∈ lines s := by
      rw [h]
      exact List.mem_append_right front List.mem_cons_self
    refine ⟨notMem_of_mem_splitAt mem, _, ?_, front_cases front⟩
    rw [← ofLines_lines s, h, ofLines_append_cons, List.flatMap_nil, List.append_nil]

theorem EndsInLine.isLine {s l : Text} (h : EndsInLine s l) : IsLine l s := by
  obtain ⟨hl, x, rfl, hx⟩ := h
  exact ⟨hl, x, [], (List.append_nil _).symm, hx, .inl rfl⟩

theorem exists_endsInLine (s : Text) : ∃ l, EndsInLine s l := by
  rcases List.eq_nil_or_concat (lines s) with h | ⟨front, last, h⟩
  · exact absurd h (lines_ne_nil s)
  · exact ⟨last, endsInLine_iff.2 ⟨front, by rw [h, List.concat_eq_append]⟩⟩

end Text

/-! ## What is found in both -/

/-- Statements are found on the same lines. -/
theorem Console.count_withReturns (s : Text) : count (Text.withReturns s) = count s := by
  obtain ⟨last, hlast⟩ := Text.exists_endsInLine s
  obtain ⟨front, hlines⟩ := Text.endsInLine_iff.1 hlast
  rw [count, count, Text.lines_withReturns hlines, hlines, List.countP_append, List.countP_append,
    List.countP_map]
  exact congrArg (· + _) (List.countP_congr fun l _ => by
    rw [Function.comp_apply, mentions_append_return])

namespace Reference

variable {module name : Text}

theorem Names.notMem (h : Names module name) {c : Char} (hc : c ∉ "./js".toList)
    (hm : c ∉ module) : c ∉ name := by
  obtain ⟨segments, ending, hsegments, hending, rfl⟩ := h
  have outside : ∀ t : Text, t ⊆ "./js".toList → c ∉ t := fun t ht hmem => hc (ht hmem)
  have front : c ∉ segments.flatten := by
    rw [List.mem_flatten]
    rintro ⟨x, hx, hmem⟩
    rcases hsegments x hx with rfl | rfl
    · exact outside _ (by decide) hmem
    · exact outside _ (by decide) hmem
  have back : c ∉ ending := by
    rcases hending with rfl | rfl
    · exact List.not_mem_nil
    · exact outside _ (by decide)
  simp [front, hm, back]

/-- The white space of a reference takes up its line ends. -/
theorem withReturns_source (hname : '\n' ∉ name) (w : Text) (q : Quote) (w' : Text) :
    Text.withReturns (source w q name w')
      = source (Text.withReturns w) q name (Text.withReturns w') := by
  have quote : Text.withReturns [q.char] = [q.char] := by cases q <;> rfl
  simp only [source_eq, Text.withReturns_append, Text.withReturns_of_notMem hname, quote]
  rfl

theorem filter_source (hname : '\r' ∉ name) (w : Text) (q : Quote) (w' : Text) :
    (source w q name w').filter (· ≠ '\r')
      = source (w.filter (· ≠ '\r')) q name (w'.filter (· ≠ '\r')) := by
  have quote : [q.char].filter (· ≠ '\r') = [q.char] := by cases q <;> rfl
  have kept : name.filter (· ≠ '\r') = name :=
    List.filter_eq_self.2 fun c hc => by simpa using ne_of_mem_of_not_mem hc hname
  simp only [source_eq, List.filter_append, kept, quote]
  rfl

theorem inText_withReturns {s : Text} (hs : '\r' ∉ s) (hnewline : '\n' ∉ module)
    (hreturn : '\r' ∉ module) : inText module (Text.withReturns s) = inText module s := by
  rw [Bool.eq_iff_iff, inText_iff, inText_iff]
  constructor
  · rintro ⟨w, q, name, w', hw, hw', hname, x, y, hxy⟩
    refine ⟨w.filter (· ≠ '\r'), q, name, w'.filter (· ≠ '\r'),
      fun c hc => hw c (List.mem_of_mem_filter hc), fun c hc => hw' c (List.mem_of_mem_filter hc),
      hname, x.filter (· ≠ '\r'), y.filter (· ≠ '\r'), ?_⟩
    rw [← filter_source (hname.notMem (by decide) hreturn), ← List.filter_append,
      ← List.filter_append, hxy, Text.filter_withReturns hs]
  · rintro ⟨w, q, name, w', hw, hw', hname, x, y, rfl⟩
    have ends : ∀ c ∈ ['\r', '\n'], Text.isWhite c = true := List.all_eq_true.1 (by decide)
    have blank : ∀ {w : Text}, Text.IsBlank w → Text.IsBlank (Text.withReturns w) := by
      intro w hw c hc
      obtain ⟨d, hd, hmem⟩ := List.mem_flatMap.1 hc
      split at hmem
      · exact ends c hmem
      · obtain rfl := List.mem_singleton.1 hmem
        exact hw c hd
    refine ⟨_, q, name, _, blank hw, blank hw', hname, Text.withReturns x, Text.withReturns y, ?_⟩
    rw [← withReturns_source (hname.notMem (by decide) hnewline), Text.withReturns_append,
      Text.withReturns_append]

end Reference

/-! ## What is lost -/

/-- Whether a line of the text is a declaration. -/
def Text.Declares (s : Text) : Prop := ∃ l, Text.IsLine l s ∧ Anchor.IsDeclaration l

namespace Anchor

theorem not_isDeclaration_append_return (l : Text) : ¬ IsDeclaration (l ++ ['\r']) := by
  rintro ⟨name, argument, -, -, h⟩
  have last := congrArg List.getLast? h
  rw [List.getLast?_concat, List.getLast?_append] at last
  simp at last

/-- Only the last line of a text is a declaration if each newline has a carriage return in front of
it. -/
theorem declares_withReturns_iff {s : Text} :
    (Text.withReturns s).Declares ↔ ∃ l, Text.EndsInLine s l ∧ IsDeclaration l := by
  obtain ⟨last, hlast⟩ := Text.exists_endsInLine s
  obtain ⟨front, hlines⟩ := Text.endsInLine_iff.1 hlast
  have lines := Text.lines_withReturns hlines
  constructor
  · rintro ⟨l, hl, hdeclaration⟩
    rw [← Text.mem_lines_iff, lines] at hl
    rcases List.mem_append.1 hl with hl | hl
    · obtain ⟨m, -, rfl⟩ := List.mem_map.1 hl
      exact absurd hdeclaration (not_isDeclaration_append_return m)
    · obtain rfl := List.mem_singleton.1 hl
      exact ⟨l, hlast, hdeclaration⟩
  · rintro ⟨l, hl, hdeclaration⟩
    obtain ⟨front', hlines'⟩ := Text.endsInLine_iff.1 hl
    refine ⟨l, Text.mem_lines_iff.1 ?_, hdeclaration⟩
    rw [Text.lines_withReturns hlines']
    exact List.mem_append_right _ List.mem_cons_self

end Anchor

namespace LoggerTarget

section Outcome

variable (cwd : Path) {target : LoggerTarget} (file : Path) {s t : Text}

theorem outcome_of_inText (h : Reference.inText target.module s = true) :
    (target.ensureImport cwd file s).2 = .alreadyPresent := by
  rw [ensureImport_of_inText cwd target file h]

theorem outcome_of_declares (h : Reference.inText target.module s = false) (hs : s.Declares) :
    (target.ensureImport cwd file s).2 = .inserted (target.specifier cwd file) := by
  obtain ⟨pre, l, post, -, -, -, hedit⟩ := ensureImport_of_declaration cwd target file h hs
  rw [hedit]

theorem outcome_of_not_declares (h : Reference.inText target.module s = false)
    (hs : ¬ s.Declares) : (target.ensureImport cwd file s).2 = .noAnchor := by
  have none_there : ∀ l, Text.IsLine l s → ¬ Anchor.IsDeclaration l :=
    fun l hl hdeclaration => hs ⟨l, hl, hdeclaration⟩
  rw [ensureImport_of_not_inText cwd target file h none_there]

/-- What becomes of the import depends on nothing else. -/
theorem outcome_congr (href : Reference.inText target.module t = Reference.inText target.module s)
    (hdeclares : t.Declares ↔ s.Declares) :
    (target.ensureImport cwd file t).2 = (target.ensureImport cwd file s).2 := by
  cases h : Reference.inText target.module s with
  | true => rw [outcome_of_inText cwd file h, outcome_of_inText cwd file (href.trans h)]
  | false =>
    by_cases hs : s.Declares
    · rw [outcome_of_declares cwd file h hs,
        outcome_of_declares cwd file (href.trans h) (hdeclares.2 hs)]
    · rw [outcome_of_not_declares cwd file h hs,
        outcome_of_not_declares cwd file (href.trans h) (mt hdeclares.1 hs)]

end Outcome

/-- With a carriage return in front of each newline of a text, the import comes to the same exactly
if the text refers to the module, has no declaration, or has one for its last line.  Otherwise there
is no import where one would be inserted: the carriage return keeps every declaration from being
one.  Statements are found on the same lines in both. -/
theorem outcome_withReturns_iff (cwd : Path) {target : LoggerTarget} (file : Path) {s : Text}
    (hs : '\r' ∉ s) (hnewline : '\n' ∉ target.module) (hreturn : '\r' ∉ target.module) :
    let outcome (t : Text) : ImportOutcome := (target.ensureImport cwd file t).2
    (outcome (Text.withReturns s) = outcome s ↔ Reference.inText target.module s = true
        ∨ ¬ s.Declares ∨ ∃ l, Text.EndsInLine s l ∧ Anchor.IsDeclaration l)
      ∧ (outcome (Text.withReturns s) ≠ outcome s →
        outcome s = .inserted (target.specifier cwd file)
          ∧ outcome (Text.withReturns s) = .noAnchor)
      ∧ Console.count (Text.withReturns s) = Console.count s := by
  intro outcome
  have same := Reference.inText_withReturns hs hnewline hreturn
  have declares := Anchor.declares_withReturns_iff (s := s)
  have counted := Console.count_withReturns s
  by_cases h : Reference.inText target.module s = true
      ∨ ¬ s.Declares ∨ ∃ l, Text.EndsInLine s l ∧ Anchor.IsDeclaration l
  · have kept : outcome (Text.withReturns s) = outcome s := by
      rcases h with href | hnone | hlast
      · exact (outcome_of_inText cwd file (same.trans href)).trans
          (outcome_of_inText cwd file href).symm
      · refine outcome_congr cwd file same (iff_of_false (fun hmore => ?_) hnone)
        obtain ⟨l, hl, hdeclaration⟩ := declares.1 hmore
        exact hnone ⟨l, hl.isLine, hdeclaration⟩
      · refine outcome_congr cwd file same (iff_of_true (declares.2 hlast) ?_)
        obtain ⟨l, hl, hdeclaration⟩ := hlast
        exact ⟨l, hl.isLine, hdeclaration⟩
    exact ⟨iff_of_true kept h, absurd kept, counted⟩
  · obtain ⟨href, hdeclares, hlast⟩ : _ ∧ _ ∧ _ := by simpa only [not_or, not_not] using h
    have missing : Reference.inText target.module s = false := by simpa using href
    have inserted := outcome_of_declares cwd file missing hdeclares
    have lost : outcome (Text.withReturns s) = .noAnchor :=
      outcome_of_not_declares cwd file (same.trans missing) (mt declares.1 hlast)
    refine ⟨iff_of_false (fun equal => ?_) h, fun _ => ⟨inserted, lost⟩, counted⟩
    have clash := (lost.symm.trans equal).trans inserted
    cases clash

/-- A declaration that is not on the last line: with newlines alone the import goes behind it, and
with carriage returns there is nothing to put it behind. -/
theorem no_anchor_with_returns :
    let s := "const a = require('a');\nf();\n".toList
    let outcome (t : Text) : ImportOutcome :=
      (({} : LoggerTarget).ensureImport ⟨"/".toList⟩ ⟨"src/a.js".toList⟩ t).2
    '\r' ∉ s ∧ '\n' ∉ ({} : LoggerTarget).module ∧ '\r' ∉ ({} : LoggerTarget).module
      ∧ Text.withReturns s = "const a = require('a');\r\nf();\r\n".toList
      ∧ outcome s = .inserted "../utils/logger".toList
      ∧ outcome (Text.withReturns s) = .noAnchor := by
  intro s outcome
  have plain : '\r' ∉ s := by decide
  have newline : '\n' ∉ ({} : LoggerTarget).module := by decide
  have noReturn : '\r' ∉ ({} : LoggerTarget).module := by decide
  obtain ⟨same, differ, -⟩ :=
    outcome_withReturns_iff ⟨"/".toList⟩ ⟨"src/a.js".toList⟩ plain newline noReturn
  have missing : Reference.inText ({} : LoggerTarget).module s = false := by decide +kernel
  have declared : Text.Declares s :=
    ⟨"const a = require('a');".toList, Text.mem_lines_iff.1 (by decide +kernel),
      Anchor.isAnchor_iff.1 (by decide +kernel)⟩
  have lines : Text.lines s = ["const a = require('a');".toList, "f();".toList] ++ [[]] := by
    decide +kernel
  obtain ⟨inserted, left⟩ := differ fun equal => by
    rcases same.1 equal with href | hnone | ⟨l, hl, hdeclaration⟩
    · rw [missing] at href
      cases href
    · exact hnone declared
    · obtain ⟨front, hfront⟩ := Text.endsInLine_iff.1 hl
      rw [lines] at hfront
      obtain rfl : [] = l := List.singleton_inj.1 (List.append_inj_right' hfront rfl)
      exact hdeclaration.ne_nil rfl
  have specifier : ({} : LoggerTarget).specifier ⟨"/".toList⟩ ⟨"src/a.js".toList⟩
      = "../utils/logger".toList := by decide +kernel
  exact ⟨plain, newline, noReturn, by decide, by rw [← specifier]; exact inserted, left⟩

end LoggerTarget

end LogMigration
