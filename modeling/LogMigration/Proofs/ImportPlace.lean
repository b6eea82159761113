import LogMigration.Proofs.ModuleReference

/-!
# Where the import goes

The import goes behind the last declaration that calls `require`, on a line of its own, and nothing
else in the text is touched.  A second look at the text finds it, from wherever it is taken.

* `Text.IsLine`, `Text.mem_lines_iff` — what a line of a text is.
* `Anchor.IsDeclaration`, `Anchor.isAnchor_iff` — what an anchor is.
* `Text.ofLines_append_cons`, `Text.lines_back` — a text divided behind one of its lines.
* `LoggerTarget.import_behind_last_declaration` — the place of the import, for every text.
* `LoggerTarget.reference_exact_and_found_again` — which texts refer to the module, and that those
  with the import do.
-/

set_option autoImplicit false

namespace LogMigration

/-! ## Lines of a text -/

namespace Text

/-- Whether the first text is a line of the second: it stands between newlines or ends of the text
and has no newline itself. -/
def IsLine (l s : Text) : Prop :=
  '\n' ∉ l ∧ ∃ x y, s = x ++ l ++ y ∧ (x = [] ∨ x.getLast? = some '\n')
    ∧ (y = [] ∨ y.head? = some '\n')

/-- Whether the second text is the last line of the first. -/
def EndsInLine (s l : Text) : Prop :=
  '\n' ∉ l ∧ ∃ x, s = x ++ l ∧ (x = [] ∨ x.getLast? = some '\n')

theorem lines_append_newline (x y : Text) : lines (x ++ '\n' :: y) = lines x ++ lines y :=
  splitAt_append_cons '\n' x y

theorem ofLines_append_cons (front : List Text) (l : Text) (back : List Text) :
    ofLines (front ++ l :: back)
      = front.flatMap (· ++ ['\n']) ++ l ++ back.flatMap ('\n' :: ·) :=
  joinWith_append_cons ['\n'] front l back

theorem front_cases (front : List Text) :
    front.flatMap (· ++ ['\n']) = [] ∨ (front.flatMap (· ++ ['\n'])).getLast? = some '\n' := by
  rcases List.eq_nil_or_concat front with rfl | ⟨front, m, rfl⟩
  · exact .inl rfl
  · right
    rw [List.concat_eq_append, List.flatMap_append, List.flatMap_singleton, ← List.append_assoc,
      List.getLast?_concat]

theorem lines_back {back : List Text} (h : ∀ m ∈ back, '\n' ∉ m) :
    lines (back.flatMap ('\n' :: ·)) = [] :: back := by
  have joined := ofLines_append_cons [] [] back
  rw [List.flatMap_nil, List.nil_append, List.nil_append, List.nil_append] at joined
  rw [← joined]
  exact splitAt_joinWith (by simp) (List.forall_mem_cons.2 ⟨List.not_mem_nil, h⟩)

theorem back_cases (back : List Text) :
    back.flatMap ('\n' :: ·) = [] ∨ (back.flatMap ('\n' :: ·)).head? = some '\n' := by
  cases back with
  | nil => exact .inl rfl
  | cons m back => exact .inr rfl

theorem mem_lines_iff {l s : Text} : l ∈ lines s ↔ IsLine l s := by
  constructor
  · intro h
    refine ⟨notMem_of_mem_splitAt h, ?_⟩
    obtain ⟨front, back, hlines⟩ := List.append_of_mem h
    refine ⟨_, _, ?_, front_cases front, back_cases back⟩
    rw [← ofLines_append_cons, ← hlines, ofLines_lines]
  · rintro ⟨hl, x, y, rfl, hx, hy⟩
    have here : l ∈ lines (l ++ y) := by
      rcases hy with rfl | hy
      · rw [List.append_nil, lines, splitAt_of_notMem hl]
        exact List.mem_singleton_self l
      · obtain ⟨y, rfl⟩ := List.head?_eq_some_iff.1 hy
        rw [lines_append_newline, lines, splitAt_of_notMem hl]
        exact List.mem_cons_self
    rw [List.append_assoc]
    rcases hx with rfl | hx
    · exact here
    · obtain ⟨x, rfl⟩ := List.getLast?_eq_some_iff.1 hx
      rw [List.append_assoc, List.singleton_append, lines_append_newline]
      exact List.mem_append_right _ here

theorem isLine_back_iff {back : List Text} (h : ∀ m ∈ back, '\n' ∉ m) {l : Text} :
    IsLine l (back.flatMap ('\n' :: ·)) ↔ l = [] ∨ l ∈ back := by
  rw [← mem_lines_iff, lines_back h, List.mem_cons]

end Text

/-! ## Anchors -/

namespace Anchor

/-- Whether a line has the form `const … = require(…);` with something in both places. -/
def IsDeclaration (line : Text) : Prop :=
  ∃ name argument : Text, name ≠ [] ∧ argument ≠ []
    ∧ line = "const ".toList ++ name ++ " = require(".toList ++ argument ++ ");".toList

theorem opensRequire_iff {s : Text} :
    opensRequire s = true ↔ ∃ t, s = " = require(".toList ++ t ∧ 3 ≤ t.length := by
  unfold opensRequire
  constructor
  · intro h
    split at h
    · rename_i c d e t ht
      exact ⟨c :: d :: e :: t, Text.eq_append_of_dropPrefix? ht, by simp⟩
    · simp at h
  · rintro ⟨t, rfl, ht⟩
    rw [Text.dropPrefix?_append]
    match t, ht with
    | _ :: _ :: _ :: _, _ => rfl

theorem isAnchor_iff {line : Text} : isAnchor line = true ↔ IsDeclaration line := by
  unfold isAnchor
  constructor
  · intro h
    split at h
    · rename_i c rest hline
      rw [Bool.and_eq_true, Text.endsWith_iff, Text.anySuffix_iff] at h
      obtain ⟨hend, x, y, rfl, hy⟩ := h
      obtain ⟨t, rfl, ht⟩ := opensRequire_iff.1 hy
      -- The two closing characters lie behind the opening of the call, with one more before them.
      have closing : ");".toList <:+ t := by
        refine List.suffix_of_suffix_length_le hend ?_ (le_trans (by decide) ht)
        exact (List.suffix_append _ t).trans (List.suffix_append x _)
      obtain ⟨argument, rfl⟩ := closing
      refine ⟨c :: x, argument, by simp, ?_, ?_⟩
      · rintro rfl
        simp at ht
      · rw [Text.eq_append_of_dropPrefix? hline]
        simp
    · simp at h
  · rintro ⟨name, argument, hname, hargument, rfl⟩
    obtain ⟨c, x, rfl⟩ := List.exists_cons_of_ne_nil hname
    simp only [List.append_assoc, Text.dropPrefix?_append, List.cons_append]
    rw [Bool.and_eq_true, Text.endsWith_iff, Text.anySuffix_iff]
    refine ⟨⟨x ++ (" = require(".toList ++ argument), by simp⟩,
      x, _, rfl, opensRequire_iff.2 ⟨_, rfl, ?_⟩⟩
    have some_argument := List.length_pos_iff.2 hargument
    rw [List.length_append]
    change 3 ≤ argument.length + 2
    omega

theorem IsDeclaration.ne_nil {line : Text} (h : IsDeclaration line) : line ≠ [] := by
  obtain ⟨name, argument, -, -, rfl⟩ := h
  simp

theorem isAnchor_eq_false_iff {line : Text} : isAnchor line = false ↔ ¬ IsDeclaration line := by
  rw [← Bool.not_eq_true, isAnchor_iff]

/-- Where there is a declaration, the new line goes behind the last one. -/
theorem exists_insertAfterLast? (new : Text) {ls : List Text} (h : ∃ l ∈ ls, IsDeclaration l) :
    ∃ pre l post, ls = pre ++ l :: post ∧ IsDeclaration l ∧ (∀ x ∈ post, ¬ IsDeclaration x)
      ∧ insertAfterLast? new ls = some (pre ++ l :: new :: post) := by
  obtain ⟨l, hl, hdeclaration⟩ := h
  cases hout : insertAfterLast? new ls with
  | none =>
    have plain := (insertAfterLast?_eq_none_iff new).1 hout l hl
    exact absurd hdeclaration (isAnchor_eq_false_iff.1 plain)
  | some out =>
    obtain ⟨pre, l, post, rfl, hl, hpost, rfl⟩ := exists_of_insertAfterLast? hout
    exact ⟨pre, l, post, rfl, isAnchor_iff.1 hl,
      fun x hx => isAnchor_eq_false_iff.1 (hpost x hx), rfl⟩

end Anchor

/-! ## The inserted line -/

namespace LoggerTarget

section Import

variable (cwd : Path) (target : LoggerTarget) (file : Path) {s : Text}

theorem ensureImport_of_inText (h : Reference.inText target.module s = true) :
    target.ensureImport cwd file s = (s, .alreadyPresent) := if_pos h

theorem ensureImport_of_not_inText (h : Reference.inText target.module s = false)
    (hs : ∀ l, Text.IsLine l s → ¬ Anchor.IsDeclaration l) :
    target.ensureImport cwd file s = (s, .noAnchor) := by
  have none_there : ∀ l ∈ Text.lines s, Anchor.isAnchor l = false := fun l hl =>
    Anchor.isAnchor_eq_false_iff.2 (hs l (Text.mem_lines_iff.1 hl))
  rw [ensureImport, if_neg (by simp [h])]
  dsimp only
  rw [(Anchor.insertAfterLast?_eq_none_iff _).2 none_there]

theorem ensureImport_of_declaration (h : Reference.inText target.module s = false)
    (hs : ∃ l, Text.IsLine l s ∧ Anchor.IsDeclaration l) :
    ∃ pre l post, Text.lines s = pre ++ l :: post ∧ Anchor.IsDeclaration l
      ∧ (∀ x ∈ post, ¬ Anchor.IsDeclaration x)
      ∧ target.ensureImport cwd file s
        = (Text.ofLines (pre ++ l :: target.importLine (target.specifier cwd file) :: post),
          .inserted (target.specifier cwd file)) := by
  obtain ⟨l, hl, hdeclaration⟩ := hs
  obtain ⟨pre, l, post, hlines, hl, hpost, hout⟩ :=
    Anchor.exists_insertAfterLast? (target.importLine (target.specifier cwd file))
      ⟨l, Text.mem_lines_iff.2 hl, hdeclaration⟩
  refine ⟨pre, l, post, hlines, hl, hpost, ?_⟩
  rw [ensureImport, if_neg (by simp [h])]
  dsimp only
  rw [hout]

theorem newline_importLine (specifier : Text) :
    '\n' :: target.importLine specifier = "\nconst ".toList ++ target.binding
      ++ " = require('".toList ++ specifier ++ "');".toList := by
  have keyword : '\n' :: "const ".toList = "\nconst ".toList := rfl
  rw [← keyword]
  rfl

/-- A text that has been given the import, or had it, is left as it is. -/
theorem ensureImport_again (cwd' file' : Path) (h : (target.ensureImport cwd file s).2 ≠ .noAnchor) :
    target.ensureImport cwd' file' (target.ensureImport cwd file s).1
      = ((target.ensureImport cwd file s).1, .alreadyPresent) := by
  refine ensureImport_of_inText cwd' target file' ?_
  rcases ensureImport_cases cwd target file s with
    ⟨href, heq⟩ | ⟨-, -, heq⟩ | ⟨-, -, t, heq⟩
  · rw [heq]
    exact href
  · exact absurd (congrArg Prod.snd heq) h
  · exact inText_of_inserted cwd target file (congrArg Prod.snd heq)

end Import

/-- The import is inserted exactly, whatever the text.  One that refers to the module is left as it
is, and so is one without a declaration.  In any other text the import stands on a line of its own
behind the last declaration, with the specifier of the file, and nothing else is changed. -/
theorem import_behind_last_declaration (cwd : Path) (target : LoggerTarget) (file : Path)
    (s : Text) :
    let edit := target.ensureImport cwd file s
    let specifier := target.specifier cwd file
    (Reference.inText target.module s = true → edit = (s, .alreadyPresent))
      ∧ (Reference.inText target.module s = false →
        (∀ l, Text.IsLine l s → ¬ Anchor.IsDeclaration l) → edit = (s, .noAnchor))
      ∧ (Reference.inText target.module s = false →
        (∃ l, Text.IsLine l s ∧ Anchor.IsDeclaration l) →
        edit.2 = .inserted specifier
          ∧ ∃ front back, s = front ++ back
            ∧ edit.1 = front ++ "\nconst ".toList ++ target.binding ++ " = require('".toList
              ++ specifier ++ "');".toList ++ back
            ∧ (∃ l, Text.EndsInLine front l ∧ Anchor.IsDeclaration l)
            ∧ (back = [] ∨ back.head? = some '\n')
            ∧ ∀ l, Text.IsLine l back → ¬ Anchor.IsDeclaration l) := by
  intro edit specifier
  refine ⟨ensureImport_of_inText cwd target file, ensureImport_of_not_inText cwd target file,
    fun h hs => ?_⟩
  obtain ⟨pre, l, post, hlines, hl, hpost, hedit⟩ :=
    ensureImport_of_declaration cwd target file h hs
  have newline_free : ∀ m ∈ pre ++ l :: post, '\n' ∉ m := by
    rw [← hlines]
    exact fun m hm => Text.notMem_of_mem_splitAt hm
  -- The text is divided behind the last declaration, in front of the newline that ends its line.
  refine ⟨congrArg Prod.snd hedit, pre.flatMap (· ++ ['\n']) ++ l, post.flatMap ('\n' :: ·), ?_, ?_,
    ⟨l, ⟨newline_free l (by simp), _, rfl, Text.front_cases pre⟩, hl⟩, Text.back_cases post,
    fun m hm hdeclaration => ?_⟩
  · rw [← Text.ofLines_append_cons, ← hlines, Text.ofLines_lines]
  · have text : edit.1 = pre.flatMap (· ++ ['\n']) ++ l
        ++ '\n' :: target.importLine specifier ++ post.flatMap ('\n' :: ·) := by
      simp only [edit, hedit, Text.ofLines_append_cons, List.flatMap_cons, List.append_assoc]
      rfl
    rw [text, newline_importLine]
    simp only [List.append_assoc]
  · rcases (Text.isLine_back_iff fun x hx => newline_free x (by simp [hx])).1 hm with rfl | hm
    · exact hdeclaration.ne_nil rfl
    · exact hpost m hm hdeclaration

/-- The second of two declarations is the last one, so the import stands behind it. -/
theorem import_behind_second_declaration :
    let s := "const a = require('a');\nconst b = require('b');\nf();\n".toList
    let edit := ({} : LoggerTarget).ensureImport ⟨"/".toList⟩ ⟨"src/a.js".toList⟩ s
    Reference.inText ({} : LoggerTarget).module s = false
      ∧ (∃ l, Text.IsLine l s ∧ Anchor.IsDeclaration l)
      ∧ edit.2 = .inserted "../utils/logger".toList
      ∧ ∃ front back, s = front ++ back
        ∧ edit.1 = front ++ "\nconst logger = require('../utils/logger');".toList ++ back
        ∧ (∃ l, Text.EndsInLine front l ∧ Anchor.IsDeclaration l)
        ∧ (back = [] ∨ back.head? = some '\n')
        ∧ ∀ l, Text.IsLine l back → ¬ Anchor.IsDeclaration l := by
  intro s edit
  have missing : Reference.inText ({} : LoggerTarget).module s = false := by decide +kernel
  have declared : ∃ l, Text.IsLine l s ∧ Anchor.IsDeclaration l :=
    ⟨"const a = require('a');".toList, Text.mem_lines_iff.1 (by decide +kernel),
      Anchor.isAnchor_iff.1 (by decide +kernel)⟩
  have specifier : ({} : LoggerTarget).specifier ⟨"/".toList⟩ ⟨"src/a.js".toList⟩
      = "../utils/logger".toList := by decide +kernel
  obtain ⟨houtcome, front, back, hdivision, htext, hfront, hhead, hback⟩ :=
    (import_behind_last_declaration ⟨"/".toList⟩ {} ⟨"src/a.js".toList⟩ s).2.2 missing declared
  rw [specifier] at houtcome htext
  refine ⟨missing, declared, houtcome, front, back, hdivision, ?_, hfront, hhead, hback⟩
  have line : "\nconst logger = require('../utils/logger');".toList
      = "\nconst ".toList ++ ({} : LoggerTarget).binding ++ " = require('".toList
        ++ "../utils/logger".toList ++ "');".toList := by decide +kernel
  rw [line]
  simpa only [List.append_assoc] using htext

/-- A text refers to a module exactly when a call of `require` on a quoted name of it stands there,
with any `./` and `../` in front of the module and perhaps `.js` behind it.  So once a text has been
given the import, or had it, it is left as it is, from wherever it is looked at. -/
theorem reference_exact_and_found_again (target : LoggerTarget) (s : Text) :
    (Reference.inText target.module s = true
        ↔ ∃ (white white' ending : Text) (segments : List Text) (q : Quote),
          Text.IsBlank white ∧ Text.IsBlank white'
            ∧ (∀ x ∈ segments, x = "./".toList ∨ x = "../".toList)
            ∧ (ending = [] ∨ ending = ".js".toList)
            ∧ "require(".toList ++ white ++ [q.char] ++ segments.flatten ++ target.module ++ ending
              ++ [q.char] ++ white' ++ ")".toList <:+: s)
      ∧ ∀ cwd cwd' file file' : Path, (target.ensureImport cwd file s).2 ≠ .noAnchor →
        target.ensureImport cwd' file' (target.ensureImport cwd file s).1
          = ((target.ensureImport cwd file s).1, .alreadyPresent) := by
  refine ⟨?_, fun cwd cwd' file file' => ensureImport_again cwd target file cwd' file'⟩
  have spelled : ∀ (white white' ending : Text) (segments : List Text) (q : Quote),
      Reference.source white q (segments.flatten ++ target.module ++ ending) white'
        = "require(".toList ++ white ++ [q.char] ++ segments.flatten ++ target.module ++ ending
          ++ [q.char] ++ white' ++ ")".toList := by
    intro white white' ending segments q
    rw [Reference.source_eq]
    simp only [List.append_assoc]
  rw [Reference.inText_iff]
  constructor
  · rintro ⟨white, q, name, white', hw, hw', ⟨segments, ending, hsegments, hending, rfl⟩, hs⟩
    exact ⟨white, white', ending, segments, q, hw, hw', hsegments, hending, by rwa [← spelled]⟩
  · rintro ⟨white, white', ending, segments, q, hw, hw', hsegments, hending, hs⟩
    exact ⟨white, q, _, white', hw, hw', ⟨segments, ending, hsegments, hending, rfl⟩,
      by rwa [spelled]⟩

/-- The module begins with `./` and ends in `.js` itself.  The import that is inserted for a file in
one directory is found from another one. -/
theorem found_again_from_other_directory :
    let target : LoggerTarget := { module := "./log.js".toList }
    let edit := target.ensureImport ⟨"/".toList⟩ ⟨"lib/x/a.js".toList⟩
      "const a = require('a');".toList
    edit.2 ≠ .noAnchor
      ∧ edit.1 = "const a = require('a');\nconst logger = require('../.././log.js');".toList
      ∧ target.ensureImport ⟨"/".toList⟩ ⟨"b.js".toList⟩ edit.1 = (edit.1, .alreadyPresent) := by
  intro target edit
  have inserted : edit.2 ≠ .noAnchor := by decide +kernel
  exact ⟨inserted, by decide +kernel,
    (reference_exact_and_found_again target "const a = require('a');".toList).2 _ _ _ _ inserted⟩

end LoggerTarget

end LogMigration
