import LogMigration.Proofs.LineCount
import LogMigration.Proofs.RunAccount

/-!
# Statements found, replaced and remaining

A run adds up three figures: the statements that the first scan finds, those that the conversions
remove and those that the final scan finds.  For each listed file the first is the sum of the other
two, unless a write has left only the beginning of a text, and the files are the same in both scans.

* `Config.found`, `Config.removedFrom` — the figures of one listed file.
* `Workspace.NeverCuts` — no write leaves only a beginning.
* `found_eq_removedFrom_add_found` — the balance of one file.
* `found_eq_replaced_add_remaining` — the balance of a run.
* `RunRecord.Reports.counted` — the figures of an outcome are those of two texts.
* `before_eq_removed_add_after` — the balance of each outcome.
-/

set_option autoImplicit false

namespace LogMigration

open FileTree

/-! ## One file -/

/-- The statements that a scan finds in a listed file. -/
def Config.found (c : Config) (w : Workspace) (p : Path) : Nat :=
  (c.visit w p).candidate?.elim 0 Candidate.count

/-- The statements that the conversion of a listed file removes. -/
def Config.removedFrom (c : Config) (w : Workspace) (p : Path) : Nat :=
  ((c.visit w p).candidate?.bind (c.achieved w)).elim 0 FileOutcome.removed

/-- Whether no file below a root is cut short when it cannot be written. -/
def Workspace.NeverCuts (w : Workspace) (root : Path) : Prop :=
  ∀ names p error room, (names, p) ∈ w.tree.filesBelow w.cwd root →
    w.fault? p ≠ some (.full error room)

theorem Workspace.neverCuts_of_faults {w : Workspace}
    (h : ∀ f ∈ w.faults, ∃ error, f.2 = .refused error) (root : Path) : w.NeverCuts root := by
  intro _ p error room _ hfault
  unfold fault? at hfault
  cases hway : w.tree.resolve w.cwd p true with
  | error e =>
    rw [hway] at hfault
    cases hfault
  | ok l =>
    rw [hway] at hfault
    obtain ⟨f, hfound, hf⟩ := Option.map_eq_some_iff.1 hfault
    obtain ⟨error', refused⟩ := h f (List.mem_of_find?_eq_some hfound)
    cases hf.symm.trans refused

/-- A file that cannot be written and is not cut short stays as it is. -/
theorem tried_of_editError?_eq_some {w : Workspace} {target : LoggerTarget} {p : Path}
    {l : Location} {content : Bytes} {text : Text} {e : IoError}
    (hp : w.tree.resolve w.cwd p true = .ok l)
    (h : w.editError? p text (SourceEdit.of w.directory target p text) = some e)
    (hcut : ∀ error room, w.fault? p ≠ some (.full error room)) :
    w.tried target p l content = content := by
  have kept : ∀ new, w.stored l content new = content := by
    intro new
    have here := Workspace.fault?_of_resolve hp
    unfold Workspace.stored
    cases hfault : w.faultAt? l with
    | none =>
      -- Nothing keeps the file from being written.
      rw [Workspace.editError?_of_fault? (here.trans hfault)] at h
      cases h
    | some fault =>
      cases fault with
      | refused error => rfl
      | full error room => exact absurd (here.trans hfault) (hcut error room)
  unfold Workspace.tried
  simp only [kept, ite_self]

section File

variable {c : Config} {w : Workspace} {p : Path} {l : Location} {content : Bytes}
  {executable : Bool}

theorem found_of_excluded (h : c.excludes p = true) : c.found w p = 0 := by
  rw [Config.found, Config.visit, if_pos h]
  rfl

theorem candidate?_of_resolve (hp : w.tree.resolve w.cwd p true = .ok l)
    (h : w.tree.get? l = some (.file content executable)) (hincluded : c.excludes p = false) :
    (c.visit w p).candidate? = if 0 < Console.count (Utf8.decodeLossy content) then
      some ⟨p, Console.count (Utf8.decodeLossy content)⟩ else none := by
  rw [Config.visit, hincluded, Builtin.count_of_resolve hp h]
  cases Console.count (Utf8.decodeLossy content) <;> rfl

theorem found_of_resolve (hp : w.tree.resolve w.cwd p true = .ok l)
    (h : w.tree.get? l = some (.file content executable)) (hincluded : c.excludes p = false) :
    c.found w p = Console.count (Utf8.decodeLossy content) := by
  rw [Config.found, candidate?_of_resolve hp h hincluded]
  split
  · rfl
  · exact (Nat.eq_zero_of_not_pos ‹_›).symm

variable {base : Location} (ht : w.tree.WellFormed)
  (hroot : w.tree.resolve w.cwd c.root true = .ok base)
  (hb : Text.IsWord c.logger.binding) (hm : Console.mentions c.logger.module = false)

include ht hroot hb hm

/-- What is found in a listed file is removed by its conversion or found again.  A file that is not
UTF-8 or cannot be written stays as it is. -/
theorem found_eq_removedFrom_add_found (hp : walkPath? c.root base l = some p)
    (h : w.tree.get? l = some (.file content executable))
    (hextension : p.extension? = some c.extension)
    (hcut : ∀ error room, w.fault? p ≠ some (.full error room)) :
    c.found w p = c.removedFrom w p
      + c.found (w.mapFiles (c.converted w base)) p := by
  have way := ht.resolve_walkPath hroot hp h
  have way' : (w.mapFiles (c.converted w base)).tree.resolve w.cwd p true = .ok l :=
    (resolve_mapFiles _ w.cwd p true).trans way
  have after : (w.mapFiles (c.converted w base)).tree.get? l
      = some (.file (c.converted w base l content) executable) := by
    rw [Workspace.tree_mapFiles, get?_mapFiles, h]
    rfl
  cases hexcluded : c.excludes p with
  | true =>
    rw [found_of_excluded hexcluded, found_of_excluded hexcluded, Config.removedFrom, Config.visit,
      if_pos hexcluded]
    rfl
  | false =>
    rw [found_of_resolve way h hexcluded, found_of_resolve way' after hexcluded,
      Config.removedFrom, candidate?_of_resolve way h hexcluded]
    by_cases hcount : 0 < Console.count (Utf8.decodeLossy content)
    · have converted : c.converted w base l content = w.tried c.logger p l content := by
        simp only [Config.converted, hp, hextension, hexcluded, hcount, and_self, if_true]
      rw [if_pos hcount, converted, Option.bind_some, Config.achieved]
      cases hdecode : Utf8.decode content with
      | error e =>
        have same : w.tried c.logger p l content = content := by
          simp only [Workspace.tried, SourceEdit.rewritten, hdecode, if_true]
        simp only [Workspace.readText_of_decode_error way h hdecode, same, Option.elim_none,
          Nat.zero_add]
      | ok text =>
        rw [Workspace.readText_of_decode way h hdecode]
        dsimp only
        cases herror : w.editError? p text (SourceEdit.of w.directory c.logger p text) with
        | none =>
          have fewer := SourceEdit.count_text_le w.directory p hb hm text
          simp only [tried_of_editError? way hdecode herror, Utf8.decodeLossy_of_decode hdecode,
            Utf8.decodeLossy_encode, FileRun.outcome?, Option.elim_some, FileOutcome.removed,
            SourceEdit.left]
          omega
        | some e =>
          simp only [tried_of_editError?_eq_some way herror hcut, Option.elim_none, Nat.zero_add]
    · have same : c.converted w base l content = content := by
        simp only [Config.converted, hp, hcount, and_false, if_false]
      rw [if_neg hcount, same, Option.bind_none, Option.elim_none, Nat.zero_add]

end File

/-! ## The scans of a run -/

theorem tally_candidates (c : Config) (w : Workspace) (paths : List Path) :
    tally Candidate.count (Discovery.ofVisits (paths.map (c.visit w))).candidates
      = tally (c.found w) paths := by
  simp only [Discovery.ofVisits, List.filterMap_map, tally_filterMap]
  rfl

theorem tally_removed (c : Config) (w : Workspace) (paths : List Path) :
    tally FileOutcome.removed
        ((Discovery.ofVisits (paths.map (c.visit w))).candidates.filterMap (c.achieved w))
      = tally (c.removedFrom w) paths := by
  simp only [Discovery.ofVisits, List.filterMap_map, List.filterMap_filterMap, tally_filterMap]
  rfl

section Run

variable {c : Config} (hb : Text.IsWord c.logger.binding)
  (hm : Console.mentions c.logger.module = false) {w : Workspace} (ht : w.tree.WellFormed)

include ht hb hm in
theorem tally_found_eq {base : Location} (hroot : w.tree.resolve w.cwd c.root true = .ok base)
    {paths : List Path} (hlist : Builtin.enumerate w c.root c.extension = .ok paths)
    (hcuts : w.NeverCuts c.root) :
    tally (c.found w) paths = tally (c.removedFrom w) paths
      + tally (c.found (w.mapFiles (c.converted w base))) paths := by
  rw [← tally_add]
  refine tally_congr fun p hp => ?_
  obtain ⟨names, hfile, -⟩ := (Builtin.mem_enumerate_iff hlist).1 hp
  obtain ⟨l, content, executable, hl, hp, hext⟩ := (Builtin.mem_of_enumerate ht hroot hlist).1 hp
  exact found_eq_removedFrom_add_found ht hroot hb hm hp hl hext
    fun error room => hcuts names p error room hfile

omit hb hm in
/-- The first scan of a run adds up what is found in the listed files. -/
theorem RunRecord.Reports.tally_discovery {r : RunRecord} {base : Location} {paths : List Path}
    (h : r.Reports c w base paths) :
    tally Candidate.count r.discovery.candidates = tally (c.found w) paths := by
  obtain ⟨listing, hperm, visits⟩ := h.scanned
  rw [RunRecord.discovery, visits, tally_candidates, tally_perm _ hperm]

include ht hb hm in
/-- What the first scan of a run finds is removed or found by the final scan. -/
theorem RunRecord.IsOf.balance {r : RunRecord} {base : Location} {paths : List Path}
    (h : r.IsOf c w base paths) (hcuts : w.NeverCuts c.root)
    (hlimit : tally Candidate.count r.discovery.candidates < countLimit) :
    r.discovery.total = r.totals.replacements + r.remaining.total := by
  obtain ⟨listing, hperm, visits⟩ := h.scanned
  obtain ⟨listing', hperm', rescanned⟩ := h.rescanned
  have found := h.tally_discovery
  have removed : tally FileOutcome.removed r.outcomes = tally (c.removedFrom w) paths := by
    rw [RunRecord.outcomes_eq, h.converted, List.filterMap_map,
      RunRecord.discovery, visits, ← tally_perm _ hperm, ← tally_removed]
    rfl
  have left : tally Candidate.count r.remaining.files
      = tally (c.found (w.mapFiles (c.converted w base))) paths := by
    rw [RunRecord.remaining, rescanned, ← tally_perm _ hperm', ← tally_candidates]
    rfl
  have balance := tally_found_eq hb hm ht h.root h.listed hcuts
  have replaced : r.totals.replacements = wrapped (tally FileOutcome.removed r.outcomes) :=
    r.accounts_totals.replacements
  rw [found] at hlimit
  rw [Discovery.total, found, replaced, removed, Remaining.total, left, wrapped_of_lt hlimit,
    wrapped_of_lt (by omega), wrapped_of_lt (by omega), balance]

end Run

/-- Whether the figures of a run balance, if the statements that are found can be counted. -/
def RunRecord.IsBalanced (r : RunRecord) : Prop :=
  tally Candidate.count r.discovery.candidates < countLimit →
    r.discovery.total = r.totals.replacements + r.remaining.total

/-- A run of the builtin backend with a logger whose name is an identifier and whose module's name
mentions no statement, on any tree where no file is cut short: below a directory there is a report,
and each report says that the statements found are those replaced and those remaining, also where
files cannot be opened for writing.  So it is in whatever order the files are listed. -/
theorem found_eq_replaced_add_remaining {w : Workspace} (ht : w.tree.WellFormed) {c : Config}
    (hc : c.backend = .builtin) (hb : Config.isIdentifier c.logger.binding = true)
    (hm : Console.mentions c.logger.module = false) (hcuts : w.NeverCuts c.root) :
    (w.isDirectory c.root = true → ∃ r, (convertTree c.countBackend c false (w, ())).1 = .ok r)
      ∧ (∀ r, (convertTree c.countBackend c false (w, ())).1 = .ok r → r.IsBalanced)
      ∧ ∀ (σ : Type) (b : CountBackend σ) (state : σ), b.ReordersBuiltin →
        ∀ r, (convertTree b c false (w, state)).1 = .ok r → r.IsBalanced := by
  have word := Text.isWord_of_isIdentifier hb
  have builtin := Config.countBackend_reordersBuiltin hc
  have balanced : ∀ (σ : Type) (b : CountBackend σ) (state : σ), b.ReordersBuiltin →
      ∀ r, (convertTree b c false (w, state)).1 = .ok r → r.IsBalanced := by
    intro σ b state hreorders r hr
    obtain ⟨base, paths, isOf⟩ := isOf_of_convertTree hreorders ht hr
    exact isOf.balance word hm ht hcuts
  exact ⟨exists_record builtin (), balanced Unit c.countBackend () builtin, balanced⟩

/-- A file with a call that is converted and one that is not, a file that is no text and one that
cannot be opened for writing: four lines with statements are found, however the files are listed,
and they are replaced or remain. -/
theorem balance_converted_kept_and_binary :
    let statements := Utf8.encode "console.log('x');\nconsole.log(1);".toList
    let binary := Utf8.encode "console.warn('x');".toList ++ [0xff]
    let closed := Utf8.encode "console.log('x');".toList
    let w : Workspace := {
      tree := ⟨[(["src".toList], .directory),
        (["src".toList, "a.js".toList], .file statements false),
        (["src".toList, "b.js".toList], .file binary false),
        (["src".toList, "c.js".toList], .file closed false)]⟩
      faults := [(["src".toList, "c.js".toList], .refused .permissionDenied)] }
    (∃ r, (convertTree (Config.countBackend {}) {} false (w, ())).1 = .ok r
        ∧ r.discovery.total = r.totals.replacements + r.remaining.total)
      ∧ ∀ r, (convertTree Builtin.reversed {} false (w, ())).1 = .ok r →
        4 = r.totals.replacements + r.remaining.total := by
  intro statements binary closed w
  have wellFormed : w.tree.WellFormed :=
    ⟨by decide +kernel, by decide +kernel, by decide +kernel⟩
  have whole : w.NeverCuts (Config.root {}) :=
    Workspace.neverCuts_of_faults (by simp [w]) _
  obtain ⟨report, balanced, reordered⟩ := found_eq_replaced_add_remaining wellFormed (c := {}) rfl
    (by decide) (by decide) whole
  have directory : w.tree.get? ["src".toList] = some .directory := by decide +kernel
  have root : w.tree.resolve w.cwd ⟨"src".toList⟩ true = .ok ["src".toList] :=
    wellFormed.resolve_relative rfl (by decide) (by decide) (by decide +kernel) directory (by simp)
  have listing : Builtin.enumerate w ⟨"src".toList⟩ "js".toList
      = .ok [⟨"src/a.js".toList⟩, ⟨"src/b.js".toList⟩, ⟨"src/c.js".toList⟩] := by
    rw [Builtin.enumerate_of_directory root directory, filesBelow_eq root]
    exact congrArg _ (by decide +kernel)
  have found_in : ∀ l p content n, w.tree.get? l = some (.file content false) →
      walkPath? ⟨"src".toList⟩ ["src".toList] l = some p → Config.excludes {} p = false →
      Console.count (Utf8.decodeLossy content) = n → Config.found {} w p = n :=
    fun _ _ _ _ here hp included counted =>
      (found_of_resolve (wellFormed.resolve_walkPath root hp here) here included).trans counted
  have first : Config.found {} w ⟨"src/a.js".toList⟩ = 2 :=
    found_in ["src".toList, "a.js".toList] _ statements _
      (by decide +kernel) (by decide +kernel) (by decide +kernel) (by decide +kernel)
  have second : Config.found {} w ⟨"src/b.js".toList⟩ = 1 :=
    found_in ["src".toList, "b.js".toList] _ binary _
      (by decide +kernel) (by decide +kernel) (by decide +kernel) (by decide +kernel)
  have third : Config.found {} w ⟨"src/c.js".toList⟩ = 1 :=
    found_in ["src".toList, "c.js".toList] _ closed _
      (by decide +kernel) (by decide +kernel) (by decide +kernel) (by decide +kernel)
  have found : tally (Config.found {} w)
      [⟨"src/a.js".toList⟩, ⟨"src/b.js".toList⟩, ⟨"src/c.js".toList⟩] = 4 := by
    rw [tally_cons, tally_cons, tally_cons, tally_nil, first, second, third]
  have sum : ∀ (b : CountBackend Unit) (r : RunRecord), b.ReordersBuiltin →
      (convertTree b {} false (w, ())).1 = .ok r →
      tally Candidate.count r.discovery.candidates = 4 := by
    intro b r hb hr
    obtain ⟨base, paths, isOf⟩ := isOf_of_convertTree hb wellFormed hr
    have listed : Builtin.enumerate w ⟨"src".toList⟩ "js".toList = .ok paths := isOf.listed
    rw [listing] at listed
    obtain rfl := Except.ok.inj listed
    exact isOf.toReports.tally_discovery.trans found
  refine ⟨?_, fun r hr => ?_⟩
  · obtain ⟨r, hr⟩ := report (Builtin.isDirectory_of_resolve root directory)
    have four := sum _ r Builtin.reordersBuiltin hr
    exact ⟨r, hr, balanced r hr (by rw [four]; decide)⟩
  · have four := sum _ r Builtin.reversed_reordersBuiltin hr
    have total : r.discovery.total = 4 := by
      rw [Discovery.total, four]
      rfl
    rw [← total]
    exact reordered Unit Builtin.reversed () Builtin.reversed_reordersBuiltin r hr
      (by rw [four]; decide)

/-! ## Outcomes -/

theorem count_of_candidate? {c : Config} {w : Workspace} {p : Path} {l : Location}
    {content : Bytes} {executable : Bool} (hp : w.tree.resolve w.cwd p true = .ok l)
    (h : w.tree.get? l = some (.file content executable)) {candidate : Candidate}
    (hcandidate : (c.visit w p).candidate? = some candidate) {text : Text}
    (hread : w.readText candidate.path = .ok text) : candidate.count = Console.count text := by
  have included : c.excludes p = false := by
    cases hexcluded : c.excludes p with
    | false => rfl
    | true =>
      rw [Config.visit, if_pos hexcluded] at hcandidate
      cases hcandidate
  rw [candidate?_of_resolve hp h included] at hcandidate
  split at hcandidate
  · obtain rfl := Option.some.inj hcandidate
    cases hdecode : Utf8.decode content with
    | error e => cases hread.symm.trans (Workspace.readText_of_decode_error hp h hdecode)
    | ok text' =>
      obtain rfl := Except.ok.inj (hread.symm.trans (Workspace.readText_of_decode hp h hdecode))
      exact congrArg Console.count (Utf8.decodeLossy_of_decode hdecode)
  · cases hcandidate

/-- The figures of an outcome are those of the file's text before the run and of what the conversion
makes of it. -/
theorem RunRecord.Reports.counted {r : RunRecord} {c : Config} {w : Workspace}
    (ht : w.tree.WellFormed) {base : Location} {paths : List Path} (h : r.Reports c w base paths)
    {o : FileOutcome} (ho : o ∈ r.outcomes) :
    ∃ text, w.readText o.path = .ok text ∧ o.before = Console.count text
      ∧ o.after = Console.count (SourceEdit.of w.directory c.logger o.path text).text := by
  obtain ⟨listing, hperm, visits⟩ := h.scanned
  obtain ⟨candidate, hcandidate, hforecast⟩ := h.foretold o ho
  obtain ⟨text, hread, hpath, hbefore, hafter, -⟩ := Config.exists_of_forecast hforecast
  rw [discovery, visits, Discovery.ofVisits, List.mem_filterMap] at hcandidate
  obtain ⟨visit, hvisit, hcandidate⟩ := hcandidate
  obtain ⟨p, hp, rfl⟩ := List.mem_map.1 hvisit
  obtain ⟨l, content, executable, hl, hwalk, -⟩ :=
    (Builtin.mem_of_enumerate ht h.root h.listed).1 (hperm.mem_iff.1 hp)
  have counted := count_of_candidate? (ht.resolve_walkPath h.root hwalk hl) hl hcandidate hread
  exact ⟨text, hpath ▸ hread, hbefore.trans counted, hpath ▸ hafter⟩

/-- The lines with statements before and after a conversion, for a logger whose name is an
identifier and whose module's name mentions no statement.  A conversion of any text never raises
their number, and in a run in either mode each outcome reports the numbers of its file's text and of
what the conversion makes of it, with the exact difference as removed. -/
theorem before_eq_removed_add_after {c : Config}
    (hb : Config.isIdentifier c.logger.binding = true)
    (hm : Console.mentions c.logger.module = false) :
    (∀ cwd file s, Console.count (SourceEdit.of cwd c.logger file s).text ≤ Console.count s)
      ∧ ∀ (σ : Type) (b : CountBackend σ) (dryRun : Bool) (w : Workspace) (state : σ),
        b.ReordersBuiltin → w.tree.WellFormed →
        ∀ r, (convertTree b c dryRun (w, state)).1 = .ok r → ∀ o ∈ r.outcomes,
          ∃ text, w.readText o.path = .ok text ∧ o.before = Console.count text
            ∧ o.after = Console.count (SourceEdit.of w.directory c.logger o.path text).text
            ∧ o.before = o.removed + o.after := by
  have fewer : ∀ cwd file s,
      Console.count (SourceEdit.of cwd c.logger file s).text ≤ Console.count s :=
    fun cwd file s => SourceEdit.count_text_le cwd file (Text.isWord_of_isIdentifier hb) hm s
  refine ⟨fewer, fun σ b dryRun w state hreorders ht r hr o ho => ?_⟩
  obtain ⟨base, paths, reports⟩ := reports_of_convertTree hreorders ht hr
  obtain ⟨text, hread, hbefore, hafter⟩ := reports.counted ht ho
  refine ⟨text, hread, hbefore, hafter, ?_⟩
  have less := fewer w.directory o.path text
  rw [FileOutcome.removed]
  omega

/-- A logger that is named as the console: of two lines with statements one keeps its statement,
which is now put together from two lines, and the rehearsal reports the other as removed. -/
theorem removed_by_console_binding :
    let code := "console.log('a');\nconsole.error('b',\nerror);".toList
    let c : Config := { logger := { binding := "console".toList } }
    let w : Workspace := { tree := ⟨[(["src".toList], .directory),
      (["src".toList, "a.js".toList], .file (Utf8.encode code) false)]⟩ }
    let edit := SourceEdit.of w.directory c.logger ⟨"src/a.js".toList⟩ code
    Console.count edit.text ≤ Console.count code ∧ Console.count code = 2
      ∧ ∃ r o, (convertTree c.countBackend c true (w, ())).1 = .ok r ∧ o ∈ r.outcomes
        ∧ o.before = 2 ∧ o.after = 1 ∧ o.before = o.removed + o.after := by
  intro code c w edit
  let p : Path := ⟨"src/a.js".toList⟩
  obtain ⟨fewer, balanced⟩ := before_eq_removed_add_after (c := c) (by decide) (by decide)
  have wellFormed : w.tree.WellFormed :=
    ⟨by decide +kernel, by decide +kernel, by decide +kernel⟩
  have directory : w.tree.get? ["src".toList] = some .directory := by decide +kernel
  have root : w.tree.resolve w.cwd ⟨"src".toList⟩ true = .ok ["src".toList] :=
    wellFormed.resolve_relative rfl (by decide) (by decide) (by decide +kernel) directory (by simp)
  have here : w.tree.get? ["src".toList, "a.js".toList]
      = some (.file (Utf8.encode code) false) := by decide +kernel
  have way := wellFormed.resolve_walkPath root (p := p) (by decide +kernel) here
  have read : w.readText p = .ok code :=
    Workspace.readText_of_decode way here (Utf8.decode_encode code)
  have listing : Builtin.enumerate w ⟨"src".toList⟩ "js".toList = .ok [p] := by
    rw [Builtin.enumerate_of_directory root directory, filesBelow_eq root]
    exact congrArg _ (by decide +kernel)
  have visit : c.visit w p = .counted p (.ok 2) := by
    have counted : Builtin.count w p = .ok 2 :=
      (Builtin.count_of_resolve way here).trans (by decide +kernel)
    rw [Config.visit, counted]
    rfl
  have report : (convertTree c.countBackend c true (w, ())).1
      = .ok ⟨[.counted p (.ok 2)], [.converted ⟨p, 2⟩ edit none], none⟩ := by
    obtain ⟨order, ⟨w', _⟩, hperm, scanned, same⟩ :=
      discover_of_enumerate (b := c.countBackend) Builtin.reordersBuiltin c (s := (w, ())) listing
    obtain rfl : w' = w := same
    rw [List.perm_singleton.1 hperm, List.map_singleton, visit] at scanned
    have found : (Discovery.ofVisits [.counted p (.ok 2)]).candidates = [⟨p, 2⟩] := rfl
    simp only [convertTree, scanned, found, if_true, runFiles, runFile, read, edit, p]
  have outcome := balanced Unit c.countBackend true w () Builtin.reordersBuiltin wellFormed _ report
    _ (List.mem_singleton.2 rfl)
  obtain ⟨-, -, -, -, balance⟩ := outcome
  exact ⟨fewer _ _ _, by decide +kernel, _, _, report, List.mem_singleton.2 rfl, rfl,
    by decide +kernel, balance⟩

end LogMigration
