import LogMigration.Proofs.Rehearsal

/-!
# The account of a run

A run goes through its candidates once.  Each conversion is recorded in the totals or counted as an
error: a file may be no text, its new text may not be written, and the backend may fail whenever it
is asked.  The totals stay in step with the list of outcomes.

* `RunTotals.account` — one candidate of the run.
* `RunTotals.Accounts` — what the totals say after some candidates; `Accounts.account` is one step
  and `Accounts.foldl` a whole run.
* `RunRecord.totals_eq_foldl` — the totals of a run are those of the steps.
* `RunTotals.foldl_account_perm` — the order of the candidates makes no difference.
* `RunRecord.path_before_outcomes` — the candidates that have an outcome;
  `failure?_runFile_eq_none_iff` says when a candidate has one.
* `totals_agree_with_outcomes` — the account of every run with every backend.
-/

set_option autoImplicit false

namespace LogMigration

open FileTree

/-! ## One candidate after the other -/

namespace RunTotals

/-- The totals with one more candidate: its outcome is recorded, or it is counted as an error. -/
def account (t : RunTotals) (f : FileRun) : RunTotals :=
  match f.outcome? with
  | some o => t.record o
  | none => { t with fileErrors := t.fileErrors + 1 }

/-- What the totals say after some candidates of a run whose first scan could not count a number of
files. -/
structure Accounts (uncounted : Nat) (fs : List FileRun) (t : RunTotals) : Prop where
  filesProcessed : t.filesProcessed = (fs.filterMap FileRun.outcome?).length
  fileErrors : t.fileErrors = fs.countP fun f => f.outcome?.isNone
  importsAdded : t.importsAdded
    = (fs.filterMap FileRun.outcome?).countP fun o => o.importOutcome.isInserted
  replacements : t.replacements
    = wrapped (tally FileOutcome.removed (fs.filterMap FileRun.outcome?))
  ruleHits : t.ruleHits = wrapped (tally FileOutcome.ruleHits (fs.filterMap FileRun.outcome?))
  queryFailures : uncounted < countLimit → t.queryFailures
    = wrapped (uncounted + (fs.filterMap FileRun.outcome?).countP FileOutcome.countFailed)

theorem accounts_nil (uncounted : Nat) :
    Accounts uncounted [] { queryFailures := uncounted } where
  filesProcessed := rfl
  fileErrors := rfl
  importsAdded := rfl
  replacements := rfl
  ruleHits := rfl
  queryFailures h := (wrapped_of_lt h).symm

namespace Accounts

variable {uncounted : Nat} {fs : List FileRun} {t : RunTotals}

/-- One more candidate keeps the account, whether it has an outcome or not. -/
theorem account (h : Accounts uncounted fs t) (f : FileRun) :
    Accounts uncounted (fs ++ [f]) (t.account f) := by
  cases hf : f.outcome? with
  | none =>
    have outcomes : (fs ++ [f]).filterMap FileRun.outcome? = fs.filterMap FileRun.outcome? := by
      simp [hf]
    have step : t.account f = { t with fileErrors := t.fileErrors + 1 } := by
      rw [RunTotals.account, hf]
    rw [step]
    constructor
    case fileErrors =>
      rw [h.fileErrors, List.countP_append, List.countP_singleton, hf]
      rfl
    -- Everything else is about the outcomes, and these are the same.
    all_goals rw [outcomes]
    exacts [h.filesProcessed, h.importsAdded, h.replacements, h.ruleHits, h.queryFailures]
  | some o =>
    have outcomes : (fs ++ [f]).filterMap FileRun.outcome?
        = fs.filterMap FileRun.outcome? ++ [o] := by
      simp [hf]
    have step : t.account f = t.record o := by rw [RunTotals.account, hf]
    rw [step]
    constructor
    case filesProcessed =>
      rw [outcomes, List.length_append, ← h.filesProcessed]
      rfl
    case fileErrors =>
      rw [List.countP_append, ← h.fileErrors, List.countP_singleton, hf]
      rfl
    case importsAdded =>
      rw [outcomes, List.countP_append, List.countP_singleton, ← h.importsAdded]
      rfl
    case replacements =>
      rw [outcomes, tally_append, ← wrapped_wrapped_add, ← h.replacements]
      rfl
    case ruleHits =>
      rw [outcomes, tally_append, ← wrapped_wrapped_add, ← h.ruleHits]
      rfl
    case queryFailures =>
      intro hlimit
      rw [outcomes, List.countP_append, List.countP_singleton, ← Nat.add_assoc,
        ← wrapped_wrapped_add, ← h.queryFailures hlimit]
      rfl

/-- So do all candidates of a run. -/
theorem foldl (h : Accounts uncounted fs t) (gs : List FileRun) :
    Accounts uncounted (fs ++ gs) (gs.foldl RunTotals.account t) := by
  induction gs generalizing fs t with
  | nil => rwa [List.append_nil]
  | cons g gs ih => simpa using ih (h.account g)

end Accounts

/-! ## The order -/

theorem record_record (t : RunTotals) (o o' : FileOutcome) :
    (t.record o).record o' = (t.record o').record o := by
  simp only [record, wrapped_wrapped_add, Nat.add_right_comm]

theorem account_account (t : RunTotals) (f f' : FileRun) :
    (t.account f).account f' = (t.account f').account f := by
  unfold account
  cases f.outcome? with
  | none => cases f'.outcome? <;> rfl
  | some o =>
    cases f'.outcome? with
    | none => rfl
    | some o' => exact record_record t o o'

/-- The totals do not depend on the order in which the outcomes are recorded. -/
theorem recordAll_perm (t : RunTotals) {os os' : List FileOutcome} (h : os.Perm os') :
    t.recordAll os = t.recordAll os' :=
  h.foldl_eq' (fun o _ o' _ t => record_record t o o') t

/-- Nor do they on the order of the candidates, whether or not these have an outcome. -/
theorem foldl_account_perm (t : RunTotals) {fs fs' : List FileRun} (h : fs.Perm fs') :
    fs.foldl account t = fs'.foldl account t :=
  h.foldl_eq' (fun f _ f' _ t => account_account t f f') t

theorem recordAll_eq_foldl (t : RunTotals) (fs : List FileRun) :
    RunTotals.recordAll { t with
      fileErrors := t.fileErrors + (fs.filterMap FileRun.failure?).length }
        (fs.filterMap FileRun.outcome?) = fs.foldl account t := by
  induction fs generalizing t with
  | nil => rfl
  | cons f fs ih =>
    rw [List.foldl_cons, ← ih]
    cases f with
    | unreadable candidate failure | unwritable candidate edit failure =>
      have error : t.fileErrors + ((fs.filterMap FileRun.failure?).length + 1)
          = t.fileErrors + 1 + (fs.filterMap FileRun.failure?).length := by omega
      exact congrArg (fun n => RunTotals.recordAll { t with fileErrors := n }
        (fs.filterMap FileRun.outcome?)) error
    | converted candidate edit recount => rfl

end RunTotals

/-! ## A whole run -/

theorem FileRun.path_before_outcome? (f : FileRun) :
    f.outcome?.map (fun o => (o.path, o.before))
      = if f.failure?.isNone then some (f.candidate.path, f.candidate.count) else none := by
  cases f <;> rfl

namespace RunRecord

variable (r : RunRecord)

theorem totals_eq_foldl : r.totals
    = r.files.foldl RunTotals.account { queryFailures := r.discovery.failures.length } := by
  rw [← RunTotals.recordAll_eq_foldl, Nat.zero_add]
  rfl

theorem accounts_totals : RunTotals.Accounts r.discovery.failures.length r.files r.totals := by
  rw [totals_eq_foldl]
  exact (RunTotals.accounts_nil _).foldl r.files

/-- The candidates with an outcome are those whose conversion did not fail. -/
theorem path_before_outcomes : r.outcomes.map (fun o => (o.path, o.before))
    = (r.files.filter fun f => f.failure?.isNone).map
        fun f => (f.candidate.path, f.candidate.count) := by
  rw [outcomes, List.map_filterMap, ← List.filterMap_eq_map, List.filterMap_filter]
  refine congrArg (List.filterMap · r.files) (funext fun f => ?_)
  exact f.path_before_outcome?

end RunRecord

/-- A conversion succeeds exactly if the file is a text and, in a run, its new text is the old one or
can be written, whatever the backend answers. -/
theorem failure?_runFile_eq_none_iff {σ : Type} (b : CountBackend σ) (c : Config) (dryRun : Bool)
    (candidate : Candidate) (s : Workspace × σ) :
    (runFile b c dryRun candidate s).1.failure? = none ↔
      ∃ text, s.1.readText candidate.path = .ok text ∧
        let edit := SourceEdit.of s.1.directory c.logger candidate.path text
        (dryRun = true ∨ edit.text = text
          ∨ ∃ w, s.1.write candidate.path (Utf8.encode edit.text) = .ok w) := by
  cases hread : s.1.readText candidate.path with
  | error e => simp [runFile, hread, FileRun.failure?]
  | ok text =>
    cases dryRun with
    | true => simp [runFile, hread, FileRun.failure?]
    | false =>
      by_cases hsame : (SourceEdit.of s.1.directory c.logger candidate.path text).text = text
      · simp [runFile, hread, FileRun.failure?, hsame]
      · cases hwrite : s.1.write candidate.path (Utf8.encode
            (SourceEdit.of s.1.directory c.logger candidate.path text).text) with
        | error failed => simp [runFile, hread, FileRun.failure?, hsame, hwrite]
        | ok w => simp [runFile, hread, FileRun.failure?, hsame, hwrite]

theorem countFailed_of_rehearsal {σ : Type} {b : CountBackend σ} {c : Config} {s : Workspace × σ}
    {r : RunRecord} (hr : (convertTree b c true s).1 = .ok r) {o : FileOutcome}
    (ho : o ∈ r.outcomes) : o.countFailed = false := by
  unfold convertTree at hr
  split at hr
  · cases hr
  · obtain rfl := Except.ok.inj hr
    rw [RunRecord.outcomes_eq] at ho
    dsimp only at ho
    rw [outcomes_runFiles_dry, List.filterMap_map, List.mem_filterMap] at ho
    obtain ⟨candidate, -, hforecast⟩ := ho
    obtain ⟨-, -, -, -, -, counted⟩ := Config.exists_of_forecast hforecast
    exact counted

/-- The account of a run with any backend and in either mode, if its sums can be counted.  Each
candidate of the first scan has been processed or has failed, the outcomes are those of the former
in their order, and each total is the sum of what they say.  It is the same in whatever order the
candidates come or the outcomes are recorded. -/
theorem totals_agree_with_outcomes {σ : Type} {b : CountBackend σ} {c : Config} {dryRun : Bool}
    {s : Workspace × σ} {r : RunRecord} (hr : (convertTree b c dryRun s).1 = .ok r)
    (hremoved : tally FileOutcome.removed r.outcomes < countLimit)
    (hhits : tally FileOutcome.ruleHits r.outcomes < countLimit)
    (hfailures : r.discovery.failures.length + r.outcomes.countP FileOutcome.countFailed
      < countLimit) :
    r.totals.filesProcessed = r.outcomes.length
      ∧ r.totals.filesProcessed + r.totals.fileErrors = r.discovery.candidates.length
      ∧ r.files.map FileRun.candidate = r.discovery.candidates
      ∧ r.outcomes.map (fun o => (o.path, o.before))
        = (r.files.filter fun f => f.failure?.isNone).map
            (fun f => (f.candidate.path, f.candidate.count))
      ∧ r.totals.importsAdded = r.outcomes.countP (fun o => o.importOutcome.isInserted)
      ∧ r.totals.ruleHits = tally FileOutcome.ruleHits r.outcomes
      ∧ r.totals.replacements = tally FileOutcome.removed r.outcomes
      ∧ r.totals.queryFailures
        = r.discovery.failures.length + r.outcomes.countP FileOutcome.countFailed
      ∧ (dryRun = true → ∀ o ∈ r.outcomes, o.countFailed = false)
      ∧ (∀ files : List FileRun, files.Perm r.files → files.foldl RunTotals.account
        { queryFailures := r.discovery.failures.length } = r.totals)
      ∧ ∀ outcomes : List FileOutcome, outcomes.Perm r.outcomes → RunTotals.recordAll
        { queryFailures := r.discovery.failures.length, fileErrors := r.failures.length } outcomes
          = r.totals := by
  have account := r.accounts_totals
  have queryFailures := (account.queryFailures
    (Nat.lt_of_le_of_lt (Nat.le_add_right _ _) hfailures)).trans (wrapped_of_lt hfailures)
  have tried := (candidate_convertTree hr).1
  have each : r.totals.filesProcessed + r.totals.fileErrors = r.discovery.candidates.length := by
    rw [← tried, List.length_map, account.filesProcessed, account.fileErrors,
      List.length_filterMap_eq_countP,
      List.length_eq_countP_add_countP fun f : FileRun => f.outcome?.isSome]
    refine congrArg _ (List.countP_congr fun f _ => ?_)
    simp
  refine ⟨account.filesProcessed, each, tried, r.path_before_outcomes, account.importsAdded,
    account.ruleHits.trans (wrapped_of_lt hhits),
    account.replacements.trans (wrapped_of_lt hremoved), queryFailures, ?_,
    fun files hfiles => ?_, fun outcomes houtcomes => RunTotals.recordAll_perm _ houtcomes⟩
  · rintro rfl o ho
    exact countFailed_of_rehearsal hr ho
  · rw [RunTotals.foldl_account_perm _ hfiles, ← r.totals_eq_foldl]

/-- A backend that fails from its fourth question on: one file is converted and not counted again,
one is no text, one cannot be opened for writing, and one is not counted in the first scan. -/
theorem totals_with_failures :
    let code := "const fs = require('fs');\nconsole.log('x');\n".toList
    let w : Workspace := {
      tree := ⟨[(["src".toList], .directory),
        (["src".toList, "a.js".toList], .file (Utf8.encode code) false),
        (["src".toList, "b.js".toList], .file [0xff] false),
        (["src".toList, "c.js".toList], .file (Utf8.encode code) false)]⟩
      faults := [(["src".toList, "c.js".toList], .refused .permissionDenied)] }
    let paths : List Path :=
      [⟨"src/a.js".toList⟩, ⟨"src/b.js".toList⟩, ⟨"src/c.js".toList⟩, ⟨"src/d.js".toList⟩]
    let b : CountBackend Nat := {
      name := "failing"
      enumerate := fun _ _ s => (.ok paths, s)
      count := fun _ s =>
        (if s.2 < 3 then .ok 1 else .error (.parse "grep".toList []), (s.1, s.2 + 1)) }
    ∃ r, (convertTree b {} false (w, 0)).1 = .ok r
      ∧ r.totals.filesProcessed = 1 ∧ r.totals.filesProcessed + r.totals.fileErrors = 3
      ∧ r.totals.importsAdded = 1 ∧ r.totals.ruleHits = 1 ∧ r.totals.replacements = 1
      ∧ r.totals.queryFailures = 2 := by
  intro code w paths b
  let p : Path := ⟨"src/a.js".toList⟩
  let q : Path := ⟨"src/b.js".toList⟩
  let closed : Path := ⟨"src/c.js".toList⟩
  let error : QueryError := .parse "grep".toList []
  have wellFormed : w.tree.WellFormed :=
    ⟨by decide +kernel, by decide +kernel, by decide +kernel⟩
  have directory : w.tree.get? ["src".toList] = some .directory := by decide +kernel
  have root : w.tree.resolve w.cwd ⟨"src".toList⟩ true = .ok ["src".toList] :=
    wellFormed.resolve_relative rfl (by decide) (by decide) (by decide +kernel) directory (by simp)
  let visits : List Visit := [.counted p (.ok 1), .counted q (.ok 1), .counted closed (.ok 1),
    .counted ⟨"src/d.js".toList⟩ (.error error)]
  have scanned : discover b {} (w, 0) = (.ok visits, (w, 4)) := rfl
  have found : (Discovery.ofVisits visits).candidates = [⟨p, 1⟩, ⟨q, 1⟩, ⟨closed, 1⟩] := rfl
  -- The first file is written.
  let edit := SourceEdit.of w.directory {} p code
  have first : w.tree.get? ["src".toList, "a.js".toList]
      = some (.file (Utf8.encode code) false) := by decide +kernel
  have toFirst := wellFormed.resolve_walkPath root (p := p) (by decide +kernel) first
  have free : w.editError? p code edit = none :=
    Workspace.editError?_of_fault? ((Workspace.fault?_of_resolve toFirst).trans (by decide)) _ _
  let after := w.mapFiles (onlyAt ["src".toList, "a.js".toList]
    (w.tried {} p ["src".toList, "a.js".toList]))
  have converted : runFile b {} false ⟨p, 1⟩ (w, 4)
      = (.converted ⟨p, 1⟩ edit (some (.error error)), (after, 5)) := by
    rw [runFile_of_decode {} wellFormed toFirst first (Utf8.decode_encode code), free]
    rfl
  -- The second is no text.
  have second : w.tree.get? ["src".toList, "b.js".toList] = some (.file [0xff] false) := by
    decide +kernel
  have toSecond := wellFormed.resolve_walkPath root (p := q) (by decide +kernel) second
  have unread : after.readText q = .error .invalidText := by
    rw [Workspace.readText_mapFiles toSecond fun _ => if_neg (by decide)]
    exact Workspace.readText_of_decode_error toSecond second (e := ⟨0, some 1⟩) (by decide +kernel)
  let unreadable : FileRun :=
    .unreadable ⟨q, 1⟩ (Failure.during (.readFile q) (.of (.io .invalidText)))
  have failed : runFile b {} false ⟨q, 1⟩ (after, 5) = (unreadable, (after, 5)) :=
    runFile_unreadable {} unread
  -- The third is a text, and its new text is refused.
  have third : w.tree.get? ["src".toList, "c.js".toList]
      = some (.file (Utf8.encode code) false) := by decide +kernel
  have toThird := wellFormed.resolve_walkPath root (p := closed) (by decide +kernel) third
  have read : after.readText closed = .ok code := by
    rw [Workspace.readText_mapFiles toThird fun _ => if_neg (by decide)]
    exact Workspace.readText_of_decode toThird third (Utf8.decode_encode code)
  have fault : after.fault? closed = some (.refused .permissionDenied) := by
    rw [Workspace.fault?_mapFiles, Workspace.fault?_of_resolve toThird]
    decide +kernel
  let edit' := SourceEdit.of w.directory {} closed code
  have changes : edit'.text ≠ code := by decide +kernel
  let unwritable : FileRun := .unwritable ⟨closed, 1⟩ edit'
    (Failure.during (.writeFile closed) (.of (.io .permissionDenied)))
  have refused : runFile b {} false ⟨closed, 1⟩ (after, 5) = (unwritable, (after, 5)) :=
    runFile_refused {} read changes fault
  let files : List FileRun :=
    [.converted ⟨p, 1⟩ edit (some (.error error)), unreadable, unwritable]
  obtain ⟨again, report⟩ : ∃ again,
      (convertTree b {} false (w, 0)).1 = .ok ⟨visits, files, some again⟩ := by
    simp only [convertTree, scanned, found, runFiles, converted, failed, refused,
      Bool.false_eq_true, if_false]
    exact ⟨_, rfl⟩
  let outcomes := files.filterMap FileRun.outcome?
  have hits : tally FileOutcome.ruleHits outcomes = 1 := by decide +kernel
  have removed : tally FileOutcome.removed outcomes = 1 := by decide +kernel
  have imports : outcomes.countP (fun o => o.importOutcome.isInserted) = 1 := by decide +kernel
  have unknown : (Discovery.ofVisits visits).failures.length
      + outcomes.countP FileOutcome.countFailed = 2 := rfl
  have small : ∀ {m n : Nat}, m = n → n ≤ 2 → m < countLimit := by
    rintro m _ rfl h
    exact Nat.lt_of_le_of_lt h (by decide)
  obtain ⟨processed, all, -, -, importsAdded, ruleHits, replacements, queryFailures, -⟩ :=
    totals_agree_with_outcomes report (small removed (by decide)) (small hits (by decide))
      (small unknown (by decide))
  exact ⟨_, report, processed, all, importsAdded.trans imports, ruleHits.trans hits,
    replacements.trans removed, queryFailures.trans unknown⟩

end LogMigration
