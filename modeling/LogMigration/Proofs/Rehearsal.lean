import LogMigration.Proofs.TreeRun

/-!
# Rehearsals

A rehearsal comes to the figures of the run that it stands for, if the files can be written.  A run
writes each file, reads its bytes again and counts what it reads; what is read is what was written,
and what was written before is another file.

* `Config.forecast`, `Config.achieved` — the outcome of a candidate in a rehearsal and in a run;
  they differ where a new text cannot be written.
* `outcome?_runFile`, `outcomes_runFiles` — one candidate of a run, and a list of them.
* `RunRecord.totals_eq` — the totals are a function of the outcomes.
* `RunRecord.Reports`, `RunRecord.IsOf` — what a record holds in either mode, and that of a run.
* `Workspace.IsWritable`, `rehearsal_foretells_run` — where each file can be written, a rehearsal and
  a run report the same.
-/

set_option autoImplicit false

namespace LogMigration

open FileTree

/-- The outcome of a candidate that is not written. -/
def Config.forecast (c : Config) (w : Workspace) (candidate : Candidate) : Option FileOutcome :=
  match w.readText candidate.path with
  | .error _ => none
  | .ok text =>
    (FileRun.converted candidate (.of w.directory c.logger candidate.path text) none).outcome?

/-- The outcome of a candidate in a run. -/
def Config.achieved (c : Config) (w : Workspace) (candidate : Candidate) : Option FileOutcome :=
  match w.readText candidate.path with
  | .error _ => none
  | .ok text =>
    let edit := SourceEdit.of w.directory c.logger candidate.path text
    match w.editError? candidate.path text edit with
    | none => (FileRun.converted candidate edit none).outcome?
    | some _ => none

/-- A run comes to no other outcome than the rehearsal. -/
theorem Config.forecast_of_achieved {c : Config} {w : Workspace} {candidate : Candidate}
    {o : FileOutcome} (h : c.achieved w candidate = some o) : c.forecast w candidate = some o := by
  unfold achieved at h
  unfold forecast
  split at h
  · cases h
  · dsimp only at h
    split at h
    · exact h
    · cases h

theorem Config.achieved_eq_forecast (c : Config) {w : Workspace} {candidate : Candidate}
    (h : w.fault? candidate.path = none) : c.achieved w candidate = c.forecast w candidate := by
  unfold achieved forecast
  split
  · rfl
  · simp only [Workspace.editError?_of_fault? h]

theorem Config.exists_of_forecast {c : Config} {w : Workspace} {candidate : Candidate}
    {o : FileOutcome} (h : c.forecast w candidate = some o) :
    ∃ text, w.readText candidate.path = .ok text ∧ o.path = candidate.path
      ∧ o.before = candidate.count
      ∧ o.after = Console.count (SourceEdit.of w.directory c.logger candidate.path text).text
      ∧ o.countFailed = false := by
  unfold forecast at h
  split at h
  · cases h
  · rename_i text hread
    obtain rfl := Option.some.inj h
    exact ⟨text, hread, rfl, rfl, rfl, rfl⟩

/-- What is achieved for a candidate does not change when other files do. -/
theorem achieved_mapFiles (c : Config) {w : Workspace} {candidate : Candidate} {l : Location}
    {f : Location → Bytes → Bytes} (hp : w.tree.resolve w.cwd candidate.path true = .ok l)
    (h : ∀ content, f l content = content) :
    c.achieved (w.mapFiles f) candidate = c.achieved w candidate := by
  have fault : ∀ text edit, (w.mapFiles f).editError? candidate.path text edit
      = w.editError? candidate.path text edit := by
    intro text edit
    simp only [Workspace.editError?, Workspace.writeError?, Workspace.fault?_mapFiles]
  unfold Config.achieved
  simp only [Workspace.readText_mapFiles hp h, Workspace.directory_mapFiles, fault]

/-- What is counted in a file that was written is counted in its text. -/
theorem Builtin.count_mapFiles_of_encode {w : Workspace} {p : Path} {l : Location}
    {content : Bytes} {executable : Bool} {f : Location → Bytes → Bytes} {text : Text}
    (hp : w.tree.resolve w.cwd p true = .ok l)
    (h : w.tree.get? l = some (.file content executable)) (hf : f l content = Utf8.encode text) :
    Builtin.count (w.mapFiles f) p = .ok (Console.count text) := by
  have written : (w.mapFiles f).tree.get? l = some (.file (Utf8.encode text) executable) := by
    rw [Workspace.tree_mapFiles, get?_mapFiles, h, Option.map_some, Entry.mapContent, hf]
  rw [Builtin.count_of_resolve ((resolve_mapFiles f w.cwd p true).trans hp) written,
    Utf8.decodeLossy_encode]

/-! ## Outcomes -/

section Files

variable {σ : Type} {b : CountBackend σ} (hb : b.ReordersBuiltin) (c : Config)

theorem outcome?_runFile_dry (candidate : Candidate) (s : Workspace × σ) :
    (runFile b c true candidate s).1.outcome? = c.forecast s.1 candidate := by
  unfold Config.forecast
  cases hread : s.1.readText candidate.path with
  | error e => rw [runFile_unreadable c hread]; rfl
  | ok text => simp only [runFile, hread, if_true]

theorem outcomes_runFiles_dry (cs : List Candidate) (s : Workspace × σ) :
    (runFiles b c true cs s).1.map FileRun.outcome? = cs.map (c.forecast s.1) := by
  induction cs generalizing s with
  | nil => rfl
  | cons candidate cs ih =>
    rw [runFiles, List.map_cons, List.map_cons, outcome?_runFile_dry, ih, runFile_dry]

include hb

/-- One candidate: the statements that are counted again are those of the new text. -/
theorem outcome?_runFile {s : Workspace × σ} (ht : s.1.tree.WellFormed) {candidate : Candidate}
    {l : Location} {content : Bytes} {executable : Bool}
    (hp : s.1.tree.resolve s.1.cwd candidate.path true = .ok l)
    (h : s.1.tree.get? l = some (.file content executable)) :
    (runFile b c false candidate s).1.outcome? = c.achieved s.1 candidate := by
  cases hdecode : Utf8.decode content with
  | error e =>
    have unread := Workspace.readText_of_decode_error hp h hdecode
    rw [runFile_unreadable c unread, Config.achieved, unread]
    rfl
  | ok text =>
    rw [runFile_of_decode c ht hp h hdecode, Config.achieved,
      Workspace.readText_of_decode hp h hdecode]
    dsimp only
    cases herror : s.1.editError? candidate.path text
        (SourceEdit.of s.1.directory c.logger candidate.path text) with
    | some e => rfl
    | none =>
      have changed : onlyAt l (s.1.tried c.logger candidate.path l) l content
          = Utf8.encode (SourceEdit.of s.1.directory c.logger candidate.path text).text :=
        (if_pos rfl).trans (tried_of_editError? hp hdecode herror)
      simp only [hb.count, Builtin.count_mapFiles_of_encode hp h changed]
      rfl

/-- A list of candidates: what is written for one is not read for another. -/
theorem outcomes_runFiles {s : Workspace × σ} (ht : s.1.tree.WellFormed) {base : Location}
    (hroot : s.1.tree.resolve s.1.cwd c.root true = .ok base) {cs : List Candidate}
    (hcs : ∀ candidate ∈ cs, candidate.IsBelow c.root base s.1)
    (hnodup : (cs.map Candidate.path).Nodup) :
    (runFiles b c false cs s).1.map FileRun.outcome? = cs.map (c.achieved s.1) := by
  induction cs generalizing s with
  | nil => rfl
  | cons candidate cs ih =>
    obtain ⟨⟨l, content, executable, hp, hl⟩, hcs⟩ := List.forall_mem_cons.1 hcs
    obtain ⟨hnew, hnodup⟩ := List.nodup_cons.1 hnodup
    have way := ht.resolve_walkPath hroot hp hl
    have first := runFile_workspace hb c ht way hl
    have later := ih (s := (runFile b c false candidate s).2)
    rw [first] at later
    rw [runFiles, List.map_cons, List.map_cons, outcome?_runFile hb c ht way hl,
      later ht.mapFiles ((resolve_mapFiles ..).trans hroot)
      (fun other hother => (hcs other hother).mapFiles _) hnodup]
    refine congrArg _ (List.map_congr_left fun other hother => ?_)
    obtain ⟨m, old, x, hm, hold⟩ := hcs other hother
    have apart : m ≠ l := by
      rintro rfl
      have same : other.path = candidate.path := Option.some.inj (hm.symm.trans hp)
      exact hnew (same ▸ List.mem_map_of_mem hother)
    exact achieved_mapFiles c (ht.resolve_walkPath hroot hm hold) fun _ => if_neg apart

end Files

/-! ## Figures -/

theorem FileRun.length_failures (fs : List FileRun) :
    (fs.filterMap FileRun.failure?).length = (fs.map FileRun.outcome?).countP Option.isNone := by
  induction fs with
  | nil => rfl
  | cons f fs ih =>
    rw [List.map_cons, List.countP_cons, ← ih]
    cases f <;> rfl

namespace RunRecord

variable (r : RunRecord)

theorem outcomes_eq : r.outcomes = (r.files.map FileRun.outcome?).filterMap id := by
  rw [outcomes, List.filterMap_map]
  rfl

theorem totals_eq : r.totals = RunTotals.recordAll
    { queryFailures := r.discovery.failures.length
      fileErrors := (r.files.map FileRun.outcome?).countP Option.isNone } r.outcomes := by
  rw [totals, failures, FileRun.length_failures]

/-- What is reported about the conversions: the totals and the outcomes. -/
def figures : RunTotals × List FileOutcome := (r.totals, r.outcomes)

variable {r}

/-- The figures are decided by the scan and by what comes of each candidate. -/
theorem figures_congr {r' : RunRecord} (hvisits : r.visits = r'.visits)
    (hfiles : r.files.map FileRun.outcome? = r'.files.map FileRun.outcome?) :
    r.figures = r'.figures := by
  simp only [figures, totals_eq, outcomes_eq, hfiles, discovery, hvisits]

end RunRecord

/-! ## The record of a run -/

section Run

variable {σ : Type} {b : CountBackend σ} (hb : b.ReordersBuiltin) (c : Config)

include hb

variable {w : Workspace} (state : σ) (ht : w.tree.WellFormed) {paths listing : List Path}
  (hlist : Builtin.enumerate w c.root c.extension = .ok paths) (hperm : listing.Perm paths)

include ht hlist hperm

theorem outcomes_scan :
    let candidates := (Discovery.ofVisits (listing.map (c.visit w))).candidates
    (runFiles b c false candidates (w, state)).1.map FileRun.outcome?
      = candidates.map (c.achieved w) := by
  obtain ⟨base, hroot⟩ := Builtin.resolve_of_enumerate hlist
  exact outcomes_runFiles hb c (s := (w, state)) ht hroot
    (fun candidate h => candidate_isBelow ht hroot hlist hperm h)
    (nodup_candidates ht hroot hlist hperm)

/-- In either mode there is no other outcome than those of a rehearsal. -/
theorem exists_forecast_of_scan (dryRun : Bool) {o : FileOutcome} :
    let candidates := (Discovery.ofVisits (listing.map (c.visit w))).candidates
    o ∈ (runFiles b c dryRun candidates (w, state)).1.filterMap FileRun.outcome? →
      ∃ candidate ∈ candidates, c.forecast w candidate = some o := by
  intro candidates ho
  have come : some o ∈ (runFiles b c dryRun candidates (w, state)).1.map FileRun.outcome? :=
    List.mem_map.2 (List.mem_filterMap.1 ho)
  cases dryRun with
  | true =>
    rw [outcomes_runFiles_dry] at come
    exact List.mem_map.1 come
  | false =>
    rw [outcomes_scan hb c state ht hlist hperm] at come
    obtain ⟨candidate, hcandidate, hachieved⟩ := List.mem_map.1 come
    exact ⟨candidate, hcandidate, Config.forecast_of_achieved hachieved⟩

end Run

/-- What the record of a run or a rehearsal on `w` holds: `paths` are the files that the walk lists,
and `base` is where the root leads. -/
structure RunRecord.Reports (r : RunRecord) (c : Config) (w : Workspace) (base : Location)
    (paths : List Path) : Prop where
  root : w.tree.resolve w.cwd c.root true = .ok base
  listed : Builtin.enumerate w c.root c.extension = .ok paths
  /-- The first scan visits the listed files as they were. -/
  scanned : ∃ listing, List.Perm listing paths ∧ r.visits = listing.map (c.visit w)
  /-- There is no other outcome than those of a rehearsal. -/
  foretold : ∀ o ∈ r.outcomes, ∃ candidate ∈ r.discovery.candidates,
    c.forecast w candidate = some o

/-- What the record of a run holds beyond that. -/
structure RunRecord.IsOf (r : RunRecord) (c : Config) (w : Workspace) (base : Location)
    (paths : List Path) : Prop extends r.Reports c w base paths where
  converted : r.files.map FileRun.outcome? = r.discovery.candidates.map (c.achieved w)
  /-- The final scan visits the listed files as they are after the run. -/
  rescanned : ∃ listing, List.Perm listing paths ∧ r.rescanned
    = some (.ok (listing.map (c.visit (w.mapFiles (c.converted w base)))))

section Record

variable {σ : Type} {b : CountBackend σ} (hb : b.ReordersBuiltin) {c : Config} {w : Workspace}

include hb

theorem exists_record (state : σ) (hroot : w.isDirectory c.root = true) :
    ∃ r, (convertTree b c false (w, state)).1 = .ok r := by
  have listed : Builtin.enumerate w c.root c.extension = .ok _ := if_pos hroot
  obtain ⟨_, _, -, scanned, -⟩ := discover_of_enumerate hb c (s := (w, state)) listed
  rw [convertTree, scanned]
  exact ⟨_, rfl⟩

/-- The record of a run or a rehearsal is that of a scan of the listed files. -/
theorem exists_scan_of_convertTree {state : σ} {dryRun : Bool} {r : RunRecord}
    (hr : (convertTree b c dryRun (w, state)).1 = .ok r) :
    ∃ paths listing, ∃ state' : σ, Builtin.enumerate w c.root c.extension = .ok paths
      ∧ List.Perm listing paths ∧
        let visits := listing.map (c.visit w)
        let files := runFiles b c dryRun (Discovery.ofVisits visits).candidates (w, state')
        r = ⟨visits, files.1, if dryRun then none else some (rescan b c files.2).1⟩ := by
  rcases discover_cases hb c (w, state) with
    ⟨_, _, _, -, scanned, -⟩ | ⟨paths, listing, ⟨w', state'⟩, hlist, hperm, scanned, same⟩
  · rw [convertTree, scanned] at hr
    cases hr
  · obtain rfl : w' = w := same
    refine ⟨paths, listing, state', hlist, hperm, ?_⟩
    rw [convertTree, scanned] at hr
    cases dryRun <;> exact (Except.ok.inj hr).symm

variable (ht : w.tree.WellFormed)

include ht

theorem reports_of_convertTree {state : σ} {dryRun : Bool} {r : RunRecord}
    (hr : (convertTree b c dryRun (w, state)).1 = .ok r) :
    ∃ base paths, r.Reports c w base paths := by
  obtain ⟨paths, listing, state', hlist, hperm, rfl⟩ := exists_scan_of_convertTree hb hr
  obtain ⟨base, hroot⟩ := Builtin.resolve_of_enumerate hlist
  exact ⟨base, paths, hroot, hlist, ⟨listing, hperm, rfl⟩,
    fun _ => exists_forecast_of_scan hb c state' ht hlist hperm dryRun⟩

theorem isOf_of_convertTree {state : σ} {r : RunRecord}
    (hr : (convertTree b c false (w, state)).1 = .ok r) :
    ∃ base paths, r.IsOf c w base paths := by
  obtain ⟨paths, listing, state', hlist, hperm, rfl⟩ := exists_scan_of_convertTree hb hr
  obtain ⟨base, hroot⟩ := Builtin.resolve_of_enumerate hlist
  refine ⟨base, paths, ⟨hroot, hlist, ⟨listing, hperm, rfl⟩,
    fun _ => exists_forecast_of_scan hb c state' ht hlist hperm false⟩,
    outcomes_scan hb c state' ht hlist hperm, ?_⟩
  -- The final scan lists the same files.
  have after := runFiles_converted hb c state' ht hroot hlist hperm
  dsimp only at after ⊢
  generalize (runFiles b c false (Discovery.ofVisits (listing.map (c.visit w))).candidates
    (w, state')).2 = s at after ⊢
  have again := Builtin.enumerate_mapFiles (c.converted w base) w c.root c.extension
  rw [← after, hlist] at again
  obtain ⟨listing', _, hperm', rescanned, -⟩ := discover_of_enumerate hb c again
  refine ⟨listing', hperm', ?_⟩
  rw [if_neg Bool.false_ne_true, rescan, rescanned, after]

end Record

/-! ## A rehearsal and a run -/

/-- Whether each file below a root can be written. -/
def Workspace.IsWritable (w : Workspace) (root : Path) : Prop :=
  ∀ names p, (names, p) ∈ w.tree.filesBelow w.cwd root → w.fault? p = none

theorem Workspace.isWritable_of_faults {w : Workspace} (h : w.faults = []) (root : Path) :
    w.IsWritable root := by
  intro names p _
  have none_at : ∀ l, w.faultAt? l = none := fun l => by rw [faultAt?, h]; rfl
  rw [fault?]
  cases w.tree.resolve w.cwd p true with
  | error e => rfl
  | ok l => exact none_at l

section Modes

variable {σ : Type} {b : CountBackend σ} (hb : b.ReordersBuiltin) (c : Config)

/-- Where each file can be written, a run achieves what the rehearsal foretells. -/
theorem achieved_scan {w : Workspace} (hwrite : w.IsWritable c.root) {paths listing : List Path}
    (hlist : Builtin.enumerate w c.root c.extension = .ok paths) (hperm : listing.Perm paths) :
    let candidates := (Discovery.ofVisits (listing.map (c.visit w))).candidates
    candidates.map (c.achieved w) = candidates.map (c.forecast w) := by
  refine List.map_congr_left fun candidate h => c.achieved_eq_forecast ?_
  obtain ⟨names, hfile, -⟩ := (Builtin.mem_enumerate_iff hlist).1
    (hperm.mem_iff.1 (path_mem_of_candidate h))
  exact hwrite names candidate.path hfile

include hb

theorem figures_rehearsal {s : Workspace × σ} (ht : s.1.tree.WellFormed)
    (hwrite : s.1.IsWritable c.root) :
    (convertTree b c true s).1.map RunRecord.figures
      = (convertTree b c false s).1.map RunRecord.figures := by
  obtain ⟨w, state⟩ := s
  rcases discover_cases hb c (w, state) with
    ⟨_, _, ⟨w', state'⟩, -, scanned, same⟩ |
    ⟨paths, listing, ⟨w', state'⟩, hlist, hperm, scanned, same⟩
  all_goals obtain rfl : w' = w := same
  · simp only [convertTree, scanned, Except.map]
  · have rehearsed := outcomes_runFiles_dry (b := b) c
      (Discovery.ofVisits (listing.map (c.visit w'))).candidates (w', state')
    have converted := (outcomes_scan hb c state' ht hlist hperm).trans
      (achieved_scan c hwrite hlist hperm)
    simp only [convertTree, scanned, if_true, Bool.false_eq_true, if_false, Except.map]
    exact congrArg _ (RunRecord.figures_congr rfl (rehearsed.trans converted.symm))

end Modes

/-- A rehearsal of the builtin backend foretells the run, if the files below the root can be
written: on the same tree both report the same totals and the same outcomes in the same order, or
fail with the same error, whatever the files hold and in whatever order they are listed. -/
theorem rehearsal_foretells_run {w : Workspace} (ht : w.tree.WellFormed) {c : Config}
    (hc : c.backend = .builtin) (hwrite : w.IsWritable c.root) :
    (convertTree c.countBackend c true (w, ())).1.map RunRecord.figures
        = (convertTree c.countBackend c false (w, ())).1.map RunRecord.figures
      ∧ ∀ (σ : Type) (b : CountBackend σ) (state : σ), b.ReordersBuiltin →
        (convertTree b c true (w, state)).1.map RunRecord.figures
          = (convertTree b c false (w, state)).1.map RunRecord.figures := by
  have builtin := Config.countBackend_reordersBuiltin hc
  exact ⟨figures_rehearsal builtin c (s := (w, ())) ht hwrite,
    fun σ b state hb => figures_rehearsal hb c (s := (w, state)) ht hwrite⟩

/-- A directory with a text and a file that is no text: the rehearsal and the run report the same,
also when the files are listed in reverse. -/
theorem rehearsal_text_and_binary :
    let statement := Utf8.encode "console.log('x');".toList
    let w : Workspace := { tree := ⟨[(["src".toList], .directory),
      (["src".toList, "a.js".toList], .file statement false),
      (["src".toList, "b.js".toList], .file (statement ++ [0xff]) false)]⟩ }
    (convertTree (Config.countBackend {}) {} true (w, ())).1.map RunRecord.figures
        = (convertTree (Config.countBackend {}) {} false (w, ())).1.map RunRecord.figures
      ∧ (convertTree Builtin.reversed {} true (w, ())).1.map RunRecord.figures
        = (convertTree Builtin.reversed {} false (w, ())).1.map RunRecord.figures := by
  intro statement w
  have wellFormed : w.tree.WellFormed :=
    ⟨by decide +kernel, by decide +kernel, by decide +kernel⟩
  have writable : w.IsWritable (Config.root {}) := Workspace.isWritable_of_faults rfl _
  obtain ⟨builtin, other⟩ := rehearsal_foretells_run wellFormed (c := {}) rfl writable
  exact ⟨builtin, other Unit Builtin.reversed () Builtin.reversed_reordersBuiltin⟩

end LogMigration
