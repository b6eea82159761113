import LogMigration.Proofs.Transcript
import LogMigration.Proofs.TreeRun

/-!
# What a clean verdict covers

A verdict is clean if nothing is known to remain and every count is known.  What it rests on depends
on how the run ended, and in two of the three ways it says nothing about some of the listed files.

* `RunRecord.isClean_iff` — what a clean verdict says, for each end of a run.
* `convertTree_files` — each candidate has been tried, in order.
* `clean_verdict_covers_iff` — when a clean verdict covers all files that the first scan listed.
-/

set_option autoImplicit false

namespace LogMigration

open FileTree

/-! ## Verdicts -/

namespace RunRecord

variable {r : RunRecord}

/-- What a clean verdict says: of a rehearsal, of a run with a final scan, and of a run whose final
scan failed. -/
theorem isClean_iff : r.remaining.isClean = true ↔
    match r.rescanned with
    | none => (∀ o ∈ r.outcomes, o.after = 0) ∧ r.discovery.failures = []
    | some (.ok visits) => ∀ p answer, .counted p answer ∈ visits → answer = .ok 0
    | some (.error _) => r.outcomes = [] := by
  unfold remaining
  rcases r.rescanned with _ | (failure | visits)
  · simp [Remaining.isClean, Remaining.projected, List.filterMap_eq_nil_iff]
  · simp [Remaining.isClean]
  · exact Remaining.isClean_ofVisits_iff visits

/-- Whether the first scan listed a file as a candidate or could not count it. -/
def Lists (r : RunRecord) (p : Path) : Prop :=
  (∃ candidate ∈ r.discovery.candidates, candidate.path = p)
    ∨ ∃ failure ∈ r.discovery.failures, failure.path = p

/-- Whether a file has been seen to hold no statement: it was converted and none is left, or there
was a final scan, and that scan found none in it. -/
def Covers (r : RunRecord) (p : Path) : Prop :=
  (∃ o ∈ r.outcomes, o.path = p ∧ o.after = 0)
    ∨ ∃ visits, r.rescanned = some (.ok visits) ∧ ∀ answer, .counted p answer ∈ visits →
      answer = .ok 0

end RunRecord

/-! ## Runs with any backend -/

theorem FileRun.path_eq (f : FileRun) : f.path = f.candidate.path := by
  cases f <;> rfl

section Run

variable {σ : Type} {b : CountBackend σ} {c : Config}

theorem convertTree_files {dryRun : Bool} {s : Workspace × σ} {r : RunRecord}
    (hr : (convertTree b c dryRun s).1 = .ok r) :
    r.files.map FileRun.path = r.discovery.candidates.map Candidate.path
      ∧ r.rescanned.isNone = dryRun := by
  obtain ⟨tried, mode⟩ := candidate_convertTree hr
  refine ⟨?_, mode⟩
  rw [← tried, List.map_map]
  exact List.map_congr_left fun f _ => f.path_eq

end Run

theorem FileRun.path_of_outcome? {f : FileRun} {o : FileOutcome} (h : f.outcome? = some o) :
    o.path = f.path := by
  cases f with
  | unreadable => cases h
  | unwritable => cases h
  | converted candidate edit recount =>
    obtain rfl := Option.some.inj h
    rfl

theorem FileRun.exists_outcome?_of_failure? {f : FileRun} (h : f.failure? = none) :
    ∃ o, f.outcome? = some o := by
  cases f with
  | unreadable => cases h
  | unwritable => cases h
  | converted => exact ⟨_, rfl⟩

/-- With any backend and in either mode, a clean verdict covers all files that the first scan listed
exactly in these cases: in a rehearsal, if each file that could not be read has an outcome from
another of its listings; in a run with a final scan, always; and in a run whose final scan failed,
if the first scan listed nothing. -/
theorem clean_verdict_covers_iff {σ : Type} {b : CountBackend σ} {c : Config} {dryRun : Bool}
    {s : Workspace × σ} {r : RunRecord} (hr : (convertTree b c dryRun s).1 = .ok r)
    (hclean : r.remaining.isClean = true) :
    (∀ p, r.Lists p → r.Covers p) ↔
      match r.rescanned with
      | none => ∀ f ∈ r.files, f.failure?.isSome = true → ∃ o ∈ r.outcomes, o.path = f.path
      | some (.ok _) => True
      | some (.error _) => r.discovery.candidates = [] ∧ r.discovery.failures = [] := by
  have tried := (convertTree_files hr).1
  rw [RunRecord.isClean_iff] at hclean
  rcases hend : r.rescanned with _ | (failure | visits) <;> rw [hend] at hclean
  · obtain ⟨noneLeft, counted⟩ := hclean
    have covers : ∀ p, r.Covers p ↔ ∃ o ∈ r.outcomes, o.path = p := by
      intro p
      simp only [RunRecord.Covers, hend, reduceCtorEq, false_and, exists_false, or_false]
      exact ⟨fun ⟨o, ho, hp, _⟩ => ⟨o, ho, hp⟩, fun ⟨o, ho, hp⟩ => ⟨o, ho, hp, noneLeft o ho⟩⟩
    have lists : ∀ p, r.Lists p ↔ ∃ f ∈ r.files, f.path = p := by
      intro p
      have same : p ∈ r.files.map FileRun.path ↔ p ∈ r.discovery.candidates.map Candidate.path := by
        rw [tried]
      simpa [RunRecord.Lists, counted, List.mem_map] using same.symm
    simp only [covers, lists]
    constructor
    · intro h f hf _
      exact h f.path ⟨f, hf, rfl⟩
    · rintro h p ⟨f, hf, rfl⟩
      cases hfailure : f.failure? with
      | some failure => exact h f hf (by rw [hfailure]; rfl)
      | none =>
        obtain ⟨o, ho⟩ := FileRun.exists_outcome?_of_failure? hfailure
        exact ⟨o, List.mem_filterMap.2 ⟨f, hf, ho⟩, FileRun.path_of_outcome? ho⟩
  · have covers : ∀ p, ¬ r.Covers p := by
      intro p
      simp [RunRecord.Covers, hclean, hend]
    simp only [covers, imp_false]
    constructor
    · intro h
      refine ⟨List.eq_nil_iff_forall_not_mem.2 fun candidate hc => ?_,
        List.eq_nil_iff_forall_not_mem.2 fun failure hf => ?_⟩
      · exact h _ (.inl ⟨candidate, hc, rfl⟩)
      · exact h _ (.inr ⟨failure, hf, rfl⟩)
    · rintro ⟨candidates, failures⟩ p (⟨candidate, hc, -⟩ | ⟨failure, hf, -⟩)
      · simp [candidates] at hc
      · simp [failures] at hf
  · exact ⟨fun _ => trivial, fun _ p _ => .inr ⟨visits, hend, hclean p⟩⟩

/-- A rehearsal over one file that is no text and has a statement: the verdict is clean, and the
file is not covered. -/
theorem clean_verdict_over_unreadable_file :
    let content := Utf8.encode "console.log('x".toList ++ 0xff :: Utf8.encode "');".toList
    let w : Workspace := { tree := ⟨[(["src".toList], .directory),
      (["src".toList, "a.js".toList], .file content false)]⟩ }
    ∃ r, (convertTree (Config.countBackend {}) {} true (w, ())).1 = .ok r
      ∧ r.remaining.isClean = true ∧ ¬ ∀ p, r.Lists p → r.Covers p := by
  intro content w
  let p : Path := ⟨"src/a.js".toList⟩
  have wellFormed : w.tree.WellFormed :=
    ⟨by decide +kernel, by decide +kernel, by decide +kernel⟩
  have directory : w.tree.get? ["src".toList] = some .directory := by decide +kernel
  have root : w.tree.resolve w.cwd ⟨"src".toList⟩ true = .ok ["src".toList] :=
    wellFormed.resolve_relative rfl (by decide) (by decide) (by decide +kernel) directory (by simp)
  have here : w.tree.get? ["src".toList, "a.js".toList] = some (.file content false) := by
    decide +kernel
  have way := wellFormed.resolve_walkPath root (p := p) (by decide +kernel) here
  have unread : w.readText p = .error .invalidText :=
    Workspace.readText_of_decode_error way here (e := ⟨14, some 1⟩) (by decide +kernel)
  have listing : Builtin.enumerate w ⟨"src".toList⟩ "js".toList = .ok [p] := by
    rw [Builtin.enumerate_of_directory root directory, filesBelow_eq root]
    exact congrArg _ (by decide +kernel)
  have visit : Config.visit {} w p = .counted p (.ok 1) := by
    have counted : Builtin.count w p = .ok 1 :=
      (Builtin.count_of_resolve way here).trans (by decide +kernel)
    rw [Config.visit, counted]
    rfl
  have report : (convertTree (Config.countBackend {}) {} true (w, ())).1
      = .ok ⟨[.counted p (.ok 1)], [.unreadable ⟨p, 1⟩
        (Failure.during (.readFile p) (.of (.io .invalidText)))], none⟩ := by
    obtain ⟨order, ⟨w', _⟩, hperm, scanned, same⟩ := discover_of_enumerate
      (b := Config.countBackend {}) Builtin.reordersBuiltin {} (s := (w, ())) listing
    obtain rfl : w' = w := same
    rw [List.perm_singleton.1 hperm, List.map_singleton, visit] at scanned
    have found : (Discovery.ofVisits [.counted p (.ok 1)]).candidates = [⟨p, 1⟩] := rfl
    simp only [convertTree, scanned, found, if_true, runFiles, runFile, unread]
  refine ⟨_, report, rfl, ?_⟩
  rw [clean_verdict_covers_iff report rfl]
  intro h
  obtain ⟨o, ho, -⟩ := h _ (List.mem_singleton.2 rfl) rfl
  cases ho

end LogMigration
