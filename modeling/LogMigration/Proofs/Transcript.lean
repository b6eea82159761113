import LogMigration.Run.Remaining

/-!
# What a scan does with its answers

A scan asks its backend for the count of each listed file that is not left out, one after the other.
The backend may answer in any way, also differently when a file is listed again.  Each answer ends
up in one place: a positive count among the candidates, an error among the failures, and zero in
neither.

* `CountBackend.transcript` — the questions about some files, with their answers.
* `visitAll_transcript` — a scan asks about the files that are kept, and about no other.
* `Discovery.ofVisits_eq` — what was found depends on the answers only.
* `discover_account` — the account of a whole scan, and of the verdict that a final scan gives.
-/

set_option autoImplicit false

namespace LogMigration

/-! ## Answers -/

/-- The answer to the question for the count of a file. -/
structure Answer where
  path : Path
  count : Except QueryError Nat

namespace Answer

/-- The file with its count, if that is positive. -/
def candidate? (a : Answer) : Option Candidate :=
  match a.count with
  | .ok n => if 0 < n then some ⟨a.path, n⟩ else none
  | .error _ => none

/-- The file with its error, if it could not be counted. -/
def failure? (a : Answer) : Option QueryFailure :=
  match a.count with
  | .ok _ => none
  | .error e => some ⟨a.path, e⟩

/-- Whether the file was counted as zero. -/
def isZero (a : Answer) : Bool :=
  match a.count with
  | .ok n => n = 0
  | .error _ => false

theorem isZero_iff {a : Answer} : a.isZero = true ↔ a.count = .ok 0 := by
  unfold isZero
  cases a.count <;> simp

/-- A count of zero is what is neither a candidate nor a failure. -/
theorem isZero_iff_eq_none {a : Answer} :
    a.isZero = true ↔ a.candidate? = none ∧ a.failure? = none := by
  unfold isZero candidate? failure?
  cases a.count with
  | error e => simp
  | ok n => cases n <;> simp

theorem length_eq (as : List Answer) : as.length
    = (as.filterMap candidate?).length + (as.filterMap failure?).length + as.countP isZero := by
  induction as with
  | nil => rfl
  | cons a as ih =>
    simp only [List.filterMap_cons, List.countP_cons, List.length_cons, ih]
    rcases a with ⟨path, e | n | n⟩ <;> simp [candidate?, failure?, isZero] <;> omega

end Answer

/-- What the answers of a scan tell. -/
def Discovery.ofAnswers (as : List Answer) : Discovery where
  scanned := as.length
  candidates := as.filterMap Answer.candidate?
  failures := as.filterMap Answer.failure?

/-- A verdict is clean exactly if every file was counted as zero. -/
theorem Remaining.isClean_ofAnswers_iff (as : List Answer) :
    (Remaining.ofDiscovery (.ofAnswers as)).isClean = true ↔ ∀ a ∈ as, a.count = .ok 0 := by
  simp only [isClean, ofDiscovery, Discovery.ofAnswers, Bool.and_eq_true, List.isEmpty_iff,
    decide_eq_true_eq, List.length_eq_zero_iff, List.filterMap_eq_nil_iff]
  constructor
  · rintro ⟨candidates, failures⟩ a ha
    exact Answer.isZero_iff.1 (Answer.isZero_iff_eq_none.2 ⟨candidates a ha, failures a ha⟩)
  · intro zero
    have none : ∀ a ∈ as, a.candidate? = none ∧ a.failure? = none := fun a ha =>
      Answer.isZero_iff_eq_none.1 (Answer.isZero_iff.2 (zero a ha))
    exact ⟨fun a ha => (none a ha).1, fun a ha => (none a ha).2⟩

/-- The answer that a visit got; an excluded file is not asked about. -/
def Visit.answer? : Visit → Option Answer
  | .excluded _ => none
  | .counted path count => some ⟨path, count⟩

theorem Visit.mem_answers_iff {vs : List Visit} {a : Answer} :
    a ∈ vs.filterMap answer? ↔ .counted a.path a.count ∈ vs := by
  rw [List.mem_filterMap]
  constructor
  · rintro ⟨path | ⟨path, count⟩, hv, h⟩
    · cases h
    · cases h
      exact hv
  · exact fun hv => ⟨_, hv, rfl⟩

theorem Visit.isCounted_eq : isCounted = fun v => v.answer?.isSome := by
  funext v
  cases v <;> rfl

theorem Visit.candidate?_eq : candidate? = fun v => v.answer?.bind Answer.candidate? := by
  funext v
  rcases v with path | ⟨path, e | n | n⟩ <;> rfl

theorem Visit.failure?_eq : failure? = fun v => v.answer?.bind Answer.failure? := by
  funext v
  rcases v with path | ⟨path, e | n⟩ <;> rfl

theorem Discovery.ofVisits_eq (vs : List Visit) :
    Discovery.ofVisits vs = .ofAnswers (vs.filterMap Visit.answer?) := by
  simp only [ofVisits, ofAnswers, List.filterMap_filterMap, List.length_filterMap_eq_countP,
    Visit.isCounted_eq, Visit.candidate?_eq, Visit.failure?_eq]

/-- The verdict of a scan is clean exactly if each visit that was no exclusion counted zero. -/
theorem Remaining.isClean_ofVisits_iff (vs : List Visit) :
    (ofDiscovery (.ofVisits vs)).isClean = true
      ↔ ∀ p answer, .counted p answer ∈ vs → answer = .ok 0 := by
  rw [Discovery.ofVisits_eq, isClean_ofAnswers_iff]
  simp only [Visit.mem_answers_iff]
  exact ⟨fun zero p answer hv => zero ⟨p, answer⟩ hv, fun zero a hv => zero a.path a.count hv⟩

/-! ## Scans -/

section Scan

variable {σ : Type}

/-- Asks for the count of each file, in order, each time in the state that the question before
left. -/
def CountBackend.transcript (b : CountBackend σ) :
    List Path → Workspace × σ → List Answer × (Workspace × σ)
  | [], s => ([], s)
  | p :: ps, s =>
    let answer := b.count p s
    let rest := b.transcript ps answer.2
    (⟨p, answer.1⟩ :: rest.1, rest.2)

theorem CountBackend.path_transcript (b : CountBackend σ) (ps : List Path) (s : Workspace × σ) :
    (b.transcript ps s).1.map Answer.path = ps := by
  induction ps generalizing s with
  | nil => rfl
  | cons p ps ih => exact congrArg (p :: ·) (ih (b.count p s).2)

/-- The files that are not left out. -/
def Config.kept (c : Config) (ps : List Path) : List Path := ps.filter fun p => !c.excludes p

/-- A scan asks about the files that are kept, in order, and about no other: an excluded file leaves
the state as it is. -/
theorem visitAll_transcript (b : CountBackend σ) (c : Config) (ps : List Path)
    (s : Workspace × σ) :
    ((visitAll b c ps s).1.filterMap Visit.answer?, (visitAll b c ps s).2)
      = b.transcript (c.kept ps) s := by
  induction ps generalizing s with
  | nil => rfl
  | cons p ps ih =>
    by_cases hp : c.excludes p = true
    · have kept : c.kept (p :: ps) = c.kept ps := by simp [Config.kept, hp]
      rw [visitAll, if_pos hp, kept, ← ih]
      rfl
    · have kept : c.kept (p :: ps) = p :: c.kept ps := by simp [Config.kept, hp]
      rw [visitAll, if_neg hp, kept, CountBackend.transcript, ← ih]
      rfl

theorem rescan_eq (b : CountBackend σ) (c : Config) (s : Workspace × σ) :
    rescan b c s
      = ((discover b c s).1.mapError fun f => f.during .finalScan, (discover b c s).2) := by
  unfold rescan
  rcases discover b c s with ⟨failure | visits, s'⟩ <;> rfl

/-- The account of a scan.  If the files cannot be listed, the scan fails, whatever counting would
have given: no count is asked for.  Otherwise the backend is asked once for each listed file that is
not excluded, in order, and each answer is found in its place: positive counts among the candidates,
errors among the failures, and zeros in the rest of the number of scanned files.  A final scan gets
the same answers, and its verdict is clean exactly if all of them were zero. -/
theorem discover_account (b : CountBackend σ) (c : Config) (s : Workspace × σ) :
    match b.enumerate c.root c.extension s with
    | (.error f, s') =>
      let failure := f.during (.enumerate c.extension c.root)
      ∀ count, discover { b with count } c s = (.error failure, s')
        ∧ rescan { b with count } c s = (.error (failure.during .finalScan), s')
    | (.ok paths, s') =>
      let kept := paths.filter fun p => !c.excludes p
      let asked := b.transcript kept s'
      asked.1.map Answer.path = kept ∧ ∃ visits,
        discover b c s = (.ok visits, asked.2) ∧ rescan b c s = (.ok visits, asked.2) ∧
        let found := Discovery.ofVisits visits
        let remaining := Remaining.ofDiscovery found
        found.scanned = kept.length
          ∧ found.candidates = asked.1.filterMap Answer.candidate?
          ∧ found.failures = asked.1.filterMap Answer.failure?
          ∧ found.scanned
            = found.candidates.length + found.failures.length + asked.1.countP Answer.isZero
          ∧ remaining.files = found.candidates
          ∧ remaining.unknown = found.failures.length
          ∧ (remaining.isClean = true ↔ ∀ a ∈ asked.1, a.count = .ok 0) := by
  rcases hlist : b.enumerate c.root c.extension s with ⟨f | paths, s'⟩ <;> dsimp only
  · intro count
    have failed : discover { b with count } c s
        = (.error (f.during (.enumerate c.extension c.root)), s') := by
      rw [discover, hlist]
    exact ⟨failed, by rw [rescan_eq, failed]; rfl⟩
  · have scan := visitAll_transcript b c paths s'
    rw [Config.kept] at scan
    have ended : discover b c s = (.ok (visitAll b c paths s').1, (visitAll b c paths s').2) := by
      rw [discover, hlist]
    have paired := b.path_transcript (paths.filter fun p => !c.excludes p) s'
    rw [← scan] at paired ⊢
    refine ⟨paired, _, ended, by rw [rescan_eq, ended]; rfl, ?_⟩
    rw [Discovery.ofVisits_eq]
    refine ⟨?_, rfl, rfl, Answer.length_eq _, rfl, rfl, Remaining.isClean_ofAnswers_iff _⟩
    rw [← paired, List.length_map]
    rfl

/-- A file that is listed twice is counted twice, and the second answer may be another one. -/
example :
    let p : Path := ⟨"src/a.js".toList⟩
    let b : CountBackend Nat :=
      { name := "changing"
        enumerate := fun _ _ s => (.ok [p, p, p], s)
        count := fun _ s => (if s.2 = 2 then .error (.read p .notFound) else .ok s.2,
          (s.1, s.2 + 1)) }
    (discover b {} ({ tree := ⟨[]⟩ }, 0)).1.map Discovery.ofVisits
      = .ok ⟨3, [⟨p, 1⟩], [⟨p, .read p .notFound⟩]⟩ := rfl

end Scan

end LogMigration
