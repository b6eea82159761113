import LogMigration.Proofs.BuiltinScan
import LogMigration.Proofs.Utf8Decoding
import LogMigration.Run.Tree
import LogMigration.Scan.System

/-!
# What a run does to a tree

A run changes each candidate by itself, in its place, and nothing else.

* `SourceEdit.rewritten` — what a converted file holds; `Workspace.tried` — what a candidate holds,
  whether it could be written or not.
* `candidate_convertTree` — each candidate is tried, in order, with any backend.
* `runFile_workspace`, `runFiles_workspace` — one candidate, and a list of them.
* `Config.converted` — what a run makes of the file at a location; `convertTree_mapFiles` says that
  the tree after a run is the tree before with this change.
* `convertTree_changes_exactly` — the files that a run changes, and what they hold afterwards.
-/

set_option autoImplicit false

namespace LogMigration

open FileTree

/-- What a file holds after its conversion.  Bytes that are not UTF-8 are left as they are. -/
def SourceEdit.rewritten (directory : Path) (target : LoggerTarget) (p : Path) (content : Bytes) :
    Bytes :=
  match Utf8.decode content with
  | .ok text => Utf8.encode (SourceEdit.of directory target p text).text
  | .error _ => content

/-- Why an edit cannot be written to its file.  One that changes nothing is not written. -/
def Workspace.editError? (w : Workspace) (p : Path) (text : Text) (edit : SourceEdit) :
    Option IoError :=
  if edit.text = text then none else w.writeError? p (Utf8.encode edit.text)

theorem Workspace.editError?_of_fault? {w : Workspace} {p : Path} (h : w.fault? p = none)
    (text : Text) (edit : SourceEdit) : w.editError? p text edit = none := by
  rw [editError?, writeError?_of_fault? h, ite_self]

/-- What the file at a location holds after the candidate with the path `p` has been tried. -/
def Workspace.tried (w : Workspace) (target : LoggerTarget) (p : Path) (l : Location)
    (content : Bytes) : Bytes :=
  let new := SourceEdit.rewritten w.directory target p content
  if new = content then content else w.stored l content new

theorem tried_of_editError? {w : Workspace} {target : LoggerTarget} {p : Path} {l : Location}
    {content : Bytes} {text : Text} (hp : w.tree.resolve w.cwd p true = .ok l)
    (hdecode : Utf8.decode content = .ok text)
    (h : w.editError? p text (SourceEdit.of w.directory target p text) = none) :
    w.tried target p l content = Utf8.encode (SourceEdit.of w.directory target p text).text := by
  unfold Workspace.editError? at h
  simp only [Workspace.tried, SourceEdit.rewritten, hdecode]
  split at h
  · rename_i hsame
    rw [hsame, Utf8.encode_of_decode hdecode, if_pos rfl]
  · rw [Workspace.stored_of_writeError? hp h]
    split
    · exact Eq.symm ‹_›
    · rfl

/-- What a list of candidates makes of the file at a location. -/
def Config.triedAt (c : Config) (w : Workspace) (base : Location) (paths : List Path)
    (l : Location) (content : Bytes) : Bytes :=
  match walkPath? c.root base l with
  | none => content
  | some p => if p ∈ paths then w.tried c.logger p l content else content

theorem Config.triedAt_mapFiles (c : Config) (f : Location → Bytes → Bytes) (w : Workspace) :
    c.triedAt (w.mapFiles f) = c.triedAt w := rfl

/-- Whether a candidate is a file below the root, which is at `base`. -/
def Candidate.IsBelow (candidate : Candidate) (root : Path) (base : Location) (w : Workspace) :
    Prop :=
  ∃ l content executable, walkPath? root base l = some candidate.path
    ∧ w.tree.get? l = some (.file content executable)

theorem Candidate.IsBelow.mapFiles {candidate : Candidate} {root : Path} {base : Location}
    {w : Workspace} (h : candidate.IsBelow root base w) (f : Location → Bytes → Bytes) :
    candidate.IsBelow root base (w.mapFiles f) := by
  obtain ⟨l, content, executable, hp, hl⟩ := h
  refine ⟨l, f l content, executable, hp, ?_⟩
  rw [Workspace.tree_mapFiles, get?_mapFiles, hl]
  rfl

/-! ## The candidates of a run -/

/-- The candidate that was to be converted. -/
def FileRun.candidate : FileRun → Candidate
  | .unreadable candidate _ | .unwritable candidate _ _ | .converted candidate _ _ => candidate

section Files

variable {σ : Type} {b : CountBackend σ} (hb : b.ReordersBuiltin) (c : Config)

theorem candidate_runFile (dryRun : Bool) (candidate : Candidate) (s : Workspace × σ) :
    (runFile b c dryRun candidate s).1.candidate = candidate := by
  unfold runFile
  dsimp only
  split
  · rfl
  · split
    · rfl
    · split <;> rfl

/-- Candidates are tried one after the other, and a failure does not end the run. -/
theorem candidate_runFiles (dryRun : Bool) (cs : List Candidate) (s : Workspace × σ) :
    (runFiles b c dryRun cs s).1.map FileRun.candidate = cs := by
  induction cs generalizing s with
  | nil => rfl
  | cons candidate cs ih => rw [runFiles, List.map_cons, candidate_runFile, ih]

/-- Each candidate of the first scan has been tried, in order; a rehearsal has no final scan, and a
run has one. -/
theorem candidate_convertTree {c : Config} {dryRun : Bool} {s : Workspace × σ} {r : RunRecord}
    (hr : (convertTree b c dryRun s).1 = .ok r) :
    r.files.map FileRun.candidate = r.discovery.candidates ∧ r.rescanned.isNone = dryRun := by
  unfold convertTree at hr
  split at hr
  · cases hr
  · cases dryRun with
    | true =>
      obtain rfl := Except.ok.inj hr
      exact ⟨candidate_runFiles c true _ _, rfl⟩
    | false =>
      obtain rfl := Except.ok.inj hr
      exact ⟨candidate_runFiles c false _ _, rfl⟩

theorem runFile_dry (candidate : Candidate) (s : Workspace × σ) :
    (runFile b c true candidate s).2 = s := by
  unfold runFile
  dsimp only
  split
  · rfl
  · rw [if_pos rfl]

theorem runFiles_dry (cs : List Candidate) (s : Workspace × σ) :
    (runFiles b c true cs s).2 = s := by
  induction cs generalizing s with
  | nil => rfl
  | cons candidate cs ih =>
    rw [runFiles]
    dsimp only
    rw [ih, runFile_dry]

theorem runFile_unreadable {dryRun : Bool} {candidate : Candidate} {s : Workspace × σ} {e : IoError}
    (h : s.1.readText candidate.path = .error e) :
    runFile b c dryRun candidate s
      = (.unreadable candidate (Failure.during (.readFile candidate.path) (.of (.io e))), s) := by
  simp only [runFile, h]

/-- Where a new text is refused, nothing is changed, and the backend is not asked again. -/
theorem runFile_refused {candidate : Candidate} {s : Workspace × σ} {text : Text} {e : IoError}
    (hread : s.1.readText candidate.path = .ok text)
    (hchanges : (SourceEdit.of s.1.directory c.logger candidate.path text).text ≠ text)
    (hfault : s.1.fault? candidate.path = some (.refused e)) :
    runFile b c false candidate s
      = (.unwritable candidate (.of s.1.directory c.logger candidate.path text)
          (Failure.during (.writeFile candidate.path) (.of (.io e))), s) := by
  simp only [runFile, hread, Bool.false_eq_true, if_false, hchanges, Workspace.write, hfault]

/-- A candidate with a text is changed in its place and counted again, if its new text can be
written.  The file is not written if its text stays the same, and then its bytes stay the same as
well. -/
theorem runFile_of_decode {s : Workspace × σ} (ht : s.1.tree.WellFormed) {candidate : Candidate}
    {l : Location} {content : Bytes} {executable : Bool}
    (hp : s.1.tree.resolve s.1.cwd candidate.path true = .ok l)
    (h : s.1.tree.get? l = some (.file content executable)) {text : Text}
    (hdecode : Utf8.decode content = .ok text) :
    let edit := SourceEdit.of s.1.directory c.logger candidate.path text
    let after := (s.1.mapFiles (onlyAt l (s.1.tried c.logger candidate.path l)), s.2)
    let recount := b.count candidate.path after
    runFile b c false candidate s = match s.1.editError? candidate.path text edit with
      | none => (.converted candidate edit (some recount.1), recount.2)
      | some e => (.unwritable candidate edit
          (Failure.during (.writeFile candidate.path) (.of (.io e))), after) := by
  intro edit after recount
  have read : s.1.readText candidate.path = .ok text := Workspace.readText_of_decode hp h hdecode
  have changed : SourceEdit.rewritten s.1.directory c.logger candidate.path content
      = Utf8.encode edit.text := by
    simp only [SourceEdit.rewritten, hdecode, edit]
  have same : SourceEdit.rewritten s.1.directory c.logger candidate.path content = content
      ↔ edit.text = text := by
    rw [changed, ← Utf8.encode_of_decode hdecode]
    exact Utf8.encode_injective.eq_iff
  unfold runFile Workspace.editError?
  simp only [read, Bool.false_eq_true, if_false]
  by_cases hsame : edit.text = text
  · have kept : s.1.mapFiles (onlyAt l (s.1.tried c.logger candidate.path l)) = s.1 :=
      Workspace.mapFiles_onlyAt_eq_self ht h (if_pos (same.2 hsame))
    simp only [edit] at hsame
    simp only [hsame, if_true, recount, after, kept, edit]
  · have tried : s.1.mapFiles (onlyAt l fun old => s.1.stored l old (Utf8.encode edit.text))
        = s.1.mapFiles (onlyAt l (s.1.tried c.logger candidate.path l)) := by
      refine Workspace.mapFiles_onlyAt_congr ht h ?_
      rw [Workspace.tried, if_neg (mt same.1 hsame), changed]
    have written := Workspace.write_of_resolve ht hp h (Utf8.encode edit.text)
    simp only [tried] at written
    simp only [edit] at hsame written
    simp only [hsame, if_false, written, recount, after, edit]
    cases s.1.writeError? candidate.path _ <;> rfl

include hb

theorem runFile_workspace {s : Workspace × σ} (ht : s.1.tree.WellFormed) {candidate : Candidate}
    {l : Location} {content : Bytes} {executable : Bool}
    (hp : s.1.tree.resolve s.1.cwd candidate.path true = .ok l)
    (h : s.1.tree.get? l = some (.file content executable)) :
    (runFile b c false candidate s).2.1
      = s.1.mapFiles (onlyAt l (s.1.tried c.logger candidate.path l)) := by
  cases hdecode : Utf8.decode content with
  | error e =>
    have same : SourceEdit.rewritten s.1.directory c.logger candidate.path content = content := by
      simp only [SourceEdit.rewritten, hdecode]
    have kept : s.1.mapFiles (onlyAt l (s.1.tried c.logger candidate.path l)) = s.1 :=
      Workspace.mapFiles_onlyAt_eq_self ht h (if_pos same)
    rw [runFile_unreadable c (Workspace.readText_of_decode_error hp h hdecode), kept]
  | ok text =>
    rw [runFile_of_decode c ht hp h hdecode]
    split
    · exact hb.count_workspace _ _
    · rfl

/-- A list of candidates: each file is changed by itself, whatever the order. -/
theorem runFiles_workspace {s : Workspace × σ} (ht : s.1.tree.WellFormed) {base : Location}
    (hroot : s.1.tree.resolve s.1.cwd c.root true = .ok base) {cs : List Candidate}
    (hcs : ∀ candidate ∈ cs, candidate.IsBelow c.root base s.1)
    (hnodup : (cs.map Candidate.path).Nodup) :
    (runFiles b c false cs s).2.1
      = s.1.mapFiles (c.triedAt s.1 base (cs.map Candidate.path)) := by
  induction cs generalizing s with
  | nil =>
    refine (Workspace.mapFiles_eq_self fun l content _ _ => ?_).symm
    unfold Config.triedAt
    split <;> simp
  | cons candidate cs ih =>
    obtain ⟨⟨l, content, executable, hp, hl⟩, hcs⟩ := List.forall_mem_cons.1 hcs
    obtain ⟨hnew, hnodup⟩ := List.nodup_cons.1 hnodup
    have first := runFile_workspace hb c ht (ht.resolve_walkPath hroot hp hl) hl
    have later := ih (s := (runFile b c false candidate s).2)
    rw [first] at later
    rw [runFiles]
    refine (later ht.mapFiles ((resolve_mapFiles ..).trans hroot)
      (fun other hother => (hcs other hother).mapFiles _) hnodup).trans ?_
    rw [Workspace.mapFiles_mapFiles, Config.triedAt_mapFiles]
    refine Workspace.mapFiles_congr fun m bytes x hm => ?_
    unfold Config.triedAt onlyAt
    by_cases hml : m = l
    · -- This file has been changed already, and no other candidate is at its location.
      rw [hml, hp, if_pos rfl, List.map_cons]
      dsimp only
      rw [if_neg hnew, if_pos (List.mem_cons_self ..)]
    · rw [if_neg hml]
      cases hm' : walkPath? c.root base m with
      | none => rfl
      | some p =>
        have other : p ≠ candidate.path := by
          rintro rfl
          exact hml (ht.walkPath_inj hroot hm' (ht.get?_of_mem hm) hp hl)
        simp only [List.map_cons, List.mem_cons, other, false_or]

end Files

/-! ## The run -/

/-- What a run makes of the file at a location. -/
def Config.converted (c : Config) (w : Workspace) (base l : Location) (content : Bytes) :
    Bytes :=
  match walkPath? c.root base l with
  | none => content
  | some p =>
    if p.extension? = some c.extension ∧ c.excludes p = false
        ∧ 0 < Console.count (Utf8.decodeLossy content) then
      w.tried c.logger p l content
    else content

section Candidates

variable {c : Config} {w : Workspace} (ht : w.tree.WellFormed) {base : Location}
  (hroot : w.tree.resolve w.cwd c.root true = .ok base) {paths listing : List Path}
  (hlist : Builtin.enumerate w c.root c.extension = .ok paths) (hperm : listing.Perm paths)

include ht hroot hlist hperm

theorem candidate_isBelow {candidate : Candidate}
    (h : candidate ∈ (Discovery.ofVisits (listing.map (c.visit w))).candidates) :
    candidate.IsBelow c.root base w := by
  obtain ⟨l, content, executable, hl, hp, -⟩ := (Builtin.mem_of_enumerate ht hroot hlist).1
    (hperm.mem_iff.1 (path_mem_of_candidate h))
  exact ⟨l, content, executable, hp, hl⟩

theorem nodup_candidates :
    ((Discovery.ofVisits (listing.map (c.visit w))).candidates.map Candidate.path).Nodup := by
  rw [path_candidates]
  exact ((hperm.nodup_iff).2 (Builtin.nodup_of_enumerate ht hroot hlist)).filter _

/-- The candidates among the listed files are the files that a run converts. -/
theorem triedAt_eq_converted {l : Location} {content : Bytes} {executable : Bool}
    (h : w.tree.get? l = some (.file content executable)) :
    c.triedAt w base (listing.filter (c.isCandidate w)) l content = c.converted w base l content := by
  unfold Config.triedAt Config.converted
  cases hp : walkPath? c.root base l with
  | none => rfl
  | some p =>
    have listed : p ∈ listing ↔ p.extension? = some c.extension := by
      rw [hperm.mem_iff, Builtin.mem_of_enumerate ht hroot hlist]
      exact ⟨fun ⟨_, _, _, _, _, hext⟩ => hext, fun hext => ⟨l, content, executable, h, hp, hext⟩⟩
    have counted : Builtin.count w p = .ok (Console.count (Utf8.decodeLossy content)) :=
      Builtin.count_of_resolve (ht.resolve_walkPath hroot hp h) h
    have selected : p ∈ listing.filter (c.isCandidate w) ↔ p.extension? = some c.extension
        ∧ c.excludes p = false ∧ 0 < Console.count (Utf8.decodeLossy content) := by
      simp [List.mem_filter, listed, Config.isCandidate, counted]
    simp only [selected]

end Candidates

theorem Config.countBackend_reordersBuiltin {c : Config} (hc : c.backend = .builtin) :
    c.countBackend.ReordersBuiltin := by
  rw [countBackend, hc]
  exact Builtin.reordersBuiltin

section Run

variable {σ : Type} {b : CountBackend σ} (hb : b.ReordersBuiltin) (c : Config)

include hb

theorem convertTree_dry (s : Workspace × σ) : (convertTree b c true s).2.1 = s.1 := by
  rcases discover_cases hb c s with ⟨_, _, _, -, scanned, same⟩ | ⟨_, _, _, -, -, scanned, same⟩
  · rw [convertTree, scanned]
    exact same
  · rw [convertTree, scanned]
    dsimp only
    rw [if_pos rfl, runFiles_dry]
    exact same

theorem rescan_workspace (s : Workspace × σ) : (rescan b c s).2.1 = s.1 := by
  rcases discover_cases hb c s with ⟨_, _, _, -, scanned, same⟩ | ⟨_, _, _, -, -, scanned, same⟩ <;>
    rw [rescan, scanned, same]

theorem runFiles_converted {w : Workspace} (state : σ) (ht : w.tree.WellFormed) {base : Location}
    (hroot : w.tree.resolve w.cwd c.root true = .ok base) {paths listing : List Path}
    (hlist : Builtin.enumerate w c.root c.extension = .ok paths) (hperm : listing.Perm paths) :
    (runFiles b c false (Discovery.ofVisits (listing.map (c.visit w))).candidates (w, state)).2.1
      = w.mapFiles (c.converted w base) := by
  rw [runFiles_workspace hb c (s := (w, state)) ht hroot
    (fun candidate h => candidate_isBelow ht hroot hlist hperm h)
    (nodup_candidates ht hroot hlist hperm), path_candidates]
  exact Workspace.mapFiles_congr fun l content executable hl =>
    triedAt_eq_converted ht hroot hlist hperm (ht.get?_of_mem hl)

/-- The tree after a run is the tree before it with the converted files. -/
theorem convertTree_mapFiles {s : Workspace × σ} (ht : s.1.tree.WellFormed) {base : Location}
    (hroot : s.1.tree.resolve s.1.cwd c.root true = .ok base) :
    (convertTree b c false s).2.1 = s.1.mapFiles (c.converted s.1 base) := by
  obtain ⟨w, state⟩ := s
  rcases discover_cases hb c (w, state) with
    ⟨f, _, ⟨w', state'⟩, hlist, scanned, same⟩ |
    ⟨paths, listing, ⟨w', state'⟩, hlist, hperm, scanned, same⟩
  all_goals obtain rfl : w' = w := same
  · -- The root is no directory, so there is no file below it.
    have untouched : w'.mapFiles (c.converted w' base) = w' := by
      refine Workspace.mapFiles_eq_self fun l content executable hl => ?_
      unfold Config.converted
      cases hp : walkPath? c.root base l with
      | none => rfl
      | some p =>
        obtain ⟨paths, listed⟩ := Builtin.enumerate_of_file c.extension ht hroot hp
          (ht.get?_of_mem hl)
        rw [hlist] at listed
        cases listed
    rw [convertTree, scanned]
    exact untouched.symm
  · rw [convertTree, scanned]
    simp only [Bool.false_eq_true, if_false, rescan_workspace hb]
    exact runFiles_converted hb c state' ht hroot hlist hperm

end Run

/-- Whether a run converts the content of the file at a location: the file is below the root, which
is at `base`, and `p` is its path from there; it has the extension and is not excluded; and the
content is UTF-8 and has statements. -/
structure Config.Converts (c : Config) (base l : Location) (content : Bytes) (p : Path)
    (text : Text) : Prop where
  below : ∃ names, names ≠ [] ∧ l = base ++ names ∧ p = names.foldl Path.join c.root
  extension : p.extension? = some c.extension
  included : c.excludes p = false
  decoded : Utf8.decode content = .ok text
  statements : 0 < Console.count text

namespace Config.Converts

variable {c : Config} {w : Workspace} {base l : Location} {content : Bytes} {p : Path} {text : Text}

theorem converted_eq (h : c.Converts base l content p text) (hfault : w.faultAt? l = none) :
    c.converted w base l content
      = Utf8.encode (SourceEdit.of w.directory c.logger p text).text := by
  have statements : 0 < Console.count (Utf8.decodeLossy content) := by
    rw [Utf8.decodeLossy_of_decode h.decoded]
    exact h.statements
  have stored : ∀ new, w.stored l content new = new := fun new => by rw [Workspace.stored, hfault]
  simp only [Config.converted, walkPath?_eq_some_iff.2 h.below, h.extension, h.included, statements,
    and_self, if_true, Workspace.tried, SourceEdit.rewritten, h.decoded, stored]
  split
  · exact Eq.symm ‹_›
  · rfl

theorem converted_eq_self (h : ∀ p text, ¬ c.Converts base l content p text) :
    c.converted w base l content = content := by
  unfold Config.converted
  split
  · rfl
  · rename_i p hp
    split
    · rename_i hselected
      cases hdecode : Utf8.decode content with
      | error e => simp only [Workspace.tried, SourceEdit.rewritten, hdecode, if_true]
      | ok text =>
        obtain ⟨hext, hincluded, hcount⟩ := hselected
        rw [Utf8.decodeLossy_of_decode hdecode] at hcount
        exact absurd ⟨walkPath?_eq_some_iff.1 hp, hext, hincluded, hdecode, hcount⟩ (h p text)
    · rfl

end Config.Converts

/-- A run of the builtin backend changes exactly the files that it should, to exactly the right
content, if they can be written: every other location holds what it held before, and none appears
or disappears.  The tree after the run does not depend on the order in which the files are listed,
and a rehearsal leaves all as it is. -/
theorem convertTree_changes_exactly {w : Workspace} (ht : w.tree.WellFormed) {c : Config}
    (hc : c.backend = .builtin) {base : Location}
    (hroot : w.tree.resolve w.cwd c.root true = .ok base) :
    let after := (convertTree c.countBackend c false (w, ())).2.1
    (∀ l content executable p text, w.tree.get? l = some (.file content executable) →
        c.Converts base l content p text → w.faultAt? l = none →
        after.tree.get? l
          = some (.file (Utf8.encode (SourceEdit.of w.directory c.logger p text).text) executable))
      ∧ (∀ l, (∀ content executable p text, w.tree.get? l = some (.file content executable) →
          ¬ c.Converts base l content p text) → after.tree.get? l = w.tree.get? l)
      ∧ after.tree.entries.map Prod.fst = w.tree.entries.map Prod.fst
      ∧ (∀ (σ : Type) (b : CountBackend σ) (state : σ), b.ReordersBuiltin →
        (convertTree b c false (w, state)).2.1 = after)
      ∧ (convertTree c.countBackend c true (w, ())).2.1 = w := by
  intro after
  have builtin := Config.countBackend_reordersBuiltin hc
  have updated : after = w.mapFiles (c.converted w base) :=
    convertTree_mapFiles builtin c (s := (w, ())) ht hroot
  refine ⟨fun l content executable p text hl hconverts hfault => ?_, fun l hl => ?_, ?_,
    fun σ b state hb => ?_, convertTree_dry builtin c (w, ())⟩
  · rw [updated, Workspace.tree_mapFiles, get?_mapFiles, hl, Option.map_some, Entry.mapContent,
      hconverts.converted_eq hfault]
  · rw [updated, Workspace.tree_mapFiles, get?_mapFiles]
    cases hentry : w.tree.get? l with
    | none => rfl
    | some e =>
      cases e with
      | directory => rfl
      | link target => rfl
      | file content executable =>
        rw [Option.map_some, Entry.mapContent,
          Config.Converts.converted_eq_self fun p text => hl content executable p text hentry]
  · rw [updated]
    exact locations_mapFiles
  · rw [updated]
    exact convertTree_mapFiles hb c (s := (w, state)) ht hroot

/-- A directory with a source file, another one that cannot be written and a note that all hold the
same: the first is converted and the others are not, also when the files are listed in reverse. -/
theorem convertTree_source_and_note :
    let statement := Utf8.encode "console.log('x');".toList
    let w : Workspace := {
      tree := ⟨[(["src".toList], .directory),
        (["src".toList, "a.js".toList], .file statement false),
        (["src".toList, "b.js".toList], .file statement false),
        (["src".toList, "note.txt".toList], .file statement true)]⟩
      faults := [(["src".toList, "b.js".toList], .refused .permissionDenied)] }
    let after := (convertTree (Config.countBackend {}) {} false (w, ())).2.1
    after.tree.get? ["src".toList, "a.js".toList]
        = some (.file (Utf8.encode "logger.info('x');".toList) false)
      ∧ after.tree.get? ["src".toList, "note.txt".toList] = some (.file statement true)
      ∧ (convertTree Builtin.reversed {} false (w, ())).2.1 = after := by
  intro statement w after
  have wellFormed : w.tree.WellFormed :=
    ⟨by decide +kernel, by decide +kernel, by decide +kernel⟩
  have directory : w.tree.get? ["src".toList] = some .directory := by decide +kernel
  have root : w.tree.resolve w.cwd ⟨"src".toList⟩ true = .ok ["src".toList] :=
    wellFormed.resolve_relative rfl (by decide) (by decide) (by decide +kernel) directory (by simp)
  obtain ⟨changed, kept, -, same, -⟩ := convertTree_changes_exactly wellFormed (c := {}) rfl root
  refine ⟨?_, ?_, same Unit Builtin.reversed () Builtin.reversed_reordersBuiltin⟩
  · have source : Config.Converts {} ["src".toList] ["src".toList, "a.js".toList] statement
        ⟨"src/a.js".toList⟩ "console.log('x');".toList :=
      ⟨⟨["a.js".toList], by decide, by decide, by decide +kernel⟩, by decide +kernel,
        by decide +kernel, by decide +kernel, by decide +kernel⟩
    have text : (SourceEdit.of w.directory {} ⟨"src/a.js".toList⟩ "console.log('x');".toList).text
        = "logger.info('x');".toList := by decide +kernel
    rw [← text]
    exact changed _ statement false _ _ (by decide +kernel) source (by decide +kernel)
  · refine (kept ["src".toList, "note.txt".toList] fun content executable p text _ h => ?_).trans
      (by decide +kernel)
    obtain ⟨names, -, hnames, rfl⟩ := h.below
    obtain rfl : ["note.txt".toList] = names := (List.cons.inj hnames).2
    have other : (["note.txt".toList].foldl Path.join ⟨"src".toList⟩).extension?
        ≠ some "js".toList := by decide +kernel
    exact other h.extension

end LogMigration
