import LogMigration.Config.Basic
import LogMigration.Toml.Document

/-!
# Configuration files

The table `console_to_logger` of a configuration document.  Its fields are found by name, or by
position if it is written as an array; other keys are ignored.

* `Config.ofDocument` — the configuration that a document describes.
* `isIdentifier_of_ofDocument` — the logger of such a configuration can be called by its name.
-/

set_option autoImplicit false

namespace LogMigration

namespace Config

open Toml

/-- The fields of the table as they are written. -/
structure Fields where
  backend : Option Text := none
  root : Option Text := none
  extension : Option Text := none
  treeRoot : Option Text := none
  module : Option Text := none
  binding : Option Text := none
  exclude : Option (List Text) := none

/-- A value that has to be a string. -/
def string? : Value → Option Text
  | .string s => some s
  | _ => none

/-- A value that has to be an array of strings. -/
def strings? : Value → Option (List Text)
  | .array items => items.mapM string?
  | _ => none

/-- Reads a field that may be missing. -/
def field? {α : Type} (read : Value → Option α) : Option Value → Option (Option α)
  | none => some none
  | some v => (read v).map some

/-- The fields, given the value of each. -/
def Fields.read? (value : Text → Option Value) : Option Fields := do
  let text (name : String) := field? string? (value name.toList)
  return {
    backend := ← text "backend"
    root := ← text "root"
    extension := ← text "extension"
    treeRoot := ← text "tree_root"
    module := ← text "logger_module"
    binding := ← text "logger_binding"
    exclude := ← field? strings? (value "exclude".toList) }

/-- The fields in the order of an array. -/
def fieldNames : List String :=
  ["backend", "root", "extension", "tree_root", "logger_module", "logger_binding", "exclude"]

/-- The fields of a table, of an array with a value for each field, or of a date, which has none. -/
def Fields.ofValue? : Value → Option Fields
  | .table _ entries => read? (Entries.get? entries)
  | .array items =>
    if items.length < fieldNames.length then none
    else read? (Entries.get? ((fieldNames.map String.toList).zip items))
  | .dateTime _ => some {}
  | _ => none

/-- The value of the table that a document has for this tool, or nothing if it is malformed. -/
def table? (s : Text) : Option (Option Fields) := do
  let entries ← Document.parse? s
  match entries.get? "console_to_logger".toList with
  | none => some none
  | some v => (Fields.ofValue? v).map some

/-- Reads the patterns in order. -/
def globs : List Text → Except Failure (List Glob)
  | [] => .ok []
  | g :: gs =>
    match Glob.parse g with
    | .error e => .error (Failure.during (.excludeGlob g) (.of (.glob e)))
    | .ok pattern => (globs gs).map (pattern :: ·)

/-- The configuration that the fields describe.  The first fault in the order of the checks is the
one that is reported. -/
def ofFields (f : Fields) : Except Failure Config := do
  let defaults : Config := {}
  let backend ← match f.backend with
    | some name => BackendKind.parse name
    | none => .ok defaults.backend
  let extension := (f.extension.map fun e => e.dropWhile (· = '.')).getD defaults.extension
  if extension = [] then throw (.of .emptyExtension)
  let exclude ← globs (f.exclude.getD [])
  let module := (f.module.map bareModule).getD defaults.logger.module
  let binding := f.binding.getD defaults.logger.binding
  if !isIdentifier binding then throw (.of (.invalidBinding binding))
  if module = [] then throw (.of .emptyModule)
  return {
    backend
    root := (f.root.map Path.mk).getD defaults.root
    extension
    exclude
    logger := {
      treeRoot := (f.treeRoot.map Path.mk).getD defaults.logger.treeRoot
      module
      binding } }

def ofDocument (s : Text) : Except Failure Config :=
  match table? s with
  | none => .error (.of .malformedConfig)
  | some none => .error (.of .missingTable)
  | some (some fields) => ofFields fields

theorem exists_of_bind_eq_ok {ε α β : Type} {x : Except ε α} {f : α → Except ε β} {b : β}
    (h : x >>= f = .ok b) : ∃ a, x = .ok a ∧ f a = .ok b := by
  cases x with
  | error e => cases h
  | ok a => exact ⟨a, rfl, h⟩

/-- The name of the logger has been checked. -/
theorem isIdentifier_of_ofFields {f : Fields} {c : Config} (h : ofFields f = .ok c) :
    isIdentifier c.logger.binding = true := by
  unfold ofFields at h
  extract_lets defaults extension module binding checked at h
  have passed : ∃ backend, checked backend = .ok c := by
    split at h
    · obtain ⟨backend, -, h⟩ := exists_of_bind_eq_ok h
      exact ⟨backend, h⟩
    · obtain ⟨backend, -, h⟩ := exists_of_bind_eq_ok h
      exact ⟨backend, h⟩
  clear h
  obtain ⟨backend, h⟩ := passed
  simp only [checked] at h
  -- Each check that fails ends in a failure, so the last branch is the only one left.
  split at h
  · obtain ⟨_, failed, -⟩ := exists_of_bind_eq_ok h
    cases failed
  · obtain ⟨exclude, -, h⟩ := exists_of_bind_eq_ok h
    split at h
    · obtain ⟨_, failed, -⟩ := exists_of_bind_eq_ok h
      cases failed
    · rename_i identifier
      split at h
      · obtain ⟨_, failed, -⟩ := exists_of_bind_eq_ok h
        cases failed
      · cases h
        simpa using identifier

theorem isIdentifier_of_ofDocument {s : Text} {c : Config} (h : ofDocument s = .ok c) :
    isIdentifier c.logger.binding = true := by
  unfold ofDocument at h
  split at h
  · cases h
  · cases h
  · exact isIdentifier_of_ofFields h

end Config

end LogMigration
