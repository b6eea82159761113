import LogMigration.Scan.Backend

/-!
# Replayed scans

A backend that answers from recorded scans: each listing moves on to the next record, and the last
one stays in place.
-/

set_option autoImplicit false

namespace LogMigration

/-- A recorded file: the answer to the question for its count. -/
structure RecordedFile where
  path : Path
  answer : Except QueryError Nat

/-- A recorded scan: a message with which listing fails, or the listed files. -/
inductive RecordedScan where
  | fails (message : Text)
  | lists (files : List RecordedFile)

namespace RecordedScan

def files : RecordedScan → List RecordedFile
  | .fails _ => []
  | .lists files => files

end RecordedScan

/-- The scans in the order of the listings, and how many listings there were. -/
structure Recording where
  scans : List RecordedScan
  listings : Nat := 0

namespace Recording

/-- The scan with a number, or the last one. -/
def scan (r : Recording) (k : Nat) : RecordedScan :=
  (r.scans[min k (r.scans.length - 1)]?).getD (.lists [])

/-- The backend that replays a recording.  A file that was not recorded has no count. -/
def backend : CountBackend Recording where
  name := "scripted"
  enumerate _ _ s :=
    let answer := match s.2.scan s.2.listings with
      | .fails message => .error (.of (.backend message))
      | .lists files => .ok (files.map RecordedFile.path)
    (answer, (s.1, { s.2 with listings := s.2.listings + 1 }))
  count path s :=
    let answer := match (s.2.scan (s.2.listings - 1)).files.find? fun f => f.path = path with
      | some f => f.answer
      | none => .error (.parse "scripted".toList path.text)
    (answer, s)

end Recording

end LogMigration
