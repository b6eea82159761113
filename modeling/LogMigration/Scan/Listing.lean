import LogMigration.Scan.Discovery

/-!
# The listing of a scan

What a scan found, as text: the figures, a line for each file with statements, and a line for each
file that could not be counted.
-/

set_option autoImplicit false

namespace LogMigration

/-- The number in at least four columns, to the right. -/
def inFourColumns (n : Nat) : String :=
  let digits := toString n
  "".pushn ' ' (4 - digits.length) ++ digits

namespace Discovery

def lines (d : Discovery) : List String :=
  (if d.candidates.isEmpty then ["No console statements found!"]
  else
    ("Console statements: " ++ toString d.total ++ " in " ++ toString d.candidates.length
      ++ " files (of " ++ toString d.scanned ++ " scanned)")
    :: d.candidates.map fun c => "   " ++ inFourColumns c.count ++ "  " ++ c.path.toString)
  ++ d.failures.map fun f => "   count failed: " ++ f.path.toString ++ ": " ++ f.error.message

def render (d : Discovery) : String := String.join (d.lines.map (· ++ "\n"))

end Discovery

end LogMigration
