import Gleaner.Command.Batch
import Gleaner.Command.Scrape

/-!
The program as a whole: a command line, run in surroundings and on a disk.
-/

namespace Gleaner.Command

def run (c : Command) (s : Web.Surroundings) (d : Disk) : Outcome :=
  match c with
  | .scrape o => o.run s d
  | .batch o => o.run s d

/-- Ends with help. -/
def helped (d : Disk) (code : Nat) : Outcome := { code := .ok code, disk := d, printed := .help }

/-- The exit code of a line that cannot be read. -/
def misuseCode : Nat := 2

/-- Runs a command line. -/
def runLine (line : List String) (s : Web.Surroundings) (d : Disk) : Outcome :=
  match ofLine line with
  | .error .help => helped d 0
  | .error .misuse => { code := .ok misuseCode, disk := d }
  | .ok none => helped d 1
  | .ok (some c) => c.run s d

end Gleaner.Command
