import Gleaner.Digest.Md5
import Gleaner.Digest.Sha

/-!
Digests by name.
-/

namespace Gleaner.Digest

inductive Algorithm where
  | md5
  | sha1
  | sha256
  deriving DecidableEq

def Algorithm.ofName? : String → Option Algorithm
  | "md5" => some .md5
  | "sha1" => some .sha1
  | "sha256" => some .sha256
  | _ => none

/-- The digest of a text, as hexadecimal digits. -/
def Algorithm.digest (a : Algorithm) (s : String) : String :=
  match a with
  | .md5 => Md5.digest (Text.octetsOf s)
  | .sha1 => Sha1.digest (Text.octetsOf s)
  | .sha256 => Sha256.digest (Text.octetsOf s)

end Gleaner.Digest
