import Gleaner.Proofs.Basic
import Gleaner.Proofs.Store.Folder

/-! What the file of an address is called. Its name is the path of the address made safe, cut off
where it would become too long, and it ends in digits of a digest of the whole address where it is
cut off or the address has a query. -/

namespace Gleaner.Store

open Folders (fileFor nameFor join_fileName)
open Files (domainFor)

variable {c : Char} {address other url : String} {u v : Url} {stem : List Char}

/-- The path of an address made safe, however long it is. -/
def cleaned (path : List Char) : List Char :=
  let safe := (pathName path).map fun c => if isSafe c then c else '_'
  match Text.trimOf (· = '_') (squeeze safe) with
  | [] => "unnamed".toList
  | kept => kept

/-- Whether the name for an address ends in a digest. -/
def IsMarked (u : Url) : Prop := u.query ≠ [] ∨ 115 < (cleaned u.path).length

/-- The digits that mark a name: the first ones of the digest of the whole address. -/
def mark (address : String) : List Char := (Digest.Algorithm.md5.digest address).toList.take 8

section Mark

theorem length_hexFixed (k n : Nat) : (Text.hexFixed k n).length = k := by
  induction k generalizing n with
  | zero => rfl
  | succ k ih => simp [Text.hexFixed, ih]

theorem mem_digits_of_mem_hexFixed {k n : Nat} (h : c ∈ Text.hexFixed k n) :
    c ∈ "0123456789abcdef".toList := by
  have hdigit : ∀ n < 16, Text.hexDigit n ∈ "0123456789abcdef".toList := by decide
  induction k generalizing n with
  | zero => cases h
  | succ k ih =>
    rcases List.mem_append.mp h with h | h
    · exact ih h
    · rw [List.mem_singleton.mp h]
      exact hdigit (n % 16) (Nat.mod_lt n (by decide))

theorem length_octetsFrom (n k : Nat) : (Digest.octetsFrom n k).length = k := by
  induction k generalizing n with
  | zero => rfl
  | succ k ih => rw [Digest.octetsFrom, List.length_cons, ih]

theorem length_octets (order : Digest.Order) (n k : Nat) : (order.octets n k).length = k := by
  cases order with
  | smallFirst => exact length_octetsFrom n k
  | bigFirst => rw [Digest.Order.octets, List.length_reverse, length_octetsFrom]

theorem length_hex (order : Digest.Order) (state : List UInt32) :
    (Digest.hex order state).toList.length = 8 * state.length := by
  simp [Digest.hex, List.length_flatMap, length_hexFixed, length_octets, Nat.mul_comm]

theorem length_mark (address : String) : (mark address).length = 8 := by
  have hdigest : (Digest.Algorithm.md5.digest address).toList.length = 32 := length_hex _ _
  rw [mark, List.length_take, hdigest]
  rfl

theorem mem_digits_of_mem_mark (h : c ∈ mark address) : c ∈ "0123456789abcdef".toList := by
  have hdigest : c ∈ (Digest.Algorithm.md5.digest address).toList := List.mem_of_mem_take h
  simp only [Digest.Algorithm.digest, Digest.Md5.digest, Digest.hex, String.toList_ofList]
    at hdigest
  obtain ⟨w, -, hdigest⟩ := List.mem_flatMap.mp hdigest
  obtain ⟨b, -, hdigest⟩ := List.mem_flatMap.mp hdigest
  exact mem_digits_of_mem_hexFixed hdigest

end Mark

section Stem

theorem cleaned_ne_nil (path : List Char) : cleaned path ≠ [] := by
  unfold cleaned
  dsimp only
  split
  next => decide
  next hkept => exact hkept

/-- The stand-in name is so short that it may be chosen before the cut as well as after it. -/
theorem safeChars_eq (path : List Char) :
    safeChars nameLimit (pathName path) = (cleaned path).take 120 := by
  have hcut : ∀ kept, takeTo nameLimit kept = kept.take 120 := fun _ => rfl
  unfold safeChars cleaned
  dsimp only
  rw [hcut]
  generalize Text.trimOf (· = '_') (squeeze _) = kept
  cases kept with
  | nil => rfl
  | cons c kept => rfl

/-- The cut at the limit of a name does not hide that a path is too long. -/
theorem isMarked_iff : needsDigest u (safeChars nameLimit (pathName u.path)) = true ↔
    IsMarked u := by
  have hroom : stemLimit = 115 := rfl
  have hlength : ((cleaned u.path).take 120).length = min 120 (cleaned u.path).length :=
    List.length_take
  rw [needsDigest, hroom, safeChars_eq, hlength, Bool.or_eq_true, Bool.not_eq_true',
    List.isEmpty_eq_false_iff, decide_eq_true_eq, IsMarked]
  refine or_congr_right ?_
  omega

theorem fileName_of_isMarked (h : IsMarked u) (address : String) : fileName address u =
    String.ofList ((cleaned u.path).take 106 ++ '_' :: mark address ++ extension) := by
  have hkept : (safeChars nameLimit (pathName u.path)).take 106 = (cleaned u.path).take 106 := by
    rw [safeChars_eq, List.take_take]
    rfl
  unfold fileName
  dsimp only
  rw [if_pos (isMarked_iff.mpr h), ← hkept]
  rfl

theorem fileName_of_not_isMarked (h : ¬ IsMarked u) (address : String) :
    fileName address u = String.ofList (cleaned u.path ++ extension) := by
  have hshort : (cleaned u.path).length ≤ 115 := by
    by_contra hlong
    exact h (.inr (by omega))
  unfold fileName
  dsimp only
  rw [if_neg (mt isMarked_iff.mp h), safeChars_eq, List.take_of_length_le (by omega)]

/-- Names that are both marked are the same only if their marks are. -/
theorem mark_of_fileName_eq (hu : IsMarked u) (hv : IsMarked v)
    (h : fileName url u = fileName other v) : mark url = mark other := by
  rw [fileName_of_isMarked hu, fileName_of_isMarked hv] at h
  have hstems := List.append_cancel_right (String.ofList_injective h)
  have hends := List.append_inj_right' hstems (by simp [length_mark])
  exact (List.cons.inj hends).2

end Stem

/-- What stands before the ending in the name for an address. -/
structure IsStem (address : String) (u : Url) (stem : List Char) : Prop where
  not_empty : stem ≠ []
  short : (stem ++ ".json".toList).length ≤ 120
  safe : ∀ c ∈ stem ++ ".json".toList, c.isAlphanum = true ∨ c ∈ ['-', '_', '.']
  whole : ¬ IsMarked u → stem = cleaned u.path
  marked : IsMarked u → (cleaned u.path).take 106 ≠ [] ∧
    stem = (cleaned u.path).take 106 ++ '_' :: mark address
  digits : (mark address).length = 8 ∧ ∀ c ∈ mark address, c ∈ "0123456789abcdef".toList

theorem isStem_of_isMarked (h : IsMarked u) (address : String)
    (hsafe : ∀ c ∈ (fileName address u).toList, c.isAlphanum = true ∨ c ∈ ['-', '_', '.']) :
    IsStem address u ((cleaned u.path).take 106 ++ '_' :: mark address) where
  not_empty := by simp
  short := by
    have hcut := List.length_take_le 106 (cleaned u.path)
    have hextension : ".json".toList.length = 5 := rfl
    simp only [List.length_append, List.length_cons, length_mark, hextension]
    omega
  safe := by
    rwa [fileName_of_isMarked h, String.toList_ofList] at hsafe
  whole := fun hnot => absurd h hnot
  marked := fun _ => ⟨by simp [cleaned_ne_nil], rfl⟩
  digits := ⟨length_mark address, fun _ => mem_digits_of_mem_mark⟩

theorem isStem_of_not_isMarked (h : ¬ IsMarked u) (address : String)
    (hsafe : ∀ c ∈ (fileName address u).toList, c.isAlphanum = true ∨ c ∈ ['-', '_', '.']) :
    IsStem address u (cleaned u.path) where
  not_empty := cleaned_ne_nil u.path
  short := by
    have hshort : ¬ 115 < (cleaned u.path).length := fun hlong => h (.inr hlong)
    have hextension : ".json".toList.length = 5 := rfl
    rw [List.length_append, hextension]
    omega
  safe := by
    rwa [fileName_of_not_isMarked h, String.toList_ofList] at hsafe
  whole := fun _ => rfl
  marked := fun hmarked => absurd hmarked h
  digits := ⟨length_mark address, fun _ => mem_digits_of_mem_mark⟩

theorem exists_isStem (address : String) (u : Url) :
    ∃ stem, fileName address u = String.ofList (stem ++ ".json".toList) ∧
      IsStem address u stem := by
  have hsafe : ∀ c ∈ (fileName address u).toList, c.isAlphanum = true ∨ c ∈ ['-', '_', '.'] := by
    intro c hc
    simpa [isSafe, or_assoc] using isSafe_of_mem_fileName hc
  by_cases h : IsMarked u
  · exact ⟨_, fileName_of_isMarked h address, isStem_of_isMarked h address hsafe⟩
  · exact ⟨_, fileName_of_not_isMarked h address, isStem_of_not_isMarked h address hsafe⟩

namespace Folders

variable {s : Folders} {d : Disk} {record : Raw} {root file : Path}

theorem nameFor_eq (h : Url.parse url = .ok u) : nameFor url = fileName url u := by
  simp [nameFor, h]

theorem parts_fileFor (h : Url.parse url = .ok u) (root : Path) : (fileFor root url).parts =
    (root.join (domainFor url)).parts ++ [fileName url u] := by
  rw [fileFor, nameFor_eq h, join_fileName]

/-- A save tells of no other file than that of its address. -/
theorem file_of_save (h : (s.save d url record).result = .ok (some file)) :
    file = fileFor s.root url := by
  unfold save saveIn write at h
  dsimp only at h
  split at h
  next => cases h
  next e hmake =>
    dsimp only at h
    split at h
    next => cases h
    next u hu =>
      split at h
      next => cases h
      next =>
        split at h
        next => cases h
        next text htext =>
          split at h
          next =>
            split at h
            next => cases h
            next =>
              rw [fileFor, nameFor_eq hu]
              exact (Option.some.inj (Except.ok.inj h)).symm
          next =>
            split at h
            next => cases h
            next => cases h

/-- The file of an address that can be read has a name of at most 120 safe characters, a stem before
an ending. Where the address has a query, or its path is too long as a name, the stem ends in the
mark of the address, and otherwise it is the path. -/
theorem fileFor_named (h : Url.parse url = .ok u) (root : Path) :
    ∃ stem, (fileFor root url).parts =
        (root.join (domainFor url)).parts ++ [String.ofList (stem ++ ".json".toList)] ∧
      IsStem url u stem ∧
      (∀ (s : Folders) d record file, s.root = root →
        (s.save d url record).result = .ok (some file) → file = fileFor root url) ∧
      ∀ other v, Url.parse other = .ok v → IsMarked u → IsMarked v →
        (fileFor root other).parts.getLast? = (fileFor root url).parts.getLast? →
        mark other = mark url := by
  obtain ⟨stem, hname, hstem⟩ := exists_isStem url u
  refine ⟨stem, by rw [parts_fileFor h, hname], hstem, ?_, ?_⟩
  · rintro s d record file rfl hsaved
    exact file_of_save hsaved
  · intro other v hv hu hmarked hlast
    rw [parts_fileFor h, parts_fileFor hv, List.getLast?_concat, List.getLast?_concat] at hlast
    exact mark_of_fileName_eq hmarked hu (Option.some.inj hlast)

/-- An address with a query, and a path that has to be made safe. -/
def askedUrl : String := "http://a.org//b/c d/?q=1"

theorem fileFor_named_asked : ∃ u, Url.parse askedUrl = .ok u ∧ IsMarked u ∧
    (fileFor { parts := ["out"] } askedUrl).parts =
      (Path.join { parts := ["out"] } (domainFor askedUrl)).parts ++
        [String.ofList ("b_c_d_".toList ++ mark askedUrl ++ ".json".toList)] ∧
    IsStem askedUrl u ("b_c_d_".toList ++ mark askedUrl) := by
  have hparts : (Url.parse askedUrl).toOption.map (fun u => (cleaned u.path, u.query)) =
      some ("b_c_d".toList, "q=1".toList) := by decide +kernel
  obtain ⟨u, hoption, hu⟩ := Option.map_eq_some_iff.mp hparts
  obtain ⟨hpath, hquery⟩ := Prod.mk.inj hu
  have hparse := eq_ok_of_toOption hoption
  have hmarked : IsMarked u := .inl (by rw [hquery]; decide)
  obtain ⟨stem, hname, hstem, -, -⟩ := fileFor_named hparse { parts := ["out"] }
  obtain ⟨-, hmark⟩ := hstem.marked hmarked
  rw [hpath] at hmark
  subst hmark
  exact ⟨u, hparse, hmarked, hname, hstem⟩

end Folders

end Gleaner.Store
