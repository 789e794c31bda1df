import Gleaner.Store.FileName
import Mathlib

/-! The characters of file names: letters, digits and three marks, so that a name stays one name. -/

namespace Gleaner

theorem Text.mem_of_mem_trimOf {p : Char → Bool} {cs : List Char} {c : Char}
    (h : c ∈ trimOf p cs) : c ∈ cs := by
  have hend : c ∈ (cs.dropWhile p).reverse.dropWhile p := List.mem_reverse.mp h
  have hstart : c ∈ cs.dropWhile p :=
    List.mem_reverse.mp ((List.dropWhile_sublist p).subset hend)
  exact (List.dropWhile_sublist p).subset hstart

namespace Store

variable {c : Char} {cs : List Char} {limit : Int} {address : String} {u : Url}

theorem mem_of_mem_squeeze (h : c ∈ squeeze cs) : c ∈ cs := by
  induction cs using squeeze.induct with
  | case1 cs ih =>
    rw [squeeze] at h
    exact List.mem_cons_of_mem _ (ih h)
  | case2 d cs hrun ih =>
    rw [squeeze] at h
    · rcases List.mem_cons.mp h with rfl | h
      · exact List.mem_cons_self
      · exact List.mem_cons_of_mem _ (ih h)
    · exact hrun
  | case3 => cases h

theorem mem_of_mem_takeTo (h : c ∈ takeTo limit cs) : c ∈ cs := by
  unfold takeTo at h
  split at h <;> exact List.mem_of_mem_take h

theorem isSafe_of_mem_safeChars (h : c ∈ safeChars limit cs) : isSafe c = true := by
  have hunnamed : ("unnamed".toList.all isSafe) = true := rfl
  unfold safeChars at h
  dsimp only at h
  split at h
  next => exact List.all_eq_true.mp hunnamed c h
  next kept hkept =>
    have hsafe : c ∈ cs.map fun c => if isSafe c then c else '_' :=
      mem_of_mem_squeeze (Text.mem_of_mem_trimOf (mem_of_mem_takeTo h))
    obtain ⟨d, -, rfl⟩ := List.mem_map.mp hsafe
    split
    next hd => exact hd
    next => decide

theorem isSafe_hexDigit {n : Nat} (h : n < 16) : isSafe (Text.hexDigit n) = true := by
  revert n
  decide

theorem isSafe_of_mem_hexFixed {k n : Nat} (h : c ∈ Text.hexFixed k n) : isSafe c = true := by
  induction k generalizing n with
  | zero => cases h
  | succ k ih =>
    rcases List.mem_append.mp h with h | h
    · exact ih h
    · rw [List.mem_singleton.mp h]
      exact isSafe_hexDigit (Nat.mod_lt n (by decide))

theorem isSafe_of_mem_hex {order : Digest.Order} {state : List UInt32}
    (h : c ∈ (Digest.hex order state).toList) : isSafe c = true := by
  rw [Digest.hex, String.toList_ofList] at h
  obtain ⟨w, -, h⟩ := List.mem_flatMap.mp h
  obtain ⟨b, -, h⟩ := List.mem_flatMap.mp h
  exact isSafe_of_mem_hexFixed h

/-- A file name is made of safe characters. -/
theorem isSafe_of_mem_fileName (h : c ∈ (fileName address u).toList) : isSafe c = true := by
  have hextension : (extension.all isSafe) = true := rfl
  simp only [fileName, String.toList_ofList] at h
  rcases List.mem_append.mp h with h | h
  · split at h
    · rcases List.mem_append.mp h with h | h
      · exact isSafe_of_mem_safeChars (List.mem_of_mem_take h)
      · rcases List.mem_cons.mp h with rfl | h
        · decide
        · exact isSafe_of_mem_hex (List.mem_of_mem_take h)
    · exact isSafe_of_mem_safeChars h
  · exact List.all_eq_true.mp hextension c h

theorem slash_notMem_fileName (address : String) (u : Url) :
    '/' ∉ (fileName address u).toList :=
  fun h => absurd (isSafe_of_mem_fileName h) (by decide)

/-- No file name is as short as the names that stand for folders. -/
theorem fileName_ne_of_length {name : String} (h : name.length < 5) (address : String) (u : Url) :
    fileName address u ≠ name := by
  have hextension : extension.length = 5 := rfl
  intro hname
  rw [← hname, fileName, String.length_ofList, List.length_append, hextension] at h
  omega

end Store

end Gleaner
