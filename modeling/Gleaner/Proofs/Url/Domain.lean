import Gleaner.Url.Domain
import Gleaner.Proofs.Text.Lower

/-! Domains are names with no slash in them, so that each stands for one file of its own. -/

namespace Gleaner

namespace Text

variable {c sep : Char} {cs a b word rest : List Char}

theorem slash_notMem_lowerList (before : List Char) (h : '/' ∉ cs) :
    '/' ∉ lowerList before cs := by
  intro hmem
  rcases mem_or_isLetterlike hmem with hslash | hletter
  · exact h hslash
  · exact hletter.ne (by decide) (by decide) rfl

theorem cutAt?_eq_some (h : cutAt? sep cs = some (a, b)) : cs = a ++ sep :: b := by
  induction cs generalizing a with
  | nil => cases h
  | cons c cs ih =>
    rw [cutAt?] at h
    split at h
    next hc =>
      cases h
      rw [hc, List.nil_append]
    next =>
      obtain ⟨⟨first, second⟩, hcut, hparts⟩ := Option.map_eq_some_iff.mp h
      cases hparts
      rw [ih hcut, List.cons_append]

theorem notMem_of_cutAt? (h : cutAt? sep cs = some (a, b)) : sep ∉ a := by
  induction cs generalizing a with
  | nil => cases h
  | cons c cs ih =>
    rw [cutAt?] at h
    split at h
    next =>
      cases h
      exact List.not_mem_nil
    next hc =>
      obtain ⟨⟨first, second⟩, hcut, hparts⟩ := Option.map_eq_some_iff.mp h
      cases hparts
      exact List.not_mem_cons_of_ne_of_not_mem (Ne.symm hc) (ih hcut)

theorem cutAt?_append (h : sep ∉ a) : cutAt? sep (a ++ sep :: b) = some (a, b) := by
  induction a with
  | nil => simp [cutAt?]
  | cons c a ih =>
    have hc : c ≠ sep := fun heq => h (heq ▸ List.mem_cons_self)
    rw [List.cons_append, cutAt?, if_neg hc, ih fun hmem => h (List.mem_cons_of_mem c hmem)]
    rfl

theorem cutAt?_of_notMem (h : sep ∉ cs) : cutAt? sep cs = none := by
  cases hcut : cutAt? sep cs with
  | none => rfl
  | some parts =>
    rw [cutAt?_eq_some hcut] at h
    exact absurd (List.mem_append_right _ List.mem_cons_self) h

theorem notMem_of_cutAt?_none (h : cutAt? sep cs = none) : sep ∉ cs := by
  intro hmem
  induction cs with
  | nil => cases hmem
  | cons c cs ih =>
    rw [cutAt?] at h
    split at h
    next => cases h
    next hc =>
      rcases List.mem_cons.mp hmem with hsep | hrest
      · exact hc hsep.symm
      · exact ih (Option.map_eq_none_iff.mp h) hrest

theorem cutAtLast?_append (h : sep ∉ b) : cutAtLast? sep (a ++ sep :: b) = some (a, b) := by
  have hcut : cutAt? sep (b.reverse ++ sep :: a.reverse) = some (b.reverse, a.reverse) :=
    cutAt?_append (by simpa using h)
  simp [cutAtLast?, hcut]

theorem notMem_of_cutAtLast? (h : cutAtLast? sep cs = some (a, b)) : sep ∉ b := by
  obtain ⟨⟨first, second⟩, hcut, hparts⟩ := Option.map_eq_some_iff.mp h
  cases hparts
  simpa using notMem_of_cutAt? hcut

theorem cutAtLast?_of_notMem (h : sep ∉ cs) : cutAtLast? sep cs = none := by
  have hcut : cutAt? sep cs.reverse = none := cutAt?_of_notMem (by simpa using h)
  simp [cutAtLast?, hcut]

theorem notMem_of_cutAtLast?_none (h : cutAtLast? sep cs = none) : sep ∉ cs := by
  simpa using notMem_of_cutAt?_none (Option.map_eq_none_iff.mp h)

theorem cutAtLast?_eq_some (h : cutAtLast? sep cs = some (a, b)) : cs = a ++ sep :: b := by
  obtain ⟨⟨first, second⟩, hcut, hparts⟩ := Option.map_eq_some_iff.mp h
  cases hparts
  rw [← List.reverse_inj, cutAt?_eq_some hcut]
  simp

theorem after?_eq_some (h : after? word cs = some rest) : cs = word ++ rest := by
  induction word generalizing cs with
  | nil =>
    cases h
    rfl
  | cons w word ih =>
    cases cs with
    | nil => cases h
    | cons c cs =>
      rw [after?] at h
      split at h
      next hw => rw [hw, ih h, List.cons_append]
      next => cases h

end Text

namespace Url

variable {c : Char} {cs rest : List Char} {u : Url}

/-- What is cut off before a separator is part of the text. -/
theorem mem_of_mem_cutOff (h : c ∈ (cutOff sep cs).1) : c ∈ cs := by
  unfold cutOff at h
  cases hcut : Text.cutAt? sep cs with
  | none => simpa [hcut] using h
  | some parts =>
    obtain ⟨before, after⟩ := parts
    rw [hcut] at h
    rw [Text.cutAt?_eq_some hcut]
    exact List.mem_append_left _ h

theorem slash_notMem_authority (cs : List Char) : '/' ∉ (cutAuthority cs).1 := by
  unfold cutAuthority
  split
  next =>
    intro hmem
    have hkept := List.mem_takeWhile_imp hmem
    simp [isDelimiter] at hkept
  next => exact List.not_mem_nil

theorem authority_of_parse {s : String} (h : parse s = .ok u) :
    u.authority = (cutAuthority (cutScheme (clean s.toList)).2).1 := by
  unfold parse at h
  dsimp only at h
  split at h
  · cases h
  · cases h
    rfl

theorem slash_notMem_host (h : '/' ∉ u.authority) : '/' ∉ u.host.toList := by
  unfold host
  extract_lets info name
  have hinfo : '/' ∉ info := by
    unfold info
    split
    next _ _ hcut =>
      rw [Text.cutAtLast?_eq_some hcut] at h
      exact fun hmem => h (List.mem_append_right _ (List.mem_cons_of_mem _ hmem))
    next => exact h
  have hname : '/' ∉ name := by
    unfold name
    split
    next _ _ hcut =>
      rw [Text.cutAt?_eq_some hcut] at hinfo
      exact fun hmem => hinfo
        (List.mem_append_right _ (List.mem_cons_of_mem _ (mem_of_mem_cutOff hmem)))
    next => exact fun hmem => hinfo (mem_of_mem_cutOff hmem)
  split
  next n zone hcut =>
    rw [Text.cutAt?_eq_some hcut] at hname
    have hn : '/' ∉ n := fun hmem => hname (List.mem_append_left _ hmem)
    have hzone : '/' ∉ zone :=
      fun hmem => hname (List.mem_append_right _ (List.mem_cons_of_mem _ hmem))
    have hlower := Text.slash_notMem_lowerList [] hn
    simp [Text.lower, hlower, hzone]
  next =>
    have hlower := Text.slash_notMem_lowerList [] hname
    simp [Text.lower, hlower]

theorem slash_notMem_domain (h : '/' ∉ u.authority) : '/' ∉ u.domain.toList := by
  unfold domain
  have hhost := slash_notMem_host h
  cases hafter : Text.after? "www.".toList u.host.toList with
  | none => exact hhost
  | some rest =>
    rw [Text.after?_eq_some hafter] at hhost
    rw [String.toList_ofList]
    exact fun hmem => hhost (List.mem_append_right _ hmem)

/-- No domain has a slash in it. -/
theorem slash_notMem_domainOf (s : String) : '/' ∉ (domainOf s).1.toList := by
  unfold domainOf
  cases hparse : parse s with
  | error f => exact List.not_mem_nil
  | ok u =>
    have hauthority := slash_notMem_authority (cutScheme (clean s.toList)).2
    rw [← authority_of_parse hparse] at hauthority
    exact slash_notMem_domain hauthority

end Url

end Gleaner
