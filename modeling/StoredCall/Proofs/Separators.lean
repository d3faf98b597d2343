import Mathlib.Data.List.TakeWhile
import StoredCall.Text.Blank

/-!
# Separators and blanks

Cutting a text at separators and joining its parts, and the blanks around a text.

* `pieces_intercalate`, `intercalate_pieces`: cutting a text at a separator undoes joining, and the
  other way round;
* `cutAt?_eq_some_iff`: a text is cut at the first separator;
* `trimChars_eq_iff`: trimming leaves what stands between the blanks at both ends.
-/

namespace StoredCall.Text

variable {separator : Char} {cs : List Char}

/-! ### Separators -/

theorem intercalate_pieces : [separator].intercalate (pieces separator cs) = cs := by
  induction cs with
  | nil => rfl
  | cons c cs ih =>
    obtain ⟨part, parts, hparts⟩ := List.exists_cons_of_ne_nil (pieces_ne_nil separator cs)
    rw [hparts] at ih
    rw [pieces]
    split
    · rename_i hc
      rw [hparts, List.intercalate_cons_cons, ih, hc]
      rfl
    · rw [hparts]
      cases parts with
      | nil =>
        rw [List.intercalate_singleton] at ih ⊢
        rw [ih]
      | cons part' parts =>
        rw [List.intercalate_cons_cons] at ih ⊢
        rw [List.cons_append, List.cons_append, ih]

theorem not_mem_of_mem_pieces {part : List Char} (h : part ∈ pieces separator cs) :
    separator ∉ part := by
  induction cs generalizing part with
  | nil =>
    obtain rfl := List.mem_singleton.1 h
    exact List.not_mem_nil
  | cons c cs ih =>
    obtain ⟨first, parts, hparts⟩ := List.exists_cons_of_ne_nil (pieces_ne_nil separator cs)
    rw [hparts] at ih
    rw [pieces] at h
    split at h
    · rcases List.mem_cons.1 h with rfl | h
      · exact List.not_mem_nil
      · exact ih (hparts ▸ h)
    · rename_i hc
      rw [hparts] at h
      rcases List.mem_cons.1 h with rfl | h
      · rw [List.mem_cons, not_or]
        exact ⟨Ne.symm hc, ih List.mem_cons_self⟩
      · exact ih (List.mem_cons_of_mem _ h)

theorem pieces_eq_splitOn : pieces separator cs = cs.splitOn separator := by
  have h := List.splitOn_intercalate separator (fun _ => not_mem_of_mem_pieces)
    (pieces_ne_nil separator cs)
  rw [intercalate_pieces] at h
  exact h.symm

theorem pieces_intercalate {parts : List (List Char)} (hne : parts ≠ [])
    (h : ∀ part ∈ parts, separator ∉ part) :
    pieces separator ([separator].intercalate parts) = parts := by
  rw [pieces_eq_splitOn, List.splitOn_intercalate _ h hne]

theorem cutAt?_eq_some_iff {a b : List Char} :
    cutAt? separator cs = some (a, b) ↔ cs = a ++ separator :: b ∧ separator ∉ a := by
  unfold cutAt?
  constructor
  · intro h
    split at h
    · cases h
    · rename_i x rest hdrop
      obtain ⟨rfl, rfl⟩ : cs.takeWhile (· ≠ separator) = a ∧ rest = b := by simpa using h
      obtain rfl : x = separator := by
        have hhead := List.head?_dropWhile_not (fun c => decide (c ≠ separator)) cs
        rw [hdrop] at hhead
        simpa using hhead
      refine ⟨?_, fun hmem => by simpa using List.mem_takeWhile_imp hmem⟩
      rw [← hdrop, List.takeWhile_append_dropWhile]
  · rintro ⟨rfl, ha⟩
    have hall : ∀ c ∈ a, decide (c ≠ separator) = true := by
      intro c hc
      exact decide_eq_true fun he => ha (he ▸ hc)
    rw [List.dropWhile_append_of_pos hall, List.takeWhile_append_of_pos hall]
    simp

theorem cutAt?_eq_none_iff : cutAt? separator cs = none ↔ separator ∉ cs := by
  constructor
  · intro h hmem
    obtain ⟨a, b, rfl, ha⟩ := List.eq_append_cons_of_mem hmem
    rw [cutAt?_eq_some_iff.2 ⟨rfl, ha⟩] at h
    cases h
  · intro h
    cases hcut : cutAt? separator cs with
    | none => rfl
    | some p =>
      obtain ⟨rfl, -⟩ := cutAt?_eq_some_iff.1 hcut
      exact absurd (List.mem_append_right _ List.mem_cons_self) h

/-! ### Trimming -/

/-- All characters are blanks. -/
def AllBlank (cs : List Char) : Prop := ∀ c ∈ cs, isBlank c = true

theorem exists_blanks_around (cs : List Char) :
    ∃ a b, cs = a ++ trimChars cs ++ b ∧ AllBlank a ∧ AllBlank b := by
  set rest := cs.dropWhile isBlank
  refine ⟨cs.takeWhile isBlank, (rest.reverse.takeWhile isBlank).reverse, ?_,
    fun c hc => List.mem_takeWhile_imp hc,
    fun c hc => List.mem_takeWhile_imp (List.mem_reverse.1 hc)⟩
  calc cs = cs.takeWhile isBlank ++ rest := List.takeWhile_append_dropWhile.symm
    _ = cs.takeWhile isBlank ++
          (rest.reverse.takeWhile isBlank ++ rest.reverse.dropWhile isBlank).reverse := by
        rw [List.takeWhile_append_dropWhile (l := rest.reverse), List.reverse_reverse]
    _ = cs.takeWhile isBlank ++ trimChars cs ++ (rest.reverse.takeWhile isBlank).reverse := by
        rw [List.reverse_append, ← List.append_assoc]
        rfl

theorem trimChars_append_left {a : List Char} (h : AllBlank a) :
    trimChars (a ++ cs) = trimChars cs := by
  rw [trimChars, trimChars, List.dropWhile_append_of_pos h]

theorem trimChars_append_right {b : List Char} (h : AllBlank b) :
    trimChars (cs ++ b) = trimChars cs := by
  have hb : b.dropWhile isBlank = [] := List.dropWhile_eq_nil_iff.2 h
  have hreverse : ∀ c ∈ b.reverse, isBlank c = true := fun c hc => h c (List.mem_reverse.1 hc)
  rw [trimChars, trimChars, List.dropWhile_append]
  split
  · rename_i hempty
    rw [hb, List.isEmpty_iff.1 hempty]
  · rw [List.reverse_append, List.dropWhile_append_of_pos hreverse]

/-- The characters `t` are those of `cs` between the blanks at both ends. -/
structure Trims (cs t : List Char) : Prop where
  around : ∃ a b, cs = a ++ t ++ b ∧ AllBlank a ∧ AllBlank b
  first : ∀ c, t.head? = some c → isBlank c = false
  last : ∀ c, t.getLast? = some c → isBlank c = false

theorem isBlank_of_head?_dropWhile {c : Char} (h : (cs.dropWhile isBlank).head? = some c) :
    isBlank c = false := by
  have hhead := List.head?_dropWhile_not isBlank cs
  rw [h] at hhead
  simpa using hhead

theorem dropWhile_of_first (h : ∀ c, cs.head? = some c → isBlank c = false) :
    cs.dropWhile isBlank = cs := by
  cases cs with
  | nil => rfl
  | cons c rest => rw [List.dropWhile_cons_of_neg (by simp [h c rfl])]

theorem trims_trimChars : Trims cs (trimChars cs) := by
  refine ⟨exists_blanks_around cs, ?_, ?_⟩
  · intro c hc
    cases hdrop : cs.dropWhile isBlank with
    | nil =>
      rw [trimChars, hdrop] at hc
      cases hc
    | cons d rest =>
      have hd : isBlank d = false := isBlank_of_head?_dropWhile (by rw [hdrop]; rfl)
      -- dropping from the other end stops at `d` at the latest
      rw [trimChars, hdrop, List.reverse_cons, List.dropWhile_append] at hc
      split at hc
      · rw [List.dropWhile_cons_of_neg (by simp [hd])] at hc
        obtain rfl : d = c := by simpa using hc
        exact hd
      · obtain rfl : d = c := by simpa using hc
        exact hd
  · intro c hc
    rw [trimChars, List.getLast?_reverse] at hc
    exact isBlank_of_head?_dropWhile hc

theorem trimChars_eq_iff {t : List Char} : trimChars cs = t ↔ Trims cs t := by
  constructor
  · rintro rfl
    exact trims_trimChars
  · rintro ⟨⟨a, b, rfl, ha, hb⟩, hfirst, hlast⟩
    rw [trimChars_append_right hb, trimChars_append_left ha, trimChars, dropWhile_of_first hfirst,
      dropWhile_of_first, List.reverse_reverse]
    simpa using hlast

theorem trimChars_eq_nil_iff : trimChars cs = [] ↔ AllBlank cs := by
  rw [trimChars_eq_iff]
  constructor
  · rintro ⟨⟨a, b, rfl, ha, hb⟩, -, -⟩
    rw [List.append_nil]
    exact List.forall_mem_append.2 ⟨ha, hb⟩
  · intro h
    exact ⟨⟨cs, [], by simp, h, List.forall_mem_nil _⟩, by simp, by simp⟩

end StoredCall.Text
