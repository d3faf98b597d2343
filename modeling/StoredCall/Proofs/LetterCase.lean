import Mathlib.Data.List.Basic
import StoredCall.Text.Case

/-!
# Letter case and ASCII letters

The case mappings of texts compared with the comparison that ignores ASCII letter case.

* `lower_eq_of_sameLetters`, `upper_eq_of_sameLetters`: texts that differ in ASCII letter case only
  have one lower-case and one upper-case form;
* `toLower_eq_iff`: such texts are those of one `String.toLower`;
* `toList_lower_of_ascii`, `toList_upper_of_ascii`: on ASCII texts the mappings go letter by letter.
-/

namespace StoredCall.Text

/-! ### ASCII characters -/

/-- What holds of the first 128 code points holds of every ASCII character. -/
theorem forall_ascii {P : Char → Prop} (h : ∀ n : Fin 128, P (Char.ofNat n)) {c : Char}
    (hc : c.toNat < 128) : P c := by
  have := h ⟨c.toNat, hc⟩
  rwa [Char.ofNat_toNat] at this

theorem toNat_toLower_lt {c : Char} (hc : c.toNat < 128) : c.toLower.toNat < 128 :=
  forall_ascii (P := fun c => c.toLower.toNat < 128) (by decide) hc

theorem toLower_of_not_ascii {c : Char} (hc : ¬c.toNat < 128) : c.toLower = c := by
  unfold Char.toLower
  split
  · rename_i h
    have hle : c.val.toNat ≤ 'Z'.val.toNat := UInt32.le_iff_toNat_le.1 h.2
    exact absurd (Nat.lt_of_le_of_lt hle (by decide)) hc
  · rfl

theorem eq_at_of_toLower_eq {c : Char} (h : c.toLower = '@') : c = '@' := by
  by_cases hc : c.toNat < 128
  · exact forall_ascii (P := fun c => c.toLower = '@' → c = '@') (by decide) hc h
  · rwa [toLower_of_not_ascii hc] at h

/-- Characters that are one letter but for ASCII case are the same or are both ASCII. -/
theorem eq_or_ascii_of_toLower_eq {c c' : Char} (h : c.toLower = c'.toLower) :
    c = c' ∨ c.toNat < 128 ∧ c'.toNat < 128 := by
  by_cases hc : c.toNat < 128
  · by_cases hc' : c'.toNat < 128
    · exact Or.inr ⟨hc, hc'⟩
    · rw [toLower_of_not_ascii hc'] at h
      exact absurd (h ▸ toNat_toLower_lt hc) hc'
  · by_cases hc' : c'.toNat < 128
    · rw [toLower_of_not_ascii hc] at h
      exact absurd (h ▸ toNat_toLower_lt hc') hc
    · rw [toLower_of_not_ascii hc, toLower_of_not_ascii hc'] at h
      exact Or.inl h

/-- A function that ignores the case of ASCII letters takes letters that differ in it alike. -/
theorem congr_of_toLower_eq {α : Type} (f : Char → α)
    (hf : ∀ c : Char, c.toNat < 128 → f c = f c.toLower) {c c' : Char}
    (h : c.toLower = c'.toLower) : f c = f c' := by
  rcases eq_or_ascii_of_toLower_eq h with rfl | ⟨hc, hc'⟩
  · rfl
  · rw [hf c hc, hf c' hc', h]

theorem lowerChar_of_ascii {c : Char} (hc : c.toNat < 128) : lowerChar c = [c.toLower] := by
  rw [lowerChar, if_pos hc]

theorem upperChar_of_ascii {c : Char} (hc : c.toNat < 128) : upperChar c = [c.toUpper] := by
  rw [upperChar, if_pos hc]

theorem lowerChar_congr {c c' : Char} (h : c.toLower = c'.toLower) : lowerChar c = lowerChar c' :=
  congr_of_toLower_eq lowerChar (fun c hc => forall_ascii
    (P := fun c => lowerChar c = lowerChar c.toLower) (by decide) hc) h

theorem upperChar_congr {c c' : Char} (h : c.toLower = c'.toLower) : upperChar c = upperChar c' :=
  congr_of_toLower_eq upperChar (fun c hc => forall_ascii
    (P := fun c => upperChar c = upperChar c.toLower) (by decide) hc) h

theorem inRuns_take {runs : List Run} (k : ℕ) (h : ∀ r ∈ runs.drop k, 128 ≤ r.first) {n : ℕ}
    (hn : n < 128) : inRuns runs n = inRuns (runs.take k) n := by
  have hlater : (runs.drop k).any (·.has n) = false := by
    rw [List.any_eq_false]
    intro r hr
    have hfirst := h r hr
    have : ¬r.first ≤ n := by omega
    simp [Run.has, this]
  unfold inRuns
  conv_lhs => rw [← List.take_append_drop k runs]
  rw [List.any_append, hlater, Bool.or_false]

theorem isCased_congr {c c' : Char} (h : c.toLower = c'.toLower) : isCased c = isCased c' := by
  refine congr_of_toLower_eq isCased (fun c hc => ?_) h
  have htake := @inRuns_take cased 2 (by decide +kernel)
  rw [isCased, isCased, htake hc, htake (toNat_toLower_lt hc)]
  exact forall_ascii (P := fun c => inRuns _ c.toNat = inRuns _ c.toLower.toNat)
    (by decide) hc

theorem isCaseIgnorable_congr {c c' : Char} (h : c.toLower = c'.toLower) :
    isCaseIgnorable c = isCaseIgnorable c' := by
  refine congr_of_toLower_eq isCaseIgnorable (fun c hc => ?_) h
  have htake := @inRuns_take caseIgnorable 4 (by decide +kernel)
  rw [isCaseIgnorable, isCaseIgnorable, htake hc, htake (toNat_toLower_lt hc)]
  exact forall_ascii (P := fun c => inRuns _ c.toNat = inRuns _ c.toLower.toNat)
    (by decide) hc

/-! ### Texts -/

/-- Characters that differ in ASCII letter case only. -/
def AlikeChars (cs cs' : List Char) : Prop := cs.map Char.toLower = cs'.map Char.toLower

theorem meetsCased_congr {cs cs' : List Char} (h : AlikeChars cs cs') :
    meetsCased cs = meetsCased cs' := by
  induction cs generalizing cs' with
  | nil =>
    cases cs' with
    | nil => rfl
    | cons => cases h
  | cons c cs ih =>
    cases cs' with
    | nil => cases h
    | cons c' cs' =>
      obtain ⟨hc, hcs⟩ := List.cons.inj h
      rw [meetsCased, meetsCased, isCaseIgnorable_congr hc, isCased_congr hc, ih hcs]

theorem eq_sigma_iff {c c' : Char} (h : c.toLower = c'.toLower) : c = 'Σ' ↔ c' = 'Σ' := by
  rcases eq_or_ascii_of_toLower_eq h with rfl | ⟨hc, hc'⟩
  · exact Iff.rfl
  · constructor
    · rintro rfl
      exact absurd hc (by decide)
    · rintro rfl
      exact absurd hc' (by decide)

theorem lowerAfter_congr {before before' cs cs' : List Char} (hbefore : AlikeChars before before')
    (h : AlikeChars cs cs') : lowerAfter before cs = lowerAfter before' cs' := by
  induction cs generalizing before before' cs' with
  | nil =>
    cases cs' with
    | nil => rfl
    | cons => cases h
  | cons c cs ih =>
    cases cs' with
    | nil => cases h
    | cons c' cs' =>
      obtain ⟨hc, hcs⟩ := List.cons.inj h
      -- a capital sigma is lowered by what stands before and after it
      have hnext : AlikeChars (c :: before) (c' :: before') := congrArg₂ List.cons hc hbefore
      simp only [lowerAfter, eq_sigma_iff hc, meetsCased_congr hbefore, meetsCased_congr hcs,
        lowerChar_congr hc, ih hnext hcs]

theorem sameLetters_iff {a b : String} :
    sameLetters a b = true ↔ AlikeChars a.toList b.toList := beq_iff_eq

theorem sameLetters_refl (a : String) : sameLetters a a = true := sameLetters_iff.2 rfl

theorem lower_eq_of_sameLetters {a b : String} (h : sameLetters a b = true) : lower a = lower b :=
  congrArg String.ofList (lowerAfter_congr rfl (sameLetters_iff.1 h))

theorem upper_eq_of_sameLetters {a b : String} (h : sameLetters a b = true) :
    upper a = upper b := by
  have hchars : ∀ cs cs' : List Char, AlikeChars cs cs' →
      cs.flatMap upperChar = cs'.flatMap upperChar := by
    intro cs
    induction cs with
    | nil =>
      intro cs' h
      cases cs' with
      | nil => rfl
      | cons => cases h
    | cons c cs ih =>
      intro cs' h
      cases cs' with
      | nil => cases h
      | cons c' cs' =>
        obtain ⟨hc, hcs⟩ := List.cons.inj h
        rw [List.flatMap_cons, List.flatMap_cons, upperChar_congr hc, ih cs' hcs]
  exact congrArg String.ofList (hchars _ _ (sameLetters_iff.1 h))

/-! ### Texts in ASCII lower case -/

theorem toLower_toLower_char (c : Char) : c.toLower.toLower = c.toLower := by
  by_cases hc : c.toNat < 128
  · exact forall_ascii (P := fun c => c.toLower.toLower = c.toLower) (by decide) hc
  · rw [toLower_of_not_ascii hc, toLower_of_not_ascii hc]

theorem toList_toLower (s : String) : s.toLower.toList = s.toList.map Char.toLower :=
  String.toList_map

theorem toLower_eq_iff {a b : String} : a.toLower = b.toLower ↔ sameLetters a b = true := by
  rw [sameLetters_iff, ← String.toList_inj, toList_toLower, toList_toLower, AlikeChars]

theorem toLower_toLower (s : String) : s.toLower.toLower = s.toLower := by
  rw [← String.toList_inj, toList_toLower, toList_toLower, List.map_map]
  exact List.map_congr_left fun c _ => toLower_toLower_char c

theorem lower_toLower (s : String) : lower s.toLower = lower s :=
  lower_eq_of_sameLetters (toLower_eq_iff.1 (toLower_toLower s))

/-! ### ASCII texts -/

/-- All characters of the text are ASCII characters. -/
def IsAscii (s : String) : Prop := ∀ c ∈ s.toList, c.toNat < 128

instance (s : String) : Decidable (IsAscii s) :=
  List.decidableBAll (fun c : Char => c.toNat < 128) s.toList

theorem toList_lower_of_ascii {s : String} (h : IsAscii s) :
    (lower s).toList = s.toList.map Char.toLower := by
  have hafter : ∀ cs before : List Char, (∀ c ∈ cs, c.toNat < 128) →
      lowerAfter before cs = cs.map Char.toLower := by
    intro cs
    induction cs with
    | nil => intro before _; rfl
    | cons c cs ih =>
      intro before hcs
      have hc : c.toNat < 128 := hcs c List.mem_cons_self
      have hsigma : c ≠ 'Σ' := by
        rintro rfl
        exact absurd hc (by decide)
      rw [lowerAfter, if_neg hsigma, lowerChar_of_ascii hc,
        ih _ fun x hx => hcs x (List.mem_cons_of_mem _ hx)]
      rfl
  rw [lower, String.toList_ofList, hafter _ _ h]

theorem toList_upper_of_ascii {s : String} (h : IsAscii s) :
    (upper s).toList = s.toList.map Char.toUpper := by
  rw [upper, String.toList_ofList, ← List.flatMap_singleton' (s.toList.map Char.toUpper),
    List.flatMap_map]
  exact List.flatMap_congr fun c hc => upperChar_of_ascii (h c hc)

end StoredCall.Text
