import Mathlib.Data.Nat.Bitwise
import StoredCall.Naming
import StoredCall.Proofs.LetterCase

/-!
# Forms in one letter case

A text in upper or lower case keeps its form when the mapping is applied once more, and so does a
name by the rules of a dialect.

* `caseForm`: the shape that both mappings of a character have;
* `caseForm_of_mem`: the forms of characters are fixed if the tables of a mapping move no form that
  they give;
* `upper_upper`, `lower_lower`: the mappings of texts, applied twice;
* `isAscii_of_isAscii_lower`: only ASCII texts have ASCII lower-case forms, the kelvin sign apart;
* `Dialect.parameterName_parameterName`: the rules of a dialect, applied twice to a name that has
  not two at-signs to drop.
-/

namespace StoredCall

namespace Text

/-! ### Sets of code points as numbers -/

/-- The number whose bits are the members of the list. -/
def bits (ns : List ℕ) : ℕ := ns.foldr (fun n m => 2 ^ n ||| m) 0

theorem testBit_bits (ns : List ℕ) (n : ℕ) : (bits ns).testBit n = decide (n ∈ ns) := by
  induction ns with
  | nil => simp [bits]
  | cons m ns ih =>
    have hcons : bits (m :: ns) = 2 ^ m ||| bits ns := rfl
    rw [hcons, Nat.testBit_or, ih, Nat.testBit_two_pow]
    by_cases h : m = n
    · simp [h]
    · simp [h, Ne.symm h]

/-- The code points of a run. -/
def Run.members (r : Run) : List ℕ :=
  (List.range ((r.last - r.first) / r.step + 1)).map fun k => r.first + k * r.step

theorem Run.mem_members {r : Run} {n : ℕ} (h : r.has n = true) : n ∈ r.members := by
  simp only [Run.has, Bool.and_eq_true, decide_eq_true_eq, beq_iff_eq] at h
  obtain ⟨⟨hfirst, hlast⟩, hstep⟩ := h
  refine List.mem_map.2 ⟨(n - r.first) / r.step, List.mem_range.2 ?_, ?_⟩
  · exact Nat.lt_succ_of_le (Nat.div_le_div_right (Nat.sub_le_sub_right hlast _))
  · have hdiv : (n - r.first) / r.step * r.step = n - r.first :=
      Nat.div_mul_cancel (Nat.dvd_of_mod_eq_zero hstep)
    omega

/-! ### One character -/

section Form

variable (ascii : Char → Char) (expansions : List (ℕ × List ℕ)) (shifts : List CaseRun)

/-- The form of a character by a mapping of ASCII characters and tables for the others. -/
def caseForm (c : Char) : List Char :=
  if c.toNat < 128 then [ascii c]
  else match expansions.lookup c.toNat with
    | some form => form.map Char.ofNat
    | none => [shiftBy shifts c]

/-- The code points that a mapping moves. -/
def movedPoints : List ℕ :=
  (List.range 128).filter (fun n => ascii (Char.ofNat n) ≠ Char.ofNat n)
    ++ expansions.map (·.1) ++ shifts.flatMap (·.run.members)

/-- The code points that the tables of a mapping give, and the one that stands for no character. -/
def givenPoints : List ℕ :=
  0 :: expansions.flatMap (·.2)
    ++ shifts.flatMap fun r => r.run.members.map fun n : ℕ => (n + r.shift).toNat

variable {ascii expansions shifts} {c d : Char}

theorem caseForm_of_not_moved (h : d.toNat ∉ movedPoints ascii expansions shifts) :
    caseForm ascii expansions shifts d = [d] := by
  simp only [movedPoints, List.mem_append, not_or] at h
  obtain ⟨⟨hascii, hexpansion⟩, hshift⟩ := h
  unfold caseForm
  split
  · rename_i hlt
    have hfixed : ascii (Char.ofNat d.toNat) = Char.ofNat d.toNat := by
      by_contra hne
      exact hascii (List.mem_filter.2 ⟨List.mem_range.2 hlt, decide_eq_true hne⟩)
    rw [Char.ofNat_toNat] at hfixed
    rw [hfixed]
  · have hlookup : expansions.lookup d.toNat = none := by
      refine List.lookup_eq_none_iff.2 fun p hp => bne_iff_ne.2 fun he => hexpansion ?_
      rw [he]
      exact List.mem_map_of_mem hp
    have hfind : shifts.find? (·.run.has d.toNat) = none := by
      rw [List.find?_eq_none]
      intro r hr hhas
      exact hshift (List.mem_flatMap.2 ⟨r, hr, Run.mem_members hhas⟩)
    rw [hlookup]
    simp [shiftBy, hfind]

theorem toNat_ofNat_mem {n : ℕ} (h : n ∈ givenPoints expansions shifts) :
    (Char.ofNat n).toNat ∈ givenPoints expansions shifts := by
  by_cases hvalid : n.isValidChar
  · have heq : Char.ofNat n = Char.ofNatAux n hvalid := dif_pos hvalid
    rw [heq]
    exact h
  · have heq : Char.ofNat n = Char.ofNat 0 := dif_neg hvalid
    rw [heq]
    exact List.mem_append_left _ List.mem_cons_self

/-- A character beyond ASCII is its own form, or its forms stand in the tables. -/
theorem caseForm_eq_self_or_given (hc : ¬c.toNat < 128) :
    caseForm ascii expansions shifts c = [c] ∨
      ∀ d ∈ caseForm ascii expansions shifts c, d.toNat ∈ givenPoints expansions shifts := by
  rw [caseForm, if_neg hc]
  cases hlookup : expansions.lookup c.toNat with
  | some form =>
    right
    intro d hd
    obtain ⟨n, hn, rfl⟩ := List.mem_map.1 hd
    obtain ⟨before, after, hsplit, -⟩ := List.lookup_eq_some_iff.1 hlookup
    refine toNat_ofNat_mem (List.mem_append_left _ (List.mem_cons_of_mem _ ?_))
    exact List.mem_flatMap.2 ⟨(c.toNat, form), by rw [hsplit]; simp, hn⟩
  | none =>
    cases hfind : shifts.find? (·.run.has c.toNat) with
    | none => exact Or.inl (by simp [shiftBy, hfind])
    | some r =>
      right
      intro d hd
      obtain rfl : d = Char.ofNat (c.toNat + r.shift).toNat := by simpa [shiftBy, hfind] using hd
      have hhas : r.run.has c.toNat = true := by
        simpa using List.find?_some hfind
      refine toNat_ofNat_mem (List.mem_append_right _ (List.mem_flatMap.2 ⟨r, ?_, ?_⟩))
      · exact List.mem_of_find?_eq_some hfind
      · exact List.mem_map_of_mem (Run.mem_members hhas)

/-- A mapping that moves no code point it gives fixes the forms of all characters. -/
theorem caseForm_of_mem
    (hascii : ∀ c : Char, c.toNat < 128 → caseForm ascii expansions shifts (ascii c) = [ascii c])
    (happart : bits (givenPoints expansions shifts) &&&
      bits (movedPoints ascii expansions shifts) = 0)
    (h : d ∈ caseForm ascii expansions shifts c) : caseForm ascii expansions shifts d = [d] := by
  by_cases hc : c.toNat < 128
  · rw [caseForm, if_pos hc] at h
    obtain rfl := List.mem_singleton.1 h
    exact hascii c hc
  rcases caseForm_eq_self_or_given hc with hself | hgiven
  · rw [hself] at h
    obtain rfl := List.mem_singleton.1 h
    exact hself
  · refine caseForm_of_not_moved fun hmoved => ?_
    have hbit := congrArg (·.testBit d.toNat) happart
    simp [Nat.testBit_and, testBit_bits, hgiven d h, hmoved] at hbit

end Form

theorem upperChar_eq_caseForm (c : Char) :
    upperChar c = caseForm Char.toUpper upperExpansions upperShifts c := rfl

theorem lowerChar_eq_caseForm (c : Char) :
    lowerChar c = caseForm Char.toLower lowerExpansions lowerShifts c := rfl

theorem upperChar_of_mem {c d : Char} (h : d ∈ upperChar c) : upperChar d = [d] := by
  rw [upperChar_eq_caseForm] at h ⊢
  refine caseForm_of_mem (fun c hc => ?_) (by decide +kernel) h
  exact forall_ascii (P := fun c => upperChar c.toUpper = [c.toUpper]) (by decide) hc

theorem lowerChar_of_mem {c d : Char} (h : d ∈ lowerChar c) : lowerChar d = [d] := by
  rw [lowerChar_eq_caseForm] at h ⊢
  refine caseForm_of_mem (fun c hc => ?_) (by decide +kernel) h
  exact forall_ascii (P := fun c => lowerChar c.toLower = [c.toLower]) (by decide) hc

/-! ### Texts -/

theorem upper_upper (s : String) : upper (upper s) = upper s := by
  have hflat : (s.toList.flatMap upperChar).flatMap upperChar = s.toList.flatMap upperChar := by
    rw [List.flatMap_assoc]
    refine List.flatMap_congr fun c _ => ?_
    conv_rhs => rw [← List.flatMap_singleton' (upperChar c)]
    exact List.flatMap_congr fun d hd => upperChar_of_mem hd
  rw [upper, upper, String.toList_ofList, hflat]

theorem lowerChar_of_mem_lowerAfter {before cs : List Char} {d : Char}
    (h : d ∈ lowerAfter before cs) : lowerChar d = [d] := by
  induction cs generalizing before with
  | nil => cases h
  | cons c cs ih =>
    rw [lowerAfter, List.mem_append] at h
    rcases h with h | h
    · split at h
      · -- a sigma that is small
        obtain rfl := List.mem_singleton.1 h
        split <;> decide
      · exact lowerChar_of_mem h
    · exact ih h

theorem lowerAfter_of_fixed {before cs : List Char} (h : ∀ d ∈ cs, lowerChar d = [d]) :
    lowerAfter before cs = cs := by
  induction cs generalizing before with
  | nil => rfl
  | cons c cs ih =>
    obtain ⟨hc, hcs⟩ := List.forall_mem_cons.1 h
    have hsigma : c ≠ 'Σ' := by
      rintro rfl
      exact absurd hc (by decide)
    rw [lowerAfter, if_neg hsigma, hc, ih hcs]
    rfl

theorem lower_lower (s : String) : lower (lower s) = lower s := by
  rw [lower, lower, String.toList_ofList,
    lowerAfter_of_fixed fun _ hd => lowerChar_of_mem_lowerAfter hd]

/-! ### Forms within ASCII -/

/-- The sign for kelvin, whose lower-case form is the letter `k`. -/
def kelvinSign : Char := '\u212A'

/-- Beyond ASCII, only the kelvin sign has a lower-case form of ASCII characters. -/
theorem ascii_or_kelvin_of_lowerChar {c : Char} (h : ∀ d ∈ lowerChar c, d.toNat < 128) :
    c.toNat < 128 ∨ c = kelvinSign := by
  by_cases hc : c.toNat < 128
  · exact Or.inl hc
  right
  have hexpansions : ∀ x ∈ lowerExpansions, ∃ n ∈ x.2, ¬(Char.ofNat n).toNat < 128 := by
    decide
  have hshifts : ∀ r ∈ lowerShifts, ∀ n ∈ r.run.members,
      n = kelvinSign.toNat ∨ ¬(Char.ofNat (n + r.shift).toNat).toNat < 128 := by
    decide +kernel
  rw [lowerChar_eq_caseForm, caseForm, if_neg hc] at h
  cases hlookup : lowerExpansions.lookup c.toNat with
  | some form =>
    obtain ⟨before, after, hsplit, -⟩ := List.lookup_eq_some_iff.1 hlookup
    obtain ⟨n, hn, hlarge⟩ := hexpansions (c.toNat, form) (by rw [hsplit]; simp)
    rw [hlookup] at h
    exact absurd (h _ (List.mem_map_of_mem hn)) hlarge
  | none =>
    rw [hlookup] at h
    have hshifted : (shiftBy lowerShifts c).toNat < 128 := h _ List.mem_cons_self
    cases hfind : lowerShifts.find? (·.run.has c.toNat) with
    | none =>
      rw [shiftBy, hfind] at hshifted
      exact absurd hshifted hc
    | some r =>
      rw [shiftBy, hfind] at hshifted
      have hhas : r.run.has c.toNat = true := by simpa using List.find?_some hfind
      have hkelvin := (hshifts r (List.mem_of_find?_eq_some hfind) _
        (Run.mem_members hhas)).resolve_right (not_not.2 hshifted)
      rw [← Char.ofNat_toNat c, hkelvin, Char.ofNat_toNat]

theorem ascii_or_kelvin_of_lowerAfter {before cs : List Char}
    (h : ∀ d ∈ lowerAfter before cs, d.toNat < 128) :
    ∀ c ∈ cs, c.toNat < 128 ∨ c = kelvinSign := by
  induction cs generalizing before with
  | nil => exact fun c hc => absurd hc List.not_mem_nil
  | cons c cs ih =>
    rw [lowerAfter, List.forall_mem_append] at h
    obtain ⟨hform, hrest⟩ := h
    refine List.forall_mem_cons.2 ⟨?_, ih hrest⟩
    split at hform
    · -- neither small sigma is an ASCII character
      have hsmall := hform _ List.mem_cons_self
      revert hsmall
      split <;> exact fun hsmall => absurd hsmall (by decide)
    · exact ascii_or_kelvin_of_lowerChar hform

/-- A text with an ASCII lower-case form and without the kelvin sign is an ASCII text. -/
theorem isAscii_of_isAscii_lower {s : String} (h : IsAscii (lower s))
    (hkelvin : kelvinSign ∉ s.toList) : IsAscii s := by
  rw [IsAscii, lower, String.toList_ofList] at h
  intro c hc
  refine (ascii_or_kelvin_of_lowerAfter h c hc).resolve_right ?_
  rintro rfl
  exact hkelvin hc

/-! ### A leading at-sign -/

theorem caseForm_ne_nil {ascii : Char → Char} {expansions : List (ℕ × List ℕ)}
    {shifts : List CaseRun} (h : ∀ x ∈ expansions, x.2 ≠ []) (c : Char) :
    caseForm ascii expansions shifts c ≠ [] := by
  unfold caseForm
  split
  · exact List.cons_ne_nil _ _
  · split
    · rename_i form hlookup
      obtain ⟨before, after, hsplit, -⟩ := List.lookup_eq_some_iff.1 hlookup
      have hform : form ≠ [] := h (c.toNat, form) (by rw [hsplit]; simp)
      exact fun hnil => hform (List.map_eq_nil_iff.1 hnil)
    · exact List.cons_ne_nil _ _

theorem lower_eq_empty_iff {s : String} : lower s = "" ↔ s = "" := by
  constructor
  · intro h
    rw [lower, ← String.toList_inj, String.toList_ofList] at h
    cases hs : s.toList with
    | nil => exact String.toList_inj.1 hs
    | cons c cs =>
      rw [hs, lowerAfter] at h
      obtain ⟨hform, -⟩ := List.append_eq_nil_iff.1 h
      split at hform
      · cases hform
      · exact absurd hform (caseForm_ne_nil (by decide) c)
  · rintro rfl
    rfl

theorem upper_eq_empty_iff {s : String} : upper s = "" ↔ s = "" := by
  constructor
  · intro h
    rw [upper, ← String.toList_inj, String.toList_ofList] at h
    cases hs : s.toList with
    | nil => exact String.toList_inj.1 hs
    | cons c cs =>
      rw [hs, List.flatMap_cons] at h
      exact absurd (List.append_eq_nil_iff.1 h).1 (caseForm_ne_nil (by decide) c)
  · rintro rfl
    rfl

theorem eq_at_of_mem_caseForm {ascii : Char → Char} {expansions : List (ℕ × List ℕ)}
    {shifts : List CaseRun} {c : Char}
    (hascii : ∀ c : Char, c.toNat < 128 → ascii c = '@' → c = '@')
    (hgiven : '@'.toNat ∉ givenPoints expansions shifts)
    (h : '@' ∈ caseForm ascii expansions shifts c) : c = '@' := by
  by_cases hc : c.toNat < 128
  · rw [caseForm, if_pos hc] at h
    exact hascii c hc (List.mem_singleton.1 h).symm
  rcases caseForm_eq_self_or_given hc with hself | htables
  · rw [hself] at h
    exact (List.mem_singleton.1 h).symm
  · exact absurd (htables _ h) hgiven

theorem eq_at_of_mem_upperChar {c : Char} (h : '@' ∈ upperChar c) : c = '@' :=
  eq_at_of_mem_caseForm
    (fun _ hc => forall_ascii (P := fun c => c.toUpper = '@' → c = '@') (by decide) hc)
    (by decide +kernel) h

theorem eq_at_of_mem_lowerChar {c : Char} (h : '@' ∈ lowerChar c) : c = '@' :=
  eq_at_of_mem_caseForm
    (fun _ hc => forall_ascii (P := fun c => c.toLower = '@' → c = '@') (by decide) hc)
    (by decide +kernel) h

/-- The text begins with an at-sign, and something follows it. -/
def HasAtSign (cs : List Char) : Prop := ∃ c rest, cs = '@' :: c :: rest

/-- The form of the first character and what follows it begin with an at-sign only if the first
character is one. -/
theorem of_hasAtSign_append {form rest : List Char} {c : Char} (hne : form ≠ [])
    (hmem : '@' ∈ form → c = '@') (hform : c = '@' → form = ['@'])
    (h : HasAtSign (form ++ rest)) : c = '@' ∧ rest ≠ [] := by
  obtain ⟨e, es, h⟩ := h
  obtain ⟨x, xs, rfl⟩ := List.exists_cons_of_ne_nil hne
  obtain ⟨rfl, htail⟩ := List.cons.inj h
  have hc : c = '@' := hmem List.mem_cons_self
  obtain rfl : xs = [] := (List.cons.inj (hform hc)).2
  refine ⟨hc, ?_⟩
  rintro rfl
  cases htail

theorem hasAtSign_of_upper {s : String} (h : HasAtSign (upper s).toList) : HasAtSign s.toList := by
  rw [upper, String.toList_ofList] at h
  cases hs : s.toList with
  | nil =>
    rw [hs] at h
    obtain ⟨_, _, h⟩ := h
    cases h
  | cons c cs =>
    rw [hs, List.flatMap_cons] at h
    obtain ⟨rfl, hrest⟩ := of_hasAtSign_append (caseForm_ne_nil (by decide) c)
      eq_at_of_mem_upperChar (by rintro rfl; decide) h
    cases cs with
    | nil => exact absurd rfl hrest
    | cons c cs => exact ⟨c, cs, rfl⟩

theorem hasAtSign_of_lower {s : String} (h : HasAtSign (lower s).toList) : HasAtSign s.toList := by
  rw [lower, String.toList_ofList] at h
  cases hs : s.toList with
  | nil =>
    rw [hs] at h
    obtain ⟨_, _, h⟩ := h
    cases h
  | cons c cs =>
    rw [hs, lowerAfter] at h
    obtain ⟨rfl, hrest⟩ : c = '@' ∧ lowerAfter [c] cs ≠ [] := by
      refine of_hasAtSign_append ?_ ?_ ?_ h
      · split
        · exact List.cons_ne_nil _ _
        · exact caseForm_ne_nil (by decide) c
      · intro hat
        split at hat
        · revert hat
          split <;> exact fun hat => absurd hat (by decide)
        · exact eq_at_of_mem_lowerChar hat
      · rintro rfl
        rw [if_neg (by decide)]
        decide
    cases cs with
    | nil => exact absurd rfl hrest
    | cons c cs => exact ⟨c, cs, rfl⟩

end Text

/-! ### The rules of a dialect -/

namespace Dialect

theorem dropAtSign_eq_self_iff {n : String} : dropAtSign n = n ↔ ¬Text.HasAtSign n.toList := by
  constructor
  · rintro h ⟨c, rest, hn⟩
    have hdrop : dropAtSign n = String.ofList (c :: rest) := by simp only [dropAtSign, hn]
    rw [hdrop, ← String.toList_inj, String.toList_ofList, hn] at h
    exact List.cons_ne_self _ _ h.symm
  · intro h
    unfold dropAtSign
    split
    · rename_i c rest hn
      exact absurd ⟨c, rest, hn⟩ h
    · rfl

variable {d : Dialect} {n : String}

theorem identifier_identifier : d.identifier (d.identifier n) = d.identifier n := by
  unfold identifier identifierCase
  split
  · exact Text.upper_upper n
  · split
    · exact Text.lower_lower n
    · rfl

theorem dropAtSign_identifier (h : dropAtSign n = n) :
    dropAtSign (d.identifier n) = d.identifier n := by
  rw [dropAtSign_eq_self_iff] at h ⊢
  unfold identifier identifierCase
  split
  · exact fun hat => h (Text.hasAtSign_of_upper hat)
  · split
    · exact fun hat => h (Text.hasAtSign_of_lower hat)
    · exact h

/-- The rules of a dialect leave their own names as they are, unless a second at-sign is dropped. -/
theorem parameterName_parameterName
    (h : d.atSign = true → dropAtSign (dropAtSign n) = dropAtSign n) :
    d.parameterName (d.parameterName n) = d.parameterName n := by
  unfold parameterName
  cases hat : d.atSign with
  | true =>
    simp only [if_true]
    rw [dropAtSign_identifier (h hat), identifier_identifier]
  | false =>
    simp only [Bool.false_eq_true, if_false]
    exact identifier_identifier

theorem normalize_parameterName
    (h : d.atSign = true → dropAtSign (dropAtSign n) = dropAtSign n) :
    d.normalize (d.parameterName n) = d.normalize n :=
  congrArg Text.lower (parameterName_parameterName h)

end Dialect

end StoredCall
