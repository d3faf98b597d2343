import StoredCall.CallConfig.Basic
import StoredCall.Dialect
import StoredCall.Proofs.LetterCase

/-!
# Identifiers as a pattern

The identifiers, said without the check that accepts them.

* `IsIdentifier`: the pattern `[A-Za-z_][A-Za-z0-9_@#$]` with at most 127 of the later characters;
* `isIdentifier_of_checkIdentifier`: the check accepts no other text;
* `isIdentifier_identifierCase`: identifiers remain identifiers in the letter case of a database;
* `identifiers_of_validate`, `validate_eq_ok_iff`: which configurations are accepted.
-/

namespace StoredCall

/-- A letter or underscore, and then at most 127 letters, digits, underscores, at-signs, number
signs and dollars. -/
def IsIdentifier (s : String) : Prop :=
  ∃ c cs, s.toList = c :: cs ∧ isIdentifierStart c = true ∧
    (∀ x ∈ cs, isIdentifierRest x = true) ∧ cs.length ≤ 127

variable {s : String}

theorem isIdentifier_of_checkIdentifier (h : checkIdentifier s = .ok ()) : IsIdentifier s := by
  unfold checkIdentifier at h
  split at h
  · cases h
  · split at h
    · rename_i hs
      cases hcs : s.toList with
      | nil =>
        rw [hcs] at hs
        cases hs
      | cons c cs =>
        rw [hcs] at hs
        simp only [isIdentifier, Bool.and_eq_true, List.all_eq_true, decide_eq_true_eq] at hs
        exact ⟨c, cs, hcs, hs.1.1, hs.1.2, hs.2⟩
    · cases h

theorem checkIdentifier_of_isIdentifier (h : isIdentifier s.toList = true) :
    checkIdentifier s = .ok () := by
  have hne : s ≠ "" := by
    rintro rfl
    cases h
  rw [checkIdentifier, if_neg hne, if_pos h]

theorem isIdentifier_iff : isIdentifier s.toList = true ↔ IsIdentifier s := by
  constructor
  · exact fun h => isIdentifier_of_checkIdentifier (checkIdentifier_of_isIdentifier h)
  · rintro ⟨c, cs, hs, hc, hcs, hlength⟩
    rw [hs, isIdentifier, hc, List.all_eq_true.2 hcs, decide_eq_true hlength]
    rfl

/-! ### The characters of identifiers -/

theorem isIdentifierRest_of_start {c : Char} (h : isIdentifierStart c = true) :
    isIdentifierRest c = true := by
  simp only [isIdentifierStart, isIdentifierRest, Char.isAlphanum, Bool.or_eq_true] at *
  rcases h with h | h
  · exact Or.inl (Or.inl (Or.inl (Or.inl (Or.inl h))))
  · exact Or.inl (Or.inl (Or.inl (Or.inr h)))

theorem IsIdentifier.forall_mem (h : IsIdentifier s) :
    ∀ x ∈ s.toList, isIdentifierRest x = true := by
  obtain ⟨c, cs, hs, hc, hcs, -⟩ := h
  rw [hs]
  exact List.forall_mem_cons.2 ⟨isIdentifierRest_of_start hc, hcs⟩

theorem IsIdentifier.not_mem (h : IsIdentifier s) {x : Char} (hx : isIdentifierRest x = false) :
    x ∉ s.toList := by
  intro hmem
  rw [h.forall_mem x hmem] at hx
  cases hx

theorem toNat_lt_of_isIdentifierRest {c : Char} (h : isIdentifierRest c = true) :
    c.toNat < 128 := by
  delta isIdentifierRest Char.isAlphanum Char.isAlpha Char.isUpper Char.isLower Char.isDigit at h
  simp only [Bool.or_eq_true, Bool.and_eq_true, decide_eq_true_eq, ge_iff_le,
    UInt32.le_iff_toNat_le] at h
  change c.val.toNat < 128
  rcases h with ((((((h | h) | h) | rfl) | rfl) | rfl) | rfl)
  · exact Nat.lt_of_le_of_lt h.2 (by decide)
  · exact Nat.lt_of_le_of_lt h.2 (by decide)
  · exact Nat.lt_of_le_of_lt h.2 (by decide)
  all_goals decide

theorem IsIdentifier.isAscii (h : IsIdentifier s) : Text.IsAscii s :=
  fun c hc => toNat_lt_of_isIdentifierRest (h.forall_mem c hc)

/-! ### Letter case -/

/-- A text whose characters are those of an identifier, with letters mapped to letters. -/
theorem IsIdentifier.of_toList_map {t : String} (f : Char → Char)
    (hstart : ∀ c, c.toNat < 128 → isIdentifierStart (f c) = isIdentifierStart c)
    (hrest : ∀ c, c.toNat < 128 → isIdentifierRest (f c) = isIdentifierRest c)
    (h : IsIdentifier s) (ht : t.toList = s.toList.map f) : IsIdentifier t := by
  obtain ⟨c, cs, hs, hc, hcs, hlen⟩ := h
  refine ⟨f c, cs.map f, by rw [ht, hs, List.map_cons], ?_, ?_, by simpa using hlen⟩
  · rwa [hstart c (toNat_lt_of_isIdentifierRest (isIdentifierRest_of_start hc))]
  · intro x hx
    obtain ⟨y, hy, rfl⟩ := List.mem_map.1 hx
    rw [hrest y (toNat_lt_of_isIdentifierRest (hcs y hy))]
    exact hcs y hy

theorem isIdentifierStart_toLower (c : Char) :
    isIdentifierStart c.toLower = isIdentifierStart c := by
  by_cases hc : c.toNat < 128
  · exact Text.forall_ascii (P := fun c => isIdentifierStart c.toLower = isIdentifierStart c)
      (by decide) hc
  · rw [Text.toLower_of_not_ascii hc]

theorem isIdentifierRest_toLower (c : Char) :
    isIdentifierRest c.toLower = isIdentifierRest c := by
  by_cases hc : c.toNat < 128
  · exact Text.forall_ascii (P := fun c => isIdentifierRest c.toLower = isIdentifierRest c)
      (by decide) hc
  · rw [Text.toLower_of_not_ascii hc]

theorem isIdentifier_lower (h : IsIdentifier s) : IsIdentifier (Text.lower s) :=
  h.of_toList_map Char.toLower (fun c _ => isIdentifierStart_toLower c)
    (fun c _ => isIdentifierRest_toLower c) (Text.toList_lower_of_ascii h.isAscii)

theorem isIdentifier_upper (h : IsIdentifier s) : IsIdentifier (Text.upper s) :=
  h.of_toList_map Char.toUpper
    (fun _ => Text.forall_ascii (P := fun c => isIdentifierStart c.toUpper = isIdentifierStart c)
      (by decide))
    (fun _ => Text.forall_ascii (P := fun c => isIdentifierRest c.toUpper = isIdentifierRest c)
      (by decide))
    (Text.toList_upper_of_ascii h.isAscii)

theorem isIdentifier_identifierCase (info : DatabaseInfo) (h : IsIdentifier s) :
    IsIdentifier (Dialect.identifierCase info s) := by
  unfold Dialect.identifierCase
  split
  · exact isIdentifier_upper h
  · split
    · exact isIdentifier_lower h
    · exact h

/-! ### Configurations -/

theorem isIdentifier_of_checkQualifier (h : CallConfig.checkQualifier (some s) = .ok ())
    (hne : s ≠ "") : IsIdentifier s := by
  rw [CallConfig.checkQualifier, if_neg hne] at h
  exact isIdentifier_of_checkIdentifier h

theorem checks_of_validate {config : CallConfig} (h : config.validate = .ok ()) :
    checkIdentifier config.routine.name = .ok () ∧
      CallConfig.checkQualifier config.routine.catalog = .ok () ∧
      CallConfig.checkQualifier config.routine.schema = .ok () ∧ config.returnName ≠ "" := by
  unfold CallConfig.validate at h
  simp only [bind, Except.bind] at h
  split at h
  · cases h
  · rename_i hname
    split at h
    · cases h
    · rename_i hcatalog
      split at h
      · cases h
      · rename_i hschema
        split at h
        · cases h
        · rename_i hreturn
          exact ⟨hname, hcatalog, hschema, hreturn⟩

theorem identifiers_of_validate {config : CallConfig} (h : config.validate = .ok ()) :
    IsIdentifier config.routine.name ∧
      ∀ q ∈ config.routine.catalog.toList ++ config.routine.schema.toList, q ≠ "" →
        IsIdentifier q := by
  obtain ⟨hname, hcatalog, hschema, -⟩ := checks_of_validate h
  refine ⟨isIdentifier_of_checkIdentifier hname, fun q hq hne => ?_⟩
  rcases List.mem_append.1 hq with hq | hq
  · rw [Option.mem_toList.1 hq] at hcatalog
    exact isIdentifier_of_checkQualifier hcatalog hne
  · rw [Option.mem_toList.1 hq] at hschema
    exact isIdentifier_of_checkQualifier hschema hne

theorem isIdentifier_of_mem_parts {config : CallConfig} (hvalid : config.validate = .ok ())
    {q : String} (hq : q ∈ config.routine.qualifiers ++ [config.routine.name]) :
    IsIdentifier q := by
  obtain ⟨hname, hqualifiers⟩ := identifiers_of_validate hvalid
  rcases List.mem_append.1 hq with hq | hq
  · obtain ⟨hmem, hne⟩ := List.mem_filter.1 hq
    exact hqualifiers q hmem (of_decide_eq_true hne)
  · rw [List.mem_singleton.1 hq]
    exact hname

/-- A configuration is accepted exactly if its names, empty qualifiers apart, are identifiers and it
has a return name. -/
theorem validate_eq_ok_iff {config : CallConfig} :
    config.validate = .ok () ↔
      (∀ part ∈ config.routine.qualifiers ++ [config.routine.name], IsIdentifier part) ∧
        config.returnName ≠ "" := by
  constructor
  · exact fun h => ⟨fun _ => isIdentifier_of_mem_parts h, (checks_of_validate h).2.2.2⟩
  rintro ⟨hparts, hreturn⟩
  have hcheck : ∀ part ∈ config.routine.qualifiers ++ [config.routine.name],
      checkIdentifier part = .ok () := fun part hpart =>
    checkIdentifier_of_isIdentifier (isIdentifier_iff.2 (hparts part hpart))
  have hqualifier : ∀ q : Option String, q.toList ⊆
      config.routine.catalog.toList ++ config.routine.schema.toList →
        CallConfig.checkQualifier q = .ok () := by
    intro q hq
    cases q with
    | none => rfl
    | some s =>
      rw [CallConfig.checkQualifier]
      split
      · rfl
      · rename_i hne
        exact hcheck s (List.mem_append_left _ (List.mem_filter.2
          ⟨hq List.mem_cons_self, decide_eq_true hne⟩))
  rw [CallConfig.validate, hcheck _ (List.mem_append_right _ List.mem_cons_self),
    hqualifier _ (List.subset_append_left _ _), hqualifier _ (List.subset_append_right _ _),
    if_neg hreturn]
  rfl

end StoredCall
