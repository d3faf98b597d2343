import Mathlib.Data.List.Perm.Subperm
import StoredCall.Proofs.ColumnRun
import StoredCall.Proofs.RecordValues
import StoredCall.Proofs.Spelling

/-!
# Records against parameters named after their fields

No casing hides a field from a parameter of its name.

* `yields_of_reaches_iff`: a parameter that only one argument can reach selects it;
* `map_entries_collectFor`: where each parameter selects an argument, matching converts these
  arguments one after the other;
* `RecordType.NamedByFields`: names that a casing changes but does not mix up;
* `RecordType.NamedByFields.yields`: a parameter named after a field selects the value of the field;
* `matchArguments_of_record`: all parameters have the values of their fields, or the first error.
-/

namespace StoredCall

/-! ### The arguments of parameters -/

section

variable {d : Dialect} {source : ArgumentSource} {names : List String} {p a : String} {i : ℕ}

theorem Dialect.Selects.reaches (h : d.Selects names p i a) : d.Reaches a p := by
  cases h with
  | exact first => exact Or.inl first.holds
  | property _ first => exact Or.inr first.holds

theorem argumentFor?_eq_none_iff :
    d.argumentFor? names p = none ↔ ∀ b ∈ names, ¬ d.Reaches b p := by
  have hproperty : (names.zipIdx.find? fun b => sameProperty b.1 (d.parameterName p)) = none ↔
      ∀ b ∈ names, ¬ sameProperty b (d.parameterName p) = true := by
    simpa using find?_zipIdx_eq_none_iff (P := fun b => sameProperty b (d.parameterName p))
  rw [Dialect.argumentFor?, Option.or_eq_none_iff, hproperty,
    find?_zipIdx_eq_none_iff (P := fun b => d.normalize b = d.normalize p)]
  simp only [Dialect.Reaches, not_or, imp_and, forall_and]

/-- A parameter that one argument only can reach selects it. -/
theorem yields_of_reaches_iff (ha : a ∈ source.names)
    (h : ∀ b ∈ source.names, d.Reaches b p ↔ b = a) : d.Yields source p (source.value a) := by
  cases hfor : d.argumentFor? source.names p with
  | none => exact absurd ((h a ha).2 rfl) (argumentFor?_eq_none_iff.1 hfor a ha)
  | some x =>
    obtain ⟨b, j⟩ := x
    have hselects : d.Selects source.names p j b := argumentFor?_eq_some_iff.1 hfor
    obtain rfl := (h b (List.mem_of_getElem? hselects.getElem?_eq)).1 hselects.reaches
    exact ⟨j, b, hselects, rfl⟩

/-- Where each parameter has a value or an error, collecting is converting one after the other. -/
theorem map_entries_collectFor {α : Type} {convert : α → Except TypeError Value}
    {ps : List String} {xs : List α} {vs : NamedValues}
    (h : List.Forall₂ (fun p x => d.Yields source p ((convert x).map some)) ps xs)
    (hnodup : ps.Nodup) (hfree : ∀ p ∈ ps, p ∉ vs.names) :
    (d.collectFor source ps vs).map (·.entries) =
      ((ps.zip xs).mapM fun y => (convert y.2).map (Prod.mk y.1)).map (vs.entries ++ ·) := by
  induction h generalizing vs with
  | nil => exact congrArg Except.ok (List.append_nil _).symm
  | @cons p x ps xs hp _ ih =>
    obtain ⟨hpnew, hnodup⟩ := List.nodup_cons.1 hnodup
    obtain ⟨hpfree, hfree⟩ := List.forall_mem_cons.1 hfree
    rw [List.zip_cons_cons, List.mapM_cons]
    cases hx : convert x with
    | error e =>
      rw [hx] at hp
      rw [collect_of_fails hp]
      rfl
    | ok v =>
      rw [hx] at hp
      -- the name that is added is none of those to come
      have hfree' : ∀ q ∈ ps, q ∉ (vs.insert p v).names := by
        intro q hq hmem
        rw [vs.names_insert_of_not_mem hpfree, List.mem_append, List.mem_singleton] at hmem
        rcases hmem with hmem | rfl
        · exact hfree q hq hmem
        · exact hpnew hq
      rw [collect_of_yields hp, ih hnodup hfree', vs.entries_insert_of_not_mem hpfree]
      cases (ps.zip xs).mapM fun y => (convert y.2).map (Prod.mk y.1) with
      | error e => rfl
      | ok added => exact congrArg Except.ok (List.append_assoc vs.entries [(p, v)] added)

end

/-! ### Fields and parameters of one name -/

/-- An ASCII name that begins with a letter, as an identifier does that does not begin with an
underscore. -/
def IsFieldName (name : String) : Prop :=
  Text.IsAscii name ∧ name.toList.head?.any Char.isAlpha = true

/-- The name of a field without underscores, in lower case. -/
def Field.word (f : Field) : List Char := bare (plainName f.name).toList

/-- The parameter has the name of the field, in any ASCII letter case. -/
def NamedAfter (p : String) (f : Field) : Prop := Text.sameLetters p (plainName f.name) = true

instance (name : String) : Decidable (IsFieldName name) := inferInstanceAs (Decidable (_ ∧ _))

instance (p : String) (f : Field) : Decidable (NamedAfter p f) :=
  inferInstanceAs (Decidable (_ = true))

/-- The values of the type are named by their fields alone: no attribute gives a name, and the names
of the fields begin with a letter and differ in more than underscores and letter case. -/
structure RecordType.NamedByFields (t : RecordType) : Prop where
  unrenamed : ∀ f ∈ t.included, f.renames = []
  fieldNames : ∀ f ∈ t.included, IsFieldName (plainName f.name)
  distinct : (t.included.map Field.word).Nodup

section

variable {d : Dialect} {t : RecordType} {values : FieldValues} {f : Field} {p : String}

theorem IsFieldName.spells (h : IsFieldName (plainName f.name)) :
    Spells f.word (plainName f.name).toList := by
  obtain ⟨c, hhead, hletter⟩ := (Option.any_eq_true _ _).1 h.2
  obtain ⟨rest, hname⟩ := List.head?_eq_some_iff.1 hhead
  exact ⟨h.1, ⟨c, rest, hname, hletter⟩, rfl⟩

theorem NamedAfter.spells (hp : NamedAfter p f) (h : IsFieldName (plainName f.name)) :
    Spells f.word p.toList := h.spells.of_sameLetters hp

namespace RecordType.NamedByFields

/-- No casing changes what the name of a field spells. -/
theorem spells_givenName (h : t.NamedByFields) (hf : f ∈ t.included) :
    Spells f.word (t.givenName f).toList := by
  have hspells := (h.fieldNames f hf).spells
  unfold RecordType.givenName
  rw [h.unrenamed f hf]
  cases t.casings.getLast? with
  | none => exact hspells
  | some casing => exact hspells.apply casing

/-- Fields that spell different words have values of different names. -/
theorem nodup_givenName (h : t.NamedByFields) : (t.included.map t.givenName).Nodup := by
  have hwords : (t.included.map t.givenName).map (bare ·.toList) = t.included.map Field.word := by
    rw [List.map_map]
    exact List.map_congr_left fun f hf => (h.spells_givenName hf).bare_eq
  exact List.Nodup.of_map _ (hwords ▸ h.distinct)

theorem sourceFrom_eq (h : t.NamedByFields) (hwell : t.WellFormed) :
    t.sourceFrom values = .ok (sourceOf t.values values) :=
  sourceFrom_eq_ok_iff.2
    ⟨t.values, (valueFields_eq_ok_iff hwell).2 ⟨rfl, h.nodup_givenName⟩, rfl⟩

theorem reaches_iff (h : t.NamedByFields) {g : Field} (hg : g ∈ t.included) (hf : f ∈ t.included)
    (hp : NamedAfter p f) : d.Reaches (t.givenName g) p ↔ g = f := by
  rw [reaches_iff_of_spells (h.spells_givenName hg) (hp.spells (h.fieldNames f hf))]
  exact ⟨fun hword => List.inj_on_of_nodup_map h.distinct hg hf hword, fun heq => heq ▸ rfl⟩

/-- A parameter named after a field selects the value of this field. -/
theorem yields (h : t.NamedByFields) (hf : f ∈ t.included) (hp : NamedAfter p f) :
    d.Yields (sourceOf t.values values) p ((values f.name).map some) := by
  have hnames : (sourceOf t.values values).names = t.included.map t.givenName := t.map_name_values
  have hvalues : (t.values.map (·.name)).Nodup := t.map_name_values ▸ h.nodup_givenName
  have hvalue : (sourceOf t.values values).value (t.givenName f) = (values f.name).map some :=
    value_sourceOf_of_mem hvalues (List.mem_map_of_mem (f := t.valueOf) hf)
  rw [← hvalue]
  refine yields_of_reaches_iff (hnames ▸ List.mem_map_of_mem hf) fun b hb => ?_
  obtain ⟨g, hg, rfl⟩ := List.mem_map.1 (hnames ▸ hb)
  rw [h.reaches_iff hg hf hp]
  exact ⟨fun heq => heq ▸ rfl, fun heq => List.inj_on_of_nodup_map h.nodup_givenName hg hf heq⟩

end RecordType.NamedByFields

theorem map_bare_of_namedAfter {ps : List String} {fs : List Field}
    (h : List.Forall₂ NamedAfter ps fs) : ps.map (bare ·.toList) = fs.map Field.word := by
  induction h with
  | nil => rfl
  | cons hp _ ih => exact congrArg₂ List.cons (bare_congr (Text.sameLetters_iff.1 hp)) ih

theorem nodup_of_namedAfter (h : t.NamedByFields) {ps : List String} {fs : List Field}
    (hfs : fs.Subperm t.included) (hnamed : List.Forall₂ NamedAfter ps fs) : ps.Nodup := by
  obtain ⟨gs, hperm, hsub⟩ := hfs
  have hwords : (fs.map Field.word).Nodup :=
    (hperm.map Field.word).nodup_iff.1 ((hsub.map Field.word).nodup h.distinct)
  exact List.Nodup.of_map _ (map_bare_of_namedAfter hnamed ▸ hwords)

end

/-- A type whose values are named by its fields is accepted, whatever its casing. If each parameter
that takes a value is named after a field of its own, matching converts these fields one after the
other in call order: each parameter gets the value of its field, or else the first error remains. -/
theorem matchArguments_of_record (d : Dialect) (l : ParameterList) (t : RecordType)
    (values : FieldValues) (h : t.WellFormed) (hnames : t.NamedByFields) {fs : List Field}
    (hfs : fs.Subperm t.included) (hnamed : List.Forall₂ NamedAfter l.bindableNames fs) :
    ∃ source, t.sourceFrom values = .ok source ∧
      (d.matchArguments l source).outcome.map (·.entries) =
        ((l.bindableNames.zip fs).mapM fun x => (values x.2.name).map (Prod.mk x.1)).mapError
          .type := by
  refine ⟨sourceOf t.values values, hnames.sourceFrom_eq h, ?_⟩
  have hyields : List.Forall₂
      (fun p f => d.Yields (sourceOf t.values values) p ((values f.name).map some))
      l.bindableNames fs := by
    rw [List.forall₂_iff_zip] at hnamed ⊢
    refine ⟨hnamed.1, fun {p f} hmem => ?_⟩
    exact hnames.yields (hfs.subset (List.of_mem_zip hmem).2) (hnamed.2 hmem)
  have hnodup : l.bindableNames.Nodup := nodup_of_namedAfter hnames hfs hnamed
  have hmatched : (d.matchedValues l (sourceOf t.values values)).map (·.entries) =
      (l.bindableNames.zip fs).mapM fun x => (values x.2.name).map (Prod.mk x.1) := by
    refine (map_entries_collectFor hyields hnodup fun _ _ => List.not_mem_nil).trans ?_
    cases (l.bindableNames.zip fs).mapM fun x => (values x.2.name).map (Prod.mk x.1) <;> rfl
  rw [Dialect.matchArguments, Attempt.outcome_of, ← hmatched]
  cases d.matchedValues l (sourceOf t.values values) <;> rfl

/-- Fields in capitals and parameters in other letter case and order: all values, or the error of
`raw_data`, though `order_id` cannot be converted either. -/
theorem matchArguments_of_record_order :
    let d := Dialect.oracle Fixtures.oracle
    let t := SampleRecords.order
    let l : ParameterList :=
      { entries :=
          [.declared 1 (.input "Type" .smallint), .declared 0 (.input "raw_DATA" .varbinary),
            .declared 2 (.inOut "ORDER_ID" .bigint)] }
    let fs : List Field := [{ name := "r#type" }, { name := "raw_data" }, { name := "order_id" }]
    let values : FieldValues := fun field => .ok (.text field)
    let failing : FieldValues := fun field =>
      if field = "r#type" then .ok .null else .error (.outOfRange field)
    t.WellFormed ∧ t.NamedByFields ∧ fs.Subperm t.included ∧
      List.Forall₂ NamedAfter l.bindableNames fs ∧
      (∃ source, t.sourceFrom values = .ok source ∧
        (d.matchArguments l source).outcome.map (·.entries) =
          .ok [("Type", .text "r#type"), ("raw_DATA", .text "raw_data"),
            ("ORDER_ID", .text "order_id")]) ∧
      ∃ source, t.sourceFrom failing = .ok source ∧
        (d.matchArguments l source).outcome.map (·.entries) =
          .error (.type (.outOfRange "raw_data")) := by
  intro d t l fs values failing
  have h : t.WellFormed := ⟨rfl, by decide, by decide⟩
  have hnames : t.NamedByFields := ⟨by decide, by decide +kernel, by decide +kernel⟩
  have hfs : fs.Subperm t.included := by decide
  have hnamed : List.Forall₂ NamedAfter l.bindableNames fs := by decide +kernel
  exact ⟨h, hnames, hfs, hnamed, matchArguments_of_record d l t values h hnames hfs hnamed,
    matchArguments_of_record d l t failing h hnames hfs hnamed⟩

/-- A result set that is named after a field takes no value, though the field can be converted. -/
theorem result_set_takes_no_value :
    let c := CallContext.start { CallConfig.procedure "p" with useColumns := false }
      (.forCalls Fixtures.mySql false false)
    let rows : Parameter :=
      { name := some "email", direction := .resultSet, sqlType := .other }
    let t := SampleRecords.newUser
    let values : FieldValues := fun field => .ok (.text field)
    t.WellFormed ∧ t.NamedByFields ∧
      ∃ l fs, (c.reconcile [.input "user_name" .varchar, rows] []).outcome = .ok l ∧
        fs.Perm t.included ∧
        List.Forall₂ (fun e f => e.name.any (Text.sameLetters · (plainName f.name))) l.entries fs ∧
        ∃ source vs, t.sourceFrom values = .ok source ∧
          (c.dialect.matchArguments l source).outcome = .ok vs ∧
          vs.entries = [("user_name", .text "user_name")] ∧ vs.get? "email" = none := by
  intro c rows t values
  have h : t.WellFormed := ⟨rfl, by decide, by decide⟩
  have hnames : t.NamedByFields := ⟨by decide, by decide +kernel, by decide +kernel⟩
  have hbindings : c.dialect.bindings (c.declaredList [.input "user_name" .varchar, rows] [])
      (sourceOf t.values values).names = [⟨"user_name", 0, "user_name"⟩] := by decide +kernel
  let vs := NamedValues.empty.insert "user_name" (.text "user_name")
  refine ⟨h, hnames, _, t.included.reverse, CallContext.reconcile_of_unused rfl,
    List.reverse_perm _, by decide +kernel, sourceOf t.values values, vs, hnames.sourceFrom_eq h,
    outcome_matchArguments_eq_ok_iff.2 ?_, rfl, rfl⟩
  rw [Dialect.matchedValues, hbindings]
  rfl

end StoredCall
