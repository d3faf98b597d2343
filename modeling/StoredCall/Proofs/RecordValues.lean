import Mathlib.Data.List.Nodup
import StoredCall.Record.Source

/-!
# The values of a record

What a record type supplies, said by its fields, where all attributes are well formed.

* `RecordType.WellFormed`: fields have names, and the attributes are those that there are;
* `RecordType.included`, `RecordType.givenName`: the fields that are not left out, and the names of
  their values;
* `valueFields_eq_foldlM`: the attributes never fail, so that only the new value names are checked
  one by one;
* `foldlM_addValue_eq_ok_iff`, `foldlM_addValue_eq_error_iff`: what this check accepts, and the name
  that it reports;
* `source_of_wellFormed`: a type is refused exactly if two values have one name, and else its
  source lists, has and converts one field for each name.
-/

namespace StoredCall

/-! ### Well-formed attributes -/

/-- The text that an attribute has as its value. -/
def FieldAttribute.text? (a : FieldAttribute) : Option String :=
  match a.value with
  | some (.text s) => some s
  | _ => none

/-- The attribute renames a field or leaves it out. -/
def FieldAttribute.IsFieldOption (a : FieldAttribute) : Prop :=
  (a.key = "rename" ∧ a.text?.isSome) ∨ (a.key = "skip" ∧ a.value = none)

/-- The attribute asks for a casing that there is. -/
def FieldAttribute.IsCasing (a : FieldAttribute) : Prop :=
  a.key = "rename_all" ∧ (a.text?.bind Casing.named?).isSome

instance (a : FieldAttribute) : Decidable a.IsFieldOption :=
  inferInstanceAs (Decidable (_ ∨ _))

instance (a : FieldAttribute) : Decidable a.IsCasing :=
  inferInstanceAs (Decidable (_ ∧ _))

/-- The type has named fields, and its attributes and those of its fields say something. -/
structure RecordType.WellFormed (t : RecordType) : Prop where
  record : t.shape = .record
  casing : ∀ a ∈ relevant t.attributes, a.IsCasing
  options : ∀ f ∈ t.fields, ∀ a ∈ relevant f.attributes, a.IsFieldOption

/-! ### Fields and the names of their values -/

/-- The names that attributes give, in their order. -/
def renamesIn (attributes : List FieldAttribute) : List String :=
  (attributes.filter (·.key = "rename")).filterMap (·.text?)

/-- The casings that attributes ask for, in their order. -/
def casingsIn (attributes : List FieldAttribute) : List Casing :=
  (attributes.filter (·.key = "rename_all")).filterMap fun a => a.text?.bind Casing.named?

/-- The names that its attributes give a field. -/
def Field.renames (f : Field) : List String := renamesIn (relevant f.attributes)

/-- An attribute leaves the field out. -/
def Field.isLeftOut (f : Field) : Bool := (relevant f.attributes).any (·.key = "skip")

/-- The casings that its attributes ask for. -/
def RecordType.casings (t : RecordType) : List Casing := casingsIn (relevant t.attributes)

/-- The fields that are not left out. -/
def RecordType.included (t : RecordType) : List Field := t.fields.filter (!·.isLeftOut)

/-- The name of a field's value: the last one that an attribute gives, or else the field's own name
in the last casing of the type. -/
def RecordType.givenName (t : RecordType) (f : Field) : String :=
  match f.renames.getLast?, t.casings.getLast? with
  | some name, _ => name
  | none, some casing => casing.apply (plainName f.name)
  | none, none => plainName f.name

/-- The value of a field. -/
def RecordType.valueOf (t : RecordType) (f : Field) : ValueField := ⟨t.givenName f, f.name⟩

/-- The values of the fields that are not left out. -/
def RecordType.values (t : RecordType) : List ValueField := t.included.map t.valueOf

theorem RecordType.map_name_valueOf (t : RecordType) (fs : List Field) :
    (fs.map t.valueOf).map (·.name) = fs.map t.givenName := List.map_map

theorem RecordType.map_name_values (t : RecordType) :
    t.values.map (·.name) = t.included.map t.givenName := t.map_name_valueOf t.included

/-! ### Reading attributes -/

theorem text_eq_ok_iff {a : FieldAttribute} {s : String} : a.text = .ok s ↔ a.text? = some s := by
  unfold FieldAttribute.text FieldAttribute.text?
  match a.value with
  | some (.text _) => simp
  | some (.integer _) => simp
  | none => simp

theorem getLast?_cons_or {α : Type} (a : α) (l : List α) (o : Option α) :
    (a :: l).getLast?.or o = l.getLast?.or (some a) := by
  rw [List.getLast?_cons]
  cases l.getLast? <;> rfl

/-- Of the names that attributes give, the last one counts. -/
theorem foldlM_apply {attributes : List FieldAttribute}
    (h : ∀ a ∈ attributes, a.IsFieldOption) (o : FieldOptions) :
    attributes.foldlM FieldOptions.apply o =
      .ok ⟨(renamesIn attributes).getLast?.or o.rename,
        o.skip || attributes.any (·.key = "skip")⟩ := by
  induction attributes generalizing o with
  | nil => simp [renamesIn, pure, Except.pure]
  | cons a rest ih =>
    obtain ⟨ha, hrest⟩ := List.forall_mem_cons.1 h
    rw [List.foldlM_cons]
    rcases ha with ⟨hkey, htext⟩ | ⟨hkey, hvalue⟩
    · obtain ⟨name, hname⟩ := Option.isSome_iff_exists.1 htext
      have hstep : FieldOptions.apply o a = .ok { o with rename := some name } := by
        rw [FieldOptions.apply, if_pos hkey, text_eq_ok_iff.2 hname]
        rfl
      have hrenames : renamesIn (a :: rest) = name :: renamesIn rest := by
        simp [renamesIn, hkey, hname]
      rw [hstep, hrenames, getLast?_cons_or]
      exact (ih hrest _).trans (by simp [hkey])
    · have hstep : FieldOptions.apply o a = .ok { o with skip := true } := by
        rw [FieldOptions.apply, if_neg (by rw [hkey]; decide), if_pos hkey, hvalue]
        rfl
      have hrenames : renamesIn (a :: rest) = renamesIn rest := by
        simp [renamesIn, hkey]
      rw [hstep, hrenames]
      exact (ih hrest _).trans (by simp [hkey])

theorem foldlM_applyTypeAttribute {attributes : List FieldAttribute}
    (h : ∀ a ∈ attributes, a.IsCasing) (o : Option Casing) :
    attributes.foldlM applyTypeAttribute o = .ok ((casingsIn attributes).getLast?.or o) := by
  induction attributes generalizing o with
  | nil => rfl
  | cons a rest ih =>
    obtain ⟨⟨hkey, hcasing⟩, hrest⟩ := List.forall_mem_cons.1 h
    obtain ⟨casing, hcasing⟩ := Option.isSome_iff_exists.1 hcasing
    obtain ⟨style, hstyle, hnamed⟩ := Option.bind_eq_some_iff.1 hcasing
    have hstep : applyTypeAttribute o a = .ok (some casing) := by
      rw [applyTypeAttribute, if_pos hkey, text_eq_ok_iff.2 hstyle]
      simp only [bind, Except.bind, hnamed]
    have hcasings : casingsIn (a :: rest) = casing :: casingsIn rest := by
      simp [casingsIn, hkey, hstyle, hnamed]
    rw [List.foldlM_cons, hstep, hcasings, getLast?_cons_or]
    exact ih hrest _

/-! ### Adding values -/

/-- The values with one more, whose name must be new. -/
def addValue (known : List ValueField) (v : ValueField) : Except RecordError (List ValueField) :=
  if known.any (·.name = v.name) then .error (.duplicateName v.name) else .ok (known ++ [v])

variable {t : RecordType} {f : Field} {known vs ws : List ValueField} {v : ValueField}
  {values : FieldValues} {n : String} {e : RecordError}

theorem addField_eq (h : ∀ a ∈ relevant f.attributes, a.IsFieldOption) :
    addField t.casings.getLast? known f =
      if f.isLeftOut then .ok known else addValue known (t.valueOf f) := by
  have hname : ∀ skip, valueName t.casings.getLast? ⟨f.renames.getLast?, skip⟩ f.name =
      t.givenName f := by
    intro skip
    unfold valueName RecordType.givenName
    cases f.renames.getLast? <;> cases t.casings.getLast? <;> rfl
  have hoptions : FieldOptions.ofAttributes f.attributes =
      .ok ⟨f.renames.getLast?, f.isLeftOut⟩ := by
    rw [FieldOptions.ofAttributes, foldlM_apply h, Option.or_none, Bool.false_or]
    rfl
  rw [addField, hoptions]
  simp only [bind, Except.bind, hname]
  cases f.isLeftOut <;> rfl

theorem foldlM_addField {fields : List Field}
    (h : ∀ f ∈ fields, ∀ a ∈ relevant f.attributes, a.IsFieldOption) :
    fields.foldlM (addField t.casings.getLast?) known =
      ((fields.filter (!·.isLeftOut)).map t.valueOf).foldlM addValue known := by
  induction fields generalizing known with
  | nil => rfl
  | cons f rest ih =>
    obtain ⟨hf, hrest⟩ := List.forall_mem_cons.1 h
    rw [List.foldlM_cons, addField_eq hf]
    cases hskip : f.isLeftOut with
    | true =>
      rw [List.filter_cons_of_neg (by simp [hskip])]
      exact ih hrest
    | false =>
      rw [List.filter_cons_of_pos (by simp [hskip]), List.map_cons, List.foldlM_cons]
      exact congrArg (addValue known _ >>= ·) (funext fun _ => ih hrest)

/-- Attributes that are well formed do not fail. -/
theorem valueFields_eq_foldlM (h : t.WellFormed) : t.valueFields = t.values.foldlM addValue [] := by
  have hcasing : casingOf t.attributes = .ok t.casings.getLast? := by
    rw [casingOf, foldlM_applyTypeAttribute h.casing, Option.or_none]
    rfl
  rw [RecordType.valueFields, hcasing, h.record]
  exact foldlM_addField h.options

theorem any_name_iff : (known.any (·.name = n)) = true ↔ n ∈ known.map (·.name) := by
  simp [List.any_eq_true]

theorem addValue_of_mem (h : v.name ∈ known.map (·.name)) :
    addValue known v = .error (.duplicateName v.name) := if_pos (any_name_iff.2 h)

theorem addValue_of_not_mem (h : v.name ∉ known.map (·.name)) :
    addValue known v = .ok (known ++ [v]) := if_neg fun hany => h (any_name_iff.1 hany)

theorem nodup_map_append_singleton (hknown : (known.map (·.name)).Nodup)
    (h : v.name ∉ known.map (·.name)) : ((known ++ [v]).map (·.name)).Nodup := by
  rw [List.map_append, List.nodup_append]
  refine ⟨hknown, List.nodup_singleton _, ?_⟩
  rintro a ha b hb rfl
  rw [List.map_singleton, List.mem_singleton] at hb
  exact h (hb ▸ ha)

theorem name_not_mem_of_nodup (h : ((known ++ v :: vs).map (·.name)).Nodup) :
    v.name ∉ known.map (·.name) := by
  rw [List.map_append, List.nodup_append] at h
  exact fun hv => h.2.2 _ hv v.name (by simp) rfl

/-- Values are added if all their names are new, and then in their order. -/
theorem foldlM_addValue_eq_ok_iff (hknown : (known.map (·.name)).Nodup) :
    vs.foldlM addValue known = .ok ws ↔
      ws = known ++ vs ∧ ((known ++ vs).map (·.name)).Nodup := by
  induction vs generalizing known with
  | nil =>
    rw [List.append_nil, and_iff_left hknown, List.foldlM_nil]
    exact ⟨fun h => (Except.ok.inj h).symm, fun h => congrArg _ h.symm⟩
  | cons v rest ih =>
    rw [List.foldlM_cons]
    by_cases hv : v.name ∈ known.map (·.name)
    · rw [addValue_of_mem hv]
      constructor
      · intro h
        cases h
      · rintro ⟨-, hnodup⟩
        exact absurd hv (name_not_mem_of_nodup hnodup)
    · rw [addValue_of_not_mem hv, List.append_cons known v rest]
      exact ih (nodup_map_append_singleton hknown hv)

/-- The first name that is not new is reported. -/
theorem foldlM_addValue_eq_error_iff (hknown : (known.map (·.name)).Nodup) :
    vs.foldlM addValue known = .error e ↔
      ∃ before v after, vs = before ++ v :: after ∧ ((known ++ before).map (·.name)).Nodup ∧
        v.name ∈ (known ++ before).map (·.name) ∧ e = .duplicateName v.name := by
  induction vs generalizing known with
  | nil =>
    constructor
    · intro h
      cases h
    · rintro ⟨before, v, after, hsplit, -⟩
      exact absurd hsplit.symm (by simp)
  | cons w rest ih =>
    rw [List.foldlM_cons]
    by_cases hw : w.name ∈ known.map (·.name)
    · rw [addValue_of_mem hw]
      constructor
      · intro h
        exact ⟨[], w, rest, rfl, by simpa using hknown, by simpa using hw,
          (Except.error.inj h).symm⟩
      · rintro ⟨before, v, after, hsplit, hnodup, hv, rfl⟩
        -- no repeated name comes later: the values before it would repeat this one
        cases before with
        | nil =>
          obtain ⟨rfl, -⟩ := List.cons.inj hsplit
          rfl
        | cons w' before =>
          obtain ⟨rfl, -⟩ := List.cons.inj hsplit
          exact absurd hw (name_not_mem_of_nodup hnodup)
    · rw [addValue_of_not_mem hw]
      refine (ih (nodup_map_append_singleton hknown hw)).trans ?_
      constructor
      · rintro ⟨before, v, after, rfl, hnodup, hv, he⟩
        rw [← List.append_cons] at hnodup hv
        exact ⟨w :: before, v, after, rfl, hnodup, hv, he⟩
      · rintro ⟨before, v, after, hsplit, hnodup, hv, he⟩
        cases before with
        | nil =>
          obtain ⟨rfl, -⟩ := List.cons.inj hsplit
          exact absurd (by simpa using hv) hw
        | cons w' before =>
          obtain ⟨rfl, hrest⟩ := List.cons.inj hsplit
          rw [List.append_cons] at hnodup hv
          exact ⟨before, v, after, hrest, hnodup, hv, he⟩

/-! ### The source of a record -/

/-- A type is accepted exactly if all its values have names of their own. -/
theorem valueFields_eq_ok_iff (h : t.WellFormed) :
    t.valueFields = .ok ws ↔ ws = t.values ∧ (t.included.map t.givenName).Nodup := by
  rw [valueFields_eq_foldlM h, foldlM_addValue_eq_ok_iff (by simp), List.nil_append,
    t.map_name_values]

/-- Otherwise the first name that an earlier value has is reported. -/
theorem valueFields_eq_error_iff (h : t.WellFormed) :
    t.valueFields = .error e ↔
      ∃ before f after, t.included = before ++ f :: after ∧ (before.map t.givenName).Nodup ∧
        t.givenName f ∈ before.map t.givenName ∧ e = .duplicateName (t.givenName f) := by
  rw [valueFields_eq_foldlM h, foldlM_addValue_eq_error_iff (by simp)]
  simp only [List.nil_append]
  constructor
  · rintro ⟨before, v, after, hsplit, hnodup, hv, rfl⟩
    obtain ⟨fs, gs, hincluded, rfl, hgs⟩ := List.map_eq_append_iff.1 hsplit
    obtain ⟨f, rest, rfl, rfl, -⟩ := List.map_eq_cons_iff.1 hgs
    rw [t.map_name_valueOf] at hnodup hv
    exact ⟨fs, f, rest, hincluded, hnodup, hv, rfl⟩
  · rintro ⟨before, f, after, hincluded, hnodup, hf, rfl⟩
    refine ⟨before.map t.valueOf, t.valueOf f, after.map t.valueOf, ?_, ?_, ?_, rfl⟩
    · rw [RecordType.values, hincluded, List.map_append, List.map_cons]
    · rwa [t.map_name_valueOf]
    · rwa [t.map_name_valueOf]

theorem sourceFrom_eq_ok_iff {source : ArgumentSource} :
    t.sourceFrom values = .ok source ↔
      ∃ ws, t.valueFields = .ok ws ∧ source = sourceOf ws values := by
  rw [RecordType.sourceFrom]
  cases t.valueFields with
  | error e => simp [Except.map]
  | ok ws => simp [Except.map, eq_comm]

theorem sourceFrom_eq_error_iff : t.sourceFrom values = .error e ↔ t.valueFields = .error e := by
  rw [RecordType.sourceFrom]
  cases t.valueFields <;> simp [Except.map]

/-! ### The source of values -/

theorem has_sourceOf_iff : (sourceOf vs values).has n = true ↔ n ∈ (sourceOf vs values).names :=
  any_name_iff

theorem value_sourceOf_of_mem (hnodup : (vs.map (·.name)).Nodup) (hv : v ∈ vs) :
    (sourceOf vs values).value v.name = (values v.field).map some := by
  have hfind : vs.find? (·.name = v.name) = some v := by
    cases hfound : vs.find? (·.name = v.name) with
    | none =>
      have hnot := List.find?_eq_none.1 hfound v hv
      simp at hnot
    | some w =>
      have hname : w.name = v.name := by simpa using List.find?_some hfound
      rw [List.inj_on_of_nodup_map hnodup (List.mem_of_find?_eq_some hfound) hv hname]
  simp only [sourceOf, hfind]

theorem value_sourceOf_ne_iff :
    (sourceOf vs values).value n ≠ .ok none ↔ n ∈ (sourceOf vs values).names := by
  rw [← has_sourceOf_iff]
  simp only [sourceOf, List.any_eq_true, ← List.find?_isSome]
  cases vs.find? (·.name = n) with
  | none => simp
  | some w => cases hw : values w.field <;> simp [Except.map, hw]

/-! ### Records as sources -/

theorem not_nodup_map_iff {α β : Type} (g : α → β) {xs : List α} :
    ¬(xs.map g).Nodup ↔
      ∃ (i j : ℕ) (x y : α), i < j ∧ xs[i]? = some x ∧ xs[j]? = some y ∧ g x = g y := by
  rw [List.Nodup, List.pairwise_map, List.pairwise_iff_getElem]
  push Not
  constructor
  · rintro ⟨i, j, hi, hj, hij, heq⟩
    exact ⟨i, j, xs[i], xs[j], hij, List.getElem?_eq_getElem hi, List.getElem?_eq_getElem hj, heq⟩
  · rintro ⟨i, j, x, y, hij, hx, hy, heq⟩
    obtain ⟨hi, rfl⟩ := List.getElem?_eq_some_iff.1 hx
    obtain ⟨hj, rfl⟩ := List.getElem?_eq_some_iff.1 hy
    exact ⟨i, j, hi, hj, hij, heq⟩

/-- A record type with well-formed attributes is refused exactly if two of its values have one
name, and the first repeated name is reported. Otherwise its source lists the names of all values
in the order of the fields. It has a value for just these names, and the value of a name is what the
only field of that name is converted to. -/
theorem source_of_wellFormed (t : RecordType) (values : FieldValues) (h : t.WellFormed) :
    ((∃ e, t.sourceFrom values = .error e) ↔
        ∃ (i j : ℕ) (f g : Field), i < j ∧ t.included[i]? = some f ∧ t.included[j]? = some g ∧
          t.givenName f = t.givenName g) ∧
      (∀ e, t.sourceFrom values = .error e ↔
        ∃ before f after, t.included = before ++ f :: after ∧ (before.map t.givenName).Nodup ∧
          t.givenName f ∈ before.map t.givenName ∧ e = .duplicateName (t.givenName f)) ∧
      ∀ source, t.sourceFrom values = .ok source →
        source.names = t.included.map t.givenName ∧ source.names.Nodup ∧
          ∀ n, (source.has n = true ↔ n ∈ source.names) ∧
            (n ∈ source.names ↔ source.value n ≠ .ok none) ∧
            (n ∈ source.names →
              ∃ f ∈ t.included, t.givenName f = n ∧
                (∀ g ∈ t.included, t.givenName g = n → g = f) ∧
                source.value n = (values f.name).map some) := by
  refine ⟨?_, fun e => sourceFrom_eq_error_iff.trans (valueFields_eq_error_iff h), ?_⟩
  · rw [← not_nodup_map_iff]
    constructor
    · rintro ⟨e, he⟩ hnodup
      rw [sourceFrom_eq_error_iff, (valueFields_eq_ok_iff h).2 ⟨rfl, hnodup⟩] at he
      cases he
    · intro hrepeated
      cases hfields : t.valueFields with
      | error e => exact ⟨e, sourceFrom_eq_error_iff.2 hfields⟩
      | ok ws => exact absurd ((valueFields_eq_ok_iff h).1 hfields).2 hrepeated
  · intro source hsource
    obtain ⟨ws, hfields, rfl⟩ := sourceFrom_eq_ok_iff.1 hsource
    obtain ⟨rfl, hnodup⟩ := (valueFields_eq_ok_iff h).1 hfields
    have hnames : (sourceOf t.values values).names = t.included.map t.givenName :=
      t.map_name_values
    refine ⟨hnames, hnames ▸ hnodup, fun n => ⟨has_sourceOf_iff, value_sourceOf_ne_iff.symm, ?_⟩⟩
    intro hn
    rw [hnames] at hn
    obtain ⟨f, hf, rfl⟩ := List.mem_map.1 hn
    refine ⟨f, hf, rfl, fun g hg hname => List.inj_on_of_nodup_map hnodup hg hf hname, ?_⟩
    have hvalues : (t.values.map (·.name)).Nodup := t.map_name_values ▸ hnodup
    exact value_sourceOf_of_mem hvalues (List.mem_map_of_mem (f := t.valueOf) hf)

/-- The last casing and the last name count, a field that is left out repeats no name, and the name
of a keyword is plain. A field that is renamed to the name of the first one is refused. -/
theorem source_of_wellFormed_first_name :
    let t : RecordType :=
      { attributes := [SampleRecords.renameAll "snake_case", SampleRecords.renameAll "camelCase"]
        fields :=
          [{ name := "first_name" },
            { name := "surname",
              attributes := [SampleRecords.rename "last", SampleRecords.rename "LAST_NAME"] },
            { name := "draft",
              attributes := [SampleRecords.rename "firstName", SampleRecords.skip] },
            { name := "r#type" }] }
    let call : Field := { name := "call", attributes := [SampleRecords.rename "firstName"] }
    let repeated := { t with fields := t.fields ++ [call] }
    let values : FieldValues := fun field => .ok (.text field)
    t.WellFormed ∧ repeated.WellFormed ∧
      (∃ source, t.sourceFrom values = .ok source ∧
        source.names = ["firstName", "LAST_NAME", "type"] ∧
        source.value "type" = .ok (some (.text "r#type")) ∧ source.has "draft" = false) ∧
      repeated.sourceFrom values = .error (.duplicateName "firstName") := by
  intro t call repeated values
  have h : t.WellFormed := ⟨rfl, by decide, by decide⟩
  have hrepeated : repeated.WellFormed := ⟨rfl, by decide, by decide⟩
  have hnames : t.included.map t.givenName = ["firstName", "LAST_NAME", "type"] := by
    decide +kernel
  have hlast : repeated.included = t.included ++ [call] := by decide
  refine ⟨h, hrepeated, ?_, ?_⟩
  · obtain ⟨hrefused, -, hsource⟩ := source_of_wellFormed t values h
    cases hvalue : t.sourceFrom values with
    | error e =>
      have hnodup : (t.included.map t.givenName).Nodup := by
        rw [hnames]
        decide
      exact absurd hnodup (not_nodup_map_iff t.givenName |>.2 (hrefused.1 ⟨e, hvalue⟩))
    | ok source =>
      obtain ⟨hlisted, -, hall⟩ := hsource source hvalue
      rw [hnames] at hlisted
      obtain ⟨-, -, htype⟩ := hall "type"
      obtain ⟨hdraft, -, -⟩ := hall "draft"
      obtain ⟨f, hf, hname, -, hconverted⟩ := htype (by rw [hlisted]; decide)
      refine ⟨source, rfl, hlisted, ?_, ?_⟩
      · have hfield : ∀ f ∈ t.included, t.givenName f = "type" → f.name = "r#type" := by
          decide +kernel
        rw [hconverted, hfield f hf hname]
        rfl
      · rw [Bool.eq_false_iff, ne_eq, hdraft, hlisted]
        decide
  · refine ((source_of_wellFormed repeated values hrepeated).2.1 _).2
      ⟨t.included, call, [], hlast, ?_, ?_, ?_⟩
    · decide +kernel
    · decide +kernel
    · decide +kernel

end StoredCall
