import Mathlib.Data.List.Forall2
import StoredCall.Proofs.DescriptorReading
import StoredCall.Proofs.Identifier

/-!
# The language of descriptors

Which texts are call descriptors, and the configurations they describe.

* `ConfigField.last?`: the value that the last segment for a field has;
* `holds_apply`, `holds_foldl`: a draft holds for each field what its last value means, or the
  default;
* `CallConfig.DescribedBy`, `Acceptable`: the configuration that segments describe, and the segments
  that describe one;
* `ofSegments_eq_ok_iff`: segments give a configuration exactly if they are acceptable and describe
  it;
* `ofDescriptor_accepts_iff`: the same for descriptors, which may be reordered and cleared of
  unknown keys.
-/

namespace StoredCall

/-! ### Fields of many segments -/

namespace ConfigField

variable (f : ConfigField) (segments : List (List Char))

/-- The values that segments have for a field, in order. -/
def values : List String := segments.filterMap f.valueIn?

/-- The value that the last segment for a field has. -/
def last? : Option String := (f.values segments).getLast?

/-- The content is what the last value of the field means, or else the default. -/
def Holds (x : f.Content) : Prop :=
  match f.last? segments with
  | some value => f.Means value x
  | none => x = f.initial

variable {f segments} {done : List (List Char)} {segment : List Char} {value : String}
  {d : ConfigDraft} {s : Setting}

theorem last?_concat :
    f.last? (done ++ [segment]) = (f.valueIn? segment).or (f.last? done) := by
  rw [last?, last?, values, values, List.filterMap_append]
  cases h : f.valueIn? segment <;> simp [h]

theorem values_eq :
    f.values segments = (segments.filterMap Setting.pair?).filterMap f.valueOf? :=
  List.filterMap_filterMap.symm

theorem last?_eq_none_iff : f.last? segments = none ↔ f.values segments = [] :=
  List.getLast?_eq_none_iff

theorem exists_last?_iff : (∃ value, f.last? segments = some value) ↔ f.values segments ≠ [] := by
  rw [ne_eq, ← last?_eq_none_iff, ← ne_eq, Option.ne_none_iff_exists']

theorem mem_values_iff :
    value ∈ f.values segments ↔ ∃ segment ∈ segments, f.valueIn? segment = some value :=
  List.mem_filterMap

theorem holds_iff_of_some {x : f.Content} (h : f.last? segments = some value) :
    f.Holds segments x ↔ f.Means value x := by
  rw [Holds, h]

theorem holds_iff_of_none {x : f.Content} (h : f.last? segments = none) :
    f.Holds segments x ↔ x = f.initial := by
  rw [Holds, h]

theorem holds_iff_eq (g : Option String → f.Content)
    (hsome : ∀ value x, f.Means value x ↔ x = g (some value)) (hnone : f.initial = g none)
    {x : f.Content} : f.Holds segments x ↔ x = g (f.last? segments) := by
  cases hlast : f.last? segments with
  | some value => rw [holds_iff_of_some hlast, hsome]
  | none => rw [holds_iff_of_none hlast, hnone]

theorem Holds.unique {x y : f.Content} (hx : f.Holds segments x) (hy : f.Holds segments y) :
    x = y := by
  cases hlast : f.last? segments with
  | some value =>
    exact Means.unique ((holds_iff_of_some hlast).1 hx) ((holds_iff_of_some hlast).1 hy)
  | none => rw [(holds_iff_of_none hlast).1 hx, (holds_iff_of_none hlast).1 hy]

theorem last?_congr {segments' : List (List Char)} (h : f.values segments' = f.values segments) :
    f.last? segments' = f.last? segments := by
  rw [last?, last?, h]

/-- Reading one more segment, a draft holds for each field what it should. -/
theorem holds_apply (hreads : Setting.Reads segment s) (h : f.Holds done (f.content d)) :
    f.Holds (done ++ [segment]) (f.content (d.apply s)) := by
  unfold Holds
  rw [last?_concat]
  cases hvalue : f.valueIn? segment with
  | some value =>
    obtain ⟨x, hmeans, hassigns⟩ :=
      (Setting.read_of_valueIn? hvalue).1 (Setting.read_eq_ok_iff.2 hreads)
    rw [Setting.content_apply_of_assigns d hassigns]
    exact hmeans
  | none =>
    have hnot : ∀ x, s.assigns? ≠ some ⟨f, x⟩ := by
      rintro x hassigns
      cases hreads with
      | blank blank eq | unknown key value pair unknown eq =>
        rw [eq] at hassigns
        cases hassigns
      | assigns g value y value_eq means assigns =>
        obtain rfl : g = f := congrArg Sigma.fst (Option.some.inj (assigns.symm.trans hassigns))
        rw [hvalue] at value_eq
        cases value_eq
    rw [Setting.content_apply_of_not_assigns d hnot]
    exact h

theorem holds_foldl_of_holds {rest : List (List Char)} {ss : List Setting}
    (hreads : List.Forall₂ Setting.Reads rest ss) (h : f.Holds done (f.content d)) :
    f.Holds (done ++ rest) (f.content (ss.foldl ConfigDraft.apply d)) := by
  induction hreads generalizing done d with
  | nil => rwa [List.append_nil]
  | cons hsegment _ ih =>
    rw [List.append_cons]
    exact ih (holds_apply hsegment h)

/-- Reading segments, a draft holds for each field what its last value means, or the default. -/
theorem holds_foldl {ss : List Setting} (hreads : List.Forall₂ Setting.Reads segments ss)
    (f : ConfigField) : f.Holds segments (f.content (ss.foldl ConfigDraft.apply {})) := by
  have hstart : f.Holds [] (f.content {}) := by cases f <;> rfl
  exact holds_foldl_of_holds hreads hstart

end ConfigField

namespace Setting

variable {segments : List (List Char)} {ss : List Setting}

theorem readAll_cons {segment : List Char} {rest : List (List Char)} :
    readAll (segment :: rest) = .ok ss ↔
      ∃ s ss', read segment = .ok s ∧ readAll rest = .ok ss' ∧ ss = s :: ss' := by
  rw [readAll]
  cases read segment with
  | error e => simp [bind, Except.bind]
  | ok s => cases readAll rest <;> simp [bind, Except.bind, pure, Except.pure, eq_comm]

theorem readAll_eq_ok_iff : readAll segments = .ok ss ↔ List.Forall₂ Reads segments ss := by
  induction segments generalizing ss with
  | nil =>
    rw [List.forall₂_nil_left_iff, readAll, Except.ok.injEq, eq_comm]
  | cons segment rest ih =>
    rw [readAll_cons, List.forall₂_cons_left_iff]
    simp only [ih, read_eq_ok_iff]

theorem exists_readAll_iff :
    (∃ ss, readAll segments = .ok ss) ↔ ∀ segment ∈ segments, ∃ s, Reads segment s := by
  simp only [readAll_eq_ok_iff]
  induction segments with
  | nil => simp
  | cons segment rest ih =>
    rw [List.forall_mem_cons, ← ih]
    simp only [List.forall₂_cons_left_iff]
    constructor
    · rintro ⟨ss, s, ss', hs, hss, -⟩
      exact ⟨⟨s, hs⟩, ss', hss⟩
    · rintro ⟨⟨s, hs⟩, ss', hss⟩
      exact ⟨_, s, ss', hs, hss, rfl⟩

theorem nonempty?_eq_some_iff {value q : String} :
    nonempty? value = some q ↔ value = q ∧ q ≠ "" := by
  rw [nonempty?, Option.ite_none_left_eq_some, Option.some.injEq]
  constructor
  · rintro ⟨hne, rfl⟩
    exact ⟨rfl, hne⟩
  · rintro ⟨rfl, hne⟩
    exact ⟨hne, rfl⟩

theorem isFunction_foldl (ss : List Setting) (d : ConfigDraft) :
    (ss.foldl ConfigDraft.apply d).config.isFunction = d.config.isFunction := by
  induction ss generalizing d with
  | nil => rfl
  | cons s ss ih => rw [List.foldl_cons, ih, isFunction_apply]

end Setting

/-! ### The configuration that segments describe -/

/-- Every field of the configuration is what the last segment for it says, or has its default. -/
structure CallConfig.DescribedBy (c : CallConfig) (segments : List (List Char)) : Prop where
  isFunction : c.isFunction = true ↔ ConfigField.function.values segments ≠ []
  name : (if c.isFunction then ConfigField.function else ConfigField.procedure).last? segments =
    some c.routine.name
  catalog : ConfigField.catalog.Holds segments c.routine.catalog
  schema : ConfigField.schema.Holds segments c.routine.schema
  returnRequired : ConfigField.returnRequired.Holds segments c.returnRequired
  returnName : ConfigField.returnName.Holds segments c.returnName
  useColumns : ConfigField.useColumns.Holds segments c.useColumns
  inputNames : ConfigField.inputNames.Holds segments c.inputNames

/-- The segments name a procedure or a function, and not both. -/
def NamesOneTarget (segments : List (List Char)) : Prop :=
  ConfigField.procedure.values segments ≠ [] ∧ ConfigField.function.values segments = [] ∨
    ConfigField.procedure.values segments = [] ∧ ConfigField.function.values segments ≠ []

/-- The segments describe a call. -/
structure Acceptable (segments : List (List Char)) : Prop where
  paired : ∀ segment ∈ segments, ¬Text.AllBlank segment → '=' ∈ segment
  truths : ∀ f ∈ [ConfigField.returnRequired, .useColumns], ∀ value ∈ f.values segments,
    ∃ b, Setting.SpellsTruth value b
  returnNames : ∀ value ∈ ConfigField.returnName.values segments, value ≠ ""
  target : NamesOneTarget segments
  names : ∀ f ∈ [ConfigField.procedure, .function], ∀ name, f.last? segments = some name →
    IsIdentifier name
  qualifiers : ∀ f ∈ [ConfigField.catalog, .schema], ∀ name, f.last? segments = some name →
    name ≠ "" → IsIdentifier name

section

variable {segments : List (List Char)} {c c' : CallConfig} {d : ConfigDraft}

theorem CallConfig.DescribedBy.unique (h : c.DescribedBy segments) (h' : c'.DescribedBy segments) :
    c = c' := by
  have hfunction : c.isFunction = c'.isFunction :=
    Bool.eq_iff_iff.2 (h.isFunction.trans h'.isFunction.symm)
  have hname : c.routine.name = c'.routine.name := by
    have hsame := h.name.symm
    rw [hfunction, h'.name] at hsame
    exact Option.some.inj hsame
  have hcatalog : c.routine.catalog = c'.routine.catalog := h.catalog.unique h'.catalog
  have hschema : c.routine.schema = c'.routine.schema := h.schema.unique h'.schema
  have hrequired : c.returnRequired = c'.returnRequired :=
    h.returnRequired.unique h'.returnRequired
  have hreturn : c.returnName = c'.returnName := h.returnName.unique h'.returnName
  have hcolumns : c.useColumns = c'.useColumns := h.useColumns.unique h'.useColumns
  have hinputs : c.inputNames = c'.inputNames := h.inputNames.unique h'.inputNames
  obtain ⟨⟨catalog, schema, name⟩, _, _, _, _, _⟩ := c
  obtain ⟨⟨catalog', schema', name'⟩, _, _, _, _, _⟩ := c'
  simp only [CallConfig.mk.injEq, RoutineName.mk.injEq]
  exact ⟨⟨hcatalog, hschema, hname⟩, hfunction, hrequired, hreturn, hinputs, hcolumns⟩

theorem ConfigDraft.finish_eq_ok_iff :
    d.finish = .ok c ↔
      (∃ name, d.procedure = some name ∧ d.function = none ∧
        c = { d.config with routine.name := name }) ∨
      ∃ name, d.procedure = none ∧ d.function = some name ∧
        c = { d.config with routine.name := name, isFunction := true } := by
  unfold ConfigDraft.finish
  cases d.procedure <;> cases d.function <;> simp [eq_comm]

section

variable {ss : List Setting} (hreads : List.Forall₂ Setting.Reads segments ss)

include hreads

theorem procedure_foldl :
    (ss.foldl ConfigDraft.apply {}).procedure = ConfigField.procedure.last? segments :=
  (ConfigField.holds_iff_eq (f := .procedure) id (fun _ _ => Iff.rfl) rfl).1
    (ConfigField.holds_foldl hreads .procedure)

theorem function_foldl :
    (ss.foldl ConfigDraft.apply {}).function = ConfigField.function.last? segments :=
  (ConfigField.holds_iff_eq (f := .function) id (fun _ _ => Iff.rfl) rfl).1
    (ConfigField.holds_foldl hreads .function)

theorem exists_finish (htarget : NamesOneTarget segments) :
    ∃ c, (ss.foldl ConfigDraft.apply {}).finish = .ok c := by
  simp only [ConfigDraft.finish_eq_ok_iff, procedure_foldl hreads, function_foldl hreads,
    ConfigField.last?_eq_none_iff]
  rcases htarget with ⟨hp, hf⟩ | ⟨hp, hf⟩
  · obtain ⟨name, hname⟩ := ConfigField.exists_last?_iff.2 hp
    exact ⟨_, Or.inl ⟨name, hname, hf, rfl⟩⟩
  · obtain ⟨name, hname⟩ := ConfigField.exists_last?_iff.2 hf
    exact ⟨_, Or.inr ⟨name, hp, hname, rfl⟩⟩

/-- A finished draft has one target, and its configuration is as its segments describe. -/
theorem describedBy_of_finish (h : (ss.foldl ConfigDraft.apply {}).finish = .ok c) :
    NamesOneTarget segments ∧ c.DescribedBy segments := by
  have hholds := ConfigField.holds_foldl hreads
  have hprocedure := procedure_foldl hreads
  have hfunction := function_foldl hreads
  have hisFunction : (ss.foldl ConfigDraft.apply {}).config.isFunction = false :=
    Setting.isFunction_foldl ss {}
  generalize ss.foldl ConfigDraft.apply {} = d at h hholds hprocedure hfunction hisFunction
  have hbuild : ∀ name isFunction, (isFunction = true ↔ ConfigField.function.values segments ≠ []) →
      (if isFunction then ConfigField.function else .procedure).last? segments = some name →
        CallConfig.DescribedBy { d.config with routine.name := name, isFunction } segments := by
    intro name isFunction htarget hname
    exact
      { isFunction := htarget
        name := hname
        catalog := hholds .catalog
        schema := hholds .schema
        returnRequired := hholds .returnRequired
        returnName := hholds .returnName
        useColumns := hholds .useColumns
        inputNames := hholds .inputNames }
  rw [ConfigDraft.finish_eq_ok_iff, hprocedure, hfunction] at h
  simp only [ConfigField.last?_eq_none_iff] at h
  rcases h with ⟨name, hp, hf, rfl⟩ | ⟨name, hp, hf, rfl⟩
  · refine ⟨Or.inl ⟨ConfigField.exists_last?_iff.1 ⟨name, hp⟩, hf⟩, ?_⟩
    have hconfig := hbuild name false (by simp [hf]) hp
    rwa [← hisFunction] at hconfig
  · have hf' := ConfigField.exists_last?_iff.1 ⟨name, hf⟩
    exact ⟨Or.inr ⟨hp, hf'⟩, hbuild name true (by simp [hf']) hf⟩

end

theorem mem_qualifiers_iff (hc : c.DescribedBy segments) {q : String} :
    q ∈ c.routine.qualifiers ↔
      (∃ f ∈ [ConfigField.catalog, .schema], f.last? segments = some q) ∧ q ≠ "" := by
  have hcatalog : c.routine.catalog =
      (ConfigField.catalog.last? segments).bind Setting.nonempty? :=
    (ConfigField.holds_iff_eq (f := .catalog) (fun o : Option String => o.bind Setting.nonempty?)
      (fun _ _ => Iff.rfl) rfl).1 hc.catalog
  have hschema : c.routine.schema = (ConfigField.schema.last? segments).bind Setting.nonempty? :=
    (ConfigField.holds_iff_eq (f := .schema) (fun o : Option String => o.bind Setting.nonempty?)
      (fun _ _ => Iff.rfl) rfl).1 hc.schema
  have hqualifier (o : Option String) :
      o.bind Setting.nonempty? = some q ↔ o = some q ∧ q ≠ "" := by
    rw [Option.bind_eq_some_iff]
    constructor
    · rintro ⟨v, rfl, hv⟩
      obtain ⟨rfl, hne⟩ := Setting.nonempty?_eq_some_iff.1 hv
      exact ⟨rfl, hne⟩
    · rintro ⟨rfl, hne⟩
      exact ⟨q, rfl, Setting.nonempty?_eq_some_iff.2 ⟨rfl, hne⟩⟩
  simp only [RoutineName.qualifiers, List.mem_filter, List.mem_append, Option.mem_toList, hcatalog,
    hschema, hqualifier, List.mem_cons, List.not_mem_nil, or_false, exists_eq_or_imp,
    exists_eq_left, decide_eq_true_eq]
  tauto

theorem returnName_ne_empty (hc : c.DescribedBy segments) : c.returnName ≠ "" := by
  have h := hc.returnName
  cases hlast : ConfigField.returnName.last? segments with
  | some value =>
    obtain ⟨hne, rfl⟩ := (ConfigField.holds_iff_of_some hlast).1 h
    exact hne
  | none =>
    rw [(ConfigField.holds_iff_of_none hlast).1 h]
    exact (by decide : "return" ≠ "")

theorem last?_target_iff (htarget : NamesOneTarget segments) (hc : c.DescribedBy segments)
    {name : String} :
    (∃ f ∈ [ConfigField.procedure, .function], f.last? segments = some name) ↔
      name = c.routine.name := by
  have hname := hc.name
  simp only [List.mem_cons, List.not_mem_nil, or_false, exists_eq_or_imp, exists_eq_left]
  rcases htarget with ⟨-, hf⟩ | ⟨hp, hf⟩
  · have hfunction : c.isFunction = false := by simpa [hf] using hc.isFunction
    rw [hfunction, if_neg Bool.false_ne_true] at hname
    rw [ConfigField.last?_eq_none_iff.2 hf, hname]
    simp [eq_comm]
  · rw [if_pos (hc.isFunction.2 hf)] at hname
    rw [ConfigField.last?_eq_none_iff.2 hp, hname]
    simp [eq_comm]

/-- A described configuration is accepted exactly if the names in force are identifiers. -/
theorem validate_eq_ok_iff_of_describedBy (htarget : NamesOneTarget segments)
    (hc : c.DescribedBy segments) :
    c.validate = .ok () ↔
      (∀ f ∈ [ConfigField.procedure, .function], ∀ name, f.last? segments = some name →
        IsIdentifier name) ∧
      ∀ f ∈ [ConfigField.catalog, .schema], ∀ name, f.last? segments = some name → name ≠ "" →
        IsIdentifier name := by
  rw [validate_eq_ok_iff, and_iff_left (returnName_ne_empty hc), List.forall_mem_append,
    List.forall_mem_singleton, and_comm]
  refine and_congr ⟨fun h f hf name hname => ?_, fun h => ?_⟩ ⟨fun h f hf name hname hne => ?_,
    fun h part hpart => ?_⟩
  · rwa [(last?_target_iff htarget hc).1 ⟨f, hf, hname⟩]
  · obtain ⟨f, hf, hname⟩ := (last?_target_iff htarget hc).2 rfl
    exact h f hf _ hname
  · exact h name ((mem_qualifiers_iff hc).2 ⟨⟨f, hf, hname⟩, hne⟩)
  · obtain ⟨⟨f, hf, hname⟩, hne⟩ := (mem_qualifiers_iff hc).1 hpart
    exact h f hf part hname hne

/-! ### Segments that are read -/

theorem ConfigField.exists_means_iff {f : ConfigField} {value : String} :
    (∃ x, f.Means value x) ↔
      (f ∈ [returnRequired, useColumns] → ∃ b, Setting.SpellsTruth value b) ∧
        (f = returnName → value ≠ "") := by
  cases f with
  | procedure | function | catalog | schema | inputNames =>
    refine ⟨fun _ => ⟨fun hf => absurd hf (by decide), fun hf => ?_⟩, fun _ => ⟨_, rfl⟩⟩
    cases hf
  | returnRequired | useColumns =>
    constructor
    · refine fun h => ⟨fun _ => h, fun hf => ?_⟩
      cases hf
    · exact fun h => h.1 (by decide)
  | returnName =>
    constructor
    · rintro ⟨x, hne, -⟩
      exact ⟨fun hf => absurd hf (by decide), fun _ => hne⟩
    · exact fun h => ⟨value, h.2 rfl, rfl⟩

/-- All segments are read exactly if they have keys, and truth values and return names as needed. -/
theorem exists_readAll_iff_readable :
    (∃ ss, Setting.readAll segments = .ok ss) ↔
      (∀ segment ∈ segments, ¬Text.AllBlank segment → '=' ∈ segment) ∧
      (∀ f ∈ [ConfigField.returnRequired, .useColumns], ∀ value ∈ f.values segments,
        ∃ b, Setting.SpellsTruth value b) ∧
      ∀ value ∈ ConfigField.returnName.values segments, value ≠ "" := by
  simp only [Setting.exists_readAll_iff, Setting.exists_reads_iff, ConfigField.exists_means_iff,
    ConfigField.mem_values_iff]
  constructor
  · intro h
    refine ⟨fun segment hs => (h segment hs).1, ?_, ?_⟩
    · rintro f hf value ⟨segment, hs, hvalue⟩
      exact ((h segment hs).2 f value hvalue).1 hf
    · rintro value ⟨segment, hs, hvalue⟩
      exact ((h segment hs).2 _ value hvalue).2 rfl
  · rintro ⟨hpaired, htruths, hreturnNames⟩ segment hs
    refine ⟨hpaired segment hs, fun f value hvalue => ⟨fun hf => ?_, ?_⟩⟩
    · exact htruths f hf value ⟨segment, hs, hvalue⟩
    · rintro rfl
      exact hreturnNames value ⟨segment, hs, hvalue⟩

end

/-! ### Segments without effect -/

namespace Setting

/-- The segment is blank, or its key stands for no field. -/
def Inert (segment : List Char) : Prop :=
  Text.AllBlank segment ∨
    ∃ key value, pair? segment = some (key, value) ∧ ∀ f : ConfigField, key ∉ f.spellings

variable {segment : List Char}

theorem exists_read_of_inert (h : Inert segment) :
    ∃ s, read segment = .ok s ∧ ∀ d : ConfigDraft, d.apply s = d := by
  rcases h with hblank | ⟨key, value, hpair, hunknown⟩
  · exact ⟨.blank, read_of_allBlank hblank, fun _ => rfl⟩
  · exact ⟨.unknown key, read_of_unknown hpair hunknown, fun _ => rfl⟩

theorem readAll_append (xs ys : List (List Char)) :
    readAll (xs ++ ys) = do
      let ss ← readAll xs
      let ts ← readAll ys
      return ss ++ ts := by
  induction xs with
  | nil =>
    cases h : readAll ys <;> simp [readAll, h, bind, Except.bind, pure, Except.pure]
  | cons segment rest ih =>
    rw [List.cons_append, readAll, readAll, ih]
    cases read segment <;> cases readAll rest <;> cases readAll ys <;> rfl

end Setting

namespace CallConfig

/-- The configuration that segments describe. -/
def ofSegments (segments : List (List Char)) : Except CallError CallConfig := do
  let settings ← Setting.readAll segments
  ofSettings settings

/-- The descriptor that has the segments. -/
def joined (segments : List (List Char)) : String := String.ofList ([';'].intercalate segments)

variable {parts before after : List (List Char)} {part : List Char} {c : CallConfig}
  {ss : List Setting} {descriptor : String}

theorem ofSegments_of_inert (h : Setting.Inert part) :
    ofSegments (before ++ part :: after) = ofSegments (before ++ after) := by
  obtain ⟨s, hread, happly⟩ := Setting.exists_read_of_inert h
  have hsettings : ∀ ss ts : List Setting, ofSettings (ss ++ s :: ts) = ofSettings (ss ++ ts) := by
    intro ss ts
    rw [ofSettings, ofSettings, List.foldl_append, List.foldl_append, List.foldl_cons, happly]
  rw [ofSegments, ofSegments, Setting.readAll_append, Setting.readAll_append, Setting.readAll,
    hread]
  cases Setting.readAll before with
  | error e => rfl
  | ok ss =>
    cases Setting.readAll after with
    | error e => rfl
    | ok ts => exact hsettings ss ts

theorem ofSettings_eq_ok_iff :
    ofSettings ss = .ok c ↔
      (ss.foldl ConfigDraft.apply {}).finish = .ok c ∧ c.validate = .ok () := by
  rw [ofSettings]
  cases (ss.foldl ConfigDraft.apply {}).finish with
  | error e =>
    constructor
    · intro h
      cases h
    · rintro ⟨h, -⟩
      cases h
  | ok c' =>
    change (c'.validate.bind fun _ => .ok c') = .ok c ↔ _
    cases hvalid : c'.validate with
    | error e =>
      constructor
      · intro h
        cases h
      · rintro ⟨h, hc⟩
        rw [← Except.ok.inj h, hvalid] at hc
        cases hc
    | ok u =>
      constructor
      · intro h
        obtain rfl := Except.ok.inj h
        exact ⟨rfl, hvalid⟩
      · exact And.left

theorem ofSegments_eq_ok_iff_exists :
    ofSegments parts = .ok c ↔ ∃ ss, Setting.readAll parts = .ok ss ∧ ofSettings ss = .ok c := by
  rw [ofSegments]
  cases Setting.readAll parts <;> simp [bind, Except.bind]

theorem exists_ofSegments_of_acceptable (h : Acceptable parts) :
    ∃ c, ofSegments parts = .ok c ∧ c.DescribedBy parts := by
  obtain ⟨ss, hread⟩ := exists_readAll_iff_readable.2 ⟨h.paired, h.truths, h.returnNames⟩
  have hreads := Setting.readAll_eq_ok_iff.1 hread
  obtain ⟨c, hfinish⟩ := exists_finish hreads h.target
  have hc := (describedBy_of_finish hreads hfinish).2
  have hvalid := (validate_eq_ok_iff_of_describedBy h.target hc).2 ⟨h.names, h.qualifiers⟩
  exact ⟨c, ofSegments_eq_ok_iff_exists.2
    ⟨ss, hread, ofSettings_eq_ok_iff.2 ⟨hfinish, hvalid⟩⟩, hc⟩

/-- Segments that give a configuration are acceptable and describe it. -/
theorem describedBy_of_ofSegments (h : ofSegments parts = .ok c) :
    Acceptable parts ∧ c.DescribedBy parts ∧ c.validate = .ok () := by
  obtain ⟨ss, hread, hsettings⟩ := ofSegments_eq_ok_iff_exists.1 h
  obtain ⟨hfinish, hvalid⟩ := ofSettings_eq_ok_iff.1 hsettings
  obtain ⟨htarget, hc⟩ := describedBy_of_finish (Setting.readAll_eq_ok_iff.1 hread) hfinish
  obtain ⟨hpaired, htruths, hreturnNames⟩ := exists_readAll_iff_readable.1 ⟨ss, hread⟩
  obtain ⟨hnames, hqualifiers⟩ := (validate_eq_ok_iff_of_describedBy htarget hc).1 hvalid
  exact ⟨⟨hpaired, htruths, hreturnNames, htarget, hnames, hqualifiers⟩, hc, hvalid⟩

/-- Segments give a configuration exactly if they are acceptable and describe it. -/
theorem ofSegments_eq_ok_iff :
    ofSegments parts = .ok c ↔ Acceptable parts ∧ c.DescribedBy parts := by
  constructor
  · intro h
    obtain ⟨hacceptable, hc, -⟩ := describedBy_of_ofSegments h
    exact ⟨hacceptable, hc⟩
  · rintro ⟨hacceptable, hc⟩
    obtain ⟨c', hc', hdescribed⟩ := exists_ofSegments_of_acceptable hacceptable
    rwa [hc.unique hdescribed]

/-! ### Descriptors -/

theorem not_mem_of_mem_segments (h : part ∈ segments descriptor) : ';' ∉ part :=
  Text.not_mem_of_mem_pieces h

theorem segments_joined (hne : parts ≠ []) (hfree : ∀ part ∈ parts, ';' ∉ part) :
    segments (joined parts) = parts := by
  rw [joined, segments, String.toList_ofList, Text.pieces_intercalate hne hfree]

theorem outcome_joined (hfree : ∀ part ∈ parts, ';' ∉ part) :
    (ofDescriptor (joined parts)).outcome = ofSegments parts := by
  have hparse : (ofDescriptor (joined parts)).outcome = ofSegments (segments (joined parts)) := rfl
  cases parts with
  | nil => rfl
  | cons part rest => rw [hparse, segments_joined (List.cons_ne_nil _ _) hfree]

section

variable {parts' : List (List Char)} (hvalues : ∀ f : ConfigField, f.values parts' = f.values parts)

include hvalues

theorem acceptable_of_perm (hperm : parts'.Perm parts) (h : Acceptable parts) :
    Acceptable parts' := by
  obtain ⟨hpaired, htruths, hreturnNames, htarget, hnames, hqualifiers⟩ := h
  refine ⟨fun part hpart => hpaired part (hperm.subset hpart), ?_, ?_, ?_, ?_, ?_⟩
  · simpa only [hvalues] using htruths
  · simpa only [hvalues] using hreturnNames
  · simpa only [NamesOneTarget, hvalues] using htarget
  · simpa only [ConfigField.last?_congr (hvalues _)] using hnames
  · simpa only [ConfigField.last?_congr (hvalues _)] using hqualifiers

theorem DescribedBy.congr (h : c.DescribedBy parts) : c.DescribedBy parts' := by
  have hholds : ∀ (f : ConfigField) (x : f.Content), f.Holds parts x → f.Holds parts' x := by
    intro f x hx
    rwa [ConfigField.Holds, ConfigField.last?_congr (hvalues f)]
  exact
    { isFunction := by rw [hvalues]; exact h.isFunction
      name := by rw [ConfigField.last?_congr (hvalues _)]; exact h.name
      catalog := hholds .catalog _ h.catalog
      schema := hholds .schema _ h.schema
      returnRequired := hholds .returnRequired _ h.returnRequired
      returnName := hholds .returnName _ h.returnName
      useColumns := hholds .useColumns _ h.useColumns
      inputNames := hholds .inputNames _ h.inputNames }

/-- Segments may be put in any order that keeps the values of each field in theirs. -/
theorem ofSegments_eq_ok_iff_of_perm (hperm : parts'.Perm parts) :
    ofSegments parts' = .ok c ↔ ofSegments parts = .ok c := by
  rw [ofSegments_eq_ok_iff, ofSegments_eq_ok_iff]
  constructor
  · rintro ⟨hacceptable, hc⟩
    exact ⟨acceptable_of_perm (fun f => (hvalues f).symm) hperm.symm hacceptable,
      hc.congr fun f => (hvalues f).symm⟩
  · rintro ⟨hacceptable, hc⟩
    exact ⟨acceptable_of_perm hvalues hperm hacceptable, hc.congr hvalues⟩

end

/-- A descriptor is accepted exactly if its segments are acceptable, and they describe the
configuration. Blank segments and unknown keys change nothing, and neither does the order of
segments for different fields. -/
theorem ofDescriptor_accepts_iff (descriptor : String) :
    ((∃ c, (ofDescriptor descriptor).outcome = .ok c) ↔ Acceptable (segments descriptor)) ∧
      (∀ c, (ofDescriptor descriptor).outcome = .ok c →
        c.DescribedBy (segments descriptor) ∧ c.validate = .ok ()) ∧
      (∀ before part after, segments descriptor = before ++ part :: after → Setting.Inert part →
        (ofDescriptor (joined (before ++ after))).outcome = (ofDescriptor descriptor).outcome) ∧
      ∀ parts : List (List Char), parts.Perm (segments descriptor) →
        (∀ f : ConfigField, f.values parts = f.values (segments descriptor)) →
          ∀ c, (ofDescriptor (joined parts)).outcome = .ok c ↔
            (ofDescriptor descriptor).outcome = .ok c := by
  have houtcome : (ofDescriptor descriptor).outcome = ofSegments (segments descriptor) := rfl
  have hfree : ∀ parts : List (List Char), parts ⊆ segments descriptor →
      ∀ part ∈ parts, ';' ∉ part := fun _ hsub _ hpart => not_mem_of_mem_segments (hsub hpart)
  rw [houtcome]
  refine ⟨⟨?_, ?_⟩, fun c h => (describedBy_of_ofSegments h).2, ?_, ?_⟩
  · rintro ⟨c, h⟩
    exact (describedBy_of_ofSegments h).1
  · intro h
    obtain ⟨c, hc, -⟩ := exists_ofSegments_of_acceptable h
    exact ⟨c, hc⟩
  · intro before part after hsplit hinert
    have hsub : before ++ after ⊆ segments descriptor := by
      rw [hsplit]
      exact ((List.sublist_cons_self part after).append_left before).subset
    rw [outcome_joined (hfree _ hsub), hsplit, ofSegments_of_inert hinert]
  · intro parts hperm hvalues c
    rw [outcome_joined (hfree _ hperm.subset)]
    exact ofSegments_eq_ok_iff_of_perm hvalues hperm

/-- A descriptor with aliases, a blank segment, an unknown key, and a schema that is overridden. -/
theorem ofDescriptor_accepts_iff_add_user :
    let descriptor :=
      " Proc = add_user ;;x=1;Schema=old;return value=YES;OWNER = billing;In Parameters=a, ,b"
    let known :=
      " Proc = add_user ;;Schema=old;return value=YES;OWNER = billing;In Parameters=a, ,b"
    let reordered :=
      "Schema=old;In Parameters=a, ,b;;OWNER = billing;x=1; Proc = add_user ;return value=YES"
    let c : CallConfig :=
      { routine := ⟨none, some "billing", "add_user"⟩, returnRequired := true
        inputNames := ["a", "b"] }
    Acceptable (segments descriptor) ∧ c.DescribedBy (segments descriptor) ∧
      (ofDescriptor known).outcome = .ok c ∧ (ofDescriptor reordered).outcome = .ok c := by
  intro descriptor known reordered c
  have houtcome : (ofDescriptor descriptor).outcome = .ok c := by decide +kernel
  have hx : Setting.Inert "x=1".toList := Or.inr ⟨"x", "1", by decide +kernel, fun f => by
    cases f <;> decide +kernel⟩
  let parts := ["Schema=old", "In Parameters=a, ,b", "", "OWNER = billing", "x=1",
    " Proc = add_user ", "return value=YES"].map String.toList
  have hperm : parts.Perm (segments descriptor) := by decide +kernel
  have hpairs : parts.filterMap Setting.pair? = [("schema", "old"), ("in parameters", "a, ,b"),
      ("owner", "billing"), ("x", "1"), ("proc", "add_user"), ("return value", "YES")] := by
    decide +kernel
  have hpairs' : (segments descriptor).filterMap Setting.pair? = [("proc", "add_user"), ("x", "1"),
      ("schema", "old"), ("return value", "YES"), ("owner", "billing"),
      ("in parameters", "a, ,b")] := by
    decide +kernel
  have hvalues : ∀ f : ConfigField, f.values parts = f.values (segments descriptor) := by
    intro f
    rw [ConfigField.values_eq, ConfigField.values_eq, hpairs, hpairs']
    cases f <;> decide
  obtain ⟨haccepts, hdescribes, hinert, hreorder⟩ := ofDescriptor_accepts_iff descriptor
  refine ⟨haccepts.1 ⟨c, houtcome⟩, (hdescribes c houtcome).1, ?_,
    (hreorder parts hperm hvalues c).2 houtcome⟩
  have hsplit : segments descriptor = [" Proc = add_user ".toList, []] ++ "x=1".toList ::
      ["Schema=old".toList, "return value=YES".toList, "OWNER = billing".toList,
        "In Parameters=a, ,b".toList] := by decide +kernel
  exact (hinert _ _ _ hsplit hx).trans houtcome

end CallConfig

end StoredCall
