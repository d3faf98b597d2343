import StoredCall.CallConfig.Descriptor
import StoredCall.Proofs.LetterCase
import StoredCall.Proofs.Separators

/-!
# Segments of a descriptor

What one segment of a call descriptor means, said without the reader.

* `Setting.pair?`: the key and the value of a segment;
* `ConfigField`: what a descriptor can say about a call, with the keys for it, the values that have
  a meaning, and what a draft holds for it;
* `Setting.Reads`: the settings that a segment may be read as;
* `read_eq_ok_iff`, `exists_reads_iff`: the reader gives these, and which segments it refuses.
-/

namespace StoredCall

/-! ### Pairs -/

namespace Setting

/-- The key of a segment in lower case and its value, without the blanks around them. -/
def pair? (segment : List Char) : Option (String × String) :=
  (Text.cutAt? '=' segment).map fun p =>
    (Text.lower (String.ofList (Text.trimChars p.1)), String.ofList (Text.trimChars p.2))

variable {segment : List Char} {key value : String}

theorem pair?_eq_none_iff : pair? segment = none ↔ '=' ∉ segment := by
  rw [pair?, Option.map_eq_none_iff, Text.cutAt?_eq_none_iff]

theorem pair?_trimChars : pair? (Text.trimChars segment) = pair? segment := by
  obtain ⟨a, b, hsegment, ha, hb⟩ := Text.exists_blanks_around segment
  have hsign : ∀ {cs : List Char}, Text.AllBlank cs → '=' ∉ cs := fun h hmem =>
    absurd (h _ hmem) (by decide)
  cases hcut : Text.cutAt? '=' (Text.trimChars segment) with
  | none =>
    have hnot : '=' ∉ segment := by
      rw [hsegment, List.mem_append, List.mem_append, not_or, not_or]
      exact ⟨⟨hsign ha, Text.cutAt?_eq_none_iff.1 hcut⟩, hsign hb⟩
    rw [pair?_eq_none_iff.2 hnot, pair?, hcut]
    rfl
  | some p =>
    obtain ⟨htrim, hfree⟩ := Text.cutAt?_eq_some_iff.1 hcut
    have hwhole : Text.cutAt? '=' segment = some (a ++ p.1, p.2 ++ b) := by
      refine Text.cutAt?_eq_some_iff.2 ⟨?_, ?_⟩
      · rw [hsegment, htrim]
        simp
      · rw [List.mem_append, not_or]
        exact ⟨hsign ha, hfree⟩
    rw [pair?, pair?, hcut, hwhole, Option.map_some, Option.map_some,
      Text.trimChars_append_left ha, Text.trimChars_append_right hb]

theorem mem_of_pair? {p : String × String} (h : pair? segment = some p) : '=' ∈ segment := by
  by_contra hnot
  rw [pair?_eq_none_iff.2 hnot] at h
  cases h

theorem not_allBlank_of_pair? {p : String × String} (h : pair? segment = some p) :
    ¬Text.AllBlank segment :=
  fun hblank => absurd (hblank _ (mem_of_pair? h)) (by decide)

theorem read_of_allBlank (h : Text.AllBlank segment) : read segment = .ok .blank := by
  rw [read]
  simp only [Text.trimChars_eq_nil_iff.2 h, if_true]

theorem read_of_pair? (h : pair? segment = some (key, value)) :
    read segment = ofPair key value.toList := by
  have hblank := mt Text.trimChars_eq_nil_iff.1 (not_allBlank_of_pair? h)
  rw [← pair?_trimChars] at h
  obtain ⟨⟨k, v⟩, hcut, hpair⟩ := Option.map_eq_some_iff.1 h
  obtain ⟨rfl, rfl⟩ := Prod.mk.inj hpair
  rw [read]
  simp only [if_neg hblank, hcut, String.toList_ofList]

theorem read_of_not_pair (hblank : ¬Text.AllBlank segment) (h : '=' ∉ segment) :
    ∃ e, read segment = .error e := by
  have hcut : Text.cutAt? '=' (Text.trimChars segment) = none := by
    rw [← Option.map_eq_none_iff, ← pair?, pair?_trimChars, pair?_eq_none_iff]
    exact h
  rw [read]
  simp only [if_neg (mt Text.trimChars_eq_nil_iff.1 hblank), hcut]
  exact ⟨_, rfl⟩

/-! ### Truth values -/

/-- The words for a truth value. -/
def truthWords : Bool → List String
  | true => ["true", "yes", "1"]
  | false => ["false", "no", "0"]

/-- The text is a word for the truth value, in any letter case. -/
def SpellsTruth (value : String) (b : Bool) : Prop :=
  ∃ word ∈ truthWords b, Text.sameLetters value word = true

theorem SpellsTruth.unique {b b' : Bool} (h : SpellsTruth value b) (h' : SpellsTruth value b') :
    b = b' := by
  obtain ⟨word, hword, hsame⟩ := h
  obtain ⟨word', hword', hsame'⟩ := h'
  have halike : word.toLower = word'.toLower :=
    (Text.toLower_eq_iff.2 hsame).symm.trans (Text.toLower_eq_iff.2 hsame')
  have hdiffer : ∀ w ∈ truthWords true, ∀ w' ∈ truthWords false, w.toLower ≠ w'.toLower := by
    decide +kernel
  cases b <;> cases b'
  · rfl
  · exact absurd halike.symm (hdiffer _ hword' _ hword)
  · exact absurd halike (hdiffer _ hword _ hword')
  · rfl

theorem sameLetters_digit_iff {c : Char} (hc : c = '0' ∨ c = '1') :
    Text.sameLetters value (String.singleton c) = true ↔ value = String.singleton c := by
  have hfixed : ∀ x : Char, x.toLower = c → x = c := by
    intro x hx
    by_cases hascii : x.toNat < 128
    · rcases hc with rfl | rfl
      · exact Text.forall_ascii (P := fun x => x.toLower = '0' → x = '0') (by decide) hascii hx
      · exact Text.forall_ascii (P := fun x => x.toLower = '1' → x = '1') (by decide) hascii hx
    · rwa [Text.toLower_of_not_ascii hascii] at hx
  constructor
  · intro h
    have halike : value.toList.map Char.toLower = [c.toLower] := by
      simpa [Text.AlikeChars] using Text.sameLetters_iff.1 h
    obtain ⟨x, hx, hlower⟩ := List.map_eq_singleton_iff.1 halike
    have hdigit : c.toLower = c := by rcases hc with rfl | rfl <;> decide
    rw [← String.toList_inj, hx, hfixed x (hlower.trans hdigit)]
    simp
  · rintro rfl
    exact Text.sameLetters_refl _

theorem truth?_eq_some_iff {b : Bool} : truth? value = some b ↔ SpellsTruth value b := by
  have hone : Text.sameLetters value "1" = true ↔ value = "1" :=
    sameLetters_digit_iff (c := '1') (Or.inr rfl)
  have hzero : Text.sameLetters value "0" = true ↔ value = "0" :=
    sameLetters_digit_iff (c := '0') (Or.inl rfl)
  have htrue : (Text.sameLetters value "true" || Text.sameLetters value "yes" || value = "1") =
      true ↔ SpellsTruth value true := by
    simp [SpellsTruth, truthWords, hone, or_assoc]
  have hfalse : (Text.sameLetters value "false" || Text.sameLetters value "no" || value = "0") =
      true ↔ SpellsTruth value false := by
    simp [SpellsTruth, truthWords, hzero, or_assoc]
  rw [truth?]
  by_cases ht : SpellsTruth value true
  · rw [if_pos (htrue.2 ht), Option.some.injEq]
    exact ⟨fun hb => hb ▸ ht, fun h => ht.unique h⟩
  · rw [if_neg (mt htrue.1 ht)]
    by_cases hf : SpellsTruth value false
    · rw [if_pos (hfalse.2 hf), Option.some.injEq]
      exact ⟨fun hb => hb ▸ hf, fun h => hf.unique h⟩
    · rw [if_neg (mt hfalse.1 hf)]
      constructor
      · intro h
        cases h
      · intro h
        cases b with
        | true => exact absurd h ht
        | false => exact absurd h hf

theorem readTruth_eq_ok_iff {b : Bool} : readTruth key value = .ok b ↔ SpellsTruth value b := by
  rw [← truth?_eq_some_iff, readTruth]
  cases truth? value <;> simp

end Setting

/-! ### What a descriptor can say -/

/-- What a descriptor can say about a call. -/
inductive ConfigField
  | procedure
  | function
  | catalog
  | schema
  | returnRequired
  | returnName
  | useColumns
  | inputNames
deriving DecidableEq

namespace ConfigField

/-- The keys for a field, in lower case. -/
def spellings : ConfigField → List String
  | procedure => ["procedure", "proc"]
  | function => ["function"]
  | catalog => ["catalog", "package"]
  | schema => ["schema", "owner"]
  | returnRequired => ["returnvalue", "return value"]
  | returnName => ["returnname", "return name"]
  | useColumns => ["metadata", "accessmetadata", "access metadata"]
  | inputNames => ["inparameters", "in parameters"]

/-- What a configuration in the making holds for a field. -/
def Content : ConfigField → Type
  | procedure | function | catalog | schema => Option String
  | returnRequired | useColumns => Bool
  | returnName => String
  | inputNames => List String

/-- The content of a field to which nothing is assigned. -/
def initial : (f : ConfigField) → f.Content
  | procedure | function | catalog | schema => none
  | returnRequired => false
  | returnName => "return"
  | useColumns => true
  | inputNames => []

/-- The value assigns the content to the field. Not every truth value and every return name does. -/
def Means : (f : ConfigField) → String → f.Content → Prop
  | procedure, value, x | function, value, x => x = some value
  | catalog, value, x | schema, value, x => x = if value = "" then none else some value
  | returnRequired, value, x | useColumns, value, x => Setting.SpellsTruth value x
  | returnName, value, x => value ≠ "" ∧ x = value
  | inputNames, value, x =>
    x = ((value.toList.splitOn ',').map fun part => Text.trim (String.ofList part)).filter (· ≠ "")

/-- The content of a field in a draft. -/
def content : (f : ConfigField) → ConfigDraft → f.Content
  | procedure, d => d.procedure
  | function, d => d.function
  | catalog, d => d.config.routine.catalog
  | schema, d => d.config.routine.schema
  | returnRequired, d => d.config.returnRequired
  | returnName, d => d.config.returnName
  | useColumns, d => d.config.useColumns
  | inputNames, d => d.config.inputNames

/-- The value of a pair, if its key is one for the field. -/
def valueOf? (f : ConfigField) (p : String × String) : Option String :=
  if p.1 ∈ f.spellings then some p.2 else none

/-- The value that a segment has for a field. -/
def valueIn? (f : ConfigField) (segment : List Char) : Option String :=
  (Setting.pair? segment).bind f.valueOf?

variable {f g : ConfigField} {segment : List Char} {key value : String}

theorem eq_of_mem_spellings (hf : key ∈ f.spellings) (hg : key ∈ g.spellings) : f = g := by
  have happart : ∀ f g : ConfigField, ∀ key ∈ f.spellings, key ∈ g.spellings → f = g := by
    intro f g
    cases f <;> cases g <;> decide
  exact happart f g key hf hg

theorem Means.unique {x y : f.Content} (hx : f.Means value x) (hy : f.Means value y) : x = y := by
  cases f with
  | procedure | function | catalog | schema | inputNames => exact Eq.trans hx (Eq.symm hy)
  | returnRequired | useColumns => exact Setting.SpellsTruth.unique hx hy
  | returnName => exact hx.2.trans hy.2.symm

theorem valueIn?_eq_some_iff :
    f.valueIn? segment = some value ↔
      ∃ key ∈ f.spellings, Setting.pair? segment = some (key, value) := by
  rw [valueIn?, Option.bind_eq_some_iff]
  constructor
  · rintro ⟨⟨key, v⟩, hpair, hvalue⟩
    obtain ⟨hkey, rfl⟩ := Option.ite_some_none_eq_some.1 hvalue
    exact ⟨key, hkey, hpair⟩
  · rintro ⟨key, hkey, hpair⟩
    exact ⟨_, hpair, Option.ite_some_none_eq_some.2 ⟨hkey, rfl⟩⟩

theorem not_allBlank_of_valueIn? (h : f.valueIn? segment = some value) :
    ¬Text.AllBlank segment := by
  obtain ⟨key, -, hpair⟩ := valueIn?_eq_some_iff.1 h
  exact Setting.not_allBlank_of_pair? hpair

theorem eq_of_valueIn? {v w : String} (hf : f.valueIn? segment = some v)
    (hg : g.valueIn? segment = some w) : f = g := by
  obtain ⟨key, hkey, hpair⟩ := valueIn?_eq_some_iff.1 hf
  obtain ⟨key', hkey', hpair'⟩ := valueIn?_eq_some_iff.1 hg
  obtain ⟨rfl, rfl⟩ := Prod.mk.inj (Option.some.inj (hpair.symm.trans hpair'))
  exact eq_of_mem_spellings hkey hkey'

end ConfigField

/-! ### Settings as assignments -/

namespace Setting

variable {segment : List Char} {key value : String} {f : ConfigField} {s : Setting}

/-- What a setting assigns to which field. -/
def assigns? : Setting → Option ((f : ConfigField) × f.Content)
  | procedure name => some ⟨.procedure, some name⟩
  | function name => some ⟨.function, some name⟩
  | catalog name => some ⟨.catalog, name⟩
  | schema name => some ⟨.schema, name⟩
  | returnRequired b => some ⟨.returnRequired, b⟩
  | returnName name => some ⟨.returnName, name⟩
  | useColumns b => some ⟨.useColumns, b⟩
  | inputNames names => some ⟨.inputNames, names⟩
  | blank | unknown _ => none

theorem content_apply_of_assigns {x : f.Content} (d : ConfigDraft) (h : s.assigns? = some ⟨f, x⟩) :
    f.content (d.apply s) = x := by
  cases s <;> cases h <;> rfl

theorem content_apply_of_not_assigns (d : ConfigDraft) (h : ∀ x, s.assigns? ≠ some ⟨f, x⟩) :
    f.content (d.apply s) = f.content d := by
  cases s <;> cases f <;> first | rfl | exact absurd rfl (h _)

theorem isFunction_apply (d : ConfigDraft) :
    (d.apply s).config.isFunction = d.config.isFunction := by
  cases s <;> rfl

theorem eq_of_assigns? {t : Setting} {p : (f : ConfigField) × f.Content}
    (hs : s.assigns? = some p) (ht : t.assigns? = some p) : s = t := by
  cases s <;> cases hs <;> cases t <;> cases ht <;> rfl

theorem exists_assigns_of_means {x : f.Content} (h : f.Means value x) :
    ∃ s : Setting, s.assigns? = some ⟨f, x⟩ := by
  cases f with
  | procedure =>
    obtain rfl : x = some value := h
    exact ⟨.procedure value, rfl⟩
  | function =>
    obtain rfl : x = some value := h
    exact ⟨.function value, rfl⟩
  | catalog => exact ⟨.catalog x, rfl⟩
  | schema => exact ⟨.schema x, rfl⟩
  | returnRequired => exact ⟨.returnRequired x, rfl⟩
  | returnName => exact ⟨.returnName x, rfl⟩
  | useColumns => exact ⟨.useColumns x, rfl⟩
  | inputNames => exact ⟨.inputNames x, rfl⟩

theorem ok_eq_ok_iff_assigns {t : Setting} {x : f.Content} (ht : t.assigns? = some ⟨f, x⟩) :
    (.ok t : Except CallError Setting) = .ok s ↔ s.assigns? = some ⟨f, x⟩ := by
  constructor
  · intro h
    rwa [← Except.ok.inj h]
  · intro h
    rw [eq_of_assigns? ht h]

/-! ### The meaning of a segment -/

/-- The reading of a value for a field, under one of its keys. -/
def readFor (key value : String) : ConfigField → Except CallError Setting
  | .procedure => .ok (.procedure value)
  | .function => .ok (.function value)
  | .catalog => .ok (.catalog (nonempty? value))
  | .schema => .ok (.schema (nonempty? value))
  | .returnRequired => (readTruth key value).map .returnRequired
  | .returnName =>
    if value = "" then .error (.configuration .emptyReturnName) else .ok (.returnName value)
  | .useColumns => (readTruth key value).map .useColumns
  | .inputNames => .ok (.inputNames (namesOf value.toList))

theorem ofPair_of_mem (h : key ∈ f.spellings) : ofPair key value.toList = readFor key value f := by
  have hall : ∀ key ∈ f.spellings, ofPair key value.toList = readFor key value f := by
    cases f <;> simp [ConfigField.spellings, ofPair, readFor]
  exact hall key h

theorem ofPair_of_unknown (h : ∀ f : ConfigField, key ∉ f.spellings) (cs : List Char) :
    ofPair key cs = .ok (.unknown key) := by
  have hprocedure : key ∉ ["procedure", "proc"] := h .procedure
  have hfunction : key ≠ "function" := fun he => h .function (he ▸ List.mem_cons_self)
  have hcatalog : key ∉ ["catalog", "package"] := h .catalog
  have hschema : key ∉ ["schema", "owner"] := h .schema
  have hreturnRequired : key ∉ ["returnvalue", "return value"] := h .returnRequired
  have hreturnName : key ∉ ["returnname", "return name"] := h .returnName
  have huseColumns : key ∉ ["metadata", "accessmetadata", "access metadata"] := h .useColumns
  have hinputNames : key ∉ ["inparameters", "in parameters"] := h .inputNames
  simp only [ofPair, if_neg hprocedure, if_neg hfunction, if_neg hcatalog, if_neg hschema,
    if_neg hreturnRequired, if_neg hreturnName, if_neg huseColumns, if_neg hinputNames]

theorem namesOf_eq (cs : List Char) :
    namesOf cs =
      ((cs.splitOn ',').map fun part => Text.trim (String.ofList part)).filter (· ≠ "") := by
  simp only [namesOf, Text.pieces_eq_splitOn, Text.trim, String.toList_ofList]

theorem map_readTruth_eq_ok_iff {make : Bool → Setting} {t : Setting} :
    (readTruth key value).map make = .ok t ↔ ∃ b, SpellsTruth value b ∧ make b = t := by
  have hread (b : Bool) : SpellsTruth value b ↔ readTruth key value = .ok b :=
    readTruth_eq_ok_iff.symm
  simp only [hread]
  cases readTruth key value <;> simp [Except.map]

/-- A value is read as the setting that assigns what it means. -/
theorem readFor_eq_ok_iff :
    readFor key value f = .ok s ↔ ∃ x, f.Means value x ∧ s.assigns? = some ⟨f, x⟩ := by
  cases f with
  | procedure | function | catalog | schema =>
    rw [readFor, ok_eq_ok_iff_assigns rfl]
    constructor
    · exact fun h => ⟨_, rfl, h⟩
    · rintro ⟨_, rfl, h⟩
      exact h
  | returnRequired | useColumns =>
    rw [readFor, map_readTruth_eq_ok_iff]
    constructor
    · rintro ⟨b, hb, rfl⟩
      exact ⟨b, hb, rfl⟩
    · rintro ⟨b, hb, h⟩
      exact ⟨b, hb, eq_of_assigns? rfl h⟩
  | returnName =>
    rw [readFor]
    split
    · rename_i hempty
      constructor
      · intro h
        cases h
      · rintro ⟨x, ⟨hne, -⟩, -⟩
        exact absurd hempty hne
    · rename_i hne
      rw [ok_eq_ok_iff_assigns rfl]
      constructor
      · exact fun h => ⟨_, ⟨hne, rfl⟩, h⟩
      · rintro ⟨_, ⟨-, rfl⟩, h⟩
        exact h
  | inputNames =>
    rw [readFor, namesOf_eq, ok_eq_ok_iff_assigns rfl]
    constructor
    · exact fun h => ⟨_, rfl, h⟩
    · rintro ⟨_, rfl, h⟩
      exact h

/-- The settings that a segment may be read as. -/
inductive Reads (segment : List Char) (s : Setting) : Prop
  | blank (blank : Text.AllBlank segment) (eq : s = .blank)
  /-- The key stands for no field. -/
  | unknown (key value : String) (pair : pair? segment = some (key, value))
      (unknown : ∀ f : ConfigField, key ∉ f.spellings) (eq : s = .unknown key)
  /-- The key stands for a field, and the value has a meaning for it. -/
  | assigns (f : ConfigField) (value : String) (x : f.Content)
      (value_eq : f.valueIn? segment = some value) (means : f.Means value x)
      (assigns : s.assigns? = some ⟨f, x⟩)

theorem read_of_valueIn? (h : f.valueIn? segment = some value) :
    read segment = .ok s ↔ ∃ x, f.Means value x ∧ s.assigns? = some ⟨f, x⟩ := by
  obtain ⟨key, hkey, hpair⟩ := ConfigField.valueIn?_eq_some_iff.1 h
  rw [read_of_pair? hpair, ofPair_of_mem hkey, readFor_eq_ok_iff]

theorem read_of_unknown (hpair : pair? segment = some (key, value))
    (hunknown : ∀ f : ConfigField, key ∉ f.spellings) : read segment = .ok (.unknown key) := by
  rw [read_of_pair? hpair, ofPair_of_unknown hunknown]

/-- A segment is blank, or it has a key for a field, or an unknown one, or no key at all. -/
theorem segment_cases (segment : List Char) :
    Text.AllBlank segment ∨ (∃ f : ConfigField, ∃ value, f.valueIn? segment = some value) ∨
      (∃ key value, pair? segment = some (key, value) ∧ ∀ f : ConfigField, key ∉ f.spellings) ∨
        ¬Text.AllBlank segment ∧ '=' ∉ segment := by
  by_cases hblank : Text.AllBlank segment
  · exact Or.inl hblank
  cases hpair : pair? segment with
  | none => exact Or.inr (Or.inr (Or.inr ⟨hblank, pair?_eq_none_iff.1 hpair⟩))
  | some p =>
    obtain ⟨key, value⟩ := p
    by_cases hknown : ∃ f : ConfigField, key ∈ f.spellings
    · obtain ⟨f, hf⟩ := hknown
      exact Or.inr (Or.inl ⟨f, value, ConfigField.valueIn?_eq_some_iff.2 ⟨key, hf, hpair⟩⟩)
    · exact Or.inr (Or.inr (Or.inl ⟨key, value, rfl, not_exists.1 hknown⟩))

theorem read_eq_ok_iff : read segment = .ok s ↔ Reads segment s := by
  constructor
  · intro h
    rcases segment_cases segment with hblank | ⟨f, value, hvalue⟩ | ⟨key, value, hpair, hunknown⟩ |
      ⟨hblank, hsign⟩
    · exact .blank hblank (Except.ok.inj ((read_of_allBlank hblank).symm.trans h)).symm
    · obtain ⟨x, hmeans, hassigns⟩ := (read_of_valueIn? hvalue).1 h
      exact .assigns f value x hvalue hmeans hassigns
    · exact .unknown key value hpair hunknown
        (Except.ok.inj ((read_of_unknown hpair hunknown).symm.trans h)).symm
    · obtain ⟨e, he⟩ := read_of_not_pair hblank hsign
      rw [he] at h
      cases h
  · rintro (⟨hblank, rfl⟩ | ⟨key, value, hpair, hunknown, rfl⟩ |
      ⟨f, value, x, hvalue, hmeans, hassigns⟩)
    · exact read_of_allBlank hblank
    · exact read_of_unknown hpair hunknown
    · exact (read_of_valueIn? hvalue).2 ⟨x, hmeans, hassigns⟩

/-- Exactly the segments are refused that are not blank and have no key, and those with a value that
means nothing for its field. -/
theorem exists_reads_iff :
    (∃ s, Reads segment s) ↔ (¬Text.AllBlank segment → '=' ∈ segment) ∧
      ∀ f : ConfigField, ∀ value, f.valueIn? segment = some value → ∃ x, f.Means value x := by
  constructor
  · rintro ⟨s, ⟨hblank, -⟩ | ⟨key, value, hpair, hunknown, -⟩ | ⟨f, value, x, hvalue, hmeans, -⟩⟩
    · exact ⟨fun h => absurd hblank h, fun f value hvalue =>
        absurd hblank (ConfigField.not_allBlank_of_valueIn? hvalue)⟩
    · refine ⟨fun _ => mem_of_pair? hpair, fun f value hvalue => ?_⟩
      obtain ⟨key', hkey, hpair'⟩ := ConfigField.valueIn?_eq_some_iff.1 hvalue
      obtain ⟨rfl, -⟩ := Prod.mk.inj (Option.some.inj (hpair.symm.trans hpair'))
      exact absurd hkey (hunknown f)
    · obtain ⟨key, -, hpair⟩ := ConfigField.valueIn?_eq_some_iff.1 hvalue
      refine ⟨fun _ => mem_of_pair? hpair, fun g value' hvalue' => ?_⟩
      obtain rfl := ConfigField.eq_of_valueIn? hvalue hvalue'
      obtain rfl := Option.some.inj (hvalue.symm.trans hvalue')
      exact ⟨x, hmeans⟩
  · rintro ⟨hsign, hvalues⟩
    rcases segment_cases segment with hblank | ⟨f, value, hvalue⟩ | ⟨key, value, hpair, hunknown⟩ |
      ⟨hblank, hnone⟩
    · exact ⟨_, .blank hblank rfl⟩
    · obtain ⟨x, hmeans⟩ := hvalues f value hvalue
      obtain ⟨s, hs⟩ := exists_assigns_of_means hmeans
      exact ⟨s, .assigns f value x hvalue hmeans hs⟩
    · exact ⟨_, .unknown key value hpair hunknown rfl⟩
    · exact absurd (hsign hblank) hnone

end Setting

end StoredCall
