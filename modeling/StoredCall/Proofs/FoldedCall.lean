import StoredCall.Proofs.CallShape
import StoredCall.Proofs.FoldedList

/-!
# Compiled calls up to letter case

What a caller can tell of a compilation when ASCII letter case, mappers and the details of errors do
not count.

* `CallDefinition.observed`: the kind of the error, or the text and the parameter list;
* `RoutineName.folded`, `CallShape.folded`: routine names and call texts in ASCII lower case;
* `admits_congr`, `loadColumns_congr`: filters of one folded form find the same columns;
* `CallShape.toLower_text_eq_iff`: texts are alike exactly if their parts are.
-/

namespace StoredCall

/-- What a caller can tell of a compilation: the kind of the error, or the text in ASCII lower case
and the parameter list up to letter case and mappers. -/
def CallDefinition.observed (call : CallDefinition) (source : MetadataSource) :
    Except ErrorKind (String × ParameterList) :=
  foldOutcome (fun compiled => (compiled.text.toLower, compiled.parameters.folded))
    (call.compile source).outcome

/-! ### Look-ups -/

theorem toLower_eq_empty_iff {s : String} : s.toLower = "" ↔ s = "" := by
  rw [← String.toList_inj, ← String.toList_inj, Text.toList_toLower]
  exact List.map_eq_nil_iff

theorem sameLetters_congr {s t : String} (h : s.toLower = t.toLower) (x : String) :
    Text.sameLetters x s = Text.sameLetters x t := by
  rw [Bool.eq_iff_iff, ← Text.toLower_eq_iff, ← Text.toLower_eq_iff, h]

namespace RoutineName

/-- The name in ASCII lower case. -/
def folded (n : RoutineName) : RoutineName :=
  ⟨n.catalog.map String.toLower, n.schema.map String.toLower, n.name.toLower⟩

theorem partAdmits_congr {f g : Option String} (h : f.map String.toLower = g.map String.toLower)
    (part : Option String) : partAdmits f part = partAdmits g part := by
  rcases none_or_some_of_map_eq h with ⟨rfl, rfl⟩ | ⟨s, t, rfl, rfl, hst⟩
  · rfl
  · have hempty : s = "" ↔ t = "" := by
      rw [← toLower_eq_empty_iff, hst, toLower_eq_empty_iff]
    have hletters : (Text.sameLetters · s) = (Text.sameLetters · t) :=
      funext fun x => sameLetters_congr hst x
    simp only [partAdmits, hempty, hletters]

theorem admits_congr {f g : RoutineName} (h : f.folded = g.folded) (n : RoutineName) :
    f.admits n = g.admits n := by
  obtain ⟨hcatalog, hschema, hname⟩ := RoutineName.mk.inj h
  rw [admits, admits, partAdmits_congr hcatalog, partAdmits_congr hschema, sameLetters_congr hname]

end RoutineName

namespace Dialect

variable (d : Dialect)

theorem map_identifier_congr {p q : Option String}
    (h : p.map String.toLower = q.map String.toLower) :
    (p.map d.identifier).map String.toLower = (q.map d.identifier).map String.toLower := by
  rcases none_or_some_of_map_eq h with ⟨rfl, rfl⟩ | ⟨s, t, rfl, rfl, hst⟩
  · rfl
  · exact congrArg some (d.identifier_congr hst)

theorem catalogInCall_congr {p q : Option String}
    (h : p.map String.toLower = q.map String.toLower) :
    (d.catalogInCall p).map String.toLower = (d.catalogInCall q).map String.toLower := by
  unfold catalogInCall
  split
  · exact d.map_identifier_congr h
  · rfl

theorem schemaInCall_congr {p q : Option String} (h : p.map String.toLower = q.map String.toLower) :
    (d.schemaInCall p).map String.toLower = (d.schemaInCall q).map String.toLower := by
  unfold schemaInCall
  split
  · exact d.map_identifier_congr h
  · rfl

theorem lookupName_congr {r r' : RoutineName} (h : r.folded = r'.folded) :
    (d.lookupName r).folded = (d.lookupName r').folded := by
  obtain ⟨hcatalog, hschema, hname⟩ := RoutineName.mk.inj h
  have hfind : (d.catalogToFind r.catalog).map String.toLower =
      (d.catalogToFind r'.catalog).map String.toLower := by
    unfold catalogToFind
    split
    · exact d.catalogInCall_congr hcatalog
    · rw [Option.map_or, Option.map_or, d.map_identifier_congr hcatalog]
  have hfind' : (d.schemaToFind r.schema).map String.toLower =
      (d.schemaToFind r'.schema).map String.toLower := by
    unfold schemaToFind
    split
    · exact d.schemaInCall_congr hschema
    · rw [Option.map_or, Option.map_or, d.map_identifier_congr hschema]
  simp only [lookupName, RoutineName.folded, hfind, hfind', d.identifier_congr hname]

end Dialect

theorem loadColumns_congr (source : MetadataSource) {f g : RoutineName}
    (h : ∀ s ∈ source.signatures, f.admits s.routine = g.admits s.routine) :
    foldOutcome id ((source.loadColumns f).value.mapError .metadata) =
      foldOutcome id ((source.loadColumns g).value.mapError .metadata) := by
  have hfind : source.find f = source.find g := by
    unfold MetadataSource.find
    rw [List.filter_congr h]
  unfold MetadataSource.loadColumns MetadataSource.signature
  rw [hfind]
  cases source.find g with
  | error e => rfl
  | ok found =>
    match found with
    | [] => rfl
    | [s] => rfl
    | _ :: _ :: _ => rfl

/-! ### Texts -/

theorem map_intercalate {α β : Type} (f : α → β) (separator : List α) (parts : List (List α)) :
    (separator.intercalate parts).map f = (separator.map f).intercalate (parts.map (·.map f)) := by
  induction parts with
  | nil => rfl
  | cons part parts ih =>
    cases parts with
    | nil => simp
    | cons part' parts =>
      rw [List.intercalate_cons_cons, List.map_append, List.map_append, ih]
      simp [List.intercalate_cons_cons]

namespace CallShape

theorem isIdentifier_toLower {s : String} (h : IsIdentifier s) : IsIdentifier s.toLower := by
  have hlower := isIdentifier_lower h
  rwa [← String.toList_inj.1 ((Text.toList_lower_of_ascii h.isAscii).trans
    (Text.toList_toLower s).symm)]

/-- The shape with its names in ASCII lower case. -/
def folded (s : CallShape) : CallShape where
  bindsReturn := s.bindsReturn
  qualifiers := s.qualifiers.map String.toLower
  name := s.name.toLower
  placeholders := s.placeholders
  length_qualifiers := by
    rw [List.length_map]
    exact s.length_qualifiers
  isIdentifier_qualifiers := by
    intro q hq
    obtain ⟨p, hp, rfl⟩ := List.mem_map.1 hq
    exact isIdentifier_toLower (s.isIdentifier_qualifiers p hp)
  isIdentifier_name := isIdentifier_toLower s.isIdentifier_name

theorem target_folded (s : CallShape) : s.folded.target = s.target.toLower := by
  have hparts : s.folded.qualifiers ++ [s.folded.name] =
      (s.qualifiers ++ [s.name]).map String.toLower := by
    rw [List.map_append]
    rfl
  rw [← String.toList_inj, Text.toList_toLower, toList_target, toList_target, map_intercalate,
    hparts, List.map_map, List.map_map]
  congr 1
  exact List.map_congr_left fun q _ => Text.toList_toLower q

theorem toLower_marks (n : ℕ) : (marks n).toList.map Char.toLower = (marks n).toList := by
  induction n using marks.induct with
  | case1 => rfl
  | case2 => rfl
  | case3 n ih =>
    rw [marks, String.toList_append, List.map_append, ih]
    rfl

theorem text_folded (s : CallShape) : s.folded.text = s.text.toLower := by
  rw [← String.toList_inj, Text.toList_toLower, toList_text, toList_text, target_folded,
    Text.toList_toLower]
  simp only [List.map_cons, List.map_append, toLower_marks]
  show _ :: ((if s.bindsReturn then _ else _) ++ _) = _
  cases s.bindsReturn <;> rfl

theorem toLower_text_eq_iff {s t : CallShape} :
    s.text.toLower = t.text.toLower ↔ s.folded = t.folded := by
  rw [← text_folded, ← text_folded]
  exact text_injective.eq_iff

end CallShape

namespace CallContext

variable {c c' : CallContext} {l l' : ParameterList}

theorem placeholders_congr (hbinds : c.config.bindsReturn = c'.config.bindsReturn)
    (h : l.folded = l'.folded) : c.placeholders l = c'.placeholders l' := by
  obtain ⟨hentries, hreturn, -, -⟩ := ParameterList.mk.inj h
  have hbound : c.boundReturn l = c'.boundReturn l' := by
    rw [boundReturn, boundReturn, hbinds, hreturn]
  have hcount : ∀ (entries : List Entry) (bound : Option ℕ),
      (entries.zipIdx.countP fun e => !e.1.isResultSet && some e.2 ≠ bound) =
        (entries.map Entry.folded).zipIdx.countP fun e =>
          !e.1.isResultSet && some e.2 ≠ bound := by
    intro entries bound
    rw [List.zipIdx_map, List.countP_map]
    refine List.countP_congr fun e _ => ?_
    simp
  rw [placeholders, placeholders, hbound, hcount l.entries, hcount l'.entries, hentries]

theorem filter_identifier {q : Option String} (d : Dialect)
    (h : CallConfig.checkQualifier q = .ok ()) :
    (q.map d.identifier).toList.filter (· ≠ "") =
      ((q.filter (· ≠ "")).map d.identifier).toList := by
  cases q with
  | none => rfl
  | some s =>
    by_cases hs : s = ""
    · subst hs
      simp [Option.filter, identifier_empty]
    · have hid := isIdentifier_identifierCase d.info (isIdentifier_of_checkQualifier h hs)
      have hne : d.identifier s ≠ "" := by
        obtain ⟨x, xs, hx, -⟩ := hid
        intro he
        rw [show Dialect.identifierCase d.info s = "" from he] at hx
        cases hx
      simp [Option.filter, hs, hne]

theorem qualifiersInCall_of_validate (hvalid : c.config.validate = .ok ()) :
    c.qualifiersInCall =
      (c.dialect.catalogInCall (c.config.routine.catalog.filter (· ≠ ""))).toList ++
        (c.dialect.schemaInCall (c.config.routine.schema.filter (· ≠ ""))).toList := by
  obtain ⟨-, hcatalog, hschema, -⟩ := checks_of_validate hvalid
  unfold qualifiersInCall Dialect.catalogInCall Dialect.schemaInCall
  rw [List.filter_append]
  congr 1
  · split
    · exact filter_identifier c.dialect hcatalog
    · rfl
  · split
    · exact filter_identifier c.dialect hschema
    · rfl

/-- The texts of two accepted calls are alike exactly if their parts are. -/
theorem toLower_callText_eq_iff (hvalid : c.config.validate = .ok ())
    (hvalid' : c'.config.validate = .ok ()) :
    (c.callText l).toLower = (c'.callText l').toLower ↔
      c.config.bindsReturn = c'.config.bindsReturn ∧
        c.qualifiersInCall.map String.toLower = c'.qualifiersInCall.map String.toLower ∧
        (c.dialect.identifier c.config.routine.name).toLower =
          (c'.dialect.identifier c'.config.routine.name).toLower ∧
        c.placeholders l = c'.placeholders l' := by
  rw [← text_shape hvalid, ← text_shape hvalid', CallShape.toLower_text_eq_iff]
  constructor
  · exact CallShape.mk.inj
  · rintro ⟨hbinds, hqualifiers, hname, hplaceholders⟩
    exact CallShape.mk.injEq .. ▸ ⟨hbinds, hqualifiers, hname, hplaceholders⟩

end CallContext

end StoredCall
