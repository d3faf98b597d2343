import StoredCall.Proofs.CaseForms
import StoredCall.Proofs.KeyCollisions
import StoredCall.Proofs.NameCase
import StoredCall.Proofs.Sessions

/-!
# Refused calls and shared caches

A request that finds a call is answered before its own definition is checked. So a definition that
is refused by itself is answered with a call if the cache holds one under its key.

* `SharedCache.Served`: all that a request can be answered with by an enabled cache;
* `SharedCache.Reachable`: the states of a cache; every call in it was accepted;
* `CallKey.LooksAccepted`: the keys of accepted definitions, said without a definition;
* `exists_point_or_kelvin`: a refused definition has such a key only if its names have a point or a
  kelvin sign, which keys do not tell from a separator and from the letter `k`;
* `answers_to_refused`: what refused definitions are answered with;
* `dotted_name_answered`: a refused definition that is answered with a call.
-/

namespace StoredCall

/-! ### What a shared cache holds -/

/-- Every call is held under its own key, and its definition was accepted. -/
def CallCache.HoldsAccepted (cache : CallCache) : Prop :=
  ∀ key c, (key, c) ∈ cache.entries →
    c.call.definition.key = key ∧ c.call.definition.config.validate = .ok ()

namespace CallCache.HoldsAccepted

variable {cache : CallCache} {key : CallKey}

theorem afterGet (h : cache.HoldsAccepted) : (cache.afterGet key).HoldsAccepted :=
  fun key' c hmem => h key' c (mem_entries_of_afterGet hmem)

theorem afterInsert {c : Issued} (h : cache.HoldsAccepted)
    (hvalid : c.call.definition.config.validate = .ok ()) :
    (cache.afterInsert c).HoldsAccepted := by
  intro key' c' hmem
  rcases mem_entries_of_afterInsert hmem with heq | hmem
  · obtain ⟨rfl, rfl⟩ := Prod.mk.inj heq
    exact ⟨rfl, hvalid⟩
  · exact h key' c' hmem

end CallCache.HoldsAccepted

namespace SharedCache

/-- All that a request can be answered with by an enabled cache, and what it leaves. -/
inductive Served (shared : SharedCache) (call : CallDefinition) (source : MetadataSource) :
    Except CallError Issued → SharedCache → Prop
  | hit (c : Issued) (found : shared.cache.peek? call.key = some c) :
      Served shared call source (.ok c) { shared with cache := shared.cache.afterGet call.key }
  | failed (e : CallError) (found : shared.cache.peek? call.key = none)
      (outcome : (call.compile source).outcome = .error e) :
      Served shared call source (.error e) { shared with cache := shared.cache.afterGet call.key }
  | stored (compiled : CompiledCall) (found : shared.cache.peek? call.key = none)
      (outcome : (call.compile source).outcome = .ok compiled) :
      Served shared call source (.ok ⟨shared.issued, compiled⟩)
        { shared with
          issued := shared.issued + 1
          cache := (shared.cache.afterGet call.key).afterInsert ⟨shared.issued, compiled⟩ }

theorem getOrCompile_of_peek? {shared : SharedCache} {call : CallDefinition} {c : Issued}
    (henabled : shared.enabled = true) (hpeek : shared.cache.peek? call.key = some c)
    (source : MetadataSource) :
    (shared.getOrCompile call source).value.1 = .ok c ∧
      (shared.getOrCompile call source).value.2.1 =
        { shared with cache := shared.cache.afterGet call.key } :=
  getOrCompile_of_hit source (by rw [value_lookup henabled, hpeek])

/-- A request does one of the listed things. -/
theorem served {shared : SharedCache} (henabled : shared.enabled = true) (call : CallDefinition)
    (source : MetadataSource) :
    shared.Served call source (shared.getOrCompile call source).value.1
      (shared.getOrCompile call source).value.2.1 := by
  cases hpeek : shared.cache.peek? call.key with
  | some c =>
    obtain ⟨hanswer, hnext⟩ := getOrCompile_of_peek? henabled hpeek source
    rw [hanswer, hnext]
    exact .hit c hpeek
  | none =>
    set next : SharedCache := { shared with cache := shared.cache.afterGet call.key } with hnext
    have hlookup : (shared.lookup call.key).value = (none, next) := by
      rw [value_lookup henabled, hpeek]
    have hdone := getOrCompile_of_miss source hlookup
    cases houtcome : (call.compile source).outcome with
    | error e =>
      rw [houtcome] at hdone
      obtain ⟨hanswer, hleft⟩ := Prod.mk.inj hdone
      rw [hanswer, hleft]
      exact .failed e hpeek houtcome
    | ok compiled =>
      -- nothing was published in the meantime
      have hnone : next.cache.peek? compiled.definition.key = none := by
        rw [CallDefinition.definition_of_compile houtcome, hnext, CallCache.peek?_afterGet, hpeek]
      have hpublish := publish_of_none (show next.enabled = true from henabled) hnone
      rw [houtcome] at hdone
      simp only [hpublish] at hdone
      obtain ⟨hanswer, hleft⟩ := Prod.mk.inj hdone
      rw [hanswer, hleft]
      exact .stored compiled hpeek houtcome

/-- The states that an empty shared cache comes to by requests, one after the other, and by calls
taken out. -/
inductive Reachable (config : CacheConfig) : SharedCache → Prop
  | start : Reachable config (.ofConfig config)
  | request {shared : SharedCache} (before : Reachable config shared) (call : CallDefinition)
      (source : MetadataSource) : Reachable config (shared.getOrCompile call source).value.2.1
  | invalidate {shared : SharedCache} (before : Reachable config shared) (key : CallKey) :
      Reachable config (shared.invalidate key).2
  | clear {shared : SharedCache} (before : Reachable config shared) :
      Reachable config shared.clear.value

section

variable {config : CacheConfig} {shared next : SharedCache} {call : CallDefinition}
  {source : MetadataSource} {answer : Except CallError Issued}

theorem Served.enabled_eq (h : shared.Served call source answer next) :
    next.enabled = shared.enabled := by
  cases h <;> rfl

theorem Served.holdsAccepted (h : shared.Served call source answer next)
    (hheld : shared.cache.HoldsAccepted) : next.cache.HoldsAccepted := by
  cases h with
  | hit | failed => exact hheld.afterGet
  | stored compiled found outcome =>
    refine hheld.afterGet.afterInsert ?_
    rw [CallDefinition.definition_of_compile outcome]
    exact (CallDefinition.compile_eq_ok_iff.1 outcome).1

/-- A definition that does not compile is answered with the reason, or with what is held under its
key. -/
theorem Served.of_error {e : CallError} (h : shared.Served call source answer next)
    (hcompile : (call.compile source).outcome = .error e) :
    shared.cache.peek? call.key = none ∧ answer = .error e ∨
      ∃ c, shared.cache.peek? call.key = some c ∧ answer = .ok c := by
  cases h with
  | hit c found => exact Or.inr ⟨c, found, rfl⟩
  | failed e' found outcome =>
    obtain rfl : e = e' := Except.error.inj (hcompile.symm.trans outcome)
    exact Or.inl ⟨found, rfl⟩
  | stored compiled found outcome =>
    rw [hcompile] at outcome
    cases outcome

theorem Served.exists_peek? {compiled : CompiledCall}
    (h : shared.Served call source answer next)
    (hcompile : (call.compile source).outcome = .ok compiled) :
    ∃ c, next.cache.peek? call.key = some c := by
  cases h with
  | hit c found => exact ⟨c, CallCache.peek?_afterGet.trans found⟩
  | failed e found outcome =>
    rw [hcompile] at outcome
    cases outcome
  | stored compiled found outcome =>
    have hkey : Issued.key ⟨shared.issued, compiled⟩ = call.key :=
      congrArg CallDefinition.key (CallDefinition.definition_of_compile outcome)
    exact ⟨_, hkey ▸ CallCache.peek?_afterInsert_self⟩

theorem Reachable.enabled (henabled : config.enabled = true) (h : Reachable config shared) :
    shared.enabled = true := by
  induction h with
  | start => exact henabled
  | request _ call source ih => exact (served ih call source).enabled_eq.trans ih
  | invalidate _ _ ih | clear _ ih => exact ih

theorem Reachable.holdsAccepted (henabled : config.enabled = true) (h : Reachable config shared) :
    shared.cache.HoldsAccepted := by
  induction h with
  | start => exact fun _ _ hmem => absurd hmem List.not_mem_nil
  | request before call source ih =>
    exact (served (before.enabled henabled) call source).holdsAccepted ih
  | invalidate _ _ ih => exact fun key c hmem => ih key c (CallCache.mem_others.1 hmem).1
  | clear => exact fun _ _ hmem => absurd hmem List.not_mem_nil

end

end SharedCache

/-! ### Keys of accepted definitions -/

/-- The name is one to three identifiers between points, and there is a return name. -/
def CallKey.LooksAccepted (key : CallKey) : Prop :=
  key.returnName ≠ "" ∧ ∃ parts : List String, parts ≠ [] ∧ parts.length ≤ 3 ∧
    (∀ part ∈ parts, IsIdentifier part) ∧ key.name = ".".intercalate parts

theorem RoutineName.length_qualifiers_le (n : RoutineName) : n.qualifiers.length ≤ 2 := by
  have hparts : ∀ part : Option String, part.toList.length ≤ 1 := by
    intro part
    cases part <;> simp
  refine (List.length_filter_le _ _).trans ?_
  rw [List.length_append]
  exact Nat.add_le_add (hparts n.catalog) (hparts n.schema)

theorem RoutineName.exists_of_parts {parts : List String} (hne : parts ≠ [])
    (hlength : parts.length ≤ 3) (hparts : ∀ part ∈ parts, part ≠ "") :
    ∃ n : RoutineName, n.qualifiers ++ [n.name] = parts := by
  match parts with
  | [name] => exact ⟨⟨none, none, name⟩, rfl⟩
  | [schema, name] =>
    refine ⟨⟨none, some schema, name⟩, ?_⟩
    simp [qualifiers, hparts schema]
  | [catalog, schema, name] =>
    refine ⟨⟨some catalog, some schema, name⟩, ?_⟩
    simp [qualifiers, hparts catalog, hparts schema]
  | _ :: _ :: _ :: _ :: _ =>
    simp only [List.length_cons] at hlength
    omega

namespace CallDefinition

variable {call : CallDefinition}

theorem looksAccepted_of_validate (hvalid : call.config.validate = .ok ()) :
    call.key.LooksAccepted := by
  obtain ⟨hparts, hreturn⟩ := validate_eq_ok_iff.1 hvalid
  refine ⟨mt Text.lower_eq_empty_iff.1 hreturn,
    (call.config.routine.qualifiers ++ [call.config.routine.name]).map String.toLower,
    by simp, ?_, ?_, ?_⟩
  · rw [List.length_map, List.length_append]
    exact Nat.add_le_add_right call.config.routine.length_qualifiers_le 1
  · intro part hpart
    obtain ⟨q, hq, rfl⟩ := List.mem_map.1 hpart
    exact CallShape.isIdentifier_toLower (hparts q hq)
  · rw [← String.toList_inj, String.toList_intercalate, List.map_map]
    exact toList_lower_text hvalid

theorem exists_accepted_of_looksAccepted (h : call.key.LooksAccepted) :
    ∃ held : CallDefinition, held.config.validate = .ok () ∧ held.key = call.key := by
  obtain ⟨hreturn, parts, hne, hlength, hparts, hname⟩ := h
  have hfull : ∀ part ∈ parts, part ≠ "" := by
    rintro part hpart rfl
    exact absurd (isIdentifier_iff.2 (hparts "" hpart)) (by decide)
  obtain ⟨routine, hroutine⟩ := RoutineName.exists_of_parts hne hlength hfull
  refine ⟨call.renamed routine, validate_eq_ok_iff.2 ⟨?_, ?_⟩, ?_⟩
  · show ∀ part ∈ routine.qualifiers ++ [routine.name], _
    rwa [hroutine]
  · exact fun hempty => hreturn (Text.lower_eq_empty_iff.2 hempty)
  · have htext : Text.lower routine.text = Text.lower call.config.routine.text := by
      show Text.lower (".".intercalate (routine.qualifiers ++ [routine.name])) = _
      rw [hroutine, ← hname]
      exact Text.lower_lower _
    show { call.key with name := Text.lower routine.text } = call.key
    rw [htext]
    rfl

/-- Every accepted definition compiles on a database that reports no columns. -/
theorem exists_compile_of_validate (hvalid : call.config.validate = .ok ()) :
    ∃ source compiled, (call.compile source).outcome = .ok compiled := by
  set info := Fixtures.unknown.withQualifiers true true
  have hunused := call.unused_unknown true true
  set l := (call.contextFor info).declaredList call.declared []
  have hlist : ((call.contextFor info).reconcile call.declared []).outcome = .ok l :=
    CallContext.reconcile_of_unused ((columnsUsed_contextFor call info).trans hunused)
  refine ⟨{ info }, call.compiledFor (call.dialectFor info).value l, ?_⟩
  rw [outcome_compile hvalid, outcome_columnsFrom, if_neg (by rw [hunused]; decide)]
  exact compileWith_eq_ok_iff.2 ⟨hvalid, _, hlist, rfl⟩

end CallDefinition

/-! ### Refused definitions -/

theorem eq_point_of_toLower_eq {c : Char} (h : c.toLower = '.') : c = '.' := by
  by_cases hc : c.toNat < 128
  · exact Text.forall_ascii (P := fun c => c.toLower = '.' → c = '.') (by decide) hc h
  · rwa [Text.toLower_of_not_ascii hc] at h

section

variable {routine : RoutineName} {parts : List String} (hparts : ∀ part ∈ parts, IsIdentifier part)
  (hlower : Text.lower routine.text = ".".intercalate parts)

include hparts hlower

/-- A name that reads in lower case as identifiers between points is an ASCII text, but for kelvin
signs. -/
theorem isAscii_of_lower_text
    (hkelvin : ∀ q ∈ routine.qualifiers ++ [routine.name], Text.kelvinSign ∉ q.toList) :
    Text.IsAscii routine.text := by
  have htext : routine.text.toList = ['.'].intercalate
      ((routine.qualifiers ++ [routine.name]).map String.toList) := String.toList_intercalate
  refine Text.isAscii_of_isAscii_lower (hlower ▸ isAscii_intercalate hparts) ?_
  rw [htext]
  intro hmem
  rcases mem_of_mem_intercalate hmem with hmem | ⟨part, hpart, hmem⟩
  · exact absurd (List.mem_singleton.1 hmem) (by decide)
  · obtain ⟨q, hq, rfl⟩ := List.mem_map.1 hpart
    exact hkelvin q hq hmem

/-- Its parts are those identifiers, up to letter case, if there are no points in them. -/
theorem map_toLower_parts_of_lower_text (hne : parts ≠ [])
    (hpoint : ∀ q ∈ routine.qualifiers ++ [routine.name], '.' ∉ q.toList)
    (hkelvin : ∀ q ∈ routine.qualifiers ++ [routine.name], Text.kelvinSign ∉ q.toList) :
    (routine.qualifiers ++ [routine.name]).map (fun q => q.toLower.toList) =
      parts.map String.toList := by
  have hchars : ['.'].intercalate
        ((routine.qualifiers ++ [routine.name]).map fun q => q.toLower.toList) =
      ['.'].intercalate (parts.map String.toList) := by
    rw [← toList_lower_text_of_ascii (isAscii_of_lower_text hparts hlower hkelvin), hlower,
      String.toList_intercalate]
    rfl
  have hleft : ∀ part ∈ (routine.qualifiers ++ [routine.name]).map fun q => q.toLower.toList,
      '.' ∉ part := by
    intro part hpart hmem
    obtain ⟨q, hq, rfl⟩ := List.mem_map.1 hpart
    rw [Text.toList_toLower, List.mem_map] at hmem
    obtain ⟨c, hc, he⟩ := hmem
    exact hpoint q hq (eq_point_of_toLower_eq he ▸ hc)
  have hright : ∀ part ∈ parts.map String.toList, '.' ∉ part := by
    intro part hpart
    obtain ⟨q, hq, rfl⟩ := List.mem_map.1 hpart
    exact (hparts q hq).not_mem (by decide)
  rw [← List.splitOn_intercalate '.' hleft (by simp), hchars,
    List.splitOn_intercalate '.' hright (by simpa using hne)]

end

/-- A key does not hide why a definition is refused, unless a part of the name has a point or a
kelvin sign. -/
theorem exists_point_or_kelvin {call : CallDefinition} {e : CallError}
    (hrefused : call.config.validate = .error e) (hlooks : call.key.LooksAccepted) :
    ∃ part ∈ call.config.routine.qualifiers ++ [call.config.routine.name],
      '.' ∈ part.toList ∨ Text.kelvinSign ∈ part.toList := by
  by_contra! hplain
  obtain ⟨hreturn, parts, hne, -, hparts, hname⟩ := hlooks
  have hsame := map_toLower_parts_of_lower_text hparts hname hne (fun q hq => (hplain q hq).1)
    fun q hq => (hplain q hq).2
  -- the parts are identifiers in any letter case, so nothing is left to refuse
  have hidentifiers : ∀ q ∈ call.config.routine.qualifiers ++ [call.config.routine.name],
      IsIdentifier q := by
    intro q hq
    have hmem : q.toLower.toList ∈ parts.map String.toList := hsame ▸ List.mem_map_of_mem hq
    obtain ⟨part, hpart, he⟩ := List.mem_map.1 hmem
    rw [← isIdentifier_iff, ← isIdentifier_map_toLower, ← Text.toList_toLower, ← he]
    exact isIdentifier_iff.2 (hparts part hpart)
  have hvalid : call.config.validate = .ok () := validate_eq_ok_iff.2
    ⟨hidentifiers, fun hempty => hreturn (Text.lower_eq_empty_iff.2 hempty)⟩
  rw [hvalid] at hrefused
  cases hrefused

section

variable {config : CacheConfig} {call : CallDefinition}

/-- In every state of a cache, a refused definition is answered with the reason or with the call of
an accepted one. -/
theorem SharedCache.Reachable.answer_of_refused {shared : SharedCache} {e : CallError}
    (henabled : config.enabled = true) (hreach : Reachable config shared)
    (hrefused : call.config.validate = .error e) (source : MetadataSource) :
    shared.cache.peek? call.key = none ∧ (shared.getOrCompile call source).value.1 = .error e ∨
      ∃ c, shared.cache.peek? call.key = some c ∧
        (shared.getOrCompile call source).value.1 = .ok c ∧
          c.call.definition.key = call.key ∧ c.call.definition.config.validate = .ok () := by
  have hserved := served (hreach.enabled henabled) call source
  rcases hserved.of_error (CallDefinition.outcome_compile_of_error hrefused) with
    hfailed | ⟨c, hpeek, hanswer⟩
  · exact Or.inl hfailed
  · exact Or.inr ⟨c, hpeek, hanswer,
      hreach.holdsAccepted henabled _ c (CallCache.mem_of_peek?_eq_some hpeek)⟩

/-- A definition whose key looks accepted is answered with a call in some state of a cache: the
first request of an accepted definition of the key leaves it there. -/
theorem exists_answered_of_looksAccepted (henabled : config.enabled = true)
    (hlooks : call.key.LooksAccepted) :
    ∃ shared source c, SharedCache.Reachable config shared ∧
      (shared.getOrCompile call source).value.1 = .ok c := by
  obtain ⟨held, hvalid, hkey⟩ := CallDefinition.exists_accepted_of_looksAccepted hlooks
  obtain ⟨source, compiled, houtcome⟩ := CallDefinition.exists_compile_of_validate hvalid
  set start := SharedCache.ofConfig config
  have hserved := SharedCache.served (show start.enabled = true from henabled) held source
  set shared := (start.getOrCompile held source).value.2.1
  have hreach : SharedCache.Reachable config shared := .request .start held source
  obtain ⟨c, hc⟩ := hserved.exists_peek? houtcome
  rw [hkey] at hc
  exact ⟨shared, source, c, hreach,
    (SharedCache.getOrCompile_of_peek? (hreach.enabled henabled) hc source).1⟩

end

/-- What is answered to a definition that is refused for a reason. -/
structure AnswersToRefused (config : CacheConfig) (call : CallDefinition) (e : CallError) :
    Prop where
  /-- Without a cache, the reason. -/
  refused : (∀ source, (call.compile source).outcome = .error e) ∧
    ∀ dialect columns, (call.compileWith dialect columns).outcome = .error e
  /-- By a cache, the reason too, unless a call of an accepted definition is held under the key. -/
  answered : ∀ shared, SharedCache.Reachable config shared → ∀ source,
    shared.cache.peek? call.key = none ∧ (shared.getOrCompile call source).value.1 = .error e ∨
      ∃ c, shared.cache.peek? call.key = some c ∧
        (shared.getOrCompile call source).value.1 = .ok c ∧
          c.call.definition.key = call.key ∧ c.call.definition.config.validate = .ok ()
  /-- Some requests lead to such an answer exactly if the key looks accepted. -/
  held_iff : (∃ shared source c, SharedCache.Reachable config shared ∧
    (shared.getOrCompile call source).value.1 = .ok c) ↔ call.key.LooksAccepted
  /-- So names without a point and without a kelvin sign are always refused. -/
  named : call.key.LooksAccepted →
    ∃ part ∈ call.config.routine.qualifiers ++ [call.config.routine.name],
      '.' ∈ part.toList ∨ Text.kelvinSign ∈ part.toList

/-- An enabled cache answers a refused definition with the reason, but for a call that it holds for
an accepted definition of the same key. -/
theorem answers_to_refused {config : CacheConfig} {call : CallDefinition} {e : CallError}
    (henabled : config.enabled = true) (hrefused : call.config.validate = .error e) :
    AnswersToRefused config call e := by
  constructor
  case refused =>
    refine ⟨fun _ => CallDefinition.outcome_compile_of_error hrefused, fun dialect columns => ?_⟩
    rw [CallDefinition.outcome_compileWith, hrefused]
    rfl
  case answered =>
    exact fun shared hreach source => hreach.answer_of_refused henabled hrefused source
  case held_iff =>
    refine ⟨?_, exists_answered_of_looksAccepted henabled⟩
    rintro ⟨shared, source, c, hreach, hc⟩
    rcases hreach.answer_of_refused henabled hrefused source with
      ⟨-, herror⟩ | ⟨c', -, -, hkey, hvalid⟩
    · rw [hc] at herror
      cases herror
    · exact hkey ▸ CallDefinition.looksAccepted_of_validate hvalid
  case named => exact exists_point_or_kelvin hrefused

theorem answers_to_refused_dotted :
    let config := CacheConfig.ofCapacity 1
    let call : CallDefinition := { config := .procedure "dbo.p" }
    let e := CallError.invalidIdentifier (.malformed "dbo.p")
    config.enabled = true ∧ call.config.validate = .error e ∧ AnswersToRefused config call e := by
  intro config call e
  have hrefused : call.config.validate = .error e := by decide
  exact ⟨rfl, hrefused, answers_to_refused rfl hrefused⟩

/-- The call of the routine `p` of the schema `dbo` answers for the name `dbo.p`, which is
refused. -/
theorem dotted_name_answered :
    let config := CacheConfig.ofCapacity 1
    let held : CallDefinition :=
      { config := { routine := ⟨none, some "dbo", "p"⟩, useColumns := false } }
    let call : CallDefinition := { config := { routine := .ofName "dbo.p", useColumns := false } }
    let shared := ((SharedCache.ofConfig config).getOrCompile held {}).value.2.1
    config.enabled = true ∧ SharedCache.Reachable config shared ∧
      call.config.validate = .error (.invalidIdentifier (.malformed "dbo.p")) ∧
      (shared.getOrCompile call {}).value.1.map (·.call.text) = .ok "\x7bcall dbo.p()\x7d" := by
  intro config held call shared
  exact ⟨rfl, .request .start held {}, by decide, by decide +kernel⟩

end StoredCall
