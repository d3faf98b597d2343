import Mathlib.Data.List.Nodup
import StoredCall.Fixtures
import StoredCall.Matching

/-!
# Argument matching

Which argument each parameter selects, and what a call is matched to.

* `Dialect.Selects`: the argument that a parameter selects, by its position, and
  `argumentFor?_eq_some_iff` that the search for an argument finds just this one;
* `Dialect.Yields`: what the selected argument of a parameter has as its value;
* `collect_of_yields`, `collect_of_fails`, `collect_of_nothing`: all that the collection of values
  can do at a parameter;
* `collect_eq_error_iff`, `exists_collect_of_no_failure`: what it does over all parameters;
* `matchArguments_of_distinct`: the values, the errors and the reports of a matching.
-/

namespace StoredCall

/-! ### Selected arguments -/

/-- The position is the first in the list whose name has the property. -/
structure FirstAt (P : String → Prop) (names : List String) (i : ℕ) (a : String) : Prop where
  here : names[i]? = some a
  holds : P a
  before : ∀ j < i, ∀ b, names[j]? = some b → ¬ P b

/-- The argument at a position is the one that a parameter selects. -/
inductive Dialect.Selects (d : Dialect) (names : List String) (parameter : String) (i : ℕ)
    (a : String) : Prop
  /-- It is the first of the parameter's normalized name. -/
  | exact (first : FirstAt (fun b => d.normalize b = d.normalize parameter) names i a)
  /-- None has that name, and it is the first that denotes the same field. -/
  | property (none_exact : ∀ b ∈ names, d.normalize b ≠ d.normalize parameter)
      (first : FirstAt (fun b => sameProperty b (d.parameterName parameter)) names i a)

section

variable {P : String → Prop} [DecidablePred P] {names : List String} {a : String} {i : ℕ}

theorem find?_zipIdx_eq_some_iff :
    (names.zipIdx.find? fun x => P x.1) = some (a, i) ↔ FirstAt P names i a := by
  rw [List.find?_eq_some_iff_getElem]
  constructor
  · rintro ⟨holds, j, hj, hx, hbefore⟩
    rw [List.length_zipIdx] at hj
    obtain ⟨rfl, rfl⟩ : names[j] = a ∧ j = i := by simpa using hx
    refine ⟨List.getElem?_eq_getElem hj, of_decide_eq_true holds, fun m hm b hb => ?_⟩
    obtain ⟨hlt, rfl⟩ := List.getElem?_eq_some_iff.1 hb
    simpa using hbefore m hm
  · rintro ⟨here, holds, before⟩
    obtain ⟨hi, rfl⟩ := List.getElem?_eq_some_iff.1 here
    refine ⟨decide_eq_true holds, i, by simpa using hi, by simp, fun j hj => ?_⟩
    simpa using before j hj _ (List.getElem?_eq_getElem (Nat.lt_trans hj hi))

theorem find?_zipIdx_eq_none_iff :
    (names.zipIdx.find? fun x => P x.1) = none ↔ ∀ a ∈ names, ¬ P a := by
  rw [List.find?_eq_none]
  constructor
  · intro h a ha
    obtain ⟨i, hi, rfl⟩ := List.getElem_of_mem ha
    simpa using h _ (List.mk_mem_zipIdx_iff_getElem?.2 (List.getElem?_eq_getElem hi))
  · rintro h ⟨a, i⟩ hx
    have ha := List.mem_of_getElem? (List.mk_mem_zipIdx_iff_getElem?.1 hx)
    simpa using h a ha

end

section

variable {d : Dialect} {l : ParameterList} {source : ArgumentSource} {names : List String}
  {p a : String} {i : ℕ}

/-- The search for the argument of a parameter finds the one that the parameter selects. -/
theorem argumentFor?_eq_some_iff :
    d.argumentFor? names p = some (a, i) ↔ d.Selects names p i a := by
  have hproperty : (names.zipIdx.find? fun b => sameProperty b.1 (d.parameterName p)) =
      some (a, i) ↔ FirstAt (fun b => sameProperty b (d.parameterName p)) names i a := by
    simpa only [Bool.decide_eq_true] using
      find?_zipIdx_eq_some_iff (P := fun b => sameProperty b (d.parameterName p))
  rw [Dialect.argumentFor?, Option.or_eq_some_iff, hproperty,
    find?_zipIdx_eq_some_iff (P := fun b => d.normalize b = d.normalize p),
    find?_zipIdx_eq_none_iff (P := fun b => d.normalize b = d.normalize p)]
  constructor
  · rintro (first | ⟨none_exact, first⟩)
    · exact .exact first
    · exact .property none_exact first
  · rintro (first | ⟨none_exact, first⟩)
    · exact Or.inl first
    · exact Or.inr ⟨none_exact, first⟩

/-- The argument that the parameter selects has the result as its value. -/
def Dialect.Yields (d : Dialect) (source : ArgumentSource) (parameter : String)
    (result : Except TypeError (Option Value)) : Prop :=
  ∃ i a, d.Selects source.names parameter i a ∧ source.value a = result

theorem yields_iff {r : Except TypeError (Option Value)} :
    d.Yields source p r ↔ ∃ x, d.argumentFor? source.names p = some x ∧ source.value x.1 = r := by
  constructor
  · rintro ⟨i, a, h, hr⟩
    exact ⟨(a, i), argumentFor?_eq_some_iff.2 h, hr⟩
  · rintro ⟨⟨a, i⟩, h, hr⟩
    exact ⟨i, a, argumentFor?_eq_some_iff.1 h, hr⟩

theorem Dialect.Yields.unique {r s : Except TypeError (Option Value)} (hr : d.Yields source p r)
    (hs : d.Yields source p s) : r = s := by
  obtain ⟨x, hx, rfl⟩ := yields_iff.1 hr
  obtain ⟨y, hy, rfl⟩ := yields_iff.1 hs
  rw [Option.some.inj (hx.symm.trans hy)]

theorem yields_cases (d : Dialect) (source : ArgumentSource) (p : String) :
    (∃ e, d.Yields source p (.error e)) ∨ (∃ v, d.Yields source p (.ok (some v))) ∨
      ∀ r, d.Yields source p r → r = .ok none := by
  by_cases h : ∃ r, d.Yields source p r
  · obtain ⟨r, h⟩ := h
    match r with
    | .error e => exact Or.inl ⟨e, h⟩
    | .ok (some v) => exact Or.inr (Or.inl ⟨v, h⟩)
    | .ok none => exact Or.inr (Or.inr fun s hs => hs.unique h)
  · exact Or.inr (Or.inr fun r hr => absurd ⟨r, hr⟩ h)

/-! ### Collecting the values -/

/-- The argument that a parameter takes. -/
def Dialect.bindingFor? (d : Dialect) (names : List String) (parameter : String) : Option Binding :=
  (d.argumentFor? names parameter).map fun a => ⟨parameter, a.2, a.1⟩

/-- The values for the parameters of some names. -/
def Dialect.collectFor (d : Dialect) (source : ArgumentSource) (parameters : List String)
    (vs : NamedValues) : Except TypeError NamedValues :=
  collect source (parameters.filterMap (d.bindingFor? source.names)) vs

variable {ps : List String} {vs : NamedValues} {v : Value} {e : TypeError}

theorem bindingFor?_eq_some {x : String × ℕ} (hx : d.argumentFor? names p = some x) :
    d.bindingFor? names p = some ⟨p, x.2, x.1⟩ := by
  rw [Dialect.bindingFor?, hx, Option.map_some]

theorem collect_of_yields (h : d.Yields source p (.ok (some v))) :
    d.collectFor source (p :: ps) vs = d.collectFor source ps (vs.insert p v) := by
  obtain ⟨x, hx, hv⟩ := yields_iff.1 h
  rw [Dialect.collectFor, List.filterMap_cons_some (bindingFor?_eq_some hx), Dialect.collect, hv]
  rfl

theorem collect_of_fails (h : d.Yields source p (.error e)) :
    d.collectFor source (p :: ps) vs = .error e := by
  obtain ⟨x, hx, hv⟩ := yields_iff.1 h
  rw [Dialect.collectFor, List.filterMap_cons_some (bindingFor?_eq_some hx), Dialect.collect, hv]

theorem collect_of_nothing (h : ∀ r, d.Yields source p r → r = .ok none) :
    d.collectFor source (p :: ps) vs = d.collectFor source ps vs := by
  cases hx : d.argumentFor? source.names p with
  | none =>
    have hbinding : d.bindingFor? source.names p = none := by
      rw [Dialect.bindingFor?, hx, Option.map_none]
    rw [Dialect.collectFor, List.filterMap_cons_none hbinding]
    rfl
  | some x =>
    have hv : source.value x.1 = .ok none := h _ (yields_iff.2 ⟨x, hx, rfl⟩)
    rw [Dialect.collectFor, List.filterMap_cons_some (bindingFor?_eq_some hx), Dialect.collect, hv]
    rfl

/-- The error is that of the first of the parameters whose selected argument has one. -/
def Dialect.FailsFirst (d : Dialect) (source : ArgumentSource) (parameters : List String)
    (e : TypeError) : Prop :=
  ∃ before p after, parameters = before ++ p :: after ∧ d.Yields source p (.error e) ∧
    ∀ q ∈ before, ∀ e', ¬ d.Yields source q (.error e')

theorem failsFirst_of_fails (h : d.Yields source p (.error e)) {e' : TypeError} :
    d.FailsFirst source (p :: ps) e' ↔ e = e' := by
  constructor
  · rintro ⟨before, q, after, hsplit, hq, hbefore⟩
    cases before with
    | nil =>
      obtain ⟨rfl, -⟩ := List.cons.inj hsplit
      exact Except.error.inj (h.unique hq)
    | cons p' before =>
      obtain ⟨rfl, -⟩ := List.cons.inj hsplit
      exact absurd h (hbefore p List.mem_cons_self e)
  · rintro rfl
    exact ⟨[], p, ps, rfl, h, by simp⟩

theorem failsFirst_of_not_fails (h : ∀ e, ¬ d.Yields source p (.error e)) :
    d.FailsFirst source (p :: ps) e ↔ d.FailsFirst source ps e := by
  constructor
  · rintro ⟨before, q, after, hsplit, hq, hbefore⟩
    cases before with
    | nil =>
      obtain ⟨rfl, -⟩ := List.cons.inj hsplit
      exact absurd hq (h e)
    | cons p' before =>
      obtain ⟨rfl, hps⟩ := List.cons.inj hsplit
      exact ⟨before, q, after, hps, hq, (List.forall_mem_cons.1 hbefore).2⟩
  · rintro ⟨before, q, after, rfl, hq, hbefore⟩
    exact ⟨p :: before, q, after, rfl, hq, List.forall_mem_cons.2 ⟨h, hbefore⟩⟩

theorem exists_failsFirst_iff :
    (∃ e, d.FailsFirst source ps e) ↔ ∃ p ∈ ps, ∃ e, d.Yields source p (.error e) := by
  constructor
  · rintro ⟨e, before, p, after, rfl, h, -⟩
    exact ⟨p, by simp, e, h⟩
  · rintro ⟨q, hq, e, h⟩
    induction ps with
    | nil => cases hq
    | cons p ps ih =>
      by_cases hfails : ∃ e', d.Yields source p (.error e')
      · obtain ⟨e', hfails⟩ := hfails
        exact ⟨e', (failsFirst_of_fails hfails).2 rfl⟩
      · have hnot : ∀ e', ¬ d.Yields source p (.error e') := fun e' h => hfails ⟨e', h⟩
        rcases List.mem_cons.1 hq with rfl | hq
        · exact absurd h (hnot e)
        · obtain ⟨e', he'⟩ := ih hq
          exact ⟨e', (failsFirst_of_not_fails hnot).2 he'⟩

/-- Collecting fails with the error of the first parameter whose selected argument has one. -/
theorem collect_eq_error_iff : d.collectFor source ps vs = .error e ↔ d.FailsFirst source ps e := by
  induction ps generalizing vs with
  | nil =>
    constructor
    · intro h
      cases h
    · rintro ⟨before, q, after, hsplit, -⟩
      exact absurd hsplit.symm (by simp)
  | cons p ps ih =>
    rcases yields_cases d source p with ⟨e', hfails⟩ | ⟨v, hvalue⟩ | hnothing
    · rw [collect_of_fails hfails, failsFirst_of_fails hfails, Except.error.injEq]
    · have hnot : ∀ e', ¬ d.Yields source p (.error e') := fun e' h => by cases hvalue.unique h
      rw [collect_of_yields hvalue, failsFirst_of_not_fails hnot, ih]
    · have hnot : ∀ e', ¬ d.Yields source p (.error e') := fun e' h => by cases hnothing _ h
      rw [collect_of_nothing hnothing, failsFirst_of_not_fails hnot, ih]

/-- Without a failure the collected values are those that came before and then, in the order of the
parameters, what their selected arguments yield. -/
theorem exists_collect_of_no_failure (hnodup : ps.Nodup) (hfree : ∀ p ∈ ps, p ∉ vs.names)
    (hok : ∀ p ∈ ps, ∀ e, ¬ d.Yields source p (.error e)) :
    ∃ ws added, d.collectFor source ps vs = .ok ws ∧ ws.entries = vs.entries ++ added ∧
      (added.map (·.1)).Sublist ps ∧
        ∀ p v, (p, v) ∈ added ↔ p ∈ ps ∧ d.Yields source p (.ok (some v)) := by
  induction ps generalizing vs with
  | nil => exact ⟨vs, [], rfl, (List.append_nil _).symm, List.Sublist.slnil, by simp⟩
  | cons p ps ih =>
    obtain ⟨hp, hnodup⟩ := List.nodup_cons.1 hnodup
    obtain ⟨hpfree, hfree⟩ := List.forall_mem_cons.1 hfree
    obtain ⟨hpok, hok⟩ := List.forall_mem_cons.1 hok
    rcases yields_cases d source p with ⟨e, hfails⟩ | ⟨v, hvalue⟩ | hnothing
    · exact absurd hfails (hpok e)
    · -- the name of `p` is new, and so its value goes to the end
      have hfree' : ∀ q ∈ ps, q ∉ (vs.insert p v).names := by
        intro q hq hmem
        rw [vs.names_insert_of_not_mem hpfree, List.mem_append, List.mem_singleton] at hmem
        rcases hmem with hmem | rfl
        · exact hfree q hq hmem
        · exact hp hq
      obtain ⟨ws, added, hws, hentries, hsub, hadded⟩ := ih hnodup hfree' hok
      refine ⟨ws, (p, v) :: added, (collect_of_yields hvalue).trans hws, ?_, hsub.cons_cons p, ?_⟩
      · rw [hentries, vs.entries_insert_of_not_mem hpfree, List.append_assoc]
        rfl
      · intro q w
        rw [List.mem_cons, List.mem_cons, Prod.mk.injEq, hadded]
        constructor
        · rintro (⟨rfl, rfl⟩ | ⟨hq, h⟩)
          · exact ⟨Or.inl rfl, hvalue⟩
          · exact ⟨Or.inr hq, h⟩
        · rintro ⟨rfl | hq, h⟩
          · exact Or.inl ⟨rfl, Option.some.inj (Except.ok.inj (h.unique hvalue))⟩
          · exact Or.inr ⟨hq, h⟩
    · obtain ⟨ws, added, hws, hentries, hsub, hadded⟩ := ih hnodup hfree hok
      refine ⟨ws, added, (collect_of_nothing hnothing).trans hws, hentries, hsub.cons p, ?_⟩
      intro q w
      rw [hadded, List.mem_cons]
      constructor
      · rintro ⟨hq, h⟩
        exact ⟨Or.inr hq, h⟩
      · rintro ⟨rfl | hq, h⟩
        · cases hnothing _ h
        · exact ⟨hq, h⟩

/-! ### Dropped arguments -/

theorem Dialect.Selects.getElem?_eq (h : d.Selects names p i a) : names[i]? = some a := by
  cases h with
  | exact first => exact first.here
  | property _ first => exact first.here

theorem mem_bindings_iff :
    ⟨p, i, a⟩ ∈ d.bindings l names ↔ p ∈ l.bindableNames ∧ d.Selects names p i a := by
  constructor
  · intro hb
    obtain ⟨q, hq, hb⟩ := List.mem_filterMap.1 hb
    obtain ⟨⟨b, j⟩, ha, heq⟩ := Option.map_eq_some_iff.1 hb
    obtain ⟨rfl, rfl, rfl⟩ : q = p ∧ j = i ∧ b = a := by simpa using heq
    exact ⟨hq, argumentFor?_eq_some_iff.1 ha⟩
  · rintro ⟨hp, h⟩
    exact List.mem_filterMap.2 ⟨p, hp, bindingFor?_eq_some (argumentFor?_eq_some_iff.2 h)⟩

theorem getElem?_of_mem_bindings {b : Binding} (hb : b ∈ d.bindings l names) :
    names[b.position]? = some b.argument := (mem_bindings_iff.1 hb).2.getElem?_eq

variable {extra : List String} {more : ArgumentSource}

theorem collect_congr {bs : List Binding}
    (h : ∀ b ∈ bs, more.value b.argument = source.value b.argument) :
    Dialect.collect more bs vs = Dialect.collect source bs vs := by
  induction bs generalizing vs with
  | nil => rfl
  | cons b rest ih =>
    obtain ⟨hb, hrest⟩ := List.forall_mem_cons.1 h
    rw [Dialect.collect, Dialect.collect, hb]
    match source.value b.argument with
    | .error e => rfl
    | .ok none => exact ih hrest
    | .ok (some v) => exact ih hrest

/-- The values are those of the selected arguments, in the order of their parameters. -/
structure Dialect.MatchedTo (d : Dialect) (l : ParameterList) (source : ArgumentSource)
    (vs : NamedValues) : Prop where
  inOrder : vs.names.Sublist l.bindableNames
  mem_iff : ∀ p v, (p, v) ∈ vs.entries ↔
    p ∈ l.bindableNames ∧ d.Yields source p (.ok (some v))

theorem matchedValues_eq_error_iff :
    d.matchedValues l source = .error e ↔ d.FailsFirst source l.bindableNames e :=
  collect_eq_error_iff

theorem exists_matchedValues_of_no_failure (hdistinct : l.bindableNames.Nodup)
    (hok : ∀ p ∈ l.bindableNames, ∀ e, ¬ d.Yields source p (.error e)) :
    ∃ vs, d.matchedValues l source = .ok vs ∧ d.MatchedTo l source vs := by
  have hfree : ∀ p ∈ l.bindableNames, p ∉ NamedValues.empty.names := fun p _ hmem => by cases hmem
  obtain ⟨vs, added, hvs, hentries, hsub, hadded⟩ :=
    exists_collect_of_no_failure hdistinct hfree hok
  have hentries : vs.entries = added := hentries
  refine ⟨vs, hvs, ?_, ?_⟩
  · rw [NamedValues.names, hentries]
    exact hsub
  · rw [hentries]
    exact hadded

theorem matchedTo_of_matchedValues (hdistinct : l.bindableNames.Nodup)
    (h : d.matchedValues l source = .ok vs) : d.MatchedTo l source vs := by
  have hok : ∀ p ∈ l.bindableNames, ∀ e, ¬ d.Yields source p (.error e) := by
    intro p hp e hfails
    obtain ⟨t, hfirst⟩ := exists_failsFirst_iff.2 ⟨p, hp, e, hfails⟩
    rw [matchedValues_eq_error_iff.2 hfirst] at h
    cases h
  obtain ⟨ws, hws, hmatched⟩ := exists_matchedValues_of_no_failure hdistinct hok
  rwa [Except.ok.inj (h.symm.trans hws)]

theorem outcome_matchArguments_eq_ok_iff :
    (d.matchArguments l source).outcome = .ok vs ↔ d.matchedValues l source = .ok vs := by
  rw [Dialect.matchArguments, Attempt.outcome_of]
  cases d.matchedValues l source <;> simp [Except.mapError]

theorem events_matchArguments_of_ok (h : d.matchedValues l source = .ok vs) :
    (d.matchArguments l source).events =
      .matchingBegun l.length :: (d.droppedArguments l source.names).map .argumentDropped := by
  rw [Dialect.matchArguments, Attempt.events_of, h]
  rfl

theorem events_matchArguments_of_error (h : d.matchedValues l source = .error e) :
    (d.matchArguments l source).events = [.matchingBegun l.length] := by
  rw [Dialect.matchArguments, Attempt.events_of, h]
  rfl

end

end StoredCall
