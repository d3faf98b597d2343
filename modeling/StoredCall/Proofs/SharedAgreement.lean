import StoredCall.Proofs.Compilation
import StoredCall.Proofs.Sessions

/-!
# Agreement of requests that share a cache

Requests that miss at the same time compile the same call more than once, but the first call that is
published is the one that all of them are answered with.

* `SharedCache.Turned.…`: what one turn keeps, provided that the cache has room;
* `Session.Settled`: what holds between the turns of requests for few keys;
* `Session.storedKeys`: the keys under which calls are stored, in the order of the turns;
* `requests_agree`: whatever the order of the turns, equal keys are answered with one call.
-/

namespace StoredCall

/-! ### One turn -/

namespace SharedCache

/-- There is room for what the request is about to publish. -/
def HasRoom (shared : SharedCache) (r : Request) : Prop :=
  ∀ call, r.phase = .compiled call → shared.cache.peek? call.definition.key = none →
    shared.cache.needsRoom call.definition.key = false

namespace Turned

variable {shared shared' : SharedCache} {source : MetadataSource} {r r' : Request} {key : CallKey}
  {c : Issued}

theorem call_eq (h : shared.Turned source r r' shared') : r'.call = r.call := by
  cases h <;> rfl

theorem key_eq (h : shared.Turned source r r' shared') : r'.key = r.key :=
  congrArg CallDefinition.key h.call_eq

theorem enabled_eq (h : shared.Turned source r r' shared') : shared'.enabled = shared.enabled := by
  cases h <;> rfl

theorem capacity_eq (h : shared.Turned source r r' shared') :
    shared'.cache.capacity = shared.cache.capacity := by
  cases h with
  | hit | miss => exact CallCache.capacity_afterGet
  | _ => rfl

theorem nodup_keys (h : shared.Turned source r r' shared') (hroom : shared.HasRoom r)
    (hdistinct : shared.cache.keys.Nodup) : shared'.cache.keys.Nodup := by
  cases h with
  | hit | miss => exact CallCache.nodup_keys_afterGet hdistinct
  | stored call phase found =>
    exact CallCache.nodup_keys_afterInsert (c := ⟨_, call⟩) (hroom call phase found) hdistinct
  | _ => exact hdistinct

theorem peek?_of_some (h : shared.Turned source r r' shared') (hroom : shared.HasRoom r)
    (hpeek : shared.cache.peek? key = some c) : shared'.cache.peek? key = some c := by
  cases h with
  | hit | miss => exact CallCache.peek?_afterGet.trans hpeek
  | stored call phase found =>
    have hne : call.definition.key ≠ key := by
      rintro rfl
      rw [found] at hpeek
      cases hpeek
    exact (CallCache.peek?_afterInsert (c := ⟨_, call⟩) (hroom call phase found)).trans
      ((if_neg hne).trans hpeek)
  | _ => exact hpeek

theorem peek?_of_answered (h : shared.Turned source r r' shared') (hroom : shared.HasRoom r)
    (hown : ∀ call, r.phase = .compiled call → call.definition = r.call)
    (hbefore : ∀ c, r.phase = .answered (.ok c) → shared.cache.peek? r.key = some c)
    (hphase : r'.phase = .answered (.ok c)) : shared'.cache.peek? r.key = some c := by
  cases h with
  | hit c' phase found =>
    cases hphase
    exact CallCache.peek?_afterGet.trans found
  | miss | compiled | failed => cases hphase
  | joined call c' phase found =>
    cases hphase
    rwa [hown call phase] at found
  | stored call phase found =>
    cases hphase
    have hkey : call.definition.key = r.key := congrArg CallDefinition.key (hown call phase)
    exact (CallCache.peek?_afterInsert (c := ⟨_, call⟩) (hroom call phase found)).trans
      (if_pos hkey)
  | rested answer phase => exact hbefore c hphase

theorem mem_keys_cases (h : shared.Turned source r r' shared') (hroom : shared.HasRoom r)
    (hown : ∀ call, r.phase = .compiled call → call.definition = r.call)
    (hkey : key ∈ shared'.cache.keys) :
    key ∈ shared.cache.keys ∨ key = r.key ∧ ∃ c, r'.phase = .answered (.ok c) := by
  cases h with
  | hit | miss => exact Or.inl (CallCache.mem_keys_afterGet.1 hkey)
  | stored call phase found =>
    rcases (CallCache.mem_keys_afterInsert (c := ⟨_, call⟩) (hroom call phase found)).1 hkey
      with hnew | hold
    · have hsame : call.definition.key = r.key := congrArg CallDefinition.key (hown call phase)
      exact Or.inr ⟨hnew.trans hsame, _, rfl⟩
    · exact Or.inl hold
  | _ => exact Or.inl hkey

theorem key_mem_of_compiled {call : CompiledCall} (h : shared.Turned source r r' shared')
    (hroom : shared.HasRoom r) (hphase : r.phase = .compiled call) :
    call.definition.key ∈ shared'.cache.keys := by
  by_contra hnot
  rw [← CallCache.peek?_eq_none_iff] at hnot
  cases h with
  | joined call' c phase found =>
    obtain rfl : call' = call := Phase.compiled.inj (phase.symm.trans hphase)
    cases hnot.symm.trans found
  | stored call' phase found =>
    obtain rfl : call' = call := Phase.compiled.inj (phase.symm.trans hphase)
    have hpeek : (shared.cache.afterInsert ⟨shared.issued, call'⟩).peek? call'.definition.key =
        some ⟨shared.issued, call'⟩ :=
      (CallCache.peek?_afterInsert (c := ⟨_, call'⟩) (hroom call' phase found)).trans (if_pos rfl)
    cases hnot.symm.trans hpeek
  | hit c phase | miss phase | compiled call' phase | failed e phase | rested answer phase =>
    rw [hphase] at phase
    cases phase

theorem definition_eq (h : shared.Turned source r r' shared')
    (hown : ∀ call, r.phase = .compiled call → call.definition = r.call) (call : CompiledCall)
    (hphase : r'.phase = .compiled call) : call.definition = r.call := by
  cases h with
  | compiled call' phase outcome =>
    cases hphase
    exact CallDefinition.definition_of_compile outcome
  | rested answer phase => exact hown call hphase
  | _ => cases hphase

/-- A turn that does not end with a call leaves the entries as they are. -/
theorem entries_eq (h : shared.Turned source r r' shared')
    (hfailed : ∀ c, r'.phase ≠ .answered (.ok c)) :
    shared'.cache.entries = shared.cache.entries := by
  cases h with
  | hit c | joined call c | stored => exact absurd rfl (hfailed _)
  | miss phase found =>
    change (shared.cache.afterGet r.key).entries = shared.cache.entries
    rw [CallCache.afterGet_of_none found]
  | _ => rfl

theorem isFresh_eq_false (h : shared.Turned source r r' shared') : r'.phase.isFresh = false := by
  cases h with
  | rested answer phase => rw [phase]; rfl
  | _ => rfl

/-- A turn counts if it is the first one of its request. -/
theorem counts (h : shared.Turned source r r' shared') :
    shared'.cache.hits + shared'.cache.misses =
      shared.cache.hits + shared.cache.misses + if r.phase.isFresh then 1 else 0 := by
  cases h with
  | hit c phase | miss phase =>
    rw [phase]
    exact CallCache.counts_afterGet
  | compiled call phase | failed e phase | joined call c phase | stored call phase
  | rested answer phase =>
    rw [phase]
    rfl

theorem eq_of_answered {answer : Except CallError Issued} (h : shared.Turned source r r' shared')
    (hphase : r.phase = .answered answer) : r' = r := by
  cases h with
  | rested => rfl
  | hit c phase | miss phase | compiled call phase | failed e phase | joined call c phase
  | stored call phase =>
    rw [hphase] at phase
    cases phase

end Turned

end SharedCache

/-! ### All turns -/

namespace Session

/-- What holds between the turns of requests that have few keys. -/
structure Settled (ks : List CallKey) (s : Session) : Prop where
  enabled : s.shared.enabled = true
  few : ks.dedup.length ≤ s.shared.cache.capacity
  requested : ∀ i r, s.At i r → r.key ∈ ks
  distinct : s.shared.cache.keys.Nodup
  own : ∀ i r, s.At i r → ∀ call, r.phase = .compiled call → call.definition = r.call
  held : ∀ i key c, s.Answers i key c → s.shared.cache.peek? key = some c
  earned : ∀ key ∈ s.shared.cache.keys, ∃ i c, s.Answers i key c
  counted : s.shared.cache.hits + s.shared.cache.misses =
    s.requests.countP fun r => !r.phase.isFresh

variable {s : Session} {ks : List CallKey} {i : ℕ} {r r' : Request} {source : MetadataSource}
  {shared : SharedCache} {a : Act}

/-- Requests that have few keys never lack room. -/
theorem Settled.hasRoom (h : s.Settled ks) (hr : s.At i r) : s.shared.HasRoom r := by
  intro call hphase hpeek
  have hown : call.definition = r.call := h.own i r hr call hphase
  rw [hown] at hpeek ⊢
  refine CallCache.needsRoom_eq_false h.distinct ?_ (h.requested i r hr)
    (CallCache.peek?_eq_none_iff.1 hpeek) h.few
  intro key hmem
  obtain ⟨j, c, q, hq, rfl, -⟩ := h.earned key hmem
  exact h.requested j q hq

/-- The turn of a request that was fresh adds one to the requests that are not. -/
theorem countP_set_of_turned (hr : s.At i r) (hturned : s.shared.Turned source r r' shared) :
    (s.requests.set i r').countP (fun q => !q.phase.isFresh) =
      s.requests.countP (fun q => !q.phase.isFresh) + if r.phase.isFresh then 1 else 0 := by
  obtain ⟨hi, rfl⟩ := List.getElem?_eq_some_iff.1 hr
  rw [List.countP_set hi, hturned.isFresh_eq_false]
  cases hfresh : s.requests[i].phase.isFresh with
  | true => simp
  | false =>
    have hpos : 0 < s.requests.countP fun q => !q.phase.isFresh :=
      List.countP_pos_iff.2 ⟨_, List.getElem_mem hi, by simp [hfresh]⟩
    simp only [Bool.not_false, if_true, Bool.false_eq_true, if_false]
    omega

theorem Settled.turn (h : s.Settled ks) (hr : s.At i r)
    (hturned : s.shared.Turned source r r' shared) :
    Settled ks ⟨shared, s.requests.set i r'⟩ := by
  have hroom := h.hasRoom hr
  have hown := h.own i r hr
  have hi : i < s.requests.length := (List.getElem?_eq_some_iff.1 hr).1
  constructor
  case enabled => exact hturned.enabled_eq.trans h.enabled
  case few => exact h.few.trans_eq hturned.capacity_eq.symm
  case requested =>
    intro j q hq
    rcases getElem?_set_cases hq with ⟨-, rfl⟩ | ⟨-, hq⟩
    · exact hturned.key_eq ▸ h.requested i r hr
    · exact h.requested j q hq
  case distinct => exact hturned.nodup_keys hroom h.distinct
  case own =>
    intro j q hq call hphase
    rcases getElem?_set_cases hq with ⟨-, rfl⟩ | ⟨-, hq⟩
    · exact (hturned.definition_eq hown call hphase).trans hturned.call_eq.symm
    · exact h.own j q hq call hphase
  case held =>
    rintro j key c ⟨q, hq, rfl, hphase⟩
    rcases getElem?_set_cases hq with ⟨-, rfl⟩ | ⟨-, hq⟩
    · rw [hturned.key_eq]
      exact hturned.peek?_of_answered hroom hown (fun c hc => h.held i _ c ⟨r, hr, rfl, hc⟩) hphase
    · exact hturned.peek?_of_some hroom (h.held j _ c ⟨q, hq, rfl, hphase⟩)
  case earned =>
    intro key hkey
    rcases hturned.mem_keys_cases hroom hown hkey with hold | ⟨rfl, c, hphase⟩
    · obtain ⟨j, c, q, hq, rfl, hphase⟩ := h.earned key hold
      refine ⟨j, c, q, ?_, rfl, hphase⟩
      by_cases hij : i = j
      · -- an answered request rests at its turn
        obtain rfl := hij
        obtain rfl : q = r := Option.some.inj (hq.symm.trans hr)
        rw [← hturned.eq_of_answered hphase]
        exact List.getElem?_set_self hi
      · exact (List.getElem?_set_ne hij).trans hq
    · exact ⟨i, c, r', List.getElem?_set_self hi, hturned.key_eq, hphase⟩
  case counted =>
    refine hturned.counts.trans ?_
    rw [h.counted]
    exact (countP_set_of_turned hr hturned).symm

theorem Settled.act (h : s.Settled ks) (ha : a.isTurn = true) : (s.act a).Settled ks := by
  cases a with
  | invalidate | clear => cases ha
  | turn i source =>
    cases hr : s.requests[i]? with
    | none => rwa [act_turn_of_none hr]
    | some r =>
      obtain ⟨r', shared, hturned, heq⟩ := act_turn_of_at h.enabled hr source
      rw [heq]
      exact h.turn hr hturned

theorem settled_start {config : CacheConfig} {calls : List CallDefinition}
    (henabled : config.enabled = true)
    (hfew : (calls.map (·.key)).dedup.length ≤ max config.capacity 1) :
    (start config calls).Settled (calls.map (·.key)) := by
  have hfresh : ∀ i r, (start config calls).At i r → r.key ∈ calls.map (·.key) ∧
      r.phase = .fresh := by
    intro i r hr
    obtain ⟨call, hcall, rfl⟩ := List.mem_map.1 (List.mem_of_getElem? hr)
    exact ⟨List.mem_map_of_mem hcall, rfl⟩
  constructor
  case enabled => exact henabled
  case few => exact hfew
  case requested => exact fun i r hr => (hfresh i r hr).1
  case distinct => exact List.nodup_nil
  case own =>
    intro i r hr call hphase
    rw [(hfresh i r hr).2] at hphase
    cases hphase
  case held =>
    rintro i key c ⟨r, hr, -, hphase⟩
    rw [(hfresh i r hr).2] at hphase
    cases hphase
  case earned => exact fun key hkey => absurd hkey List.not_mem_nil
  case counted =>
    refine (List.countP_eq_zero.2 fun r hr => ?_).symm
    obtain ⟨call, -, rfl⟩ := List.mem_map.1 hr
    exact Bool.false_ne_true

theorem map_call_act (henabled : s.shared.enabled = true) (a : Act) :
    (s.act a).requests.map (·.call) = s.requests.map (·.call) := by
  cases a with
  | invalidate | clear => rfl
  | turn i source =>
    cases hr : s.requests[i]? with
    | none => rw [act_turn_of_none hr]
    | some r =>
      obtain ⟨r', shared, hturned, heq⟩ := act_turn_of_at henabled hr source
      obtain ⟨hi, rfl⟩ := List.getElem?_eq_some_iff.1 hr
      have hi' : i < (s.requests.map (·.call)).length := by simpa using hi
      have hcall : s.requests[i].call = (s.requests.map (·.call))[i] :=
        (List.getElem_map (fun q : Request => q.call)).symm
      rw [heq, List.map_set, hturned.call_eq, hcall]
      exact List.set_getElem_self hi'

theorem Settled.after {acts : List Act} (h : s.Settled ks)
    (hturns : ∀ a ∈ acts, a.isTurn = true) : (s.after acts).Settled ks :=
  after_induction (fun _ _ ha hs => hs.act ha) hturns h

theorem Settled.map_call_after {acts : List Act} (h : s.Settled ks)
    (hturns : ∀ a ∈ acts, a.isTurn = true) :
    (s.after acts).requests.map (·.call) = s.requests.map (·.call) := by
  induction acts generalizing s with
  | nil => rfl
  | cons a acts ih =>
    obtain ⟨ha, hturns⟩ := List.forall_mem_cons.1 hturns
    exact (ih (h.act ha) hturns).trans (map_call_act h.enabled a)

/-! ### Answers -/

section Answers

variable {key : CallKey} {c : Issued} {acts : List Act}

theorem Answers.after (h : s.Answers i key c) (acts : List Act) :
    (s.after acts).Answers i key c := by
  obtain ⟨r, hr, hkey, hphase⟩ := h
  exact ⟨r, after_of_answered hr hphase acts, hkey, hphase⟩

/-- The keys in the cache are those of the requests that are answered with a call. -/
theorem Settled.mem_keys_iff (h : s.Settled ks) :
    key ∈ s.shared.cache.keys ↔ ∃ i c, s.Answers i key c := by
  refine ⟨h.earned key, ?_⟩
  rintro ⟨i, c, hanswers⟩
  by_contra hnot
  rw [← CallCache.peek?_eq_none_iff, h.held i key c hanswers] at hnot
  cases hnot

theorem Settled.mem_keys_act (h : s.Settled ks) (ha : a.isTurn = true)
    (hkey : key ∈ s.shared.cache.keys) : key ∈ (s.act a).shared.cache.keys := by
  obtain ⟨i, c, hanswers⟩ := h.earned key hkey
  exact (h.act ha).mem_keys_iff.2 ⟨i, c, hanswers.after [a]⟩

theorem Settled.entries_of_fails (h : s.Settled ks)
    (hfails : ((s.act (.turn i source)).after acts).Fails i) :
    (s.act (.turn i source)).shared.cache.entries = s.shared.cache.entries := by
  cases hr : s.requests[i]? with
  | none => rw [act_turn_of_none hr]
  | some r =>
    obtain ⟨r', shared, hturned, heq⟩ := act_turn_of_at h.enabled hr source
    rw [heq] at hfails ⊢
    refine hturned.entries_eq fun c hphase => ?_
    -- an answer with a call would have stayed
    obtain ⟨q, e, hq, hfailed⟩ := hfails
    have hi : i < s.requests.length := (List.getElem?_eq_some_iff.1 hr).1
    have hr' : Session.At ⟨shared, s.requests.set i r'⟩ i r' := List.getElem?_set_self hi
    obtain rfl : r' = q := Option.some.inj ((after_of_answered hr' hphase acts).symm.trans hq)
    rw [hphase] at hfailed
    cases hfailed

end Answers

/-! ### Stored keys -/

/-- The key under which a step stores a call, as its publication reports. -/
def stored? (s : Session) : Act → Option CallKey
  | .turn i _ => s.requests[i]?.bind fun r =>
    match r.phase with
    | .compiled call =>
      if (s.shared.publish call).events.isEmpty then none else some call.definition.key
    | _ => none
  | .invalidate _ | .clear => none

/-- The keys under which calls are stored, in the order of the steps. -/
def storedKeys : Session → List Act → List CallKey
  | _, [] => []
  | s, a :: acts => (s.stored? a).toList ++ storedKeys (s.act a) acts

theorem Settled.of_stored? {key : CallKey} (h : s.Settled ks) (hstored : s.stored? a = some key) :
    key ∉ s.shared.cache.keys ∧ key ∈ (s.act a).shared.cache.keys := by
  cases a with
  | invalidate | clear => cases hstored
  | turn i source =>
    obtain ⟨r, hr, hmatch⟩ := Option.bind_eq_some_iff.1 hstored
    split at hmatch
    · rename_i call hphase
      have hroom : s.shared.HasRoom r := h.hasRoom hr
      cases hpeek : s.shared.cache.peek? call.definition.key with
      | some c =>
        rw [SharedCache.publish_of_some h.enabled hpeek] at hmatch
        cases hmatch
      | none =>
        rw [SharedCache.publish_of_none h.enabled hpeek] at hmatch
        obtain rfl := Option.some.inj hmatch
        refine ⟨CallCache.peek?_eq_none_iff.1 hpeek, ?_⟩
        obtain ⟨r', shared, hturned, heq⟩ := act_turn_of_at h.enabled hr source
        rw [heq]
        exact hturned.key_mem_of_compiled hroom hphase
    · cases hmatch

theorem Settled.storedKeys {acts : List Act} (h : s.Settled ks)
    (hturns : ∀ a ∈ acts, a.isTurn = true) :
    (∀ key ∈ s.storedKeys acts, key ∉ s.shared.cache.keys) ∧ (s.storedKeys acts).Nodup := by
  induction acts generalizing s with
  | nil => exact ⟨fun _ hkey => absurd hkey List.not_mem_nil, List.nodup_nil⟩
  | cons a acts ih =>
    obtain ⟨ha, hturns⟩ := List.forall_mem_cons.1 hturns
    obtain ⟨hnew, hnodup⟩ := ih (h.act ha) hturns
    have hlater : ∀ key ∈ (s.act a).storedKeys acts, key ∉ s.shared.cache.keys :=
      fun key hkey hold => hnew key hkey (h.mem_keys_act ha hold)
    rw [Session.storedKeys]
    cases hstored : s.stored? a with
    | none => exact ⟨hlater, hnodup⟩
    | some key =>
      obtain ⟨hfree, hkept⟩ := h.of_stored? hstored
      refine ⟨List.forall_mem_cons.2 ⟨hfree, hlater⟩, List.nodup_cons.2 ⟨?_, hnodup⟩⟩
      exact fun hkey => hnew key hkey hkept

end Session

/-! ### Agreement -/

/-- What holds after the turns of requests that share a cache. -/
structure Agreement (config : CacheConfig) (calls : List CallDefinition) (acts : List Act)
    (s : Session) : Prop where
  /-- Each request is for its call. -/
  requests : s.requests.map (·.call) = calls
  /-- Equal keys are answered with one call. -/
  same : ∀ i j key c c', s.Answers i key c → s.Answers j key c' → c = c'
  /-- A later look-up finds it. -/
  found : ∀ i key c, s.Answers i key c → ∀ later : List Act, (∀ a ∈ later, a.isTurn = true) →
    ((s.after later).shared.lookup key).value.1 = some c
  /-- Under no key a call is stored twice. -/
  stored_once : ((Session.start config calls).storedKeys acts).Nodup
  /-- No turn of a request that ends with an error changes the entries. -/
  failed : ∀ earlier i source later, acts = earlier ++ .turn i source :: later → s.Fails i →
    (((Session.start config calls).after earlier).act (.turn i source)).shared.cache.entries =
      ((Session.start config calls).after earlier).shared.cache.entries
  distinct : s.shared.cache.keys.Nodup
  /-- The keys in the cache are those for which a request is answered with a call. -/
  held : ∀ key, key ∈ s.shared.cache.keys ↔ ∃ i c, s.Answers i key c
  /-- Every request that has begun has looked up once. -/
  counted : s.shared.cache.hits + s.shared.cache.misses =
    s.requests.countP fun r => !r.phase.isFresh

/-- Requests that share an empty cache agree, in whatever order they take their turns, if the cache
is large enough for their keys. -/
theorem requests_agree {config : CacheConfig} {calls : List CallDefinition} {acts : List Act}
    (henabled : config.enabled = true)
    (hfew : (calls.map (·.key)).dedup.length ≤ max config.capacity 1)
    (hturns : ∀ a ∈ acts, a.isTurn = true) :
    Agreement config calls acts ((Session.start config calls).after acts) := by
  have hstart := Session.settled_start henabled hfew
  have hlast := hstart.after hturns
  constructor
  case requests =>
    have hmap : (Session.start config calls).requests.map (·.call) = calls := by
      rw [Session.start, List.map_map]
      exact List.map_id calls
    exact (hstart.map_call_after hturns).trans hmap
  case same =>
    intro i j key c c' hc hc'
    exact Option.some.inj ((hlast.held i key c hc).symm.trans (hlast.held j key c' hc'))
  case found =>
    intro i key c hc later hlater
    have hsettled := hlast.after hlater
    rw [SharedCache.value_lookup hsettled.enabled]
    exact hsettled.held i key c (hc.after later)
  case stored_once => exact (hstart.storedKeys hturns).2
  case failed =>
    rintro earlier i source later rfl hfails
    have hearlier := hstart.after fun a ha => hturns a (List.mem_append_left _ ha)
    rw [Session.after_append] at hfails
    exact hearlier.entries_of_fails hfails
  case distinct => exact hlast.distinct
  case held => exact fun key => hlast.mem_keys_iff
  case counted => exact hlast.counted

/-- Two requests for one key miss, and both compile. The first to publish is the second to
compile. -/
theorem requests_agree_add_user :
    let config := CacheConfig.ofCapacity 1
    let calls : List CallDefinition :=
      [{ config := { CallConfig.procedure "add_user" with useColumns := false } },
        { config := { CallConfig.procedure "ADD_USER" with useColumns := false } }]
    let acts := [0, 1, 0, 1, 1, 0].map fun i => Act.turn i {}
    let s := (Session.start config calls).after acts
    config.enabled = true ∧ (calls.map (·.key)).dedup.length ≤ max config.capacity 1 ∧
      (∀ a ∈ acts, a.isTurn = true) ∧ Agreement config calls acts s ∧
      (s.shared.cache.entries.map fun x => (x.2.serial, x.2.call.text)) =
        [(0, "\x7bcall ADD_USER()\x7d")] ∧
      s.shared.issued = 2 := by
  intro config calls acts s
  have henabled : config.enabled = true := rfl
  have hfew : (calls.map (·.key)).dedup.length ≤ max config.capacity 1 := by decide +kernel
  have hturns : ∀ a ∈ acts, a.isTurn = true := by
    intro a ha
    obtain ⟨i, -, rfl⟩ := List.mem_map.1 ha
    rfl
  exact ⟨henabled, hfew, hturns, requests_agree henabled hfew hturns, by decide +kernel,
    by decide +kernel⟩

end StoredCall
