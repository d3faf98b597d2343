import Mathlib.Data.List.Induction
import StoredCall.Proofs.SharedAgreement

/-!
# Calls that are dropped

Calls can be taken out of a shared cache while requests are under way, and a request that has
compiled publishes its call all the same. So what is held under a key was stored after the key was
last dropped, but it may have been compiled before.

* `Act.drops`: the steps that drop the call of a key;
* `Session.Missed`, `Session.Compiled`, `Session.Stored`: how a request came to miss, to compile and
  to store its call, step by step;
* `Session.Accounted`: requests and calls have come to be what they are in this way, which every
  step keeps;
* `after_drops`: what is held under a key was stored after each drop, by a request that looked up
  after it unless it was in flight;
* `stale_after_drop`: a call that was compiled before it could be dropped, and is found after.
-/

namespace StoredCall

/-- Whether a step drops the call of a key. -/
def Act.drops (key : CallKey) : Act → Bool
  | .turn .. => false
  | .invalidate key' => key' = key
  | .clear => true

/-! ### One step -/

namespace SharedCache.Turned

variable {shared shared' : SharedCache} {source : MetadataSource} {r r' : Request} {key : CallKey}
  {c : Issued}

theorem of_missed (h : shared.Turned source r r' shared') (hphase : r'.phase = .missed) :
    r.phase = .fresh := by
  cases h with
  | miss phase => exact phase
  | rested answer phase =>
    rw [phase] at hphase
    cases hphase
  | _ => cases hphase

theorem of_compiled {compiled : CompiledCall} (h : shared.Turned source r r' shared')
    (hphase : r'.phase = .compiled compiled) :
    r.phase = .missed ∧ (r.call.compile source).outcome = .ok compiled := by
  cases h with
  | compiled call phase outcome =>
    obtain rfl : call = compiled := Phase.compiled.inj hphase
    exact ⟨phase, outcome⟩
  | rested answer phase =>
    rw [phase] at hphase
    cases hphase
  | _ => cases hphase

/-- What is held after a turn was held before, or the request has stored what it had compiled. -/
theorem mem_entries_cases (h : shared.Turned source r r' shared')
    (hmem : (key, c) ∈ shared'.cache.entries) :
    (key, c) ∈ shared.cache.entries ∨
      r.phase = .compiled c.call ∧ c.call.definition.key = key ∧ shared.cache.peek? key = none ∧
        shared'.cache.peek? key = some c := by
  cases h with
  | hit | miss => exact Or.inl (CallCache.mem_entries_of_afterGet hmem)
  | stored call phase found =>
    rcases CallCache.mem_entries_of_afterInsert hmem with heq | hold
    · obtain ⟨rfl, rfl⟩ := Prod.mk.inj heq
      exact Or.inr ⟨phase, rfl, found, CallCache.peek?_afterInsert_self⟩
    · exact Or.inl hold
  | _ => exact Or.inl hmem

end SharedCache.Turned

theorem SharedCache.mem_entries_of_lookup {shared : SharedCache} {key : CallKey} {c : Issued}
    (h : (shared.lookup key).value.1 = some c) : (key, c) ∈ shared.cache.entries := by
  cases henabled : shared.enabled with
  | true =>
    rw [value_lookup henabled] at h
    exact CallCache.mem_of_peek?_eq_some h
  | false =>
    rw [lookup, henabled] at h
    cases h

theorem SharedCache.cache_turn_of_disabled {shared : SharedCache}
    (hdisabled : shared.enabled = false) (source : MetadataSource) (r : Request) :
    (shared.turn source r).value.2.enabled = false ∧
      (shared.turn source r).value.2.cache = shared.cache := by
  obtain ⟨call, phase⟩ := r
  cases phase with
  | fresh =>
    simp only [turn, lookup, hdisabled, Bool.false_eq_true, if_false, Traced.value_bind]
    exact ⟨hdisabled, rfl⟩
  | compiled compiled =>
    simp only [turn, publish, hdisabled, Bool.false_eq_true, if_false, Traced.value_bind]
    exact ⟨rfl, rfl⟩
  | missed | answered => exact ⟨hdisabled, rfl⟩

namespace Session

variable {s : Session} {acts : List Act} {a : Act} {i l m k : ℕ} {r : Request}
  {call : CallDefinition} {compiled : CompiledCall} {key : CallKey} {c : Issued}

theorem enabled_act (henabled : s.shared.enabled = true) (a : Act) :
    (s.act a).shared.enabled = true := by
  cases a with
  | invalidate | clear => exact henabled
  | turn i source =>
    cases hr : s.requests[i]? with
    | none => rwa [act_turn_of_none hr]
    | some r =>
      obtain ⟨r', shared, hturned, heq⟩ := act_turn_of_at henabled hr source
      rw [heq]
      exact hturned.enabled_eq.trans henabled

/-- A request after a step stood so before, or it has taken its turn. -/
theorem at_act_cases (henabled : s.shared.enabled = true) (hr : (s.act a).At i r) :
    s.At i r ∨ ∃ source q, a = .turn i source ∧ s.At i q ∧
      s.shared.Turned source q r (s.act a).shared := by
  cases a with
  | invalidate | clear => exact Or.inl hr
  | turn j source =>
    cases hq : s.requests[j]? with
    | none =>
      rw [act_turn_of_none hq] at hr
      exact Or.inl hr
    | some q =>
      obtain ⟨q', shared, hturned, heq⟩ := act_turn_of_at henabled hq source
      rw [heq] at hr
      rcases getElem?_set_cases hr with ⟨rfl, rfl⟩ | ⟨-, hr⟩
      · exact Or.inr ⟨source, q, rfl, hq, heq ▸ hturned⟩
      · exact Or.inl hr

/-- What is held after a step was held before and is not dropped by the step, or a request has
stored what it had compiled. -/
theorem mem_entries_act_cases (henabled : s.shared.enabled = true)
    (hmem : (key, c) ∈ (s.act a).shared.cache.entries) :
    (key, c) ∈ s.shared.cache.entries ∧ a.drops key = false ∨
      ∃ i source q, a = .turn i source ∧ s.At i q ∧ q.phase = .compiled c.call ∧
        c.call.definition.key = key ∧ s.shared.cache.peek? key = none ∧
          (s.act a).shared.cache.peek? key = some c := by
  cases a with
  | clear => exact absurd hmem List.not_mem_nil
  | invalidate key' =>
    obtain ⟨hmem, hne⟩ := CallCache.mem_others.1 hmem
    exact Or.inl ⟨hmem, decide_eq_false (Ne.symm hne)⟩
  | turn i source =>
    cases hq : s.requests[i]? with
    | none =>
      rw [act_turn_of_none hq] at hmem
      exact Or.inl ⟨hmem, rfl⟩
    | some q =>
      obtain ⟨q', shared, hturned, heq⟩ := act_turn_of_at henabled hq source
      rw [heq] at hmem ⊢
      rcases hturned.mem_entries_cases hmem with hold | ⟨hphase, hkey, habsent, hpresent⟩
      · exact Or.inl ⟨hold, rfl⟩
      · exact Or.inr ⟨i, source, q, rfl, hq, hphase, hkey, habsent, hpresent⟩

/-! ### Stages of a session -/

/-- The session before the step at a position. -/
def stage (s : Session) (acts : List Act) (k : ℕ) : Session := s.after (acts.take k)

/-- The request at a position stands so in the stages from `l` to `k`. -/
def Stands (s : Session) (acts : List Act) (i : ℕ) (r : Request) (l k : ℕ) : Prop :=
  ∀ d, l ≤ d → d ≤ k → (s.stage acts d).At i r

theorem stage_length (s : Session) (acts : List Act) : s.stage acts acts.length = s.after acts := by
  rw [stage, List.take_length]

theorem after_concat (s : Session) (acts : List Act) (a : Act) :
    s.after (acts ++ [a]) = (s.after acts).act a := by
  rw [after_append]
  rfl

theorem stage_concat (a : Act) (hk : k ≤ acts.length) :
    s.stage (acts ++ [a]) k = s.stage acts k := by
  rw [stage, List.take_append_of_le_length hk, stage]

theorem stage_concat_succ (s : Session) (acts : List Act) (a : Act) :
    s.stage (acts ++ [a]) (acts.length + 1) = (s.after acts).act a := by
  rw [stage, List.take_of_length_le (by simp), after_concat]

theorem Stands.concat (h : s.Stands acts i r l k) (a : Act) (hk : k ≤ acts.length) :
    s.Stands (acts ++ [a]) i r l k := by
  intro d hld hd
  rw [stage_concat a (hd.trans hk)]
  exact h d hld hd

theorem stands_last (hr : ((s.after acts).act a).At i r) :
    s.Stands (acts ++ [a]) i r (acts.length + 1) (acts.length + 1) := by
  intro d hd hd'
  obtain rfl : d = acts.length + 1 := le_antisymm hd' hd
  rwa [stage_concat_succ]

theorem Stands.stay (h : s.Stands acts i r l acts.length) (hr : ((s.after acts).act a).At i r) :
    s.Stands (acts ++ [a]) i r l (acts.length + 1) := by
  intro d hld hd
  rcases hd.eq_or_lt with rfl | hlt
  · rwa [stage_concat_succ]
  · exact h.concat a le_rfl d hld (Nat.le_of_lt_succ hlt)

theorem getElem?_concat_cases {b : Act} {d : ℕ} (h : (acts ++ [a])[d]? = some b) :
    acts[d]? = some b ∨ d = acts.length ∧ a = b := by
  rcases Nat.lt_trichotomy d acts.length with hd | rfl | hd
  · exact Or.inl ((List.getElem?_append_left hd).symm.trans h)
  · exact Or.inr ⟨rfl, Option.some.inj (List.getElem?_concat_length.symm.trans h)⟩
  · rw [List.getElem?_eq_none (by rw [List.length_append]; exact hd)] at h
    cases h

/-! ### The course of a request -/

/-- The request at a position has looked its key up in vain in step `l`, and has not gone on until
stage `k`. -/
structure Missed (s : Session) (acts : List Act) (i : ℕ) (call : CallDefinition) (l k : ℕ) :
    Prop where
  looked_up : l < k
  fresh : s.Stands acts i ⟨call, .fresh⟩ 0 l
  missed : s.Stands acts i ⟨call, .missed⟩ (l + 1) k

/-- After a miss it has compiled its call in step `m`, and has not gone on until stage `k`. -/
structure Compiled (s : Session) (acts : List Act) (i : ℕ) (compiled : CompiledCall) (l m k : ℕ) :
    Prop extends s.Missed acts i compiled.definition l m where
  compiles : m < k
  told : ∃ source, acts[m]? = some (.turn i source) ∧
    (compiled.definition.compile source).outcome = .ok compiled
  waiting : s.Stands acts i ⟨compiled.definition, .compiled compiled⟩ (m + 1) k

/-- After that it has stored its call under the key in step `k`. -/
structure Stored (s : Session) (acts : List Act) (i : ℕ) (key : CallKey) (c : Issued)
    (l m k : ℕ) : Prop extends s.Compiled acts i c.call l m k where
  stores : k < acts.length
  key_eq : c.call.definition.key = key
  absent : (s.stage acts k).shared.cache.peek? key = none
  present : (s.stage acts (k + 1)).shared.cache.peek? key = some c

/-- The request at a position is for the key, and has missed but not yet published a call. -/
def InFlight (s : Session) (i : ℕ) (key : CallKey) : Prop :=
  ∃ r, s.At i r ∧ r.key = key ∧ (r.phase = .missed ∨ ∃ call, r.phase = .compiled call)

theorem Missed.concat (h : s.Missed acts i call l k) (a : Act) (hk : k ≤ acts.length) :
    s.Missed (acts ++ [a]) i call l k where
  looked_up := h.looked_up
  fresh := h.fresh.concat a (h.looked_up.le.trans hk)
  missed := h.missed.concat a hk

theorem Missed.stay (h : s.Missed acts i call l acts.length)
    (hr : ((s.after acts).act a).At i ⟨call, .missed⟩) :
    s.Missed (acts ++ [a]) i call l (acts.length + 1) where
  looked_up := Nat.lt_succ_of_lt h.looked_up
  fresh := h.fresh.concat a h.looked_up.le
  missed := h.missed.stay hr

theorem Compiled.concat (h : s.Compiled acts i compiled l m k) (a : Act) (hk : k ≤ acts.length) :
    s.Compiled (acts ++ [a]) i compiled l m k where
  toMissed := h.toMissed.concat a (h.compiles.le.trans hk)
  compiles := h.compiles
  told := by
    obtain ⟨source, hm, houtcome⟩ := h.told
    exact ⟨source, (List.getElem?_append_left (h.compiles.trans_le hk)).trans hm, houtcome⟩
  waiting := h.waiting.concat a hk

theorem Compiled.stay (h : s.Compiled acts i compiled l m acts.length)
    (hr : ((s.after acts).act a).At i ⟨compiled.definition, .compiled compiled⟩) :
    s.Compiled (acts ++ [a]) i compiled l m (acts.length + 1) where
  toMissed := h.toMissed.concat a h.compiles.le
  compiles := Nat.lt_succ_of_lt h.compiles
  told := (h.concat a le_rfl).told
  waiting := h.waiting.stay hr

theorem Stored.concat (h : s.Stored acts i key c l m k) (a : Act) :
    s.Stored (acts ++ [a]) i key c l m k where
  toCompiled := h.toCompiled.concat a h.stores.le
  stores := by
    rw [List.length_append]
    exact Nat.lt_add_right _ h.stores
  key_eq := h.key_eq
  absent := by
    rw [stage_concat a h.stores.le]
    exact h.absent
  present := by
    rw [stage_concat a h.stores]
    exact h.present

theorem Stored.inFlight {d : ℕ} (h : s.Stored acts i key c l m k) (hl : l < d) (hk : d ≤ k) :
    (s.stage acts d).InFlight i key := by
  rcases Nat.lt_or_ge m d with hm | hm
  · exact ⟨_, h.waiting d hm hk, h.key_eq, Or.inr ⟨c.call, rfl⟩⟩
  · exact ⟨_, h.missed d hl hm, h.key_eq, Or.inl rfl⟩

/-! ### All requests and calls -/

/-- The steps account for how far each request has come and for each call that is held. -/
structure Accounted (s : Session) (acts : List Act) : Prop where
  enabled : (s.after acts).shared.enabled = true
  fresh : ∀ i call, (s.after acts).At i ⟨call, .fresh⟩ →
    s.Stands acts i ⟨call, .fresh⟩ 0 acts.length
  missed : ∀ i call, (s.after acts).At i ⟨call, .missed⟩ → ∃ l, s.Missed acts i call l acts.length
  compiled : ∀ i call compiled, (s.after acts).At i ⟨call, .compiled compiled⟩ →
    compiled.definition = call ∧ ∃ l m, s.Compiled acts i compiled l m acts.length
  held : ∀ key c, (key, c) ∈ (s.after acts).shared.cache.entries →
    ∃ i l m k, s.Stored acts i key c l m k ∧
      ∀ d a, acts[d]? = some a → a.drops key = true → d < k

theorem accounted_start {config : CacheConfig} (henabled : config.enabled = true)
    (calls : List CallDefinition) : (start config calls).Accounted [] := by
  have hfresh : ∀ i r, (start config calls).At i r → r.phase = .fresh := by
    intro i r hr
    obtain ⟨call, -, rfl⟩ := List.mem_map.1 (List.mem_of_getElem? hr)
    rfl
  constructor
  case enabled => exact henabled
  case fresh =>
    intro i call hr d _ hd
    obtain rfl : d = 0 := Nat.le_zero.1 hd
    exact hr
  case missed => exact fun i call hr => absurd (hfresh i _ hr) (by rintro ⟨⟩)
  case compiled => exact fun i call compiled hr => absurd (hfresh i _ hr) (by rintro ⟨⟩)
  case held => exact fun key c hmem => absurd hmem List.not_mem_nil

theorem Accounted.concat (h : s.Accounted acts) (a : Act) : s.Accounted (acts ++ [a]) := by
  have hlength : (acts ++ [a]).length = acts.length + 1 := by simp
  have hcases : ∀ {i r}, (s.after (acts ++ [a])).At i r → (s.after acts).At i r ∨
      ∃ source q, a = .turn i source ∧ (s.after acts).At i q ∧
        (s.after acts).shared.Turned source q r ((s.after acts).act a).shared := by
    intro i r hr
    rw [after_concat] at hr
    exact at_act_cases h.enabled hr
  constructor
  case enabled =>
    rw [after_concat]
    exact enabled_act h.enabled a
  case fresh =>
    intro i call hr
    rw [hlength]
    rcases hcases hr with hold | ⟨source, q, rfl, hq, hturned⟩
    · exact (h.fresh i call hold).stay (after_concat s acts a ▸ hr)
    · cases hturned.isFresh_eq_false
  case missed =>
    intro i call hr
    rw [hlength]
    rcases hcases hr with hold | ⟨source, ⟨call', phase⟩, rfl, hq, hturned⟩
    · obtain ⟨l, hl⟩ := h.missed i call hold
      exact ⟨l, hl.stay (after_concat s acts a ▸ hr)⟩
    · obtain rfl : call = call' := hturned.call_eq
      obtain rfl : phase = .fresh := hturned.of_missed rfl
      exact ⟨acts.length,
        { looked_up := Nat.lt_succ_self _
          fresh := (h.fresh i call hq).concat _ le_rfl
          missed := stands_last (after_concat s acts _ ▸ hr) }⟩
  case compiled =>
    intro i call compiled hr
    rw [hlength]
    rcases hcases hr with hold | ⟨source, ⟨call', phase⟩, rfl, hq, hturned⟩
    · obtain ⟨rfl, l, m, hm⟩ := h.compiled i call compiled hold
      exact ⟨rfl, l, m, hm.stay (after_concat s acts a ▸ hr)⟩
    · obtain rfl : call = call' := hturned.call_eq
      obtain ⟨rfl, houtcome⟩ := hturned.of_compiled rfl
      obtain rfl : compiled.definition = call := CallDefinition.definition_of_compile houtcome
      obtain ⟨l, hl⟩ := h.missed i _ hq
      exact ⟨rfl, l, acts.length,
        { toMissed := hl.concat _ le_rfl
          compiles := Nat.lt_succ_self _
          told := ⟨source, List.getElem?_concat_length, houtcome⟩
          waiting := stands_last (after_concat s acts _ ▸ hr) }⟩
  case held =>
    intro key c hmem
    rw [after_concat] at hmem
    rcases mem_entries_act_cases h.enabled hmem with
      ⟨hold, hkept⟩ | ⟨i, source, ⟨call, phase⟩, rfl, hq, rfl, hkey, habsent, hpresent⟩
    · obtain ⟨i, l, m, k, hstored, hdrops⟩ := h.held key c hold
      refine ⟨i, l, m, k, hstored.concat a, fun d b hb hdrop => ?_⟩
      rcases getElem?_concat_cases hb with hb | ⟨rfl, rfl⟩
      · exact hdrops d b hb hdrop
      · rw [hkept] at hdrop
        cases hdrop
    · obtain ⟨rfl, l, m, hm⟩ := h.compiled i call c.call hq
      refine ⟨i, l, m, acts.length,
        { toCompiled := hm.concat _ le_rfl
          stores := by simp
          key_eq := hkey
          absent := ?_
          present := ?_ }, fun d b hb hdrop => ?_⟩
      · rwa [stage_concat _ le_rfl, stage_length]
      · rwa [stage_concat_succ]
      · -- a turn drops nothing
        rcases getElem?_concat_cases hb with hb | ⟨rfl, rfl⟩
        · exact (List.getElem?_eq_some_iff.1 hb).1
        · cases hdrop

theorem accounted_after {config : CacheConfig} (henabled : config.enabled = true)
    (calls : List CallDefinition) (acts : List Act) : (start config calls).Accounted acts := by
  induction acts using List.reverseRecOn with
  | nil => exact accounted_start henabled calls
  | append_singleton acts a ih => exact ih.concat a

theorem entries_after_of_disabled {config : CacheConfig} (hdisabled : config.enabled = false)
    (calls : List CallDefinition) (acts : List Act) :
    ((start config calls).after acts).shared.cache.entries = [] := by
  have hkept : ((start config calls).after acts).shared.enabled = false ∧
      ((start config calls).after acts).shared.cache.entries = [] := by
    refine after_induction (P := fun s => s.shared.enabled = false ∧ s.shared.cache.entries = [])
      (Q := fun _ => True) ?_ (fun _ _ => trivial) ⟨hdisabled, rfl⟩
    rintro s a - ⟨hoff, hempty⟩
    cases a with
    | clear => exact ⟨hoff, rfl⟩
    | invalidate key =>
      refine ⟨hoff, ?_⟩
      show (s.shared.cache.others key) = []
      rw [CallCache.others, hempty, List.filter_nil]
    | turn i source =>
      cases hr : s.requests[i]? with
      | none =>
        rw [act_turn_of_none hr]
        exact ⟨hoff, hempty⟩
      | some r =>
        have hact : (s.act (.turn i source)).shared = (s.shared.turn source r).value.2 := by
          rw [act, hr]
        obtain ⟨hstill, hcache⟩ := SharedCache.cache_turn_of_disabled hoff source r
        rw [hact, hcache]
        exact ⟨hstill, hempty⟩
  exact hkept.2

/-- What is held under a key was stored by a request in one of the steps, after each drop of the
key. -/
theorem exists_stored {config : CacheConfig} {calls : List CallDefinition}
    (hmem : (key, c) ∈ ((start config calls).after acts).shared.cache.entries) :
    ∃ i l m k, (start config calls).Stored acts i key c l m k ∧
      ∀ d a, acts[d]? = some a → a.drops key = true → d < k := by
  cases hconfig : config.enabled with
  | true => exact (accounted_after hconfig calls acts).held key c hmem
  | false =>
    rw [entries_after_of_disabled hconfig] at hmem
    exact absurd hmem List.not_mem_nil

/-! ### Drops -/

/-- What the steps of a session have done to the calls that they drop. -/
structure AfterDrops (s : Session) (acts : List Act) : Prop where
  /-- A further drop leaves no call of its key. -/
  gone : ∀ a key, a.drops key = true → key ∉ ((s.after acts).act a).shared.cache.keys
  /-- A look-up finds nothing but what is held. -/
  found : ∀ key c, ((s.after acts).shared.lookup key).value.1 = some c →
    (key, c) ∈ (s.after acts).shared.cache.entries
  /-- What is held under a key was stored after each drop of the key. The request that stored it had
  compiled before the drop only if it was about to publish then, and had looked up before the drop
  only if it was in flight then. -/
  stored : ∀ key c, (key, c) ∈ (s.after acts).shared.cache.entries →
    ∃ i l m k, s.Stored acts i key c l m k ∧
      ∀ d a, acts[d]? = some a → a.drops key = true →
        d < k ∧
        (m < d → (s.stage acts d).At i ⟨c.call.definition, .compiled c.call⟩) ∧
        (l < d → (s.stage acts d).InFlight i key)

end Session

/-- Whatever the order of the turns and drops, what a cache holds under a key was stored after the
key was last dropped. -/
theorem after_drops (config : CacheConfig) (calls : List CallDefinition) (acts : List Act) :
    (Session.start config calls).AfterDrops acts := by
  constructor
  case gone =>
    intro a key hdrops hmem
    obtain ⟨⟨_, c⟩, hentry, rfl⟩ := List.mem_map.1 hmem
    cases a with
    | turn i source => cases hdrops
    | clear => cases hentry
    | invalidate key' => exact (CallCache.mem_others.1 hentry).2 (of_decide_eq_true hdrops).symm
  case found => exact fun key c hfound => SharedCache.mem_entries_of_lookup hfound
  case stored =>
    intro key c hmem
    obtain ⟨i, l, m, k, hstored, hdrops⟩ := Session.exists_stored hmem
    refine ⟨i, l, m, k, hstored, fun d a ha hdrop => ?_⟩
    have hd : d < k := hdrops d a ha hdrop
    exact ⟨hd, fun hm => hstored.waiting d hm hd.le, fun hl => hstored.inFlight hl hd.le⟩

/-- A request compiles, the database changes, the call is dropped, and then the request stores
it. -/
theorem stale_after_drop :
    let call : CallDefinition := { config := { CallConfig.procedure "p" with useColumns := false } }
    let old : MetadataSource := { info := (DatabaseInfo.ofProduct "MySQL").storingUpper }
    let new : MetadataSource := { info := DatabaseInfo.ofProduct "MySQL" }
    ∀ drop ∈ [Act.clear, .invalidate call.key],
      let acts := [.turn 0 old, .turn 0 old, drop, .turn 0 new]
      let s := (Session.start (.ofCapacity 1) [call]).after acts
      drop.drops call.key = true ∧
        (s.shared.lookup call.key).value.1.map (·.call.text) = some "\x7bcall P()\x7d" ∧
        (call.compile new).outcome.map (·.text) = .ok "\x7bcall p()\x7d" := by
  intro call old new drop hdrop
  rcases List.mem_cons.1 hdrop with rfl | hdrop
  · exact ⟨rfl, by decide +kernel, by decide +kernel⟩
  · obtain rfl := List.mem_singleton.1 hdrop
    exact ⟨by decide +kernel, by decide +kernel, by decide +kernel⟩

end StoredCall
