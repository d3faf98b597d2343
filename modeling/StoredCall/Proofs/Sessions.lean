import StoredCall.Proofs.CacheEntries
import StoredCall.SharedCache

/-!
# Sessions

Requests that use a shared cache at the same time, in the steps that no other request can divide: a
request looks its key up, compiles its call on a miss, and publishes what it has compiled.

* `SharedCache.turn`: the next step of a request;
* `SharedCache.Turned`: all that a turn can do on an enabled cache;
* `Session.act`, `Session.after`: the turns of all requests in any order, with calls taken out of
  the cache in between;
* `session_of_getOrCompile`: the turns of one request alone are `SharedCache.getOrCompile`.
-/

namespace StoredCall

/-! ### Requests -/

/-- How far a request has come. -/
inductive Phase
  | fresh
  /-- The cache was looked up in vain. -/
  | missed
  | compiled (call : CompiledCall)
  | answered (answer : Except CallError Issued)

namespace Phase

def isFresh : Phase → Bool
  | fresh => true
  | _ => false

def afterLookup : Option Issued → Phase
  | some c => answered (.ok c)
  | none => missed

def afterCompile : Except CallError CompiledCall → Phase
  | .ok call => compiled call
  | .error e => answered (.error e)

end Phase

/-- A request for the compiled call of a definition. -/
structure Request where
  call : CallDefinition
  phase : Phase := .fresh

def Request.key (r : Request) : CallKey := r.call.key

/-- The request at another phase. -/
def Request.reach (r : Request) (phase : Phase) : Request := { r with phase }

namespace SharedCache

variable (shared : SharedCache)

/-- The next step of a request. -/
def turn (source : MetadataSource) (r : Request) : Traced (Request × SharedCache) :=
  match r.phase with
  | .fresh => do
    let (found, next) ← shared.lookup r.key
    return (r.reach (.afterLookup found), next)
  | .missed => do
    let outcome ← (r.call.compile source).run
    return (r.reach (.afterCompile outcome), shared)
  | .compiled call => do
    let (c, next) ← shared.publish call
    return (r.reach (.answered (.ok c)), next)
  | .answered _ => return (r, shared)

/-- All that a turn of a request can do on an enabled cache. -/
inductive Turned (source : MetadataSource) (r : Request) : Request → SharedCache → Prop
  | hit (c : Issued) (phase : r.phase = .fresh) (found : shared.cache.peek? r.key = some c) :
      Turned source r (r.reach (.answered (.ok c)))
        { shared with cache := shared.cache.afterGet r.key }
  | miss (phase : r.phase = .fresh) (found : shared.cache.peek? r.key = none) :
      Turned source r (r.reach .missed) { shared with cache := shared.cache.afterGet r.key }
  | compiled (call : CompiledCall) (phase : r.phase = .missed)
      (outcome : (r.call.compile source).outcome = .ok call) :
      Turned source r (r.reach (.compiled call)) shared
  | failed (e : CallError) (phase : r.phase = .missed)
      (outcome : (r.call.compile source).outcome = .error e) :
      Turned source r (r.reach (.answered (.error e))) shared
  /-- Another request has published a call under the key. -/
  | joined (call : CompiledCall) (c : Issued) (phase : r.phase = .compiled call)
      (found : shared.cache.peek? call.definition.key = some c) :
      Turned source r (r.reach (.answered (.ok c))) { shared with issued := shared.issued + 1 }
  | stored (call : CompiledCall) (phase : r.phase = .compiled call)
      (found : shared.cache.peek? call.definition.key = none) :
      Turned source r (r.reach (.answered (.ok ⟨shared.issued, call⟩)))
        { shared with
          issued := shared.issued + 1
          cache := shared.cache.afterInsert ⟨shared.issued, call⟩ }
  | rested (answer : Except CallError Issued) (phase : r.phase = .answered answer) :
      Turned source r r shared

variable {shared} {source : MetadataSource} {r : Request}

theorem value_lookup {key : CallKey} (henabled : shared.enabled = true) :
    (shared.lookup key).value =
      (shared.cache.peek? key, { shared with cache := shared.cache.afterGet key }) := by
  rw [lookup, if_pos henabled]
  rfl

theorem publish_of_some {call : CompiledCall} {c : Issued} (henabled : shared.enabled = true)
    (h : shared.cache.peek? call.definition.key = some c) :
    shared.publish call = ⟨(c, { shared with issued := shared.issued + 1 }), []⟩ := by
  have hkey : Issued.key ⟨shared.issued, call⟩ = call.definition.key := rfl
  rw [publish, if_pos henabled]
  simp only [hkey, h]
  rfl

theorem publish_of_none {call : CompiledCall} (henabled : shared.enabled = true)
    (h : shared.cache.peek? call.definition.key = none) :
    shared.publish call =
      ⟨(⟨shared.issued, call⟩, { shared with
          issued := shared.issued + 1
          cache := shared.cache.afterInsert ⟨shared.issued, call⟩ }),
        [.callCached call.definition.key.name]⟩ := by
  have hkey : Issued.key ⟨shared.issued, call⟩ = call.definition.key := rfl
  rw [publish, if_pos henabled]
  simp only [hkey, h]
  rfl

/-- A turn does one of the listed things. -/
theorem turned (henabled : shared.enabled = true) (source : MetadataSource) (r : Request) :
    shared.Turned source r (shared.turn source r).value.1 (shared.turn source r).value.2 := by
  obtain ⟨call, phase⟩ := r
  cases phase with
  | fresh =>
    have hvalue : (shared.turn source ⟨call, .fresh⟩).value =
        (⟨call, .afterLookup (shared.cache.peek? call.key)⟩,
          { shared with cache := shared.cache.afterGet call.key }) := by
      rw [turn]
      simp only [Traced.value_bind, value_lookup henabled]
      rfl
    rw [hvalue]
    cases hpeek : shared.cache.peek? call.key with
    | some c => exact .hit c rfl hpeek
    | none => exact .miss rfl hpeek
  | missed =>
    have hvalue : (shared.turn source ⟨call, .missed⟩).value =
        (⟨call, .afterCompile (call.compile source).outcome⟩, shared) := rfl
    rw [hvalue]
    cases houtcome : (call.compile source).outcome with
    | ok c => exact .compiled c rfl houtcome
    | error e => exact .failed e rfl houtcome
  | compiled c =>
    have hvalue : (shared.turn source ⟨call, .compiled c⟩).value =
        (⟨call, .answered (.ok (shared.publish c).value.1)⟩, (shared.publish c).value.2) := rfl
    rw [hvalue]
    cases hpeek : shared.cache.peek? c.definition.key with
    | some c' =>
      rw [publish_of_some henabled hpeek]
      exact .joined c c' rfl hpeek
    | none =>
      rw [publish_of_none henabled hpeek]
      exact .stored c rfl hpeek
  | answered answer => exact .rested answer rfl

end SharedCache

/-! ### Sessions -/

/-- Requests that share a cache. -/
structure Session where
  shared : SharedCache
  requests : List Request

/-- What happens in one step of a session. -/
inductive Act
  /-- The request at a position takes its next turn, with what the source tells at that moment. -/
  | turn (i : ℕ) (source : MetadataSource)
  | invalidate (key : CallKey)
  | clear

def Act.isTurn : Act → Bool
  | turn .. => true
  | invalidate _ | clear => false

namespace Session

/-- The session after a step. -/
def act (s : Session) : Act → Session
  | .turn i source =>
    match s.requests[i]? with
    | some r =>
      let (r', shared) := (s.shared.turn source r).value
      { shared, requests := s.requests.set i r' }
    | none => s
  | .invalidate key => { s with shared := (s.shared.invalidate key).2 }
  | .clear => { s with shared := s.shared.clear.value }

/-- The session after some steps. -/
def after (s : Session) (acts : List Act) : Session := acts.foldl act s

/-- Requests that have not begun, with an empty cache. -/
def start (config : CacheConfig) (calls : List CallDefinition) : Session :=
  { shared := .ofConfig config, requests := calls.map fun call => { call } }

/-- The request at a position stands so. -/
abbrev At (s : Session) (i : ℕ) (r : Request) : Prop := s.requests[i]? = some r

/-- The request at a position is for the key, and it is answered with the call. -/
def Answers (s : Session) (i : ℕ) (key : CallKey) (c : Issued) : Prop :=
  ∃ r, s.At i r ∧ r.key = key ∧ r.phase = .answered (.ok c)

/-- The request at a position is answered with an error. -/
def Fails (s : Session) (i : ℕ) : Prop := ∃ r e, s.At i r ∧ r.phase = .answered (.error e)

section

variable {s : Session} {i j : ℕ} {source : MetadataSource} {r q : Request}

theorem act_turn_of_at (henabled : s.shared.enabled = true) (hr : s.At i r)
    (source : MetadataSource) :
    ∃ r' shared, s.shared.Turned source r r' shared ∧
      s.act (.turn i source) = ⟨shared, s.requests.set i r'⟩ := by
  refine ⟨_, _, SharedCache.turned henabled source r, ?_⟩
  rw [act, hr]

theorem act_turn_of_none (h : s.requests[i]? = none) (source : MetadataSource) :
    s.act (.turn i source) = s := by
  rw [act, h]

theorem act_of_answered {answer : Except CallError Issued} (hr : s.At i r)
    (hphase : r.phase = .answered answer) (a : Act) : (s.act a).At i r := by
  cases a with
  | invalidate | clear => exact hr
  | turn j source =>
    rw [act]
    split
    · rename_i q hq
      by_cases hij : j = i
      · obtain rfl := hij
        obtain rfl : q = r := Option.some.inj (hq.symm.trans hr)
        have hturn : (s.shared.turn source q).value.1 = q := by
          rw [SharedCache.turn, hphase]
          rfl
        exact (List.getElem?_set_self (List.getElem?_eq_some_iff.1 hr).1).trans
          (congrArg some hturn)
      · exact (List.getElem?_set_ne hij).trans hr
    · exact hr

theorem after_of_answered {answer : Except CallError Issued} (hr : s.At i r)
    (hphase : r.phase = .answered answer) (acts : List Act) : (s.after acts).At i r := by
  induction acts generalizing s with
  | nil => exact hr
  | cons a acts ih => exact ih (act_of_answered hr hphase a)

/-- A request after another has taken a turn is that one or was there before. -/
theorem getElem?_set_cases {requests : List Request} (h : (requests.set i r)[j]? = some q) :
    j = i ∧ q = r ∨ j ≠ i ∧ requests[j]? = some q := by
  rw [List.getElem?_set] at h
  split at h
  · rename_i hij
    split at h
    · exact Or.inl ⟨hij.symm, (Option.some.inj h).symm⟩
    · cases h
  · rename_i hij
    exact Or.inr ⟨fun hji => hij hji.symm, h⟩

end

theorem after_append (s : Session) (acts later : List Act) :
    s.after (acts ++ later) = (s.after acts).after later := List.foldl_append

theorem after_induction {P : Session → Prop} {Q : Act → Prop} {s : Session}
    (step : ∀ s a, Q a → P s → P (s.act a)) {acts : List Act} (hacts : ∀ a ∈ acts, Q a)
    (h : P s) : P (s.after acts) := by
  induction acts generalizing s with
  | nil => exact h
  | cons a acts ih =>
    obtain ⟨ha, hacts⟩ := List.forall_mem_cons.1 hacts
    exact ih hacts (step s a ha h)

end Session

/-! ### One request alone -/

section Alone

variable {shared next : SharedCache} {call : CallDefinition} {source : MetadataSource}

theorem outcome_compile_eq (call : CallDefinition) (source : MetadataSource) :
    (call.compile source).outcome =
      call.beginCompile.outcome.bind fun _ => (call.finishCompile source).outcome := by
  rw [CallDefinition.compile, Attempt.outcome_bind]

/-- A request that finds a call is answered with it. -/
theorem SharedCache.getOrCompile_of_hit {c : Issued} (source : MetadataSource)
    (h : (shared.lookup call.key).value = (some c, next)) :
    (shared.getOrCompile call source).value.1 = .ok c ∧
      (shared.getOrCompile call source).value.2.1 = next := by
  simp only [getOrCompile, enter, Traced.value_bind, h]
  exact ⟨rfl, rfl⟩

theorem SharedCache.settle_waiting :
    (next.settle source (.waiting call)).value =
      match (call.finishCompile source).outcome with
      | .ok c => (.ok (next.publish c).value.1, (next.publish c).value.2, call.sourceAfter source)
      | .error e => (.error e, next, call.sourceAfter source) := by
  have houtcome : (call.finishCompile source).outcome =
      (call.finishCompile source).run.value := rfl
  simp only [settle, Traced.value_bind, houtcome]
  cases (call.finishCompile source).run.value <;> rfl

/-- A request that finds no call compiles one, and publishes it unless that fails. -/
theorem SharedCache.getOrCompile_of_miss (source : MetadataSource)
    (h : (shared.lookup call.key).value = (none, next)) :
    ((shared.getOrCompile call source).value.1, (shared.getOrCompile call source).value.2.1) =
      match (call.compile source).outcome with
      | .ok c => (.ok (next.publish c).value.1, (next.publish c).value.2)
      | .error e => (.error e, next) := by
  rw [outcome_compile_eq]
  have hbegins : call.beginCompile.outcome = call.beginCompile.run.value := rfl
  simp only [getOrCompile, enter, Traced.value_bind, h, hbegins]
  cases call.beginCompile.run.value with
  | error e => rfl
  | ok u =>
    simp only [Traced.value_pure, settle_waiting, Except.bind]
    cases (call.finishCompile source).outcome <;> rfl

theorem Session.act_singleton (shared : SharedCache) (r : Request) (source : MetadataSource) :
    (Session.mk shared [r]).act (.turn 0 source) =
      ⟨(shared.turn source r).value.2, [(shared.turn source r).value.1]⟩ := rfl

/-- The turns of one request alone answer what the cache answers to its definition, and leave the
cache in the same state. -/
theorem session_of_getOrCompile (shared : SharedCache) (call : CallDefinition)
    (source : MetadataSource) :
    (Session.mk shared [{ call }]).after (List.replicate 3 (.turn 0 source)) =
      ⟨(shared.getOrCompile call source).value.2.1,
        [⟨call, .answered (shared.getOrCompile call source).value.1⟩]⟩ := by
  have hthree : ∀ s : Session, s.after (List.replicate 3 (.turn 0 source)) =
      ((s.act (.turn 0 source)).act (.turn 0 source)).act (.turn 0 source) := fun _ => rfl
  rw [hthree]
  rcases hlookup : (shared.lookup call.key).value with ⟨found, next⟩
  have hfirst : (Session.mk shared [{ call }]).act (.turn 0 source) =
      ⟨next, [⟨call, .afterLookup found⟩]⟩ := by
    have hkey : Request.key { call } = call.key := rfl
    rw [Session.act_singleton, SharedCache.turn]
    simp only [Traced.value_bind, hkey, hlookup]
    rfl
  rw [hfirst]
  cases found with
  | some c =>
    obtain ⟨hanswer, hshared⟩ := SharedCache.getOrCompile_of_hit source hlookup
    rw [hanswer, hshared]
    rfl
  | none =>
    have hdone := SharedCache.getOrCompile_of_miss source hlookup
    have hsecond : (Session.mk next [⟨call, .missed⟩]).act (.turn 0 source) =
        ⟨next, [⟨call, .afterCompile (call.compile source).outcome⟩]⟩ := rfl
    rw [Phase.afterLookup, hsecond]
    cases houtcome : (call.compile source).outcome with
    | ok c =>
      rw [houtcome] at hdone
      obtain ⟨hanswer, hshared⟩ := Prod.mk.inj hdone
      rw [hanswer, hshared]
      rfl
    | error e =>
      rw [houtcome] at hdone
      obtain ⟨hanswer, hshared⟩ := Prod.mk.inj hdone
      rw [hanswer, hshared]
      rfl

end Alone

end StoredCall
