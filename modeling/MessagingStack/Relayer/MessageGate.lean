import MessagingStack.Base.Runs
import MessagingStack.Relayer.Messages

/-!
# The caches of the message gate

`services/message_gate.rs`: follow edges and paid-messaging policies are looked up at the
social server and kept for `cache_ttl`; checkpoint events write the caches directly, so that a
lookup does not bring back an answer from before the event.

`Sound` is the invariant of a cache: an entry is as new as every event of its key that was applied
in the `cache_ttl` before it was written.  It is kept as long as each answer of the social server
is that new when it arrives (`ArrivesCurrent`), and then every answer of a lookup is
(`Sound.answer`).
-/

namespace MessagingStack.Relayer.MessageGate

/-! ## The caches -/

structure CacheEntry (α : Type) where
  value : α
  insertedAt : Nat
  deriving DecidableEq

/-- `Arc<RwLock<HashMap<K, CacheEntry<T>>>>`. -/
structure Cache (κ α : Type) where
  poisoned : Bool
  entries : OrderedMap κ (CacheEntry α)

/-- The configuration of the service. -/
structure Config where
  enabled : Bool
  baseUrl : Option String
  cacheTtl : Nat
  cacheMaxEntries : Nat

def Config.isEnabled (config : Config) : Bool := config.enabled && config.baseUrl.isSome

section Caches

variable {κ α : Type} [DecidableEq κ]

/-- The entry has outlived the time to live. -/
def CacheEntry.expired (entry : CacheEntry α) (now ttl : Nat) : Bool :=
  decide (ttl < now - entry.insertedAt)

def readCache (cache : Cache κ α) (now ttl : Nat) (key : κ) : Option α :=
  if cache.poisoned then none
  else
    match cache.entries.get key with
    | none => none
    | some entry => if entry.expired now ttl then none else some entry.value

def makeRoom (entries : OrderedMap κ (CacheEntry α)) (now ttl maxEntries : Nat) :
    OrderedMap κ (CacheEntry α) :=
  if maxEntries ≤ entries.entries.length then
    let live := entries.filterValues fun entry => !entry.expired now ttl
    if maxEntries ≤ live.entries.length then .empty else live
  else entries

def writeCache (cache : Cache κ α) (now ttl maxEntries : Nat) (key : κ) (value : α) :
    Cache κ α :=
  if cache.poisoned then cache
  else
    { cache with
      entries := (makeRoom cache.entries now ttl maxEntries).insert key
        { value := value, insertedAt := now } }

variable {now ttl : Nat} {key : κ} {maxEntries : Nat} {entry : CacheEntry α} {cache : Cache κ α}
  {value : α}

theorem get_makeRoom_of_some {entries : OrderedMap κ (CacheEntry α)}
    (found : (makeRoom entries now ttl maxEntries).get key = some entry) :
    entries.get key = some entry := by
  unfold makeRoom at found
  dsimp only at found
  split_ifs at found
  · cases found
  · exact OrderedMap.get_filterValues_of_some found
  · exact found

theorem get_writeCache {wanted : κ}
    (found : (writeCache cache now ttl maxEntries key value).entries.get wanted = some entry)
    (sound : cache.poisoned = false) :
    (wanted = key ∧ entry = { value := value, insertedAt := now }) ∨
      (wanted ≠ key ∧ cache.entries.get wanted = some entry) := by
  unfold writeCache at found
  rw [if_neg (by rw [sound]; exact Bool.false_ne_true), OrderedMap.get_insert] at found
  split_ifs at found with same
  · exact .inl ⟨same, (Option.some.inj found).symm⟩
  · exact .inr ⟨same, get_makeRoom_of_some found⟩

/-- What a lookup finds is an entry within its time to live. -/
theorem readCache_eq_some (found : readCache cache now ttl key = some value) :
    cache.poisoned = false ∧ ∃ entry, cache.entries.get key = some entry ∧
      entry.value = value ∧ now - entry.insertedAt ≤ ttl := by
  unfold readCache at found
  split_ifs at found with isPoisoned
  refine ⟨by simpa using isPoisoned, ?_⟩
  cases isEntry : cache.entries.get key with
  | none => cases isEntry ▸ found
  | some entry =>
    rw [isEntry] at found
    simp only at found
    split_ifs at found with isExpired
    refine ⟨entry, rfl, Option.some.inj found, ?_⟩
    simpa [CacheEntry.expired] using isExpired

end Caches

/-! ## The answers of the social server -/

inductive MessageGateError where
  | notConfigured
  | http (reason : String)
  | invalidResponse (reason : String)
  deriving DecidableEq

/-- What the HTTP request comes back with. -/
inductive HttpResponse where
  | failed (reason : String)
  | response (status : Nat) (body : Option Json)

def isSuccess (status : Nat) : Bool := 200 ≤ status && status < 300

/-- The body of a successful response. -/
def HttpResponse.json : HttpResponse → Except MessageGateError Json
  | .failed reason => .error (.http reason)
  | .response status body =>
    if !isSuccess status then .error (.http ("social server returned " ++ toString status))
    else
      match body with
      | none => .error (.http "error decoding response body")
      | some value => .ok value

def parseFollowing (response : HttpResponse) : Except MessageGateError Bool := do
  let body ← response.json
  match body.get "is_following" with
  | some (.bool following) => return following
  | _ => .error (.invalidResponse "missing is_following field")

def parsePolicy (response : HttpResponse) : Except MessageGateError (Option PaidPolicy) :=
  match response with
  | .response 404 _ => .ok none
  | response => do
    let body ← response.json
    match body.get "enabled" with
    | some (.bool enabled) =>
      match body.get "min_cost" with
      | none | some .null => return some { enabled := enabled, minCost := none }
      | some (.num cost) =>
        if 0 ≤ cost ∧ cost < 2 ^ 64 then
          return some { enabled := enabled, minCost := some cost.toNat }
        else .error (.invalidResponse "min_cost is not a non-negative integer")
      | some _ => .error (.invalidResponse "min_cost is not a non-negative integer")
    | _ => .error (.invalidResponse "missing enabled field")

/-! ## One cache and what goes on around it -/

/-- A chain event that the checkpoint sync has applied. -/
structure Applied (κ : Type) where
  key : κ
  /-- The place of the event among those of its key. -/
  version : Nat
  time : Nat
  deriving DecidableEq

/-- A cache, the values the chain has given its keys, the events applied to it and the lookups
that wait for the social server. -/
structure Gate (κ α : Type) where
  cache : Cache κ α
  /-- Oldest first; the first value is the one before any event. -/
  history : κ → List α
  applied : List (Applied κ)
  waiting : List κ

inductive Action (κ α : Type) where
  /-- The chain gives a key another value. -/
  | commit (key : κ) (value : α)
  /-- The checkpoint sync applies the next event of a key. -/
  | apply (key : κ)
  /-- A lookup reads the cache, and asks the social server if it has to. -/
  | lookup (key : κ)
  /-- The lookup at this place gets its response. -/
  | respond (index : Nat) (response : HttpResponse)
  | evict (key : κ)
  /-- A thread panics while it holds the lock. -/
  | poison

section Gates

variable {κ α : Type} [DecidableEq κ]

namespace Gate

def start (initial : α) : Gate κ α where
  cache := { poisoned := false, entries := .empty }
  history := fun _ => [initial]
  applied := []
  waiting := []

def nextVersion (gate : Gate κ α) (key : κ) : Nat :=
  (gate.applied.filter fun event => event.key = key).length + 1

/-- What the social server answers to a lookup, with the key it is for. -/
def served (parse : HttpResponse → Except MessageGateError α) (gate : Gate κ α) :
    Action κ α → Option (κ × α)
  | .respond index response =>
    match gate.waiting[index]?, parse response with
    | some key, .ok value => some (key, value)
    | _, _ => none
  | _ => none

/-- The answer that an action gives to a lookup: of the cache, or of the server. -/
def answer (config : Config) (parse : HttpResponse → Except MessageGateError α) (now : Nat)
    (gate : Gate κ α) : Action κ α → Option (κ × α)
  | .lookup key =>
    if config.isEnabled then
      (readCache gate.cache now config.cacheTtl key).map fun value => (key, value)
    else none
  | action => gate.served parse action

/-- One step around a cache. -/
def step (config : Config) (parse : HttpResponse → Except MessageGateError α) (now : Nat)
    (gate : Gate κ α) : Action κ α → Gate κ α
  | .commit key value =>
    { gate with history := Function.update gate.history key (gate.history key ++ [value]) }
  -- `apply_follow_update` and `apply_policy_update`
  | .apply key =>
    match (gate.history key)[gate.nextVersion key]? with
    | none => gate
    | some value =>
      { gate with
        cache := writeCache gate.cache now config.cacheTtl config.cacheMaxEntries key value
        applied := { key := key, version := gate.nextVersion key, time := now } :: gate.applied }
  -- `is_following` and `paid_policy` up to the request
  | .lookup key =>
    if config.isEnabled then
      match readCache gate.cache now config.cacheTtl key with
      | some _ => gate
      | none => { gate with waiting := gate.waiting ++ [key] }
    else gate
  -- and from the response on
  | .respond index response =>
    match gate.waiting[index]? with
    | none => gate
    | some key =>
      match parse response with
      | .error _ => { gate with waiting := gate.waiting.eraseIdx index }
      | .ok value =>
        { gate with
          waiting := gate.waiting.eraseIdx index
          cache := writeCache gate.cache now config.cacheTtl config.cacheMaxEntries key value }
  | .evict key => { gate with cache := { gate.cache with entries := gate.cache.entries.erase key } }
  | .poison => { gate with cache := { gate.cache with poisoned := true } }

end Gate

/-! ### Answers that are not older than an event -/

def AsNewAs (history : List α) (version : Nat) (value : α) : Prop :=
  ∃ later, version ≤ later ∧ history[later]? = some value

/-- An answer is as new as every event of its key that was applied in the last `cache_ttl`. -/
def NotOlder (config : Config) (now : Nat) (gate : Gate κ α) (key : κ) (value : α) : Prop :=
  ∀ event ∈ gate.applied, event.key = key → now ≤ event.time + config.cacheTtl →
    AsNewAs (gate.history key) event.version value

/-- The social server answers with a value that the chain gave the key. -/
def Honest (parse : HttpResponse → Except MessageGateError α) (gate : Gate κ α)
    (action : Action κ α) : Prop :=
  ∀ answer ∈ gate.served parse action, answer.2 ∈ gate.history answer.1

/-- The condition on a run: what the social server answers is not older, when it arrives, than
an event applied in the last `cache_ttl`. -/
def ArrivesCurrent (config : Config) (parse : HttpResponse → Except MessageGateError α)
    (now : Nat) (gate : Gate κ α) (action : Action κ α) : Prop :=
  ∀ answer ∈ gate.served parse action, NotOlder config now gate answer.1 answer.2

/-- **The invariant of a cache.** -/
structure Sound (config : Config) (now : Nat) (gate : Gate κ α) : Prop where
  applied : ∀ event ∈ gate.applied, event.version < gate.nextVersion event.key
  entry : gate.cache.poisoned = false →
    ∀ key entry, gate.cache.entries.get key = some entry → entry.insertedAt ≤ now ∧
      ∃ version, (gate.history key)[version]? = some entry.value ∧
        ∀ event ∈ gate.applied, event.key = key →
          entry.insertedAt ≤ event.time + config.cacheTtl → event.version ≤ version

section Steps

variable {config : Config} {parse : HttpResponse → Except MessageGateError α} {now : Nat}
  {gate : Gate κ α} {action : Action κ α}

variable {value : α} {key : κ}

omit [DecidableEq κ] in
theorem exists_version {history : List α} {events : List (Applied κ)} (isValue : value ∈ history)
    (asNew : ∀ event ∈ events, AsNewAs history event.version value) :
    ∃ version, history[version]? = some value ∧ ∀ event ∈ events, event.version ≤ version := by
  induction events with
  | nil =>
    obtain ⟨version, isAt⟩ := List.mem_iff_getElem?.mp isValue
    exact ⟨version, isAt, fun _ isIn => absurd isIn (List.not_mem_nil)⟩
  | cons event rest ih =>
    obtain ⟨version, isAt, above⟩ := ih fun other isIn => asNew other (List.mem_cons_of_mem _ isIn)
    obtain ⟨later, after, isLater⟩ := asNew event List.mem_cons_self
    -- the later of the two versions
    rcases Nat.le_total version later with below | below
    · refine ⟨later, isLater, fun other isIn => ?_⟩
      rcases List.mem_cons.mp isIn with rfl | isRest
      · exact after
      · exact (above other isRest).trans below
    refine ⟨version, isAt, fun other isIn => ?_⟩
    rcases List.mem_cons.mp isIn with rfl | isRest
    · exact after.trans below
    · exact above other isRest

section

variable (sound : Sound config now gate)
include sound

/-- **A lookup that the cache answers.** -/
theorem Sound.read (found : readCache gate.cache now config.cacheTtl key = some value) :
    NotOlder config now gate key value := by
  obtain ⟨isSound, entry, isEntry, rfl, live⟩ := readCache_eq_some found
  obtain ⟨past, version, isValue, above⟩ := sound.entry isSound key entry isEntry
  intro event isApplied isKey recent
  exact ⟨version, above event isApplied isKey (by omega), isValue⟩

theorem Sound.answer (arrives : ArrivesCurrent config parse now gate action)
    (answered : gate.answer config parse now action = some (key, value)) :
    NotOlder config now gate key value := by
  cases action with
  | lookup =>
    unfold Gate.answer at answered
    split_ifs at answered
    obtain ⟨found, isFound, same⟩ := Option.map_eq_some_iff.mp answered
    cases same
    exact sound.read isFound
  | respond => exact arrives (key, value) answered
  | commit | apply | evict | poison => cases answered

/-- The clock goes on. -/
theorem Sound.later {next : Nat} (after : now ≤ next) :
    Sound config next gate where
  applied := sound.applied
  entry := fun isSound key entry isEntry =>
    have ⟨past, current⟩ := sound.entry isSound key entry isEntry
    ⟨past.trans after, current⟩

theorem Sound.write (isValue : value ∈ gate.history key)
    (notOlder : NotOlder config now gate key value) (waiting : List κ) :
    Sound config now { gate with
      waiting := waiting
      cache := writeCache gate.cache now config.cacheTtl config.cacheMaxEntries key value } where
  applied := sound.applied
  entry := by
    intro isSound wanted entry isEntry
    have wasSound : gate.cache.poisoned = false := by
      unfold writeCache at isSound
      split_ifs at isSound with isPoisoned
      · exact isSound
      · exact isSound
    rcases get_writeCache isEntry wasSound with ⟨rfl, rfl⟩ | ⟨-, wasEntry⟩
    · have asNew : ∀ event ∈ gate.applied.filter (fun event =>
          event.key = wanted ∧ now ≤ event.time + config.cacheTtl),
          AsNewAs (gate.history wanted) event.version value := by
        intro event isIn
        obtain ⟨isApplied, isKey, recent⟩ := by simpa using isIn
        exact notOlder event isApplied isKey recent
      obtain ⟨version, isAt, above⟩ := exists_version isValue asNew
      refine ⟨le_rfl, version, isAt, fun event isApplied isKey recent => above event ?_⟩
      exact List.mem_filter.mpr ⟨isApplied, decide_eq_true ⟨isKey, recent⟩⟩
    · exact sound.entry wasSound wanted entry wasEntry

/-- The chain goes on. -/
theorem Sound.commit (key : κ) (value : α) :
    Sound config now { gate with
      history := Function.update gate.history key (gate.history key ++ [value]) } where
  applied := sound.applied
  entry := by
    intro isSound wanted entry isEntry
    obtain ⟨past, version, isValue, above⟩ := sound.entry isSound wanted entry isEntry
    refine ⟨past, version, ?_, above⟩
    dsimp only
    by_cases same : wanted = key
    · subst same
      obtain ⟨short, -⟩ := List.getElem?_eq_some_iff.mp isValue
      rw [Function.update_self, List.getElem?_append_left short]
      exact isValue
    · rw [Function.update_of_ne same]
      exact isValue

theorem Sound.apply (isNext : (gate.history key)[gate.nextVersion key]? = some value) :
    Sound config now { gate with
      cache := writeCache gate.cache now config.cacheTtl config.cacheMaxEntries key value
      applied := { key := key, version := gate.nextVersion key, time := now } ::
        gate.applied } where
  applied := by
    intro event isIn
    rcases List.mem_cons.mp isIn with rfl | isIn
    · simp [Gate.nextVersion]
    have before := sound.applied event isIn
    unfold Gate.nextVersion at before ⊢
    rw [List.filter_cons]
    split_ifs
    · rw [List.length_cons]
      omega
    · exact before
  entry := by
    intro isSound wanted entry isEntry
    have wasSound : gate.cache.poisoned = false := by
      unfold writeCache at isSound
      split_ifs at isSound with isPoisoned
      · exact isSound
      · exact isSound
    rcases get_writeCache isEntry wasSound with ⟨rfl, rfl⟩ | ⟨other, wasEntry⟩
    · refine ⟨le_rfl, _, isNext, fun event isIn isKey _ => ?_⟩
      rcases List.mem_cons.mp isIn with rfl | isIn
      · exact le_rfl
      · have before := sound.applied event isIn
        rw [isKey] at before
        exact before.le
    obtain ⟨past, version, isValue, above⟩ := sound.entry wasSound wanted entry wasEntry
    refine ⟨past, version, isValue, fun event isIn isKey recent => ?_⟩
    rcases List.mem_cons.mp isIn with rfl | isIn
    · exact absurd isKey.symm other
    · exact above event isIn isKey recent

theorem Sound.step (honest : Honest parse gate action)
    (arrives : ArrivesCurrent config parse now gate action) :
    Sound config now (gate.step config parse now action) := by
  cases action with
  | commit key value => exact sound.commit key value
  | apply key =>
    cases isNext : (gate.history key)[gate.nextVersion key]? with
    | none =>
      simp only [Gate.step, isNext]
      exact sound
    | some =>
      simp only [Gate.step, isNext]
      exact sound.apply isNext
  | lookup key =>
    simp only [Gate.step]
    split_ifs
    · cases readCache gate.cache now config.cacheTtl key with
      | none => exact ⟨sound.applied, sound.entry⟩
      | some => exact sound
    · exact sound
  | respond index response =>
    cases isWaiting : gate.waiting[index]? with
    | none =>
      simp only [Gate.step, isWaiting]
      exact sound
    | some key =>
      cases parsed : parse response with
      | error =>
        simp only [Gate.step, isWaiting, parsed]
        exact ⟨sound.applied, sound.entry⟩
      | ok value =>
        have isServed : gate.served parse (.respond index response) = some (key, value) := by
          simp only [Gate.served, isWaiting, parsed]
        simp only [Gate.step, isWaiting, parsed]
        exact sound.write (honest _ isServed) (arrives _ isServed) _
  | evict key =>
    refine ⟨sound.applied, fun isSound wanted entry isEntry => sound.entry isSound wanted entry ?_⟩
    have isEntry : (gate.cache.entries.erase key).get wanted = some entry := isEntry
    rw [OrderedMap.get_erase] at isEntry
    split_ifs at isEntry
    exact isEntry
  | poison => exact ⟨sound.applied, fun isSound => by cases isSound⟩

end

end Steps

end Gates

/-! ## The service -/

/-- The service with its two caches. -/
structure State where
  now : Nat
  follow : Gate (String × String) Bool
  policy : Gate String (Option PaidPolicy)

inductive Input where
  | follow (action : Action (String × String) Bool)
  | policy (action : Action String (Option PaidPolicy))
  | tick (elapsed : Nat)

def step (config : Config) (state : State) : Input → State
  | .follow action =>
    { state with follow := state.follow.step config parseFollowing state.now action }
  | .policy action => { state with policy := state.policy.step config parsePolicy state.now action }
  | .tick elapsed => { state with now := state.now + elapsed }

/-- Nobody follows anybody, and no wallet has a policy. -/
def start : State where
  now := 0
  follow := .start false
  policy := .start none

def reached (config : Config) (inputs : List Input) : State := inputs.foldl (step config) start

/-- The social server answers with values the chain had. -/
def ServerHonest (state : State) : Input → Prop
  | .follow action => Honest parseFollowing state.follow action
  | .policy action => Honest parsePolicy state.policy action
  | .tick _ => True

instance (state : State) : ∀ input, Decidable (ServerHonest state input)
  | .follow action => inferInstanceAs (Decidable (∀ answer ∈ state.follow.served parseFollowing
      action, answer.2 ∈ state.follow.history answer.1))
  | .policy action => inferInstanceAs (Decidable (∀ answer ∈ state.policy.served parsePolicy
      action, answer.2 ∈ state.policy.history answer.1))
  | .tick _ => .isTrue trivial

/-- No answer of the social server is older, when it arrives, than an event of its key that was
applied in the last `cache_ttl`. -/
def ServerCurrent (config : Config) (state : State) : Input → Prop
  | .follow action => ArrivesCurrent config parseFollowing state.now state.follow action
  | .policy action => ArrivesCurrent config parsePolicy state.now state.policy action
  | .tick _ => True

/-- An answer of `is_following` or `paid_policy`, if the input gives one, is not older than an
event of its key that was applied in the last `cache_ttl`. -/
def AnswersCurrent (config : Config) (state : State) : Input → Prop
  | .follow action => ∀ key value,
    state.follow.answer config parseFollowing state.now action = some (key, value) →
      NotOlder config state.now state.follow key value
  | .policy action => ∀ key value,
    state.policy.answer config parsePolicy state.now action = some (key, value) →
      NotOlder config state.now state.policy key value
  | .tick _ => True

def SoundState (config : Config) (state : State) : Prop :=
  Sound config state.now state.follow ∧ Sound config state.now state.policy

theorem sound_start {κ α : Type} [DecidableEq κ] (config : Config) (now : Nat) (initial : α) :
    Sound config now (Gate.start initial : Gate κ α) where
  applied := fun _ isIn => absurd isIn List.not_mem_nil
  entry := fun _ _ _ isEntry => by cases isEntry

variable {config : Config} {state : State} {input : Input}

theorem SoundState.step (sound : SoundState config state) (honest : ServerHonest state input)
    (arrives : ServerCurrent config state input) :
    SoundState config (step config state input) := by
  cases input with
  | follow => exact ⟨sound.1.step honest arrives, sound.2⟩
  | policy => exact ⟨sound.1, sound.2.step honest arrives⟩
  | tick => exact ⟨sound.1.later (Nat.le_add_right _ _), sound.2.later (Nat.le_add_right _ _)⟩

theorem SoundState.answers (sound : SoundState config state)
    (arrives : ServerCurrent config state input) :
    AnswersCurrent config state input := by
  cases input with
  | follow => exact fun key value answered => sound.1.answer arrives answered
  | policy => exact fun key value answered => sound.2.answer arrives answered
  | tick => trivial

theorem answer_of_served {κ α : Type} [DecidableEq κ]
    {parse : HttpResponse → Except MessageGateError α} {now : Nat} {gate : Gate κ α}
    {action : Action κ α} {answer : κ × α} (isServed : gate.served parse action = some answer) :
    gate.answer config parse now action = some answer := by
  cases action with
  | respond => exact isServed
  | commit | apply | lookup | evict | poison => cases isServed

theorem serverCurrent_of_answersCurrent (current : AnswersCurrent config state input) :
    ServerCurrent config state input := by
  cases input with
  | follow | policy => exact fun answer isServed => current _ _ (answer_of_served isServed)
  | tick => trivial

/-- **Answers that are not older than the chain events.**  With an honest social server, all
answers of all lookups of a run are as new as the events applied in the `cache_ttl` before them,
exactly if what the social server answers is when it arrives. -/
theorem answers_current_iff_server_current (config : Config) (inputs : List Input)
    (honest : Along (step config) ServerHonest start inputs) :
    (∀ before input after, inputs = before ++ input :: after →
        AnswersCurrent config (reached config before) input) ↔
      Along (step config) (ServerCurrent config) start inputs := by
  constructor
  · intro current
    by_contra fails
    obtain ⟨before, input, after, rfl, -, isBad⟩ := Along.exists_first_failure fails
    exact isBad (serverCurrent_of_answersCurrent (current before input after rfl))
  rintro arrives before input after rfl
  have sound : SoundState config start := ⟨sound_start config 0 false, sound_start config 0 none⟩
  have preserved : ∀ state input, SoundState config state →
      ServerHonest state input ∧ ServerCurrent config state input →
      SoundState config (step config state input) :=
    fun state input sound good => sound.step good.1 good.2
  obtain ⟨soundBefore, -, isCurrent⟩ := Along.at_step preserved (honest.and arrives) sound
  exact soundBefore.answers isCurrent

/-! ### A lookup that an event overtakes -/

def sampleConfig : Config where
  enabled := true
  baseUrl := some "http://social"
  cacheTtl := 60
  cacheMaxEntries := 100

/-- The social server says that the wallet follows. -/
def followsResponse : HttpResponse := .response 200 (some (.obj [("is_following", .bool true)]))

/-- `0xa` follows `0xb`.  While a lookup waits for the answer, `0xa` stops following, and the
sync applies the event; then the answer of before arrives. -/
def overtaken : List Input :=
  [.follow (.commit ("0xa", "0xb") true), .follow (.apply ("0xa", "0xb")), .tick 100,
    .follow (.lookup ("0xa", "0xb")), .follow (.commit ("0xa", "0xb") false),
    .follow (.apply ("0xa", "0xb")), .tick 1, .follow (.respond 0 followsResponse), .tick 1]

/-- **The stale answer comes back.**  A lookup one second after the event was applied finds the
answer of before it in the cache. -/
theorem overtaken_lookup_is_stale :
    Along (step sampleConfig) ServerHonest start overtaken ∧
      ¬AnswersCurrent sampleConfig (reached sampleConfig overtaken)
        (.follow (.lookup ("0xa", "0xb"))) := by
  refine ⟨by decide +kernel, fun current => ?_⟩
  have answered : (reached sampleConfig overtaken).follow.answer sampleConfig parseFollowing
      (reached sampleConfig overtaken).now (.lookup ("0xa", "0xb")) =
        some (("0xa", "0xb"), true) := by decide +kernel
  have applied : (⟨("0xa", "0xb"), 2, 100⟩ : Applied (String × String)) ∈
      (reached sampleConfig overtaken).follow.applied := by decide +kernel
  have recent : (reached sampleConfig overtaken).now ≤ 100 + sampleConfig.cacheTtl := by
    decide +kernel
  have history : (reached sampleConfig overtaken).follow.history ("0xa", "0xb") =
      [false, true, false] := by decide +kernel
  obtain ⟨later, after, isTrue⟩ := current _ _ answered _ applied rfl recent
  rw [history] at isTrue
  have isLast : later = 2 := by
    obtain ⟨short, -⟩ := List.getElem?_eq_some_iff.mp isTrue
    have isShort : later < 3 := short
    have isAfter : 2 ≤ later := after
    omega
  subst isLast
  cases isTrue

/-- In the other order the lookup is told what the event said. -/
theorem current_lookup :
    AnswersCurrent sampleConfig (reached sampleConfig [.follow (.commit ("0xa", "0xb") true),
      .follow (.lookup ("0xa", "0xb")), .follow (.apply ("0xa", "0xb"))])
      (.follow (.respond 0 followsResponse)) := by
  have honest : Along (step sampleConfig) ServerHonest start
      [.follow (.commit ("0xa", "0xb") true), .follow (.lookup ("0xa", "0xb")),
        .follow (.apply ("0xa", "0xb")), .follow (.respond 0 followsResponse)] := by
    decide +kernel
  refine (answers_current_iff_server_current sampleConfig _ honest).mpr ?_
    [.follow (.commit ("0xa", "0xb") true), .follow (.lookup ("0xa", "0xb")),
      .follow (.apply ("0xa", "0xb"))] _ [] rfl
  refine ⟨fun _ none => (by cases none), fun _ none => (by cases none),
    fun _ none => (by cases none), ?_, trivial⟩
  intro answer isServed event isApplied isKey recent
  obtain rfl : (("0xa", "0xb"), true) = answer := Option.some.inj isServed
  obtain rfl : event = ⟨("0xa", "0xb"), 1, 0⟩ := List.mem_singleton.mp isApplied
  exact ⟨1, le_rfl, rfl⟩

end MessagingStack.Relayer.MessageGate
