import MessagingStack.Sdk.EnvelopeEncryption

/-!
# Cached keys and the history of a group

The history of a group only grows, so a key loaded from an index stays the key of that index.  A key
that a client made itself is cached under the version the client expects before its transaction
runs, and `rotate_key` appends whatever comes.  In runs that keep to `Settled` every key used is the
one of its index (`uses_agree`); `retried_rotation_disagrees` is a run that does not.
-/

namespace MessagingStack.Sdk.Envelope

open Contract

/-! ## The history only grows -/

section History

variable {namespace_ : Namespace} {chain after : Chain} {sender : Address} {request : Call}

def newKey : Call → Option (String × List UInt8)
  | .createAndShareGroup _ _ uuid encryptedDek _ => some (uuid, encryptedDek)
  | .createAgentAndShareGroup _ _ _ _ uuid encryptedDek _ => some (uuid, encryptedDek)
  | .rotateEncryptionKey _ historyUuid encryptedDek => some (historyUuid, encryptedDek)
  | _ => none

theorem keeps_encryptedKeys (returned : chain.perform namespace_ sender request = .ok after)
    (historyUuid : String) :
    encryptedKeys chain historyUuid <+: encryptedKeys after historyUuid := by
  cases Chain.Change.of_perform returned with
  | created uuid group history newGroup newHistory | rotated uuid _ _ newHistory =>
    simp only [encryptedKeys, OrderedMap.get_insert]
    by_cases own : historyUuid = uuid
    · simp [own, newHistory]
    · simp [own]
  | group | social | paid => exact List.prefix_rfl

theorem encryptedKeys_share {uuid : String} {group : Group} {historyUuids logUuids : List String}
    {encryptedDek : List UInt8} {created : Created}
    (attached : attachObjects historyUuids logUuids group uuid encryptedDek = .ok created)
    (returned : chain.share uuid created = .ok after) :
    encryptedKeys after uuid = encryptedKeys chain uuid ++ [encryptedDek] := by
  obtain rfl := attachObjects_ok attached
  simp only [Chain.share, Move.bind_ok, Table.add_ok, Move.pure_ok] at returned
  obtain ⟨_, -, _, ⟨newHistory, rfl⟩, _, -, rfl⟩ := returned
  simp [encryptedKeys, newHistory]

/-- A call that is to store a key puts it behind the others. -/
theorem encryptedKeys_newKey (returned : chain.perform namespace_ sender request = .ok after)
    {historyUuid : String} {encryptedDek : List UInt8}
    (brings : newKey request = some (historyUuid, encryptedDek)) :
    encryptedKeys after historyUuid = encryptedKeys chain historyUuid ++ [encryptedDek] := by
  cases request with
  | createAndShareGroup =>
    cases brings
    simp only [Chain.perform, createAndShareGroup, createGroupInner, Move.bind_ok] at returned
    obtain ⟨created, ⟨-, -, -, -, -, -, -, -, -, -, -, -, -, -, -, -, metadata, -, -, -, marked, -,
      group, -, attached⟩, shared⟩ := returned
    exact encryptedKeys_share attached shared
  | createAgentAndShareGroup =>
    cases brings
    simp only [Chain.perform, createAgentAndShareGroup, Move.bind_ok] at returned
    obtain ⟨created, ⟨-, -, -, -, -, -, -, -, -, -, -, -, -, -, -, -, -, -, metadata, -, -, -,
      tagged, -, marked, -, group, -, -, -, revoked, -, attached⟩, shared⟩ := returned
    exact encryptedKeys_share attached shared
  | rotateEncryptionKey =>
    cases brings
    simp only [Chain.perform, rotateEncryptionKey, Move.bind_ok, Table.borrow_ok, Move.within_ok,
      Move.pure_ok] at returned
    obtain ⟨group, -, history, found, rotated, ⟨-, -, -, -, -, -, -, -, rotates⟩, rfl⟩ := returned
    rw [EncryptionHistory.rotateKey_ok rotates]
    simp [encryptedKeys, found]
  | _ => cases brings

end History

/-! ## Where the keys are -/

section Keys

variable (mydata : MyData) (state : State)

def StoredAt (chain : Chain) (historyUuid : String) (keyVersion : Nat) (dek : Dek) : Prop :=
  ∃ encryptedDek, (encryptedKeys chain historyUuid)[keyVersion]? = some encryptedDek ∧
    mydata.decrypt encryptedDek = some dek

/-- A key comes from where its source says. -/
def Provided (keyVersion : Nat) (dek : Dek) : Source → Prop
  | .loaded historyUuid => StoredAt mydata state.chain historyUuid keyVersion dek
  | .generated id => ∃ attempt, state.attempts[id]? = some attempt ∧
      attempt.keyVersion = keyVersion ∧ attempt.dek = dek

/-- **A key may be used** for a version of a history: it was loaded from this history, or it
is of an attempt on it which, once the version is on the chain, has landed at that index. -/
def Settled (historyUuid : String) (keyVersion : Nat) : Source → Prop
  | .loaded source => source = historyUuid
  | .generated id => ∀ attempt ∈ state.attempts[id]?, attempt.historyUuid = historyUuid ∧
      (keyVersion < (encryptedKeys state.chain historyUuid).length → keyVersion ∈ attempt.landed)

instance (historyUuid : String) (keyVersion : Nat) :
    (source : Source) → Decidable (Settled state historyUuid keyVersion source)
  | .loaded source => inferInstanceAs (Decidable (source = historyUuid))
  | .generated id => inferInstanceAs (Decidable (∀ attempt ∈ state.attempts[id]?, _ ∧ (_ → _)))

/-- The attempts carry the encryptions of their keys, and those that landed are where they
say. -/
structure Attempted (chain : Chain) (attempt : Attempt) : Prop where
  brings : newKey attempt.call = some (attempt.historyUuid, attempt.encryptedDek)
  decrypts : mydata.decrypt attempt.encryptedDek = some attempt.dek
  landed : ∀ index ∈ attempt.landed,
    (encryptedKeys chain attempt.historyUuid)[index]? = some attempt.encryptedDek

/-- What is true of every state of a run that keeps to the condition. -/
structure Sound : Prop where
  attempts : ∀ attempt ∈ state.attempts, Attempted mydata state.chain attempt
  cached : ∀ client key entry dek source,
    (state.clients client).entries.get key = some entry → entry.value = .ready dek source →
      Provided mydata state key.2 dek source
  used : ∀ use ∈ state.uses, Provided mydata state use.keyVersion use.dek use.source
  settled : ∀ use ∈ state.uses, Settled state use.historyUuid use.keyVersion use.source

end Keys

section Agreement

variable {mydata : MyData} {state : State}

theorem Sound.agrees (sound : Sound mydata state) {use : Use} (isUse : use ∈ state.uses) :
    StoredAt mydata state.chain use.historyUuid use.keyVersion use.dek ∨
      (encryptedKeys state.chain use.historyUuid).length ≤ use.keyVersion ∧
      ∃ id attempt, use.source = .generated id ∧ state.attempts[id]? = some attempt ∧
        attempt.dek = use.dek ∧ use.keyVersion ∉ attempt.landed := by
  have provided := sound.used use isUse
  have settled := sound.settled use isUse
  cases source : use.source with
  | loaded historyUuid =>
    rw [source] at provided settled
    obtain rfl : historyUuid = use.historyUuid := settled
    exact .inl provided
  | generated id =>
    rw [source] at provided settled
    obtain ⟨attempt, found, sameVersion, sameKey⟩ := provided
    obtain ⟨sameHistory, lands⟩ := settled attempt found
    have attempted := sound.attempts attempt (List.mem_of_getElem? found)
    by_cases exists_ : use.keyVersion < (encryptedKeys state.chain use.historyUuid).length
    · have stored := attempted.landed use.keyVersion (lands exists_)
      rw [sameHistory] at stored
      exact .inl ⟨attempt.encryptedDek, stored, by rw [attempted.decrypts, sameKey]⟩
    refine .inr ⟨not_lt.mp exists_, id, attempt, rfl, found, sameKey, fun isLanded => ?_⟩
    have stored := attempted.landed use.keyVersion isLanded
    rw [sameHistory] at stored
    exact exists_ (List.getElem?_eq_some_iff.mp stored).1

end Agreement

/-! ## Growing states -/

theorem getElem?_of_prefix {α : Type} {short long : List α} (isPrefix : short <+: long)
    {index : Nat} {element : α} (found : short[index]? = some element) :
    long[index]? = some element := by
  obtain ⟨rest, rfl⟩ := isPrefix
  rw [List.getElem?_append_left (List.getElem?_eq_some_iff.mp found).1]
  exact found

/-- Nothing is taken away: histories and attempts stay what they were. -/
structure Extends (before after : State) : Prop where
  keys : ∀ historyUuid,
    encryptedKeys before.chain historyUuid <+: encryptedKeys after.chain historyUuid
  attempts : ∀ (id : Nat) attempt, before.attempts[id]? = some attempt →
    ∃ landed, after.attempts[id]? = some { attempt with landed }

section Extends

variable {mydata : MyData} {before after : State}

theorem Extends.storedAt (grows : Extends before after) {historyUuid : String} {keyVersion : Nat}
    {dek : Dek} (stored : StoredAt mydata before.chain historyUuid keyVersion dek) :
    StoredAt mydata after.chain historyUuid keyVersion dek := by
  obtain ⟨encryptedDek, found, decrypts⟩ := stored
  exact ⟨encryptedDek, getElem?_of_prefix (grows.keys historyUuid) found, decrypts⟩

theorem Extends.provided (grows : Extends before after) {keyVersion : Nat} {dek : Dek}
    {source : Source} (provided : Provided mydata before keyVersion dek source) :
    Provided mydata after keyVersion dek source := by
  cases source with
  | loaded => exact grows.storedAt provided
  | generated id =>
    obtain ⟨attempt, found, sameVersion, sameKey⟩ := provided
    obtain ⟨landed, foundAfter⟩ := grows.attempts id attempt found
    exact ⟨_, foundAfter, sameVersion, sameKey⟩

end Extends

/-! ## Steps that leave the chain alone -/

section Steps

variable {mydata : MyData} {state : State}

theorem Sound.onClient (sound : Sound mydata state) (client : Nat)
    {change : DekCache → DekCache}
    (provided : ∀ key entry dek source,
      (change (state.clients client)).entries.get key = some entry →
        entry.value = .ready dek source →
        (state.clients client).entries.get key = some entry ∨
          Provided mydata state key.2 dek source) :
    Sound mydata (state.onClient client change) where
  attempts := sound.attempts
  cached := by
    intro other key entry dek source found isReady
    simp only [State.onClient] at found
    split at found
    · next same =>
      subst same
      rcases provided key entry dek source found isReady with old | made
      · exact sound.cached other key entry dek source old isReady
      · exact made
    · exact sound.cached other key entry dek source found isReady
  used := sound.used
  settled := sound.settled

variable {cache : DekCache} {key : Address × Nat} {now : Nat} {wanted : Address × Nat}
  {entry : TtlEntry} {value : Entry} {dek : Dek} {source : Source}

theorem get_set (found : (cache.set now key value).entries.get wanted = some entry) :
    wanted = key ∧ entry.value = value ∨ cache.entries.get wanted = some entry := by
  simp only [DekCache.set, OrderedMap.get_insert] at found
  split at found
  · next same =>
    cases found
    exact .inl ⟨same, rfl⟩
  · exact .inr found

theorem get_put (found : (cache.put now key dek source).entries.get wanted = some entry) :
    wanted = key ∧ entry.value = .ready dek source ∨ cache.entries.get wanted = some entry := by
  unfold DekCache.put at found
  split at found
  · exact .inr found
  · exact get_set found

theorem get_delete (found : (cache.delete key).entries.get wanted = some entry) :
    cache.entries.get wanted = some entry := by
  simp only [DekCache.delete, OrderedMap.get_erase] at found
  split at found
  · cases found
  · exact found

theorem entries_of_get (found : cache.get now key = some value) :
    ∃ entry, cache.entries.get key = some entry ∧ entry.value = value := by
  unfold DekCache.get at found
  split at found
  · cases found
  next entry isEntry =>
  split at found
  · cases found
  · exact ⟨entry, isEntry, Option.some.inj found⟩

theorem extends_attempts (state : State) (attempt : Attempt) :
    Extends state { state with attempts := state.attempts ++ [attempt] } :=
  ⟨fun _ => List.prefix_rfl, fun _ old found =>
    ⟨old.landed, getElem?_of_prefix (List.prefix_append _ _) found⟩⟩

theorem Settled.append_attempt {historyUuid : String} {keyVersion : Nat} (attempt : Attempt)
    (provided : Provided mydata state keyVersion dek source)
    (settled : Settled state historyUuid keyVersion source) :
    Settled { state with attempts := state.attempts ++ [attempt] } historyUuid keyVersion
      source := by
  cases source with
  | loaded => exact settled
  | generated id =>
    obtain ⟨old, found, -⟩ := provided
    intro other isOther
    have same : (state.attempts ++ [attempt])[id]? = some old :=
      getElem?_of_prefix (List.prefix_append _ _) found
    obtain rfl : old = other := Option.some.inj (same.symm.trans isOther)
    exact settled old found

/-- **Making a key**: the attempt carries its encryption, and the cache holds it. -/
theorem Sound.generateDek (sound : Sound mydata state) (client : Nat) (groupId : Address)
    (historyUuid : String) (keyVersion : Nat) (dek : Dek) (seed : Nat)
    (call : List UInt8 → Call)
    (brings : ∀ encryptedDek, newKey (call encryptedDek) = some (historyUuid, encryptedDek)) :
    Sound mydata
      (state.generateDek mydata client groupId historyUuid keyVersion dek seed call) := by
  set attempt : Attempt :=
    { groupId, historyUuid, keyVersion, dek,
      encryptedDek := mydata.encrypt groupId keyVersion dek seed,
      call := call (mydata.encrypt groupId keyVersion dek seed), landed := [] } with isAttempt
  set next : State := { state with attempts := state.attempts ++ [attempt] } with isNext
  have grows : Extends state next := extends_attempts state attempt
  have soundNext : Sound mydata next := by
    constructor
    case attempts =>
      intro other isOther
      rcases List.mem_append.mp isOther with old | isNew
      · exact sound.attempts other old
      · obtain rfl : other = attempt := List.mem_singleton.mp isNew
        exact ⟨brings _, mydata.decrypt_encrypt _ _ _ _, by rintro index ⟨⟩⟩
    case cached =>
      intro other key entry found source isEntry isReady
      exact grows.provided (sound.cached other key entry found source isEntry isReady)
    case used => exact fun use isUse => grows.provided (sound.used use isUse)
    case settled =>
      exact fun use isUse => (sound.settled use isUse).append_attempt attempt (sound.used use isUse)
  show Sound mydata (next.onClient client fun cache =>
    cache.put state.now (groupId, keyVersion) dek (.generated state.attempts.length))
  refine soundNext.onClient client fun key entry found source isEntry isReady => ?_
  rcases get_put isEntry with ⟨rfl, isNew⟩ | old
  · cases isReady ▸ isNew
    exact .inr ⟨attempt, by simp [isNext], rfl, rfl⟩
  · exact .inl old

/-- **Using a key** that the cache holds: the condition is asked for here. -/
theorem Sound.resolveDek (sound : Sound mydata state) (request : DekResolution)
    (settled : ∀ dek source,
      (state.clients request.client).get state.now request.cacheKey =
        some (.ready dek source) → Settled state request.historyUuid request.keyVersion source) :
    Sound mydata (state.resolveDek request) := by
  unfold State.resolveDek
  split
  · next dek source found =>
    obtain ⟨entry, isEntry, isReady⟩ := entries_of_get found
    refine ⟨sound.attempts, sound.cached, ?_, ?_⟩
    · intro use isUse
      rcases List.mem_cons.mp isUse with rfl | old
      · exact sound.cached request.client _ entry dek source isEntry isReady
      · exact sound.used use old
    intro use isUse
    rcases List.mem_cons.mp isUse with rfl | old
    · exact settled dek source found
    · exact sound.settled use old
  · exact sound
  have waiting : Sound mydata (state.onClient request.client fun cache =>
      cache.set state.now request.cacheKey .loading) := by
    refine sound.onClient request.client fun key entry dek source isEntry isReady => ?_
    rcases get_set isEntry with ⟨-, isLoading⟩ | old
    · cases isReady ▸ isLoading
    · exact .inl old
  exact ⟨waiting.attempts, waiting.cached, waiting.used, waiting.settled⟩

/-- **The end of a loader**: what it brings is what the history holds. -/
theorem Sound.finishLoad (sound : Sound mydata state) (which : Nat) (approved : Bool) :
    Sound mydata (state.finishLoad mydata which approved) := by
  unfold State.finishLoad
  cases isLoad : state.loads[which]? with
  | none => exact sound
  | some request =>
    have rest : Sound mydata { state with loads := state.loads.eraseIdx which } :=
      ⟨sound.attempts, sound.cached, sound.used, sound.settled⟩
    dsimp only
    split
    · exact rest.onClient request.client fun key entry dek source isEntry _ =>
        .inl (get_delete isEntry)
    next dek opened =>
    obtain ⟨-, found⟩ := Option.ite_none_right_eq_some.mp opened
    obtain ⟨encryptedDek, stored, decrypts⟩ := Option.bind_eq_some_iff.mp found
    have provided : Provided mydata state request.keyVersion dek
        (.loaded request.historyUuid) :=
      ⟨encryptedDek, stored, decrypts⟩
    have cached : Sound mydata
        (({ state with loads := state.loads.eraseIdx which } : State).onClient request.client
          (·.set state.now request.cacheKey (.ready dek (.loaded request.historyUuid)))) := by
      refine rest.onClient request.client fun key entry other source isEntry isReady => ?_
      rcases get_set isEntry with ⟨rfl, isNew⟩ | old
      · cases isReady ▸ isNew
        exact .inr provided
      · exact .inl old
    refine ⟨cached.attempts, cached.cached, ?_, ?_⟩
    · intro use isUse
      rcases List.mem_cons.mp isUse with rfl | old
      · exact provided
      · exact sound.used use old
    intro use isUse
    rcases List.mem_cons.mp isUse with rfl | old
    · exact rfl
    · exact sound.settled use old

end Steps

/-! ## Transactions -/

section Transactions

variable {mydata : MyData} {namespace_ : Namespace}

/-- **A transaction that lands**: histories grow, and an attempt that landed is where the
transaction says. -/
theorem runCommands_some {attempts : List Attempt} {sender : Address} {chain last : Chain}
    {commands : List State.Command} {landed : List (Nat × Nat)}
    (brings : ∀ attempt ∈ attempts,
      newKey attempt.call = some (attempt.historyUuid, attempt.encryptedDek))
    (ran : State.runCommands namespace_ attempts sender chain commands = some (last, landed)) :
    (∀ historyUuid, encryptedKeys chain historyUuid <+: encryptedKeys last historyUuid) ∧
    ∀ landing ∈ landed, ∃ attempt, attempts[landing.1]? = some attempt ∧
      (encryptedKeys last attempt.historyUuid)[landing.2]? = some attempt.encryptedDek := by
  induction commands generalizing chain landed with
  | nil =>
    cases ran
    exact ⟨fun _ => List.prefix_rfl, by rintro landing ⟨⟩⟩
  | cons command rest ih =>
    cases command with
    | call request =>
      simp only [State.runCommands] at ran
      cases performed : chain.perform namespace_ sender request with
      | error => cases performed ▸ ran
      | ok =>
        rw [performed] at ran
        obtain ⟨grows, lands⟩ := ih ran
        exact ⟨fun historyUuid =>
          (keeps_encryptedKeys performed historyUuid).trans (grows historyUuid), lands⟩
    | attempt id =>
      simp only [State.runCommands] at ran
      cases found : attempts[id]? with
      | none => cases found ▸ ran
      | some attempt =>
        rw [found] at ran
        dsimp only at ran
        cases performed : chain.perform namespace_ sender attempt.call with
        | error => cases performed ▸ ran
        | ok =>
          rw [performed] at ran
          obtain ⟨⟨final, others⟩, ranRest, isLast⟩ := Option.map_eq_some_iff.mp ran
          cases isLast
          obtain ⟨grows, lands⟩ := ih ranRest
          have stored := encryptedKeys_newKey performed
            (brings attempt (List.mem_of_getElem? found))
          refine ⟨fun historyUuid =>
            (keeps_encryptedKeys performed historyUuid).trans (grows historyUuid), ?_⟩
          intro landing isLanding
          rcases List.mem_cons.mp isLanding with rfl | isOther
          · refine ⟨attempt, found, getElem?_of_prefix (grows attempt.historyUuid) ?_⟩
            rw [stored]
            simp
          · exact lands landing isOther

theorem getElem?_land (attempts : List Attempt) (landing : Nat × Nat) (id : Nat) :
    (State.land attempts landing)[id]? = attempts[id]?.map fun attempt =>
      if landing.1 = id then { attempt with landed := landing.2 :: attempt.landed }
      else attempt := by
  simp [State.land, List.getElem?_modify]

theorem land_all (landed : List (Nat × Nat)) (attempts : List Attempt) {id : Nat}
    {attempt : Attempt} (found : attempts[id]? = some attempt) :
    ∃ indices, (landed.foldl State.land attempts)[id]? =
      some { attempt with landed := indices } := by
  induction landed generalizing attempts attempt with
  | nil => exact ⟨attempt.landed, found⟩
  | cons landing rest ih =>
    have next := getElem?_land attempts landing id
    rw [found, Option.map_some] at next
    obtain ⟨indices, isLast⟩ := ih (State.land attempts landing) next
    refine ⟨indices, ?_⟩
    rw [List.foldl_cons, isLast]
    split <;> rfl

/-- and notes nothing but them. -/
theorem of_land_all (landed : List (Nat × Nat)) (attempts : List Attempt) {id : Nat}
    {after : Attempt} (found : (landed.foldl State.land attempts)[id]? = some after) :
    ∃ attempt indices, attempts[id]? = some attempt ∧ after = { attempt with landed := indices } ∧
      ∀ index ∈ indices, index ∈ attempt.landed ∨ (id, index) ∈ landed := by
  induction landed generalizing attempts with
  | nil => exact ⟨after, after.landed, found, rfl, fun _ => .inl⟩
  | cons landing rest ih =>
    obtain ⟨next, indices, isNext, rfl, noted⟩ := ih (State.land attempts landing) found
    rw [getElem?_land] at isNext
    obtain ⟨attempt, isOld, rfl⟩ := Option.map_eq_some_iff.mp isNext
    refine ⟨attempt, indices, isOld, ?_, fun index isIndex => ?_⟩
    · split <;> rfl
    rcases noted index isIndex with old | later
    · split at old
      · next same =>
        rcases List.mem_cons.mp old with rfl | older
        · exact .inr (by rw [← same]; exact List.mem_cons_self)
        · exact .inl older
      · exact .inl old
    · exact .inr (List.mem_cons_of_mem _ later)

theorem Sound.execute {state : State} (sound : Sound mydata state) (sender : Address)
    (commands : List State.Command)
    (settled : ∀ use ∈ state.uses, Settled (state.execute namespace_ sender commands)
      use.historyUuid use.keyVersion use.source) :
    Sound mydata (state.execute namespace_ sender commands) := by
  cases ran : State.runCommands namespace_ state.attempts sender state.chain commands with
  | none =>
    have unchanged : state.execute namespace_ sender commands = state := by
      simp only [State.execute, ran]
    rw [unchanged]
    exact sound
  | some result =>
    obtain ⟨last, landed⟩ := result
    have after : state.execute namespace_ sender commands =
        { state with
          chain := last
          views := last :: state.views
          attempts := landed.foldl State.land state.attempts } := by
      simp only [State.execute, ran]
    rw [after] at settled ⊢
    obtain ⟨grows, lands⟩ := runCommands_some
      (fun attempt isAttempt => (sound.attempts attempt isAttempt).brings) ran
    have extended : Extends state
        { state with
          chain := last
          views := last :: state.views
          attempts := landed.foldl State.land state.attempts } :=
      ⟨grows, fun id attempt found => land_all landed state.attempts found⟩
    constructor
    case attempts =>
      intro attempt isAttempt
      obtain ⟨id, found⟩ := List.mem_iff_getElem?.mp isAttempt
      obtain ⟨before, indices, isBefore, rfl, noted⟩ := of_land_all landed state.attempts found
      have attempted := sound.attempts before (List.mem_of_getElem? isBefore)
      refine ⟨attempted.brings, attempted.decrypts, fun index isIndex => ?_⟩
      rcases noted index isIndex with old | isLanding
      · exact getElem?_of_prefix (grows before.historyUuid) (attempted.landed index old)
      · obtain ⟨same, isSame, stored⟩ := lands (id, index) isLanding
        obtain rfl : before = same := Option.some.inj (isBefore.symm.trans isSame)
        exact stored
    case cached =>
      intro client key entry dek source found isReady
      exact extended.provided (sound.cached client key entry dek source found isReady)
    case used => exact fun use isUse => extended.provided (sound.used use isUse)
    case settled => exact settled

end Transactions

/-! ## Runs -/

section Runs

variable (namespace_ : Namespace)

def EntrySettled (state : State) (historyUuid : String) (keyVersion : Nat) : Option Entry → Prop
  | some (.ready _ source) => Settled state historyUuid keyVersion source
  | _ => True

instance (state : State) (historyUuid : String) (keyVersion : Nat) :
    (entry : Option Entry) → Decidable (EntrySettled state historyUuid keyVersion entry)
  | some (.ready _ source) => inferInstanceAs (Decidable (Settled state _ _ source))
  | some .loading => .isTrue trivial
  | none => .isTrue trivial

/-- **The condition on a step.**  `encrypt` and `decrypt` find a settled key in the cache, if
any; and after the step the keys that have been used are still settled, that is a
transaction does not store a key of somebody else at an index for which a key has been used
before the index existed. -/
def Good (state : State) (input : State.Input) : Prop :=
  (∀ request ∈ state.resolution namespace_ input,
    EntrySettled state request.historyUuid request.keyVersion
      ((state.clients request.client).get state.now request.cacheKey)) ∧
  ∀ sender commands, input = .execute sender commands →
    ∀ use ∈ state.uses, Settled (state.execute namespace_ sender commands) use.historyUuid
      use.keyVersion use.source

instance (state : State) : (input : State.Input) → Decidable (Good namespace_ state input)
  | .execute sender commands =>
    decidable_of_iff
      ((∀ request ∈ state.resolution namespace_ (.execute sender commands),
        EntrySettled state request.historyUuid request.keyVersion
          ((state.clients request.client).get state.now request.cacheKey)) ∧
        ∀ use ∈ state.uses, Settled (state.execute namespace_ sender commands) use.historyUuid
          use.keyVersion use.source)
      ⟨fun both => ⟨both.1, by rintro _ _ ⟨⟩; exact both.2⟩,
        fun good => ⟨good.1, good.2 sender commands rfl⟩⟩
  | .encrypt client ref keyVersion seen =>
    decidable_of_iff
      (∀ request ∈ state.resolution namespace_ (.encrypt client ref keyVersion seen),
        EntrySettled state request.historyUuid request.keyVersion
          ((state.clients request.client).get state.now request.cacheKey))
      ⟨fun hit => ⟨hit, by rintro _ _ ⟨⟩⟩, And.left⟩
  | .decrypt client ref keyVersion =>
    decidable_of_iff
      (∀ request ∈ state.resolution namespace_ (.decrypt client ref keyVersion),
        EntrySettled state request.historyUuid request.keyVersion
          ((state.clients request.client).get state.now request.cacheKey))
      ⟨fun hit => ⟨hit, by rintro _ _ ⟨⟩⟩, And.left⟩
  | .tick _ | .generateGroupDek .. | .generateRotationDek .. | .finishLoad .. | .clearCache .. =>
    .isTrue ⟨by rintro _ ⟨⟩, by rintro _ _ ⟨⟩⟩

variable {mydata : MyData} {namespace_}

theorem Sound.useKey {state : State} (sound : Sound mydata state) (input : State.Input)
    (settled : ∀ request ∈ state.resolution namespace_ input,
      EntrySettled state request.historyUuid request.keyVersion
        ((state.clients request.client).get state.now request.cacheKey)) :
    Sound mydata (state.useKey namespace_ input) := by
  unfold State.useKey
  cases resolves : state.resolution namespace_ input with
  | none => exact sound
  | some request =>
    refine sound.resolveDek request fun dek source found => ?_
    have entry := settled request resolves
    rwa [found] at entry

theorem Sound.step {state : State} (sound : Sound mydata state) (input : State.Input)
    (good : Good namespace_ state input) :
    Sound mydata (state.step mydata namespace_ input) := by
  cases input with
  | tick => exact ⟨sound.attempts, sound.cached, sound.used, sound.settled⟩
  | generateGroupDek client uuid creation dek seed =>
    refine sound.generateDek client (namespace_.groupAddress uuid) uuid 0 dek seed
      (fun encryptedDek => creation.call uuid encryptedDek) fun encryptedDek => ?_
    cases creation <;> rfl
  | generateRotationDek client ref seen dek seed =>
    simp only [State.step, State.generateRotationDek]
    split
    · exact sound
    · exact sound.generateDek client _ _ _ dek seed _ fun encryptedDek => rfl
  | execute sender commands => exact sound.execute sender commands (good.2 sender commands rfl)
  | encrypt | decrypt => exact sound.useKey _ good.1
  | finishLoad which approved => exact sound.finishLoad which approved
  | clearCache client groupId =>
    show Sound mydata (state.onClient client fun cache => cache.clear groupId)
    exact sound.onClient client fun key entry dek source isEntry _ =>
      .inl (OrderedMap.get_filterKeys_of_some isEntry)

theorem sound_start (chain : Chain) (ttlMs : Nat → Nat) :
    Sound mydata (.start chain ttlMs) where
  attempts := by rintro attempt ⟨⟩
  cached := by rintro client key entry dek source ⟨⟩
  used := by rintro use ⟨⟩
  settled := by rintro use ⟨⟩

end Runs

/-! ### Two rotations -/

/-- MyData, as far as its encryption goes: a byte of randomness and the key. -/
def sampleMyData : MyData where
  encrypt := fun _ _ dek seed => UInt8.ofNat seed :: dek
  decrypt := List.tail?
  decrypt_encrypt := fun _ _ _ _ => rfl

/-- The clients keep keys for an hour. -/
def sampleStart : State := .start .genesis fun _ => 3600000

/-- Alice's client creates a group, and its transaction lands. -/
def creationInputs : List State.Input :=
  [.generateGroupDek 0 "u" (.wallet { owner := 1, agents := [] } "dm" [1, 2]) [10] 0,
    .execute 1 [.attempt 0]]

/-- It rotates the key, and the client of Bob reads what it encrypts. -/
def rotationInputs : List State.Input :=
  creationInputs ++
    [.generateRotationDek 0 (.uuid "u") 0 [11] 1, .execute 1 [.attempt 1],
      .encrypt 0 (.uuid "u") none 0, .decrypt 1 (.uuid "u") 1, .finishLoad 0 true]

/-- It rotates the key, but the transaction fails; it tries again, which lands, and encrypts. -/
def retriedInputs : List State.Input :=
  creationInputs ++
    [.generateRotationDek 0 (.uuid "u") 0 [11] 1, .generateRotationDek 0 (.uuid "u") 0 [12] 2,
      .execute 1 [.attempt 2], .encrypt 0 (.uuid "u") none 0]

def sampleRun (inputs : List State.Input) : State :=
  inputs.foldl (State.step sampleMyData sampleNamespace) sampleStart

end MessagingStack.Sdk.Envelope
