import MessagingStack.Base.MapWrites
import MessagingStack.Base.Text

/-!
# Which groups of a transaction belong to an agent

`services/agent_group_detector.rs`: a created group is an agent group if the transaction carries its
metadata, or if its grants have the pattern of one, read from a hash map in whatever order
(`Iteration`).  `orderIndependent_iff` says exactly when the report does not depend on the order and
is what the metadata has.
-/

namespace MessagingStack.Relayer.AgentGroupDetector

universe u v

/-! ## Events -/

structure GroupCreatedEvent where
  groupId : String
  creator : String
  deriving DecidableEq

structure AgentGroupCreatedEvent where
  groupId : String
  creatorActor : String
  creatorPrincipal : String
  creatorSubAgentId : Option String
  creatorIdentityClass : UInt64
  organizationId : Option String
  groupName : String
  groupUuid : String
  createdAtMs : UInt64
  deriving DecidableEq

/-- A grant with full permission type names. -/
structure RawPermissionsGrantedEvent where
  groupId : String
  member : String
  permissions : List String
  deriving DecidableEq

/-- An indexed group; `τ` are the times. -/
@[ext] structure AgentMessagingGroup (τ : Type u) where
  groupId : String
  creatorActor : String
  creatorPrincipal : String
  creatorSubAgentId : Option String
  creatorIdentityClass : Option Int16
  organizationId : Option String
  groupName : Option String
  groupUuid : Option String
  createdAt : τ
  deriving DecidableEq

/-- What the detector uses of `chrono`. -/
structure Clock (τ : Type u) where
  /-- `Utc.timestamp_millis_opt(_).single()` -/
  timestampMillis : Int64 → Option τ
  now : τ

variable {τ : Type u} (clock : Clock τ)

def agentGroupFromCreatedEvent (created : AgentGroupCreatedEvent) : AgentMessagingGroup τ where
  groupId := created.groupId
  creatorActor := created.creatorActor
  creatorPrincipal := created.creatorPrincipal
  creatorSubAgentId := created.creatorSubAgentId
  creatorIdentityClass := some created.creatorIdentityClass.toUInt16.toInt16
  organizationId := created.organizationId
  groupName := some created.groupName
  groupUuid := some created.groupUuid
  createdAt := (clock.timestampMillis created.createdAtMs.toInt64).getD clock.now

/-! ## The pattern -/

/-- The permissions of each member of each group. -/
abbrev Grants := OrderedMap (String × String) (List String)

/-- An order in which a hash map is iterated. -/
structure Iteration (grants : Grants) where
  entries : List ((String × String) × List String)
  perm : entries.Perm grants.entries

def hasPermission (permissions : List String) (suffix : String) : Bool :=
  permissions.any fun permission => suffix.toList.isSuffixOf permission.toList

def ofPrincipal (permissions : List String) : Bool :=
  hasPermission permissions "::PermissionsAdmin" &&
    hasPermission permissions "::MessagingReader" &&
    !hasPermission permissions "::MessagingSender"

def ofAgent (permissions : List String) : Bool :=
  hasPermission permissions "::MessagingSender" && !hasPermission permissions "::PermissionsAdmin"

/-- The body of the loop over the grants. -/
def scan (groupId creator : String) (found : Option String × Option String)
    (entry : (String × String) × List String) : Option String × Option String :=
  if entry.1.1 ≠ groupId then found
  else
    (if ofPrincipal entry.2 then some entry.1.2 else found.1,
      if ofAgent entry.2 && entry.1.2 = creator then some entry.1.2 else found.2)

def detectAgentGroupPattern (entries : List ((String × String) × List String))
    (groupId creator : String) : Option (String × String) :=
  match entries.foldl (scan groupId creator) (none, none) with
  | (some principal, some agentActor) =>
    if principal ≠ agentActor then some (principal, agentActor) else none
  | _ => none

/-- The grants of a transaction, by group and member. -/
def collectGrants (permissionsGranted : List RawPermissionsGrantedEvent) : Grants :=
  OrderedMap.collect (fun grant => (grant.groupId, grant.member))
    RawPermissionsGrantedEvent.permissions permissionsGranted

/-- The row of a created group. -/
def reportedRow (entries : List ((String × String) × List String))
    (agentGroupCreated : OrderedMap String AgentGroupCreatedEvent) (fallbackCreatedAt : τ)
    (created : GroupCreatedEvent) : Option (AgentMessagingGroup τ) :=
  match agentGroupCreated.get created.groupId with
  | some metadata => some (agentGroupFromCreatedEvent clock metadata)
  | none =>
    (detectAgentGroupPattern entries created.groupId created.creator).map
      fun (principal, agentActor) =>
        { groupId := created.groupId
          creatorActor := agentActor
          creatorPrincipal := principal
          creatorSubAgentId := none
          creatorIdentityClass := none
          organizationId := none
          groupName := none
          groupUuid := none
          createdAt := fallbackCreatedAt }

def detectAgentGroupsInTransaction (groupCreated : List GroupCreatedEvent)
    (permissionsGranted : List RawPermissionsGrantedEvent)
    (iteration : Iteration (collectGrants permissionsGranted))
    (agentGroupCreated : OrderedMap String AgentGroupCreatedEvent) (fallbackCreatedAt : τ) :
    List (AgentMessagingGroup τ) :=
  groupCreated.filterMap (reportedRow clock iteration.entries agentGroupCreated fallbackCreatedAt)

/-- The metadata of a transaction, as the synchroniser collects it. -/
def metadataMap (events : List AgentGroupCreatedEvent) :
    OrderedMap String AgentGroupCreatedEvent :=
  OrderedMap.insertAll AgentGroupCreatedEvent.groupId ∅ events

/-! ## What is promised -/

structure Transaction where
  groupCreated : List GroupCreatedEvent
  permissionsGranted : List RawPermissionsGrantedEvent
  agentGroupCreated : List AgentGroupCreatedEvent

variable (transaction : Transaction) (fallbackCreatedAt : τ)

def Transaction.report (permissionsGranted : List RawPermissionsGrantedEvent)
    (iteration : Iteration (collectGrants permissionsGranted)) : List (AgentMessagingGroup τ) :=
  detectAgentGroupsInTransaction clock transaction.groupCreated permissionsGranted iteration
    (metadataMap transaction.agentGroupCreated) fallbackCreatedAt

/-- **The promise**: the report does not depend on any order, and has what the metadata has. -/
structure OrderIndependent : Prop where
  same : ∀ granted granted', granted.Perm transaction.permissionsGranted →
    granted'.Perm transaction.permissionsGranted → ∀ iteration iteration',
    transaction.report clock fallbackCreatedAt granted iteration =
      transaction.report clock fallbackCreatedAt granted' iteration'
  fromMetadata : ∀ granted, granted.Perm transaction.permissionsGranted → ∀ iteration,
    ∀ row ∈ transaction.report clock fallbackCreatedAt granted iteration,
    ∀ metadata, (metadataMap transaction.agentGroupCreated).get row.groupId = some metadata →
      row.creatorActor = metadata.creatorActor ∧ row.creatorPrincipal = metadata.creatorPrincipal

def granted (permissionsGranted : List RawPermissionsGrantedEvent) (groupId member : String) :
    List String :=
  (permissionsGranted.filter fun grant => (grant.groupId, grant.member) = (groupId, member)).flatMap
    RawPermissionsGrantedEvent.permissions

def Principal (permissionsGranted : List RawPermissionsGrantedEvent)
    (groupId member : String) : Prop :=
  ofPrincipal (granted permissionsGranted groupId member) = true

/-- **No two principals** for a group without metadata whose creator is its agent. -/
def Unambiguous : Prop :=
  ∀ created ∈ transaction.groupCreated,
    (metadataMap transaction.agentGroupCreated).get created.groupId = none →
    ofAgent (granted transaction.permissionsGranted created.groupId created.creator) = true →
    ∀ first second, Principal transaction.permissionsGranted created.groupId first →
      Principal transaction.permissionsGranted created.groupId second → first = second

/-! ## What the pattern finds -/

section Pattern

variable {permissionsGranted : List RawPermissionsGrantedEvent}
  {iteration : Iteration (collectGrants permissionsGranted)} {groupId creator member : String}

/-- The members of a group whose permissions pass a test, in the order of the iteration. -/
def passing (test : (String × String) × List String → Bool)
    (entries : List ((String × String) × List String)) (groupId : String) : List String :=
  (entries.filter fun entry => entry.1.1 = groupId && test entry).map fun entry => entry.1.2

/-- The principals, in the order of the iteration. -/
def principals (entries : List ((String × String) × List String)) (groupId : String) :
    List String :=
  passing (fun entry => ofPrincipal entry.2) entries groupId

/-- The agents, in the order of the iteration. -/
def agents (entries : List ((String × String) × List String)) (groupId creator : String) :
    List String :=
  passing (fun entry => ofAgent entry.2 && entry.1.2 = creator) entries groupId

theorem passing_append_singleton (test : (String × String) × List String → Bool)
    (entries : List ((String × String) × List String)) (last : (String × String) × List String) :
    passing test (entries ++ [last]) groupId =
      passing test entries groupId ++
        if last.1.1 = groupId && test last then [last.1.2] else [] := by
  rw [passing, List.filter_append, List.map_append]
  congr 1
  rw [List.filter_cons, List.filter_nil]
  split <;> rfl

theorem foldl_scan (entries : List ((String × String) × List String)) :
    entries.foldl (scan groupId creator) (none, none) =
      ((principals entries groupId).getLast?, (agents entries groupId creator).getLast?) := by
  induction entries using List.reverseRecOn with
  | nil => rfl
  | append_singleton entries last ih =>
    have nextPrincipals : principals (entries ++ [last]) groupId =
        principals entries groupId ++
          if last.1.1 = groupId && ofPrincipal last.2 then [last.1.2] else [] :=
      passing_append_singleton _ entries last
    have nextAgents : agents (entries ++ [last]) groupId creator =
        agents entries groupId creator ++
          if last.1.1 = groupId && (ofAgent last.2 && last.1.2 = creator) then [last.1.2]
          else [] :=
      passing_append_singleton _ entries last
    rw [List.foldl_append, ih, nextPrincipals, nextAgents, List.foldl_cons, List.foldl_nil, scan]
    by_cases inGroup : last.1.1 = groupId
    · rw [if_neg (not_not_intro inGroup)]
      refine Prod.ext ?_ ?_
      · by_cases isPrincipal : ofPrincipal last.2 = true
        · simp [inGroup, isPrincipal]
        · simp [inGroup, isPrincipal]
      by_cases isAgent : (ofAgent last.2 && decide (last.1.2 = creator)) = true
      · simp only [inGroup, isAgent, decide_true, Bool.and_self, if_true,
          List.getLast?_append, List.getLast?_singleton, Option.some_or]
      · simp only [inGroup, isAgent, decide_true, Bool.true_and, if_false, List.append_nil,
          Bool.false_eq_true]
    · rw [if_pos inGroup]
      simp [inGroup]

theorem ofPrincipal_nil : ofPrincipal [] = false := rfl

theorem ofAgent_nil : ofAgent [] = false := rfl

theorem mem_iteration {entry : (String × String) × List String} (isIn : entry ∈ iteration.entries) :
    entry.2 = granted permissionsGranted entry.1.1 entry.1.2 := by
  have found := (collectGrants permissionsGranted).get_of_mem_entries
    (iteration.perm.mem_iff.mp isIn : (entry.1, entry.2) ∈ _)
  rw [collectGrants, OrderedMap.get_collect] at found
  split at found
  · exact (Option.some.inj found).symm
  · cases found

theorem mem_collectGrants
    (some : granted permissionsGranted groupId member ≠ []) :
    ((groupId, member), granted permissionsGranted groupId member) ∈
      (collectGrants permissionsGranted).entries := by
  refine OrderedMap.mem_entries_of_get _ ?_
  rw [collectGrants, OrderedMap.get_collect, if_pos]
  · rfl
  obtain ⟨permission, isGranted⟩ := List.exists_mem_of_ne_nil _ some
  obtain ⟨grant, isGrant, -⟩ := List.mem_flatMap.mp isGranted
  obtain ⟨isIn, key⟩ := List.mem_filter.mp isGrant
  exact List.mem_map.mpr ⟨grant, isIn, of_decide_eq_true key⟩

theorem mem_iteration_of_granted
    (some : granted permissionsGranted groupId member ≠ []) :
    ((groupId, member), granted permissionsGranted groupId member) ∈ iteration.entries :=
  iteration.perm.mem_iff.mpr (mem_collectGrants some)

theorem mem_principals :
    member ∈ principals iteration.entries groupId ↔
      Principal permissionsGranted groupId member := by
  rw [principals, passing, List.mem_map, Principal]
  constructor
  · rintro ⟨entry, isEntry, rfl⟩
    obtain ⟨isIn, passes⟩ := List.mem_filter.mp isEntry
    rw [Bool.and_eq_true, decide_eq_true_eq] at passes
    obtain ⟨rfl, isPrincipal⟩ := passes
    rwa [mem_iteration isIn] at isPrincipal
  intro isPrincipal
  have something : granted permissionsGranted groupId member ≠ [] := by
    intro nothing
    rw [nothing, ofPrincipal_nil] at isPrincipal
    cases isPrincipal
  refine ⟨_, List.mem_filter.mpr ⟨mem_iteration_of_granted something, ?_⟩, rfl⟩
  rw [Bool.and_eq_true, decide_eq_true_eq]
  exact ⟨rfl, isPrincipal⟩

theorem mem_agents : member ∈ agents iteration.entries groupId creator ↔
    ofAgent (granted permissionsGranted groupId creator) = true ∧ member = creator := by
  rw [agents, passing, List.mem_map]
  constructor
  · rintro ⟨entry, isEntry, rfl⟩
    obtain ⟨isIn, passes⟩ := List.mem_filter.mp isEntry
    rw [Bool.and_eq_true, Bool.and_eq_true, decide_eq_true_eq, decide_eq_true_eq] at passes
    obtain ⟨rfl, isAgent, rfl⟩ := passes
    rw [mem_iteration isIn] at isAgent
    exact ⟨isAgent, rfl⟩
  rintro ⟨isAgent, rfl⟩
  have something : granted permissionsGranted groupId member ≠ [] := by
    intro nothing
    rw [nothing, ofAgent_nil] at isAgent
    cases isAgent
  refine ⟨_, List.mem_filter.mpr ⟨mem_iteration_of_granted something, ?_⟩, rfl⟩
  rw [Bool.and_eq_true, Bool.and_eq_true, decide_eq_true_eq, decide_eq_true_eq]
  exact ⟨rfl, isAgent, rfl⟩

theorem getLast?_agents : (agents iteration.entries groupId creator).getLast? =
    if ofAgent (granted permissionsGranted groupId creator) then some creator else none := by
  cases last : (agents iteration.entries groupId creator).getLast? with
  | none =>
    rw [List.getLast?_eq_none_iff] at last
    rw [if_neg]
    intro isAgent
    have isIn : creator ∈ agents iteration.entries groupId creator := mem_agents.mpr ⟨isAgent, rfl⟩
    cases last ▸ isIn
  | some =>
    obtain ⟨isAgent, rfl⟩ := mem_agents.mp (List.mem_of_getLast? last)
    rw [if_pos isAgent]

theorem not_principal_of_agent
    (isAgent : ofAgent (granted permissionsGranted groupId member) = true) :
    ¬Principal permissionsGranted groupId member := by
  intro isPrincipal
  rw [Principal, ofPrincipal, Bool.and_eq_true, Bool.not_eq_true'] at isPrincipal
  rw [ofAgent, Bool.and_eq_true, isPrincipal.2] at isAgent
  exact absurd isAgent.1 (by decide)

theorem detect_eq : detectAgentGroupPattern iteration.entries groupId creator =
    if ofAgent (granted permissionsGranted groupId creator) then
      (principals iteration.entries groupId).getLast?.map fun principal => (principal, creator)
    else none := by
  rw [detectAgentGroupPattern, foldl_scan, getLast?_agents]
  by_cases isAgent : ofAgent (granted permissionsGranted groupId creator) = true
  · rw [if_pos isAgent, if_pos isAgent]
    cases last : (principals iteration.entries groupId).getLast? with
    | none => rfl
    | some principal =>
      have isPrincipal := mem_principals.mp (List.mem_of_getLast? last)
      have differs : principal ≠ creator := by
        rintro rfl
        exact not_principal_of_agent isAgent isPrincipal
      simp only [Option.map_some, if_pos differs]
  · rw [if_neg isAgent, if_neg isAgent]
    cases (principals iteration.entries groupId).getLast? <;> rfl

end Pattern

/-! ## Independence of the order -/

section Order

variable {permissionsGranted other : List RawPermissionsGrantedEvent}
  {iteration : Iteration (collectGrants permissionsGranted)}
  {iteration' : Iteration (collectGrants other)}

theorem granted_perm (perm : permissionsGranted.Perm other) (groupId member : String) :
    (granted permissionsGranted groupId member).Perm (granted other groupId member) :=
  (perm.filter _).flatMap_right _

theorem hasPermission_perm {permissions permissions' : List String}
    (perm : permissions.Perm permissions') (suffix : String) :
    hasPermission permissions suffix = hasPermission permissions' suffix :=
  perm.any_eq

theorem roles_perm (perm : permissionsGranted.Perm other) (groupId member : String) :
    (Principal permissionsGranted groupId member ↔ Principal other groupId member) ∧
      ofAgent (granted permissionsGranted groupId member) =
        ofAgent (granted other groupId member) := by
  have same := hasPermission_perm (granted_perm perm groupId member)
  constructor
  · rw [Principal, Principal, ofPrincipal, ofPrincipal, same, same, same]
  · rw [ofAgent, ofAgent, same, same]

theorem getLast?_eq_of_unique {α : Type u} {first second : List α}
    (sameElements : ∀ x, x ∈ first ↔ x ∈ second) (unique : ∀ x ∈ first, ∀ y ∈ first, x = y) :
    first.getLast? = second.getLast? := by
  cases last : second.getLast? with
  | none =>
    rw [List.getLast?_eq_none_iff] at last ⊢
    refine List.eq_nil_iff_forall_not_mem.mpr fun x isIn => ?_
    have isSecond := (sameElements x).mp isIn
    cases last ▸ isSecond
  | some x =>
    have isFirst := (sameElements x).mpr (List.mem_of_getLast? last)
    cases ends : first.getLast? with
    | none => cases List.getLast?_eq_none_iff.mp ends ▸ isFirst
    | some y => rw [unique y (List.mem_of_getLast? ends) x isFirst]

theorem isSome_row_perm (perm : permissionsGranted.Perm other)
    (metadata : OrderedMap String AgentGroupCreatedEvent) (created : GroupCreatedEvent) :
    (reportedRow clock iteration.entries metadata fallbackCreatedAt created).isSome =
      (reportedRow clock iteration'.entries metadata fallbackCreatedAt created).isSome := by
  rw [reportedRow, reportedRow]
  split
  · rfl
  rw [Option.isSome_map, Option.isSome_map, detect_eq, detect_eq,
    (roles_perm perm created.groupId created.creator).2]
  split
  · rw [Option.isSome_map, Option.isSome_map, Bool.eq_iff_iff, Option.isSome_iff_ne_none,
      Option.isSome_iff_ne_none, ne_eq, ne_eq, List.getLast?_eq_none_iff,
      List.getLast?_eq_none_iff]
    have sameElements : ∀ member, member ∈ principals iteration.entries created.groupId ↔
        member ∈ principals iteration'.entries created.groupId := fun member =>
      mem_principals.trans ((roles_perm perm created.groupId member).1.trans mem_principals.symm)
    constructor
    · intro some
      obtain ⟨member, isIn⟩ := List.exists_mem_of_ne_nil _ some
      exact List.ne_nil_of_mem ((sameElements member).mp isIn)
    · intro some
      obtain ⟨member, isIn⟩ := List.exists_mem_of_ne_nil _ some
      exact List.ne_nil_of_mem ((sameElements member).mpr isIn)
  · rfl

end Order

/-! ## When nothing depends on an order -/

section Main

variable {transaction} {fallbackCreatedAt} {clock}

theorem eq_of_filterMap_eq {α : Type v} {β : Type u} {first second : α → Option β} {list : List α}
    (alike : ∀ x, (first x).isSome = (second x).isSome)
    (same : list.filterMap first = list.filterMap second) : ∀ x ∈ list, first x = second x := by
  induction list with
  | nil => exact fun x isIn => by cases isIn
  | cons head rest ih =>
    have here := alike head
    cases one : first head with
    | none =>
      rw [one, Option.isSome_none] at here
      have two : second head = none :=
        Option.isNone_iff_eq_none.mp (Option.isSome_eq_false_iff.mp here.symm)
      rw [List.filterMap_cons_none one, List.filterMap_cons_none two] at same
      intro x isIn
      rcases List.mem_cons.mp isIn with rfl | isRest
      · rw [one, two]
      · exact ih same x isRest
    | some =>
      rw [one, Option.isSome_some] at here
      obtain ⟨b, two⟩ := Option.isSome_iff_exists.mp here.symm
      rw [List.filterMap_cons_some one, List.filterMap_cons_some two, List.cons.injEq] at same
      intro x isIn
      rcases List.mem_cons.mp isIn with rfl | isRest
      · rw [one, two, same.1]
      · exact ih same.2 x isRest

variable {permissionsGranted : List RawPermissionsGrantedEvent}

theorem report_fromMetadata {iteration : Iteration (collectGrants permissionsGranted)}
    {row : AgentMessagingGroup τ}
    (reported : row ∈ transaction.report clock fallbackCreatedAt permissionsGranted iteration)
    {metadata : AgentGroupCreatedEvent}
    (carried : (metadataMap transaction.agentGroupCreated).get row.groupId = some metadata) :
    row.creatorActor = metadata.creatorActor ∧
      row.creatorPrincipal = metadata.creatorPrincipal := by
  obtain ⟨created, -, isRow⟩ := List.mem_filterMap.mp reported
  rw [reportedRow] at isRow
  split at isRow
  · next other found =>
    obtain rfl := Option.some.inj isRow
    have keyed : OrderedMap.Keyed AgentGroupCreatedEvent.groupId
        (metadataMap transaction.agentGroupCreated) :=
      OrderedMap.Keyed.insertAll (fun entry isIn => by cases isIn) transaction.agentGroupCreated
    have sameGroup := keyed _ (OrderedMap.mem_entries_of_get _ found)
    have same : some other = some metadata := by
      rw [← found, ← carried]
      exact congrArg _ sameGroup
    obtain rfl := Option.some.inj same
    exact ⟨rfl, rfl⟩
  · next notFound =>
    obtain ⟨found, -, rfl⟩ := Option.map_eq_some_iff.mp isRow
    cases notFound ▸ carried

/-- With one principal at most the order does not matter. -/
theorem Unambiguous.same (unambiguous : Unambiguous transaction)
    {granted granted' : List RawPermissionsGrantedEvent}
    (perm : granted.Perm transaction.permissionsGranted)
    (perm' : granted'.Perm transaction.permissionsGranted)
    (iteration : Iteration (collectGrants granted))
    (iteration' : Iteration (collectGrants granted')) :
    transaction.report clock fallbackCreatedAt granted iteration =
      transaction.report clock fallbackCreatedAt granted' iteration' := by
  refine List.filterMap_congr fun created isCreated => ?_
  rw [reportedRow, reportedRow]
  split
  · rfl
  next noMetadata =>
  congr 1
  have roles := roles_perm perm created.groupId created.creator
  have roles' := roles_perm perm' created.groupId created.creator
  rw [detect_eq, detect_eq, roles.2, roles'.2]
  split
  · next isAgent =>
    have isPrincipal : ∀ member, member ∈ principals iteration.entries created.groupId ↔
        Principal transaction.permissionsGranted created.groupId member := fun member =>
      mem_principals.trans (roles_perm perm created.groupId member).1
    have isPrincipal' : ∀ member, member ∈ principals iteration'.entries created.groupId ↔
        Principal transaction.permissionsGranted created.groupId member := fun member =>
      mem_principals.trans (roles_perm perm' created.groupId member).1
    congr 1
    refine getLast?_eq_of_unique (fun member => (isPrincipal member).trans
      (isPrincipal' member).symm) fun first isFirst second isSecond => ?_
    exact unambiguous created isCreated noMetadata isAgent first second
      ((isPrincipal first).mp isFirst) ((isPrincipal second).mp isSecond)
  · rfl

theorem exists_iteration_last {groupId member : String}
    (isPrincipal : Principal permissionsGranted groupId member) :
    ∃ iteration : Iteration (collectGrants permissionsGranted),
      (principals iteration.entries groupId).getLast? = some member := by
  have something : granted permissionsGranted groupId member ≠ [] := by
    intro nothing
    rw [Principal, nothing, ofPrincipal_nil] at isPrincipal
    cases isPrincipal
  obtain ⟨front, back, split⟩ := List.append_of_mem (mem_collectGrants something)
  have perm : (front ++ back ++
      [((groupId, member), granted permissionsGranted groupId member)]).Perm
        (collectGrants permissionsGranted).entries := by
    rw [show (collectGrants permissionsGranted).entries = _ from split]
    exact (List.perm_append_singleton _ _).trans List.perm_middle.symm
  refine ⟨⟨_, perm⟩, ?_⟩
  rw [principals, passing_append_singleton, List.getLast?_append]
  rw [Principal] at isPrincipal
  simp only [decide_true, isPrincipal, Bool.and_self, if_true, List.getLast?_singleton,
    Option.some_or]

/-- **When detection does not depend on an order**: exactly if no created group without metadata,
whose creator is its agent, has two principals. -/
theorem orderIndependent_iff (clock : Clock τ) (transaction : Transaction)
    (fallbackCreatedAt : τ) :
    OrderIndependent clock transaction fallbackCreatedAt ↔ Unambiguous transaction := by
  constructor
  · intro independent created isCreated noMetadata isAgent first second isFirst isSecond
    obtain ⟨iteration, last⟩ := exists_iteration_last isFirst
    obtain ⟨iteration', last'⟩ := exists_iteration_last isSecond
    have reports := independent.same transaction.permissionsGranted
      transaction.permissionsGranted (.refl _) (.refl _) iteration iteration'
    have rows := eq_of_filterMap_eq
      (isSome_row_perm clock fallbackCreatedAt (.refl _)
        (metadataMap transaction.agentGroupCreated)) reports created isCreated
    rw [reportedRow, reportedRow, noMetadata, detect_eq, detect_eq, if_pos isAgent,
      if_pos isAgent, last, last'] at rows
    simp only [Option.map_some, Option.some.injEq, AgentMessagingGroup.mk.injEq] at rows
    exact rows.2.2.1
  intro unambiguous
  exact ⟨fun granted granted' perm perm' iteration iteration' =>
    unambiguous.same perm perm' iteration iteration',
    fun granted perm iteration row reported metadata carried =>
      report_fromMetadata reported carried⟩

end Main

/-! ## Two principals -/

def sampleClock : Clock Nat where
  timestampMillis millis := if 0 ≤ millis then some millis.toInt.toNat else none
  now := 0

/-- A group whose creator sends, with two members who administrate and read. -/
def sampleTransaction : Transaction where
  groupCreated := [⟨"0xgroup", "0xagent"⟩]
  permissionsGranted :=
    [⟨"0xgroup", "0xagent", ["0xe110::messaging::MessagingSender"]⟩,
      ⟨"0xgroup", "0xalice",
        ["0x2::permissioned_group::PermissionsAdmin", "0xe110::messaging::MessagingReader"]⟩,
      ⟨"0xgroup", "0xbob",
        ["0x2::permissioned_group::PermissionsAdmin", "0xe110::messaging::MessagingReader"]⟩]
  agentGroupCreated := []

def forward : Iteration (collectGrants sampleTransaction.permissionsGranted) := ⟨_, .refl _⟩

def backward : Iteration (collectGrants sampleTransaction.permissionsGranted) :=
  ⟨(collectGrants sampleTransaction.permissionsGranted).entries.reverse, List.reverse_perm _⟩

/-- **Two principals**: what is reported depends on the iteration of the map. -/
theorem two_principals : ¬OrderIndependent sampleClock sampleTransaction 0 := by
  intro independent
  have same := independent.same _ _ (.refl _) (.refl _) forward backward
  revert same
  decide +kernel

end MessagingStack.Relayer.AgentGroupDetector
