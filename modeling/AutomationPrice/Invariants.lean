import AutomationPrice.Runtime

/-! Invariants of whole runs beyond the registries' own. No input removes a task: the hook runs
nothing and `delete_asset` no longer purges. Every event a run deposits still describes the
storage at its end, and every stored price belongs to a registered asset and carries nonce 1.
An index entry, once written, maps its first task forever, and every stored task was built by
a successful `schedule_xcmp_task` its owner signed. -/

namespace AutomationPrice

/-- What an event says about the storage. The transfer events stand for `False`: only
`run_tasks` deposits them, and no live path calls it. -/
def Event.Describes (s : State) : Event → Prop
  | .taskScheduled _ taskId => s.tasks taskId ≠ none
  | .assetCreated chain exchange asset1 asset2 decimal =>
    ∃ info, s.assetRegistry ⟨chain, exchange, asset1, asset2⟩ = some info ∧ info.decimal = decimal
  | .assetDeleted asset => ∃ key info, key.asset1 = asset ∧ s.assetRegistry key = some info
  | .successfullyTransferredFunds _ => False
  | .transferFailed _ _ => False

theorem Event.Describes.mono {s s' : State} {e : Event} (h : e.Describes s)
    (hassets : ∀ k info, s.assetRegistry k = some info → s'.assetRegistry k = some info)
    (htasks : ∀ id, s.tasks id ≠ none → s'.tasks id ≠ none) : e.Describes s' := by
  cases e with
  | taskScheduled who taskId => exact htasks taskId h
  | assetCreated chain exchange asset1 asset2 decimal =>
    obtain ⟨info, hinfo, hd⟩ := h
    exact ⟨info, hassets _ _ hinfo, hd⟩
  | assetDeleted asset =>
    obtain ⟨key, info, hk, hinfo⟩ := h
    exact ⟨key, info, hk, hassets _ _ hinfo⟩
  | successfullyTransferredFunds | transferFailed => exact h.elim

/-- What a step may do: it keeps every registered asset and every stored task, and appends
events that describe the state after it. -/
structure StepEffect (s s' : State) : Prop where
  assets : ∀ k info, s.assetRegistry k = some info → s'.assetRegistry k = some info
  tasks : ∀ id, s.tasks id ≠ none → s'.tasks id ≠ none
  events : ∃ new, s'.events = s.events ++ new ∧ ∀ e ∈ new, e.Describes s'

theorem StepEffect.refl (s : State) : StepEffect s s :=
  ⟨fun _ _ h => h, fun _ h => h, [], by simp, by simp⟩

theorem StepEffect.trans {s s' s'' : State} (h₁ : StepEffect s s') (h₂ : StepEffect s' s'') :
    StepEffect s s'' := by
  obtain ⟨new₁, he₁, hd₁⟩ := h₁.events
  obtain ⟨new₂, he₂, hd₂⟩ := h₂.events
  refine ⟨fun k info h => h₂.assets k info (h₁.assets k info h),
    fun id h => h₂.tasks id (h₁.tasks id h), new₁ ++ new₂, by rw [he₂, he₁, List.append_assoc],
    fun e he => ?_⟩
  rcases List.mem_append.mp he with he | he
  · exact (hd₁ e he).mono h₂.assets h₂.tasks
  · exact hd₂ e he

theorem StepEffect.transactional {f : State → Outcome × State} {s : State}
    (h : StepEffect s (f s).2) : StepEffect s (transactional f s).2 :=
  transactional_snd_of (StepEffect.refl s) h

theorem StepEffect.prices (s : State) (pr : AssetKey → Option PriceData) :
    StepEffect s { s with priceRegistry := pr } :=
  ⟨fun _ _ h => h, fun _ h => h, [], by simp, by simp⟩

theorem StepEffect.depositEvent {s s' : State} {e : Event} (h : StepEffect s s')
    (he : e.Describes (s'.depositEvent e)) : StepEffect s (s'.depositEvent e) := by
  obtain ⟨new, hnew, hd⟩ := h.events
  refine ⟨h.assets, h.tasks, new ++ [e],
    by rw [State.depositEvent, hnew, List.append_assoc], fun e' he' => ?_⟩
  rcases List.mem_append.mp he' with he' | he'
  · exact hd e' he'
  · rw [List.mem_singleton.mp he']; exact he

theorem createNewAsset_effect (chain : ChainName) (exchange : Exchange)
    (asset1 asset2 : AssetName) (decimal : UInt8) (assetOwners : List AccountId) (s : State) :
    StepEffect s (createNewAsset chain exchange asset1 asset2 decimal assetOwners s).2 := by
  dsimp only [createNewAsset]
  split
  · exact StepEffect.refl s
  · next hnew =>
    refine StepEffect.depositEvent ⟨fun k info h => ?_, fun _ h => h, [], by simp,
      by simp⟩ ⟨⟨0, decimal, 0, assetOwners⟩, Function.update_same _ _ _, rfl⟩
    have hk : k ≠ ⟨chain, exchange, asset1, asset2⟩ := by rintro rfl; simp [h] at hnew
    exact (Function.update_noteq hk _ _).trans h

theorem initializeAsset_effect (origin : Origin) (chain : ChainName) (exchange : Exchange)
    (asset1 asset2 : AssetName) (decimal : UInt8) (assetOwners : List AccountId) (s : State) :
    StepEffect s (initializeAsset origin chain exchange asset1 asset2 decimal assetOwners s).2 := by
  refine StepEffect.transactional ?_
  cases ensureRoot origin
  · exact StepEffect.refl s
  · exact createNewAsset_effect chain exchange asset1 asset2 decimal assetOwners s

theorem updateAssetPrices_effect (origin : Origin) (chains : List ChainName)
    (exchanges : List Exchange) (assets1 assets2 : List AssetName)
    (prices submittedAt rounds : List Nat) (s : State) :
    StepEffect s
      (updateAssetPrices origin chains exchanges assets1 assets2 prices submittedAt rounds s).2 := by
  refine StepEffect.transactional ?_
  cases ensureSigned origin with
  | error => exact StepEffect.refl s
  | ok who =>
    obtain ⟨pr, hpr, -⟩ :=
      updateAssetPricesLoop_writes who chains exchanges assets1 assets2 rounds 0 prices s
    dsimp only
    rw [hpr]
    exact StepEffect.prices s pr

theorem deleteAsset_effect (origin : Origin) (chain : ChainName) (exchange : Exchange)
    (asset1 asset2 : AssetName) (s : State) :
    StepEffect s (deleteAsset origin chain exchange asset1 asset2 s).2 := by
  refine StepEffect.transactional ?_
  cases ensureRoot origin
  · exact StepEffect.refl s
  · dsimp only
    split
    · next info hinfo =>
      exact (StepEffect.refl s).depositEvent ⟨⟨chain, exchange, asset1, asset2⟩, info, rfl, hinfo⟩
    · exact StepEffect.refl s

theorem StepEffect.index {s s' : State} (h : StepEffect s s')
    (index : AssetKey → Option TaskIndex) : StepEffect s { s' with sortedTasksIndex := index } := by
  obtain ⟨new, hnew, hd⟩ := h.events
  exact ⟨h.assets, h.tasks, new, hnew,
    fun e he => (hd e he).mono (fun _ _ h => h) (fun _ h => h)⟩

theorem StepEffect.storeTask (s : State) (taskId : TaskId) (task : Task) :
    StepEffect s { s with tasks := Function.update s.tasks taskId (some task) } := by
  refine ⟨fun _ _ h => h, fun id h => ?_, [], by simp, by simp⟩
  by_cases hid : id = taskId
  · subst hid; simp
  · simpa [Function.update_noteq hid] using h

theorem validateAndScheduleTask_effect (task : Task) (s : State) :
    StepEffect s (validateAndScheduleTask task s).2 := by
  have stored := StepEffect.storeTask s task.taskId task
  unfold validateAndScheduleTask scheduleTask
  split
  · exact StepEffect.refl s
  · dsimp only
    split
    · exact stored
    · exact stored.depositEvent (by simp [Event.Describes, State.depositEvent])
    · exact (stored.index _).depositEvent (by simp [Event.Describes, State.depositEvent])

theorem scheduleXcmpTask_effect (cfg : Config) (ctx : ExtrinsicContext) (origin : Origin)
    (chain : ChainName) (exchange : Exchange) (asset1 asset2 : AssetName) (expiredAt : Nat)
    (triggerFunction : Bytes) (triggerParam : List Nat)
    (destination scheduleFee : VersionedMultiLocation) (executionFee : AssetPayment)
    (encodedCall : Bytes) (encodedCallWeight overallWeight : Weight) (s : State) :
    StepEffect s (scheduleXcmpTask cfg ctx origin chain exchange asset1 asset2 expiredAt
      triggerFunction triggerParam destination scheduleFee executionFee encodedCall
      encodedCallWeight overallWeight s).2 := by
  refine StepEffect.transactional ?_
  cases ensureSigned origin
  · exact StepEffect.refl s
  · dsimp only
    split
    · exact validateAndScheduleTask_effect _ s
    · exact StepEffect.refl s

theorem step_effect (cfg : Config) (s : State) (a : Input) : StepEffect s (step cfg s a) := by
  cases a with
  | extrinsic ctx origin call =>
    cases call with
    | initializeAsset chain exchange asset1 asset2 decimal assetOwners =>
      exact initializeAsset_effect origin chain exchange asset1 asset2 decimal assetOwners s
    | updateAssetPrices chains exchanges assets1 assets2 prices submittedAt rounds =>
      exact updateAssetPrices_effect origin chains exchanges assets1 assets2 prices submittedAt
        rounds s
    | deleteAsset chain exchange asset1 asset2 =>
      exact deleteAsset_effect origin chain exchange asset1 asset2 s
    | scheduleXcmpTask chain exchange asset1 asset2 expiredAt triggerFunction triggerParam
        destination scheduleFee executionFee encodedCall encodedCallWeight overallWeight =>
      exact scheduleXcmpTask_effect cfg ctx origin chain exchange asset1 asset2 expiredAt
        triggerFunction triggerParam destination scheduleFee executionFee encodedCall
        encodedCallWeight overallWeight s
  | onInitialize => exact StepEffect.refl s
  | shutdown | restart =>
    exact ⟨fun _ _ h => h, fun _ h => h, [], by simp [step, shutdown, restart], by simp⟩

theorem run_effect (cfg : Config) (s : State) (inputs : List Input) :
    StepEffect s (run cfg s inputs) := by
  induction inputs generalizing s with
  | nil => exact StepEffect.refl s
  | cons a inputs ih => exact (step_effect cfg s a).trans (ih _)

/-- In every run from genesis, every event the pallet deposited still describes the storage at
the end: an announced task is stored, a created asset is registered with the decimal its event
names, a deleted asset is still registered, and no transfer event was ever deposited. -/
theorem run_events_describe (cfg : Config) (inputs : List Input) :
    ∀ e ∈ (run cfg State.empty inputs).events, e.Describes (run cfg State.empty inputs) := by
  obtain ⟨new, hnew, hd⟩ := (run_effect cfg State.empty inputs).events
  intro e he
  rw [hnew] at he
  exact hd e (by simpa [State.empty] using he)

theorem run_events_describe_after_register :
    Event.assetCreated uniUsdcEth.chain uniUsdcEth.exchange uniUsdcEth.asset1 uniUsdcEth.asset2 6 ∈
        (run sampleConfig State.empty [registerUniUsdcEth]).events ∧
      (Event.assetCreated uniUsdcEth.chain uniUsdcEth.exchange uniUsdcEth.asset1
        uniUsdcEth.asset2 6).Describes (run sampleConfig State.empty [registerUniUsdcEth]) := by
  have he : Event.assetCreated uniUsdcEth.chain uniUsdcEth.exchange uniUsdcEth.asset1
      uniUsdcEth.asset2 6 ∈ (run sampleConfig State.empty [registerUniUsdcEth]).events := by
    simp only [run, List.foldl, step, registerUniUsdcEth, dispatch]
    decide
  exact ⟨he, run_events_describe _ _ _ he⟩

/-- Every stored price belongs to a registered asset and carries nonce 1. -/
def PricesRegistered (s : State) : Prop :=
  ∀ k p, s.priceRegistry k = some p → p.nonce = 1 ∧ ∃ info, s.assetRegistry k = some info

theorem PricesRegistered.of_kept {s s' : State} (h : PricesRegistered s)
    (hk : RegistryKept s s') : PricesRegistered s' := fun k p hp => by
  rw [hk.1] at hp
  obtain ⟨hn, info, hi⟩ := h k p hp
  exact ⟨hn, info, hk.2 k info hi⟩

theorem PricesRegistered.write {s : State} {key : AssetKey} {info : RegistryInfo}
    {round price : Nat} (h : PricesRegistered s) (hreg : s.assetRegistry key = some info) :
    PricesRegistered
      { s with priceRegistry := Function.update s.priceRegistry key (some ⟨round, 1, price⟩) } := by
  intro k p hp
  by_cases hk : k = key
  · subst hk
    obtain rfl : (⟨round, 1, price⟩ : PriceData) = p := by simpa using hp
    exact ⟨rfl, info, hreg⟩
  · exact h k p (by simpa [Function.update_noteq hk] using hp)

theorem step_pricesRegistered (cfg : Config) {s : State} (a : Input) (h : PricesRegistered s) :
    PricesRegistered (step cfg s a) := by
  cases a with
  | extrinsic ctx origin call =>
    cases call with
    | initializeAsset chain exchange asset1 asset2 decimal assetOwners =>
      exact h.of_kept (initializeAsset_kept origin chain exchange asset1 asset2 decimal assetOwners s)
    | updateAssetPrices chains exchanges assets1 assets2 prices submittedAt rounds =>
      show PricesRegistered
        (updateAssetPrices origin chains exchanges assets1 assets2 prices submittedAt rounds s).2
      refine transactional_snd_of h ?_
      cases ensureSigned origin with
      | error => exact h
      | ok who =>
        exact updateAssetPricesLoop_induction (fun _ _ _ _ _ ht hreg _ => ht.write hreg) 0 prices h
    | deleteAsset chain exchange asset1 asset2 =>
      exact h.of_kept (deleteAsset_kept origin chain exchange asset1 asset2 s)
    | scheduleXcmpTask chain exchange asset1 asset2 expiredAt triggerFunction triggerParam
        destination scheduleFee executionFee encodedCall encodedCallWeight overallWeight =>
      exact h.of_kept (scheduleXcmpTask_kept cfg ctx origin chain exchange asset1 asset2 expiredAt
        triggerFunction triggerParam destination scheduleFee executionFee encodedCall
        encodedCallWeight overallWeight s)
  | onInitialize | shutdown | restart => exact h

theorem PricesRegistered.run (cfg : Config) (inputs : List Input) {s : State}
    (h : PricesRegistered s) : PricesRegistered (run cfg s inputs) := by
  induction inputs generalizing s with
  | nil => exact h
  | cons a inputs ih => exact ih (step_pricesRegistered cfg a h)

/-- In every run from genesis, every stored price belongs to a registered asset and has nonce 1:
no price outlives or precedes its asset's registration, and the pallet never advances a
nonce. -/
theorem run_prices_registered (cfg : Config) (inputs : List Input) (k : AssetKey) (p : PriceData)
    (hp : (run cfg State.empty inputs).priceRegistry k = some p) :
    p.nonce = 1 ∧ ∃ info, (run cfg State.empty inputs).assetRegistry k = some info :=
  PricesRegistered.run cfg inputs (fun _ _ h => by cases h) k p hp

/-- The oracle provider of `uniUsdcEth` posts 1800 at round 1, in extrinsic 1 of block 1. -/
def postUniUsdcEthPrice : Input :=
  .extrinsic ⟨1, some 1, 1⟩ (.signed 1) (.updateAssetPrices [uniUsdcEth.chain]
    [uniUsdcEth.exchange] [uniUsdcEth.asset1] [uniUsdcEth.asset2] [1800] [0] [1])

theorem run_prices_registered_after_post :
    (run sampleConfig State.empty [registerUniUsdcEth, postUniUsdcEthPrice]).priceRegistry
        uniUsdcEth = some ⟨1, 1, 1800⟩ ∧
      (⟨1, 1, 1800⟩ : PriceData).nonce = 1 ∧ ∃ info,
        (run sampleConfig State.empty [registerUniUsdcEth, postUniUsdcEthPrice]).assetRegistry
          uniUsdcEth = some info := by
  have hp : (run sampleConfig State.empty [registerUniUsdcEth, postUniUsdcEthPrice]).priceRegistry
      uniUsdcEth = some ⟨1, 1, 1800⟩ := by
    simp only [run, List.foldl, step, registerUniUsdcEth, postUniUsdcEthPrice, dispatch]
    decide
  exact ⟨hp, run_prices_registered _ _ _ _ hp⟩

/-- `s'` keeps every index entry of `s`, and each entry it adds maps a single task. -/
def IndexGrows (s s' : State) : Prop :=
  ∀ k, s'.sortedTasksIndex k = s.sortedTasksIndex k ∨
    s.sortedTasksIndex k = none ∧ ∃ id p, s'.sortedTasksIndex k = some (singletonIndex id p)

theorem IndexGrows.of_taskStore {s s' : State} (h : s'.taskStore = s.taskStore) :
    IndexGrows s s' :=
  fun k => .inl (congrFun (congrArg Prod.snd h) k)

theorem IndexGrows.keeps {s s' : State} {k : AssetKey} {idx : TaskIndex} (h : IndexGrows s s')
    (hk : s.sortedTasksIndex k = some idx) : s'.sortedTasksIndex k = some idx := by
  rcases h k with e | ⟨hnone, -⟩
  · rw [e, hk]
  · rw [hk] at hnone; cases hnone

theorem validateAndScheduleTask_indexGrows (task : Task) (s : State) :
    IndexGrows s (validateAndScheduleTask task s).2 := by
  rcases validateAndScheduleTask_index task s with h | ⟨hnone, param, h⟩
  · exact fun k => .inl (congrFun h k)
  · intro k
    rw [h]
    by_cases hk : k = task.assetKey
    · subst hk
      exact .inr ⟨hnone, task.taskId, param, by simp⟩
    · exact .inl (Function.update_noteq hk _ _)

theorem step_indexGrows (cfg : Config) (s : State) (a : Input) : IndexGrows s (step cfg s a) := by
  cases a with
  | extrinsic ctx origin call =>
    cases call with
    | initializeAsset chain exchange asset1 asset2 decimal assetOwners =>
      exact .of_taskStore (initializeAsset_taskStore origin chain exchange asset1 asset2 decimal
        assetOwners s)
    | updateAssetPrices chains exchanges assets1 assets2 prices submittedAt rounds =>
      exact .of_taskStore (updateAssetPrices_taskStore origin chains exchanges assets1 assets2
        prices submittedAt rounds s)
    | deleteAsset chain exchange asset1 asset2 =>
      exact .of_taskStore (deleteAsset_taskStore origin chain exchange asset1 asset2 s)
    | scheduleXcmpTask chain exchange asset1 asset2 expiredAt triggerFunction triggerParam
        destination scheduleFee executionFee encodedCall encodedCallWeight overallWeight =>
      show IndexGrows s (scheduleXcmpTask cfg ctx origin chain exchange asset1 asset2 expiredAt
        triggerFunction triggerParam destination scheduleFee executionFee encodedCall
        encodedCallWeight overallWeight s).2
      refine transactional_snd_of (fun _ => .inl rfl) ?_
      cases ensureSigned origin
      · exact fun _ => .inl rfl
      · dsimp only
        split
        · exact validateAndScheduleTask_indexGrows _ s
        · exact fun _ => .inl rfl
  | onInitialize | shutdown | restart => exact fun _ => .inl rfl

theorem run_index_keeps (cfg : Config) (inputs : List Input) {s : State} {k : AssetKey}
    {idx : TaskIndex} (h : s.sortedTasksIndex k = some idx) :
    (run cfg s inputs).sortedTasksIndex k = some idx := by
  induction inputs generalizing s with
  | nil => exact h
  | cons a inputs ih => exact ih ((step_indexGrows cfg s a).keeps h)

theorem run_index_singletons (cfg : Config) (inputs : List Input) {s : State}
    (h : ∀ k idx, s.sortedTasksIndex k = some idx → ∃ id p, idx = singletonIndex id p) :
    ∀ k idx, (run cfg s inputs).sortedTasksIndex k = some idx →
      ∃ id p, idx = singletonIndex id p := by
  induction inputs generalizing s with
  | nil => exact h
  | cons a inputs ih =>
    refine ih fun k idx hk => ?_
    rcases step_indexGrows cfg s a k with e | ⟨-, id, p, e⟩
    · exact h k idx (e ▸ hk)
    · rw [e] at hk
      exact ⟨id, p, (Option.some.inj hk).symm⟩

/-- In every run from genesis, each `SortedTasksIndex` entry maps exactly one task id, however
many tasks are scheduled for its asset, and an entry once created never changes. -/
theorem run_index_entries_singleton (cfg : Config) (inputs : List Input) :
    (∀ k idx, (run cfg State.empty inputs).sortedTasksIndex k = some idx →
      ∃ id p, idx = singletonIndex id p) ∧
    ∀ i j k idx, i ≤ j →
      (run cfg State.empty (inputs.take i)).sortedTasksIndex k = some idx →
      (run cfg State.empty (inputs.take j)).sortedTasksIndex k = some idx := by
  refine ⟨run_index_singletons cfg inputs (fun _ _ h => by cases h), fun i j k idx hij h => ?_⟩
  rw [← List.take_append_drop i (inputs.take j), List.take_take, Nat.min_eq_left hij, run_append]
  exact run_index_keeps cfg _ h

/-- A task as a successful `schedule_xcmp_task` stores it under `id`: keyed by its own id,
with a first trigger parameter, and with an XCMP action paid through the sovereign account. -/
structure StoredTask (id : TaskId) (task : Task) : Prop where
  taskId_eq : task.taskId = id
  triggerParams_ne_nil : task.triggerParams ≠ []
  xcmp : ∃ destination scheduleFee executionFee encodedCall encodedCallWeight overallWeight,
    task.action = .xcmp destination scheduleFee executionFee encodedCall encodedCallWeight
      overallWeight none .payThroughSovereignAccount

/-- The input is a `schedule_xcmp_task` signed by `who` that ends in `Ok` from `s`, with both
locations converted; the task is the one it builds from its arguments, under the id it
generates. -/
inductive SchedulesTask (cfg : Config) (s : State) : Input → TaskId → Task → Prop
  | mk (ctx : ExtrinsicContext) (who : AccountId) (chain : ChainName) (exchange : Exchange)
      (asset1 asset2 : AssetName) (expiredAt : Nat) (triggerFunction : Bytes)
      (triggerParam : List Nat) (destination scheduleFee : VersionedMultiLocation)
      (executionFee : AssetPayment) (encodedCall : Bytes)
      (encodedCallWeight overallWeight : Weight) (d f : MultiLocation)
      (ok : (scheduleXcmpTask cfg ctx (.signed who) chain exchange asset1 asset2 expiredAt
        triggerFunction triggerParam destination scheduleFee executionFee encodedCall
        encodedCallWeight overallWeight s).1 = .ok)
      (destination_eq : cfg.multiLocationTryFrom destination = some d)
      (scheduleFee_eq : cfg.multiLocationTryFrom scheduleFee = some f) :
      SchedulesTask cfg s
        (.extrinsic ctx (.signed who) (.scheduleXcmpTask chain exchange asset1 asset2 expiredAt
          triggerFunction triggerParam destination scheduleFee executionFee encodedCall
          encodedCallWeight overallWeight))
        (generateTaskId ctx)
        (xcmpTask ctx who chain exchange asset1 asset2 triggerFunction triggerParam d f
          executionFee encodedCall encodedCallWeight overallWeight)

theorem SchedulesTask.scheduledId {cfg : Config} {s : State} {a : Input} {id : TaskId}
    {task : Task} (h : SchedulesTask cfg s a id task) : a.scheduledId = some id := by
  cases h; rfl

theorem SchedulesTask.stored {cfg : Config} {s : State} {a : Input} {id : TaskId} {task : Task}
    (h : SchedulesTask cfg s a id task) : StoredTask id task := by
  cases h with
  | mk _ _ _ _ _ _ _ _ _ _ _ executionFee encodedCall encodedCallWeight overallWeight d f ok =>
    obtain ⟨_, _, _, -, -, -, hp, -⟩ := scheduleXcmpTask_of_ok ok
    exact ⟨rfl, hp, d, f, executionFee, encodedCall, encodedCallWeight, overallWeight, rfl⟩

theorem step_tasks_stored (cfg : Config) (s : State) (a : Input) {id : TaskId} {task : Task}
    (h : (step cfg s a).tasks id = some task) :
    s.tasks id = some task ∨ SchedulesTask cfg s a id task := by
  have keep {s' : State} (hst : s'.taskStore = s.taskStore) (h : s'.tasks id = some task) :
      s.tasks id = some task := by
    rwa [show s'.tasks = s.tasks from congrArg Prod.fst hst] at h
  cases a with
  | extrinsic ctx origin call =>
    cases call with
    | initializeAsset chain exchange asset1 asset2 decimal assetOwners =>
      exact .inl (keep (initializeAsset_taskStore origin chain exchange asset1 asset2 decimal
        assetOwners s) h)
    | updateAssetPrices chains exchanges assets1 assets2 prices submittedAt rounds =>
      exact .inl (keep (updateAssetPrices_taskStore origin chains exchanges assets1 assets2
        prices submittedAt rounds s) h)
    | deleteAsset chain exchange asset1 asset2 =>
      exact .inl (keep (deleteAsset_taskStore origin chain exchange asset1 asset2 s) h)
    | scheduleXcmpTask chain exchange asset1 asset2 expiredAt triggerFunction triggerParam
        destination scheduleFee executionFee encodedCall encodedCallWeight overallWeight =>
      change (scheduleXcmpTask cfg ctx origin chain exchange asset1 asset2 expiredAt
        triggerFunction triggerParam destination scheduleFee executionFee encodedCall
        encodedCallWeight overallWeight s).2.tasks id = some task at h
      by_cases hok : (scheduleXcmpTask cfg ctx origin chain exchange asset1 asset2 expiredAt
          triggerFunction triggerParam destination scheduleFee executionFee encodedCall
          encodedCallWeight overallWeight s).1 = .ok
      · obtain ⟨who, d, f, rfl, hd, hf, -, ht⟩ := scheduleXcmpTask_of_ok hok
        rw [ht] at h
        by_cases hid : id = generateTaskId ctx
        · subst hid
          obtain rfl : xcmpTask ctx who chain exchange asset1 asset2 triggerFunction triggerParam
              d f executionFee encodedCall encodedCallWeight overallWeight = task := by simpa using h
          exact .inr (.mk ctx who chain exchange asset1 asset2 expiredAt triggerFunction
            triggerParam destination scheduleFee executionFee encodedCall encodedCallWeight
            overallWeight d f hok hd hf)
        · exact .inl (by rwa [Function.update_noteq hid] at h)
      · unfold scheduleXcmpTask at h hok
        exact .inl (by rwa [transactional_snd_eq_of_ne_ok hok] at h)
  | onInitialize | shutdown | restart => exact .inl h

theorem run_tasks_stored (cfg : Config) (inputs : List Input) {s : State} {id : TaskId}
    {task : Task} (h : (run cfg s inputs).tasks id = some task) :
    s.tasks id = some task ∨
      ∃ i a, inputs[i]? = some a ∧ SchedulesTask cfg (run cfg s (inputs.take i)) a id task := by
  induction inputs generalizing s with
  | nil => exact .inl h
  | cons a inputs ih =>
    rcases ih h with h | ⟨i, b, hb, hsch⟩
    · rcases step_tasks_stored cfg s a h with h | hsch
      · exact .inl h
      · exact .inr ⟨0, a, List.getElem?_cons_zero, hsch⟩
    · exact .inr ⟨i + 1, b, List.getElem?_cons_succ.trans hb, hsch⟩

/-- In every run from genesis, each stored task was built by a `schedule_xcmp_task` of the run
that the task's owner signed and that ended in `Ok` in the state the inputs before it left,
under the id that call generated. So the task has a first trigger parameter, since a call that
panicked on an empty one was rolled back, and an XCMP action: no call stores a native
transfer. -/
theorem run_stored_tasks_scheduled (cfg : Config) (inputs : List Input) (id : TaskId)
    (task : Task) (h : (run cfg State.empty inputs).tasks id = some task) :
    StoredTask id task ∧ ∃ i a, inputs[i]? = some a ∧
      SchedulesTask cfg (run cfg State.empty (inputs.take i)) a id task := by
  obtain ⟨i, a, ha, hsch⟩ := (run_tasks_stored cfg inputs h).resolve_left (by simp [State.empty])
  exact ⟨hsch.stored, i, a, ha, hsch⟩

theorem run_stored_tasks_scheduled_one :
    (run sampleConfig State.empty [scheduleOnUniUsdcEth 1]).tasks (generateTaskId ⟨1, some 1, 1⟩) =
        some (xcmpTask ⟨1, some 1, 1⟩ 1 uniUsdcEth.chain uniUsdcEth.exchange uniUsdcEth.asset1
          uniUsdcEth.asset2 [] [1800] [] [] [] [] Weight.zero Weight.zero) ∧
      StoredTask (generateTaskId ⟨1, some 1, 1⟩) (xcmpTask ⟨1, some 1, 1⟩ 1 uniUsdcEth.chain
        uniUsdcEth.exchange uniUsdcEth.asset1 uniUsdcEth.asset2 [] [1800] [] [] [] [] Weight.zero
        Weight.zero) ∧
      ∃ i a, [scheduleOnUniUsdcEth 1][i]? = some a ∧ SchedulesTask sampleConfig
        (run sampleConfig State.empty ([scheduleOnUniUsdcEth 1].take i)) a
        (generateTaskId ⟨1, some 1, 1⟩) (xcmpTask ⟨1, some 1, 1⟩ 1 uniUsdcEth.chain
          uniUsdcEth.exchange uniUsdcEth.asset1 uniUsdcEth.asset2 [] [1800] [] [] [] []
          Weight.zero Weight.zero) := by
  have ht : (run sampleConfig State.empty [scheduleOnUniUsdcEth 1]).tasks
      (generateTaskId ⟨1, some 1, 1⟩) = some (xcmpTask ⟨1, some 1, 1⟩ 1 uniUsdcEth.chain
        uniUsdcEth.exchange uniUsdcEth.asset1 uniUsdcEth.asset2 [] [1800] [] [] [] [] Weight.zero
        Weight.zero) := by
    simp only [run, List.foldl, step, scheduleOnUniUsdcEth, dispatch, scheduleXcmpTask, xcmpTask,
      generateTaskId_block_one (by norm_num : 1 < 10)]
    decide
  exact ⟨ht, run_stored_tasks_scheduled _ _ _ _ ht⟩

theorem step_tasks_frame (cfg : Config) (s : State) (a : Input) {id : TaskId}
    (h : a.scheduledId ≠ some id) : (step cfg s a).tasks id = s.tasks id := by
  cases ht : (step cfg s a).tasks id with
  | none =>
    by_contra hs
    exact (step_effect cfg s a).tasks id (Ne.symm hs) ht
  | some task =>
    exact ((step_tasks_stored cfg s a ht).resolve_right fun hst => h hst.scheduledId).symm

theorem run_tasks_frame (cfg : Config) (inputs : List Input) {s : State} {id : TaskId}
    (h : ∀ a ∈ inputs, a.scheduledId ≠ some id) : (run cfg s inputs).tasks id = s.tasks id := by
  induction inputs generalizing s with
  | nil => rfl
  | cons a inputs ih =>
    rw [run, List.foldl_cons, ← run, ih fun b hb => h b (List.mem_cons_of_mem _ hb),
      step_tasks_frame cfg s a (h a (List.mem_cons_self _ _))]

/-- In a run whose scheduling inputs generate pairwise distinct ids, a stored task is never
overwritten or removed by the inputs that follow. -/
theorem run_tasks_persist (cfg : Config) (inputs more : List Input) (id : TaskId) (task : Task)
    (hids : ((inputs ++ more).filterMap Input.scheduledId).Nodup)
    (h : (run cfg State.empty inputs).tasks id = some task) :
    (run cfg State.empty (inputs ++ more)).tasks id = some task := by
  obtain ⟨i, a, ha, hsch⟩ := (run_tasks_stored cfg inputs h).resolve_left (by simp [State.empty])
  have hmem : id ∈ inputs.filterMap Input.scheduledId :=
    List.mem_filterMap.mpr ⟨a, List.mem_iff_getElem?.mpr ⟨i, ha⟩, hsch.scheduledId⟩
  rw [List.filterMap_append] at hids
  rw [run_append, run_tasks_frame cfg more fun b hb e =>
    List.disjoint_of_nodup_append hids hmem (List.mem_filterMap.mpr ⟨b, hb, e⟩)]
  exact h

theorem run_tasks_persist_after_second_schedule :
    (([scheduleOnUniUsdcEth 1] ++ [scheduleOnUniUsdcEth 2]).filterMap Input.scheduledId).Nodup ∧
      (run sampleConfig State.empty [scheduleOnUniUsdcEth 1]).tasks
        (generateTaskId ⟨1, some 1, 1⟩) = some (xcmpTask ⟨1, some 1, 1⟩ 1 uniUsdcEth.chain
          uniUsdcEth.exchange uniUsdcEth.asset1 uniUsdcEth.asset2 [] [1800] [] [] [] []
          Weight.zero Weight.zero) ∧
      (run sampleConfig State.empty ([scheduleOnUniUsdcEth 1] ++ [scheduleOnUniUsdcEth 2])).tasks
        (generateTaskId ⟨1, some 1, 1⟩) = some (xcmpTask ⟨1, some 1, 1⟩ 1 uniUsdcEth.chain
          uniUsdcEth.exchange uniUsdcEth.asset1 uniUsdcEth.asset2 [] [1800] [] [] [] []
          Weight.zero Weight.zero) := by
  have hids : (([scheduleOnUniUsdcEth 1] ++ [scheduleOnUniUsdcEth 2]).filterMap
      Input.scheduledId).Nodup := by
    simp only [scheduleOnUniUsdcEth, List.singleton_append, List.filterMap_cons,
      List.filterMap_nil, Input.scheduledId, generateTaskId_block_one (by norm_num : 1 < 10),
      generateTaskId_block_one (by norm_num : 2 < 10)]
    decide
  have h : (run sampleConfig State.empty [scheduleOnUniUsdcEth 1]).tasks
      (generateTaskId ⟨1, some 1, 1⟩) = some (xcmpTask ⟨1, some 1, 1⟩ 1 uniUsdcEth.chain
        uniUsdcEth.exchange uniUsdcEth.asset1 uniUsdcEth.asset2 [] [1800] [] [] [] [] Weight.zero
        Weight.zero) := by
    simp only [run, List.foldl, step, scheduleOnUniUsdcEth, dispatch, scheduleXcmpTask, xcmpTask,
      generateTaskId_block_one (by norm_num : 1 < 10)]
    decide
  exact ⟨hids, h, run_tasks_persist _ _ _ _ _ hids h⟩

end AutomationPrice
