import AutomationPrice.Schedule
import AutomationPrice.Hooks

/-! The pallet as a state machine. An input is an extrinsic (a call with its origin and the
context `generate_task_id` reads), the block hook, or the `Shutdown` valve; `run` replays a
list of inputs. Each step keeps the asset registry and writes prices only for their oracle
providers, so the same holds of every run. In a run whose scheduling calls generate distinct
ids, the task index never points at a wrong task, though it can miss one. -/

namespace AutomationPrice

inductive Call
  | initializeAsset (chain : ChainName) (exchange : Exchange) (asset1 asset2 : AssetName)
      (decimal : UInt8) (assetOwners : List AccountId)
  | updateAssetPrices (chains : List ChainName) (exchanges : List Exchange)
      (assets1 assets2 : List AssetName) (prices submittedAt rounds : List Nat)
  | deleteAsset (chain : ChainName) (exchange : Exchange) (asset1 asset2 : AssetName)
  | scheduleXcmpTask (chain : ChainName) (exchange : Exchange) (asset1 asset2 : AssetName)
      (expiredAt : Nat) (triggerFunction : Bytes) (triggerParam : List Nat)
      (destination scheduleFee : VersionedMultiLocation) (executionFee : AssetPayment)
      (encodedCall : Bytes) (encodedCallWeight overallWeight : Weight)

def dispatch (cfg : Config) (ctx : ExtrinsicContext) (origin : Origin) :
    Call → State → Outcome × State
  | .initializeAsset chain exchange asset1 asset2 decimal assetOwners =>
    initializeAsset origin chain exchange asset1 asset2 decimal assetOwners
  | .updateAssetPrices chains exchanges assets1 assets2 prices submittedAt rounds =>
    updateAssetPrices origin chains exchanges assets1 assets2 prices submittedAt rounds
  | .deleteAsset chain exchange asset1 asset2 => deleteAsset origin chain exchange asset1 asset2
  | .scheduleXcmpTask chain exchange asset1 asset2 expiredAt triggerFunction triggerParam
      destination scheduleFee executionFee encodedCall encodedCallWeight overallWeight =>
    scheduleXcmpTask cfg ctx origin chain exchange asset1 asset2 expiredAt triggerFunction
      triggerParam destination scheduleFee executionFee encodedCall encodedCallWeight overallWeight

/-- What reaches the pallet: an extrinsic, the block hook, or the valve. -/
inductive Input
  | extrinsic (ctx : ExtrinsicContext) (origin : Origin) (call : Call)
  | onInitialize
  | shutdown
  | restart

/-- One step. A failed or panicking extrinsic leaves the state as it was; `on_initialize`
only reads (`onInitialize` is the weight it reports). -/
def step (cfg : Config) (s : State) : Input → State
  | .extrinsic ctx origin call => (dispatch cfg ctx origin call s).2
  | .onInitialize => s
  | .shutdown => shutdown s
  | .restart => restart s

def run (cfg : Config) (s : State) (inputs : List Input) : State := inputs.foldl (step cfg) s

theorem run_append (cfg : Config) (s : State) (xs ys : List Input) :
    run cfg s (xs ++ ys) = run cfg (run cfg s xs) ys := List.foldl_append _ _ _ _

theorem step_registries (cfg : Config) (s : State) (a : Input) :
    (∀ k info, s.assetRegistry k = some info → (step cfg s a).assetRegistry k = some info) ∧
    ∀ k, (step cfg s a).priceRegistry k ≠ s.priceRegistry k →
      ∃ ctx who chains exchanges assets1 assets2 prices submittedAt rounds,
        a = .extrinsic ctx (.signed who)
          (.updateAssetPrices chains exchanges assets1 assets2 prices submittedAt rounds) ∧
        (dispatch cfg ctx (.signed who)
          (.updateAssetPrices chains exchanges assets1 assets2 prices submittedAt rounds) s).1 =
          .ok ∧
        ∃ info, s.assetRegistry k = some info ∧ who ∈ info.oracleProviders := by
  have kept {s' : State} (h : RegistryKept s s') :
      (∀ k info, s.assetRegistry k = some info → s'.assetRegistry k = some info) ∧
      ∀ k, s'.priceRegistry k ≠ s.priceRegistry k → False :=
    ⟨h.2, fun k hk => hk (congrFun h.1 k)⟩
  cases a with
  | extrinsic ctx origin call =>
    cases call with
    | initializeAsset chain exchange asset1 asset2 decimal assetOwners =>
      simpa using kept (initializeAsset_kept origin chain exchange asset1 asset2 decimal assetOwners s)
    | deleteAsset chain exchange asset1 asset2 =>
      simpa using kept (deleteAsset_kept origin chain exchange asset1 asset2 s)
    | scheduleXcmpTask chain exchange asset1 asset2 expiredAt triggerFunction triggerParam
        destination scheduleFee executionFee encodedCall encodedCallWeight overallWeight =>
      simpa using kept (scheduleXcmpTask_kept cfg ctx origin chain exchange asset1 asset2 expiredAt
        triggerFunction triggerParam destination scheduleFee executionFee encodedCall
        encodedCallWeight overallWeight s)
    | updateAssetPrices chains exchanges assets1 assets2 prices submittedAt rounds =>
      obtain ⟨hreg, hprice⟩ :=
        updateAssetPrices_writes origin chains exchanges assets1 assets2 prices submittedAt rounds s
      refine ⟨fun k info h => by simp only [step, dispatch, hreg, h], fun k hk => ?_⟩
      obtain ⟨hok, who, rfl, auth⟩ := hprice k hk
      exact ⟨ctx, who, chains, exchanges, assets1, assets2, prices, submittedAt, rounds, rfl, hok,
        auth⟩
  | onInitialize | shutdown | restart =>
    simp [step, shutdown, restart]

theorem run_keeps_assets (cfg : Config) (inputs : List Input) {s : State} {k : AssetKey}
    {info : RegistryInfo} (h : s.assetRegistry k = some info) :
    (run cfg s inputs).assetRegistry k = some info := by
  induction inputs generalizing s with
  | nil => exact h
  | cons a inputs ih => exact ih ((step_registries cfg s a).1 k info h)

/-- In every run from genesis, a step changes the price of a key only as a successful
`update_asset_prices` signed by an account among the key's oracle providers in the state
before the step; and once an asset is registered, no later step changes its registry
entry, so its oracle providers stay as `initialize_asset` set them. -/
theorem prices_only_from_providers (cfg : Config) (inputs : List Input) :
    (∀ i a, inputs[i]? = some a → ∀ k,
      (step cfg (run cfg State.empty (inputs.take i)) a).priceRegistry k ≠
          (run cfg State.empty (inputs.take i)).priceRegistry k →
        ∃ ctx who chains exchanges assets1 assets2 prices submittedAt rounds,
          a = .extrinsic ctx (.signed who)
            (.updateAssetPrices chains exchanges assets1 assets2 prices submittedAt rounds) ∧
          (dispatch cfg ctx (.signed who)
            (.updateAssetPrices chains exchanges assets1 assets2 prices submittedAt rounds)
            (run cfg State.empty (inputs.take i))).1 = .ok ∧
          ∃ info, (run cfg State.empty (inputs.take i)).assetRegistry k = some info ∧
            who ∈ info.oracleProviders) ∧
    ∀ i j k info, i ≤ j →
      (run cfg State.empty (inputs.take i)).assetRegistry k = some info →
      (run cfg State.empty (inputs.take j)).assetRegistry k = some info := by
  refine ⟨fun i a _ k hk => (step_registries cfg _ a).2 k hk, fun i j k info hij h => ?_⟩
  rw [← List.take_append_drop i (inputs.take j), List.take_take, Nat.min_eq_left hij, run_append]
  exact run_keeps_assets cfg _ h

/-- Account 1 schedules an XCMP task on `uniUsdcEth` with trigger parameter 1800, in
extrinsic `x` of block 1 at event count `x`. -/
def scheduleOnUniUsdcEth (x : Nat) : Input :=
  .extrinsic ⟨1, some x, x⟩ (.signed 1)
    (.scheduleXcmpTask uniUsdcEth.chain uniUsdcEth.exchange uniUsdcEth.asset1 uniUsdcEth.asset2 0
      [] [1800] [] [] [] [] Weight.zero Weight.zero)

/-- From genesis, a task is scheduled on an asset nobody registered: it is stored, and the
registry still has no entry for its asset. -/
theorem task_on_unregistered_asset :
    ((run sampleConfig State.empty [scheduleOnUniUsdcEth 1]).tasks
        (generateTaskId ⟨1, some 1, 1⟩)).map Task.assetKey = some uniUsdcEth ∧
      (run sampleConfig State.empty [scheduleOnUniUsdcEth 1]).assetRegistry uniUsdcEth = none := by
  simp only [run, List.foldl, step, scheduleOnUniUsdcEth, dispatch, scheduleXcmpTask, xcmpTask,
    generateTaskId_block_one (by norm_num : 1 < 10)]
  decide

/-- Root registers `uniUsdcEth` with oracle provider 1, in extrinsic 0 of block 1. -/
def registerUniUsdcEth : Input :=
  .extrinsic ⟨1, some 0, 0⟩ .root (.initializeAsset uniUsdcEth.chain uniUsdcEth.exchange
    uniUsdcEth.asset1 uniUsdcEth.asset2 6 [1])

/-- Root registers `uniUsdcEth`, then account 1 schedules two tasks on it in extrinsics 1
and 2. Both tasks are stored under distinct ids, but the asset's index entry maps only the
first: the second was inserted into a copy of the entry. -/
theorem second_task_missing_from_index :
    ((run sampleConfig State.empty [registerUniUsdcEth, scheduleOnUniUsdcEth 1,
        scheduleOnUniUsdcEth 2]).tasks (generateTaskId ⟨1, some 2, 2⟩)).map Task.assetKey =
      some uniUsdcEth ∧
    ((run sampleConfig State.empty [registerUniUsdcEth, scheduleOnUniUsdcEth 1,
        scheduleOnUniUsdcEth 2]).sortedTasksIndex uniUsdcEth).map (fun idx =>
      (idx (generateTaskId ⟨1, some 1, 1⟩), idx (generateTaskId ⟨1, some 2, 2⟩))) =
      some (some 1800, none) := by
  simp only [run, List.foldl, step, registerUniUsdcEth, scheduleOnUniUsdcEth, dispatch,
    scheduleXcmpTask, xcmpTask, generateTaskId_block_one (by norm_num : 1 < 10),
    generateTaskId_block_one (by norm_num : 2 < 10)]
  decide

def Input.scheduledId : Input → Option TaskId
  | .extrinsic ctx _ (.scheduleXcmpTask ..) => some (generateTaskId ctx)
  | _ => none

theorem step_scheduleInv (cfg : Config) {ids : List TaskId} {s : State} (a : Input)
    (h : ScheduleInv ids s) (hnew : ∀ id, a.scheduledId = some id → id ∉ ids) :
    ScheduleInv (ids ++ a.scheduledId.toList) (step cfg s a) := by
  have keep {s' : State} (hst : s'.taskStore = s.taskStore) :
      ScheduleInv (ids ++ (none : Option TaskId).toList) s' := by
    simpa using h.of_taskStore hst
  cases a with
  | extrinsic ctx origin call =>
    cases call with
    | initializeAsset chain exchange asset1 asset2 decimal assetOwners =>
      exact keep (initializeAsset_taskStore origin chain exchange asset1 asset2 decimal assetOwners s)
    | updateAssetPrices chains exchanges assets1 assets2 prices submittedAt rounds =>
      exact keep (updateAssetPrices_taskStore origin chains exchanges assets1 assets2 prices
        submittedAt rounds s)
    | deleteAsset chain exchange asset1 asset2 =>
      exact keep (deleteAsset_taskStore origin chain exchange asset1 asset2 s)
    | scheduleXcmpTask chain exchange asset1 asset2 expiredAt triggerFunction triggerParam
        destination scheduleFee executionFee encodedCall encodedCallWeight overallWeight =>
      exact scheduleXcmpTask_inv cfg ctx origin chain exchange asset1 asset2 expiredAt
        triggerFunction triggerParam destination scheduleFee executionFee encodedCall
        encodedCallWeight overallWeight h (hnew _ rfl)
  | onInitialize | shutdown | restart => exact keep rfl

theorem run_scheduleInv (cfg : Config) (inputs : List Input) {ids : List TaskId} {s : State}
    (h : ScheduleInv ids s) (hids : (ids ++ inputs.filterMap Input.scheduledId).Nodup) :
    ScheduleInv (ids ++ inputs.filterMap Input.scheduledId) (run cfg s inputs) := by
  induction inputs generalizing ids s with
  | nil => simpa using h
  | cons a inputs ih =>
    have hsplit : ids ++ (a :: inputs).filterMap Input.scheduledId =
        ids ++ a.scheduledId.toList ++ inputs.filterMap Input.scheduledId := by
      cases ha : a.scheduledId <;> simp [List.filterMap_cons, ha]
    rw [hsplit] at hids ⊢
    refine ih (step_scheduleInv cfg a h fun id hid hmem => ?_) hids
    rw [hid] at hids
    exact List.disjoint_of_nodup_append (hids.sublist (List.sublist_append_left _ _)) hmem
      (List.mem_singleton_self id)

/-- In every run from genesis whose scheduling inputs generate pairwise distinct ids, each id
in the index entry of an asset names a stored task of that asset, and maps to the task's first
trigger parameter. -/
theorem run_index_sound (cfg : Config) (inputs : List Input)
    (hids : (inputs.filterMap Input.scheduledId).Nodup) :
    IndexSound (run cfg State.empty inputs) :=
  (@run_scheduleInv cfg inputs [] State.empty ScheduleInv.empty hids).sound

theorem run_index_sound_two_tasks :
    ([registerUniUsdcEth, scheduleOnUniUsdcEth 1, scheduleOnUniUsdcEth 2].filterMap
        Input.scheduledId).Nodup ∧
      IndexSound (run sampleConfig State.empty
        [registerUniUsdcEth, scheduleOnUniUsdcEth 1, scheduleOnUniUsdcEth 2]) := by
  have hids : ([registerUniUsdcEth, scheduleOnUniUsdcEth 1, scheduleOnUniUsdcEth 2].filterMap
      Input.scheduledId).Nodup := by
    simp only [registerUniUsdcEth, scheduleOnUniUsdcEth, List.filterMap_cons, List.filterMap_nil,
      Input.scheduledId, generateTaskId_block_one (by norm_num : 1 < 10),
      generateTaskId_block_one (by norm_num : 2 < 10)]
    decide
  exact ⟨hids, run_index_sound _ _ hids⟩

end AutomationPrice
