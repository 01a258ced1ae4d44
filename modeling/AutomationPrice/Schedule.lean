import AutomationPrice.TaskId
import AutomationPrice.Registry

/-! Task registration: `schedule_task`, `validate_and_schedule_task` and `schedule_xcmp_task`.
The validation checks only that the id is non-empty. `Tasks` is written before
`trigger_params[0]` is read, so an empty parameter list panics after that write, and an index
entry that already exists is updated in a local copy that is never written back. What the
index does hold stays sound: `ScheduleInv` is kept by every call that schedules under a new id. -/

namespace AutomationPrice

/-- `schedule_task`: its body is commented out, so it returns the task's id. -/
def scheduleTask (task : Task) : Except Error TaskId := .ok task.taskId

/-- The index entry `validate_and_schedule_task` creates: a fresh `BTreeMap` with one task. -/
def singletonIndex (taskId : TaskId) (param : Nat) : TaskIndex :=
  Function.update (fun _ => none) taskId (some param)

/-- `validate_and_schedule_task`. -/
def validateAndScheduleTask (task : Task) (s : State) : Outcome × State :=
  if task.taskId.isEmpty then (.err (.module .emptyProvidedId), s)
  else
    let s := { s with tasks := Function.update s.tasks task.taskId (some task) }
    let scheduled (s : State) : Outcome × State :=
      match scheduleTask task with
      | .error e => (.err (.module e), s)
      | .ok _ => (.ok, s.depositEvent (.taskScheduled task.ownerId task.taskId))
    match s.sortedTasksIndex task.assetKey, task.triggerParams[0]? with
    | _, none => (.indexOutOfBounds, s)
    -- `task_index.insert` changes a copy of the entry, which is dropped
    | some _, some _ => scheduled s
    | none, some param =>
      scheduled { s with
        sortedTasksIndex :=
          Function.update s.sortedTasksIndex task.assetKey (some (singletonIndex task.taskId param)) }

/-- The task `schedule_xcmp_task` builds for `who`, under the id of the extrinsic. -/
def xcmpTask (ctx : ExtrinsicContext) (who : AccountId) (chain : ChainName) (exchange : Exchange)
    (asset1 asset2 : AssetName) (triggerFunction : Bytes) (triggerParam : List Nat)
    (destination scheduleFee : MultiLocation) (executionFee : AssetPayment) (encodedCall : Bytes)
    (encodedCallWeight overallWeight : Weight) : Task :=
  { ownerId := who, taskId := generateTaskId ctx, chain, exchange, assetPair := (asset1, asset2),
    triggerFunction, triggerParams := triggerParam,
    action := .xcmp destination scheduleFee executionFee encodedCall encodedCallWeight
      overallWeight none .payThroughSovereignAccount }

/-- `schedule_xcmp_task`. `expired_at` is never read. -/
def scheduleXcmpTask (cfg : Config) (ctx : ExtrinsicContext) (origin : Origin)
    (chain : ChainName) (exchange : Exchange) (asset1 asset2 : AssetName) (_expiredAt : Nat)
    (triggerFunction : Bytes) (triggerParam : List Nat)
    (destination scheduleFee : VersionedMultiLocation) (executionFee : AssetPayment)
    (encodedCall : Bytes) (encodedCallWeight overallWeight : Weight) : State → Outcome × State :=
  transactional fun s =>
    match ensureSigned origin with
    | .error e => (.err e, s)
    | .ok who =>
      match cfg.multiLocationTryFrom destination, cfg.multiLocationTryFrom scheduleFee with
      | some destination, some scheduleFee =>
        validateAndScheduleTask (xcmpTask ctx who chain exchange asset1 asset2 triggerFunction
          triggerParam destination scheduleFee executionFee encodedCall encodedCallWeight
          overallWeight) s
      | _, _ => (.err (.module .badVersion), s)

theorem generateTaskId_ne_nil (ctx : ExtrinsicContext) : generateTaskId ctx ≠ [] := by
  simp [generateTaskId]

theorem validateAndScheduleTask_of_param {task : Task} {s : State} {param : Nat}
    {rest : List Nat} (hid : task.taskId ≠ []) (hp : task.triggerParams = param :: rest) :
    validateAndScheduleTask task s = (.ok, State.depositEvent
      { s with
        tasks := Function.update s.tasks task.taskId (some task),
        sortedTasksIndex :=
          match s.sortedTasksIndex task.assetKey with
          | some _ => s.sortedTasksIndex
          | none => Function.update s.sortedTasksIndex task.assetKey
              (some (singletonIndex task.taskId param)) }
      (.taskScheduled task.ownerId task.taskId)) := by
  unfold validateAndScheduleTask
  simp only [List.isEmpty_iff, hid, if_false, hp, List.getElem?_cons_zero, scheduleTask]
  cases s.sortedTasksIndex task.assetKey <;> rfl

theorem validateAndScheduleTask_of_nil {task : Task} {s : State} (hid : task.taskId ≠ [])
    (hp : task.triggerParams = []) : (validateAndScheduleTask task s).1 = .indexOutOfBounds := by
  unfold validateAndScheduleTask
  simp only [List.isEmpty_iff, hid, if_false, hp, List.getElem?_nil]

theorem scheduleXcmpTask_signed {cfg : Config} {ctx : ExtrinsicContext} {who : AccountId}
    {chain : ChainName} {exchange : Exchange} {asset1 asset2 : AssetName} {expiredAt : Nat}
    {triggerFunction : Bytes} {triggerParam : List Nat}
    {destination scheduleFee : VersionedMultiLocation} {executionFee : AssetPayment}
    {encodedCall : Bytes} {encodedCallWeight overallWeight : Weight} {d f : MultiLocation}
    (hd : cfg.multiLocationTryFrom destination = some d)
    (hf : cfg.multiLocationTryFrom scheduleFee = some f) (s : State) :
    scheduleXcmpTask cfg ctx (.signed who) chain exchange asset1 asset2 expiredAt triggerFunction
      triggerParam destination scheduleFee executionFee encodedCall encodedCallWeight
      overallWeight s =
    transactional (validateAndScheduleTask (xcmpTask ctx who chain exchange asset1 asset2
      triggerFunction triggerParam d f executionFee encodedCall encodedCallWeight overallWeight)) s := by
  simp only [scheduleXcmpTask, ensureSigned, hd, hf]

theorem scheduleXcmpTask_stores {cfg : Config} {ctx : ExtrinsicContext} {who : AccountId}
    {chain : ChainName} {exchange : Exchange} {asset1 asset2 : AssetName} {expiredAt : Nat}
    {triggerFunction : Bytes} {param : Nat} {rest : List Nat}
    {destination scheduleFee : VersionedMultiLocation} {executionFee : AssetPayment}
    {encodedCall : Bytes} {encodedCallWeight overallWeight : Weight} {d f : MultiLocation}
    (hd : cfg.multiLocationTryFrom destination = some d)
    (hf : cfg.multiLocationTryFrom scheduleFee = some f) (s : State) :
    let r := scheduleXcmpTask cfg ctx (.signed who) chain exchange asset1 asset2 expiredAt
      triggerFunction (param :: rest) destination scheduleFee executionFee encodedCall
      encodedCallWeight overallWeight s
    r.1 = .ok ∧ r.2.tasks (generateTaskId ctx) = some (xcmpTask ctx who chain exchange asset1
      asset2 triggerFunction (param :: rest) d f executionFee encodedCall encodedCallWeight
      overallWeight) := by
  rw [scheduleXcmpTask_signed hd hf, transactional_of_ok] <;>
    rw [validateAndScheduleTask_of_param (generateTaskId_ne_nil ctx) rfl]
  simp [State.depositEvent, xcmpTask]

theorem scheduleXcmpTask_nil_param {cfg : Config} {ctx : ExtrinsicContext} {who : AccountId}
    {chain : ChainName} {exchange : Exchange} {asset1 asset2 : AssetName} {expiredAt : Nat}
    {triggerFunction : Bytes}
    {destination scheduleFee : VersionedMultiLocation} {executionFee : AssetPayment}
    {encodedCall : Bytes} {encodedCallWeight overallWeight : Weight} {d f : MultiLocation}
    (hd : cfg.multiLocationTryFrom destination = some d)
    (hf : cfg.multiLocationTryFrom scheduleFee = some f) (s : State) :
    (scheduleXcmpTask cfg ctx (.signed who) chain exchange asset1 asset2 expiredAt
      triggerFunction [] destination scheduleFee executionFee encodedCall encodedCallWeight
      overallWeight s).1 = .indexOutOfBounds := by
  rw [scheduleXcmpTask_signed hd hf, transactional_fst]
  exact validateAndScheduleTask_of_nil (generateTaskId_ne_nil ctx) rfl

/-- From genesis, account 1 schedules an XCMP task on `uniUsdcEth` with an empty
`trigger_param`: the call panics on an out-of-bounds index rather than ending in `Ok` or in
one of the pallet's errors. -/
theorem scheduleXcmpTask_empty_trigger_param :
    (scheduleXcmpTask sampleConfig ⟨1, some 1, 1⟩ (.signed 1) uniUsdcEth.chain uniUsdcEth.exchange
      uniUsdcEth.asset1 uniUsdcEth.asset2 0 [] [] [] [] [] [] Weight.zero Weight.zero
      State.empty).1 = .indexOutOfBounds :=
  scheduleXcmpTask_nil_param rfl rfl State.empty

/-- A `schedule_xcmp_task` that ends in `Ok` was signed, converted both locations and had a
first trigger parameter, and it stored the task it built for the signer under the generated
id. -/
theorem scheduleXcmpTask_of_ok {cfg : Config} {ctx : ExtrinsicContext} {origin : Origin}
    {chain : ChainName} {exchange : Exchange} {asset1 asset2 : AssetName} {expiredAt : Nat}
    {triggerFunction : Bytes} {triggerParam : List Nat}
    {destination scheduleFee : VersionedMultiLocation} {executionFee : AssetPayment}
    {encodedCall : Bytes} {encodedCallWeight overallWeight : Weight} {s : State}
    (h : (scheduleXcmpTask cfg ctx origin chain exchange asset1 asset2 expiredAt triggerFunction
      triggerParam destination scheduleFee executionFee encodedCall encodedCallWeight
      overallWeight s).1 = .ok) :
    ∃ who d f, origin = .signed who ∧ cfg.multiLocationTryFrom destination = some d ∧
      cfg.multiLocationTryFrom scheduleFee = some f ∧ triggerParam ≠ [] ∧
      (scheduleXcmpTask cfg ctx origin chain exchange asset1 asset2 expiredAt triggerFunction
        triggerParam destination scheduleFee executionFee encodedCall encodedCallWeight
        overallWeight s).2.tasks = Function.update s.tasks (generateTaskId ctx)
          (some (xcmpTask ctx who chain exchange asset1 asset2 triggerFunction triggerParam d f
            executionFee encodedCall encodedCallWeight overallWeight)) := by
  rcases origin with _ | who | _
  · simp [scheduleXcmpTask, ensureSigned] at h
  · cases hd : cfg.multiLocationTryFrom destination with
    | none => simp [scheduleXcmpTask, ensureSigned, hd] at h
    | some d =>
      cases hf : cfg.multiLocationTryFrom scheduleFee with
      | none => simp [scheduleXcmpTask, ensureSigned, hd, hf] at h
      | some f =>
        cases triggerParam with
        | nil => simp [scheduleXcmpTask_nil_param hd hf s] at h
        | cons param rest =>
          refine ⟨who, d, f, rfl, rfl, rfl, List.cons_ne_nil _ _, ?_⟩
          rw [scheduleXcmpTask_signed hd hf, transactional_of_ok] <;>
            rw [validateAndScheduleTask_of_param (generateTaskId_ne_nil ctx) rfl]
          rfl
  · simp [scheduleXcmpTask, ensureSigned] at h

/-- Whatever the storage, `schedule_xcmp_task` ends in `Ok` exactly when it is signed, both
locations convert and a first trigger parameter is given: it checks no registered asset, no
price, no expiry and no earlier task under the same id. -/
theorem scheduleXcmpTask_ok_iff (cfg : Config) (ctx : ExtrinsicContext) (origin : Origin)
    (chain : ChainName) (exchange : Exchange) (asset1 asset2 : AssetName) (expiredAt : Nat)
    (triggerFunction : Bytes) (triggerParam : List Nat)
    (destination scheduleFee : VersionedMultiLocation) (executionFee : AssetPayment)
    (encodedCall : Bytes) (encodedCallWeight overallWeight : Weight) (s : State) :
    (scheduleXcmpTask cfg ctx origin chain exchange asset1 asset2 expiredAt triggerFunction
      triggerParam destination scheduleFee executionFee encodedCall encodedCallWeight
      overallWeight s).1 = .ok ↔
      (∃ who, origin = .signed who) ∧ (cfg.multiLocationTryFrom destination).isSome ∧
        (cfg.multiLocationTryFrom scheduleFee).isSome ∧ triggerParam ≠ [] := by
  constructor
  · intro h
    obtain ⟨who, d, f, rfl, hd, hf, hp, -⟩ := scheduleXcmpTask_of_ok h
    exact ⟨⟨who, rfl⟩, by simp [hd], by simp [hf], hp⟩
  · rintro ⟨⟨who, rfl⟩, hd, hf, hp⟩
    obtain ⟨d, hd⟩ := Option.isSome_iff_exists.mp hd
    obtain ⟨f, hf⟩ := Option.isSome_iff_exists.mp hf
    obtain ⟨param, rest, rfl⟩ := List.exists_cons_of_ne_nil hp
    exact (scheduleXcmpTask_stores hd hf s).1

theorem validateAndScheduleTask_kept (task : Task) (s : State) :
    RegistryKept s (validateAndScheduleTask task s).2 := by
  unfold validateAndScheduleTask scheduleTask
  split
  · exact RegistryKept.refl s
  · dsimp only; split <;> exact ⟨rfl, fun _ _ h => h⟩

theorem scheduleXcmpTask_kept (cfg : Config) (ctx : ExtrinsicContext) (origin : Origin)
    (chain : ChainName) (exchange : Exchange) (asset1 asset2 : AssetName) (expiredAt : Nat)
    (triggerFunction : Bytes) (triggerParam : List Nat)
    (destination scheduleFee : VersionedMultiLocation) (executionFee : AssetPayment)
    (encodedCall : Bytes) (encodedCallWeight overallWeight : Weight) (s : State) :
    RegistryKept s (scheduleXcmpTask cfg ctx origin chain exchange asset1 asset2 expiredAt
      triggerFunction triggerParam destination scheduleFee executionFee encodedCall
      encodedCallWeight overallWeight s).2 := by
  refine RegistryKept.transactional ?_
  cases ensureSigned origin
  · exact RegistryKept.refl s
  · dsimp only; split
    · exact validateAndScheduleTask_kept _ s
    · exact RegistryKept.refl s

/-- Every id of an index entry names a stored task of the entry's asset, and maps to that
task's first trigger parameter. -/
def IndexSound (s : State) : Prop :=
  ∀ k idx id p, s.sortedTasksIndex k = some idx → idx id = some p →
    ∃ task, s.tasks id = some task ∧ task.assetKey = k ∧ task.triggerParams[0]? = some p

theorem IndexSound.store {s : State} {task : Task} (hs : IndexSound s)
    (hfresh : s.tasks task.taskId = none) :
    IndexSound { s with tasks := Function.update s.tasks task.taskId (some task) } := by
  intro k idx id p hk hid
  obtain ⟨t, ht, hkey, hp⟩ := hs k idx id p hk hid
  have hne : id ≠ task.taskId := by rintro rfl; rw [hfresh] at ht; cases ht
  exact ⟨t, by simpa [Function.update_noteq hne] using ht, hkey, hp⟩

theorem IndexSound.index {s : State} {task : Task} {param : Nat} (hs : IndexSound s)
    (htask : s.tasks task.taskId = some task) (hp : task.triggerParams[0]? = some param) :
    IndexSound { s with
      sortedTasksIndex :=
        Function.update s.sortedTasksIndex task.assetKey (some (singletonIndex task.taskId param)) } := by
  intro k idx id p hk hid
  by_cases hkey : k = task.assetKey
  · subst hkey
    obtain rfl : singletonIndex task.taskId param = idx := by simpa using hk
    by_cases hid' : id = task.taskId
    · subst hid'
      obtain rfl : param = p := by simpa [singletonIndex] using hid
      exact ⟨task, htask, rfl, hp⟩
    · simp [singletonIndex, Function.update_noteq hid'] at hid
  · exact hs k idx id p (by simpa [Function.update_noteq hkey] using hk) hid

theorem validateAndScheduleTask_sound {task : Task} {s : State} (hs : IndexSound s)
    (hfresh : s.tasks task.taskId = none) : IndexSound (validateAndScheduleTask task s).2 := by
  have stored := hs.store hfresh
  unfold validateAndScheduleTask scheduleTask
  split
  · exact hs
  · dsimp only
    split
    · exact stored
    · exact stored
    · next param hp => exact stored.index (by simp) hp

theorem validateAndScheduleTask_tasks (task : Task) (s : State) :
    (validateAndScheduleTask task s).2.tasks = s.tasks ∨
      (validateAndScheduleTask task s).2.tasks = Function.update s.tasks task.taskId (some task) := by
  unfold validateAndScheduleTask scheduleTask
  split
  · exact .inl rfl
  · dsimp only; split <;> exact .inr rfl

theorem validateAndScheduleTask_index (task : Task) (s : State) :
    (validateAndScheduleTask task s).2.sortedTasksIndex = s.sortedTasksIndex ∨
      s.sortedTasksIndex task.assetKey = none ∧ ∃ param,
        (validateAndScheduleTask task s).2.sortedTasksIndex =
          Function.update s.sortedTasksIndex task.assetKey (some (singletonIndex task.taskId param)) := by
  unfold validateAndScheduleTask scheduleTask
  split
  · exact .inl rfl
  · dsimp only
    split
    · exact .inl rfl
    · exact .inl rfl
    · next param hnone _ => exact .inr ⟨hnone, param, rfl⟩

/-- The index is sound, and every stored task's id is among `ids`. -/
structure ScheduleInv (ids : List TaskId) (s : State) : Prop where
  sound : IndexSound s
  stored : ∀ id, s.tasks id ≠ none → id ∈ ids

theorem ScheduleInv.mono {ids ids' : List TaskId} {s : State} (h : ScheduleInv ids s)
    (hsub : ids ⊆ ids') : ScheduleInv ids' s :=
  ⟨h.sound, fun id hid => hsub (h.stored id hid)⟩

theorem ScheduleInv.of_taskStore {ids : List TaskId} {s s' : State} (h : ScheduleInv ids s)
    (hst : s'.taskStore = s.taskStore) : ScheduleInv ids s' := by
  have ht : s'.tasks = s.tasks := congrArg Prod.fst hst
  have hi : s'.sortedTasksIndex = s.sortedTasksIndex := congrArg Prod.snd hst
  exact ⟨by unfold IndexSound; rw [ht, hi]; exact h.sound, by rw [ht]; exact h.stored⟩

theorem ScheduleInv.empty : ScheduleInv [] State.empty :=
  ⟨fun _ _ _ _ h => (by cases h), fun _ h => (h rfl).elim⟩

theorem validateAndScheduleTask_inv {ids : List TaskId} {task : Task} {s : State} {id : TaskId}
    (h : ScheduleInv ids s) (hid : task.taskId = id) (hnew : id ∉ ids) :
    ScheduleInv (ids ++ [id]) (validateAndScheduleTask task s).2 := by
  subst hid
  have hfresh : s.tasks task.taskId = none := by
    by_contra hne; exact hnew (h.stored _ hne)
  refine ⟨validateAndScheduleTask_sound h.sound hfresh, fun id hid => ?_⟩
  rcases validateAndScheduleTask_tasks task s with ht | ht <;> rw [ht] at hid
  · exact List.mem_append_left _ (h.stored id hid)
  · by_cases he : id = task.taskId
    · simp [he]
    · exact List.mem_append_left _ (h.stored id (by rwa [Function.update_noteq he] at hid))

theorem scheduleXcmpTask_inv {ids : List TaskId} (cfg : Config) (ctx : ExtrinsicContext)
    (origin : Origin) (chain : ChainName) (exchange : Exchange) (asset1 asset2 : AssetName)
    (expiredAt : Nat) (triggerFunction : Bytes) (triggerParam : List Nat)
    (destination scheduleFee : VersionedMultiLocation) (executionFee : AssetPayment)
    (encodedCall : Bytes) (encodedCallWeight overallWeight : Weight) {s : State}
    (h : ScheduleInv ids s) (hnew : generateTaskId ctx ∉ ids) :
    ScheduleInv (ids ++ [generateTaskId ctx]) (scheduleXcmpTask cfg ctx origin chain exchange
      asset1 asset2 expiredAt triggerFunction triggerParam destination scheduleFee executionFee
      encodedCall encodedCallWeight overallWeight s).2 := by
  have kept : ScheduleInv (ids ++ [generateTaskId ctx]) s := h.mono (List.subset_append_left _ _)
  refine transactional_snd_of kept ?_
  cases ensureSigned origin
  · exact kept
  · dsimp only; split
    · exact validateAndScheduleTask_inv h rfl hnew
    · exact kept

end AutomationPrice
