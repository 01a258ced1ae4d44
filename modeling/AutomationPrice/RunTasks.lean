import AutomationPrice.Schedule
import Mathlib.Algebra.BigOperators.Group.List

/-! `run_tasks` and `run_native_transfer_task`. The loop takes ids from the front of the
list; for each it charges the weight of the lookup (and of the action, when the task is
found), then breaks once the weight left is below `run_another_task_weight`. The id taken is
counted before the lookup, so at least one id is taken from a non-empty list whatever the
budget. `runEachTask` is the loop body run over a list with no budget: the loop is that over
the ids it takes. -/

namespace AutomationPrice

/-- `run_native_transfer_task`: the transfer keeps the sender alive; an event records how it
went, and the benchmarked weight is charged either way. -/
def runNativeTransferTask (cfg : Config) (sender recipient : AccountId) (amount : Balance)
    (taskId : TaskId) (s : State) : Weight × State :=
  (cfg.weightInfo.runNativeTransferTask,
    match cfg.transfer s.balances sender recipient amount with
    | .ok balances => State.depositEvent { s with balances } (.successfullyTransferredFunds taskId)
    | .error e => s.depositEvent (.transferFailed taskId e))

/-- The placeholder weight charged for an XCMP action, which is not run. -/
def xcmpActionWeight : Weight := Weight.fromRefTime 1000000 (by decide)

/-- The action arm of the loop body. -/
def runAction (cfg : Config) (taskId : TaskId) : Action → State → Weight × State
  | .xcmp .., s => (xcmpActionWeight, s)
  | .nativeTransfer sender recipient amount, s =>
    runNativeTransferTask cfg sender recipient amount taskId s

/-- The loop body of `run_tasks` for one id: the weight charged and the state after. A found
task is dispatched and removed, whatever its action's outcome. -/
def runTask (cfg : Config) (taskId : TaskId) (s : State) : Weight × State :=
  match s.tasks taskId with
  | none => (cfg.weightInfo.emitEvent, s)
  | some task =>
    let r := runAction cfg taskId task.action s
    ((r.1.saturatingAdd (cfg.dbWeight.writes 1)).saturatingAdd (cfg.dbWeight.reads 1),
      { r.2 with tasks := Function.update r.2.tasks taskId none })

/-- `run_another_task_weight`. -/
def runAnotherTaskWeight (cfg : Config) : Weight :=
  (cfg.weightInfo.emitEvent.saturatingAdd (cfg.dbWeight.writes 1)).saturatingAdd
    (cfg.dbWeight.reads 1)

/-- The loop of `run_tasks`: the ids taken so far, the weight left and the state. -/
def runTasksLoop (cfg : Config) : List TaskId → Nat → Weight → State → Nat × Weight × State
  | [], consumed, weightLeft, s => (consumed, weightLeft, s)
  | taskId :: taskIds, consumed, weightLeft, s =>
    let r := runTask cfg taskId s
    let weightLeft := weightLeft.saturatingSub r.1
    if weightLeft.refTime < (runAnotherTaskWeight cfg).refTime then (consumed + 1, weightLeft, r.2)
    else runTasksLoop cfg taskIds (consumed + 1) weightLeft r.2

/-- `run_tasks`: the ids not taken, the weight left, and the state. -/
def runTasks (cfg : Config) (taskIds : List TaskId) (weightLeft : Weight) (s : State) :
    (List TaskId × Weight) × State :=
  let r := runTasksLoop cfg taskIds 0 weightLeft s
  if r.1 = taskIds.length then (([], r.2.1), r.2.2) else ((taskIds.drop r.1, r.2.1), r.2.2)

def actionWeight (cfg : Config) : Action → Weight
  | .xcmp .. => xcmpActionWeight
  | .nativeTransfer .. => cfg.weightInfo.runNativeTransferTask

def lookupWeight (cfg : Config) : Option Task → Weight
  | none => cfg.weightInfo.emitEvent
  | some task =>
    ((actionWeight cfg task.action).saturatingAdd (cfg.dbWeight.writes 1)).saturatingAdd
      (cfg.dbWeight.reads 1)

@[simp] theorem runAction_fst (cfg : Config) (taskId : TaskId) (a : Action) (s : State) :
    (runAction cfg taskId a s).1 = actionWeight cfg a := by
  cases a <;> rfl

@[simp] theorem runAction_tasks (cfg : Config) (taskId : TaskId) (a : Action) (s : State) :
    (runAction cfg taskId a s).2.tasks = s.tasks := by
  cases a with
  | xcmp => rfl
  | nativeTransfer => simp only [runAction, runNativeTransferTask]; split <;> rfl

@[simp] theorem runTask_fst (cfg : Config) (taskId : TaskId) (s : State) :
    (runTask cfg taskId s).1 = lookupWeight cfg (s.tasks taskId) := by
  unfold runTask; split <;> simp_all [lookupWeight]

@[simp] theorem runTask_tasks (cfg : Config) (taskId : TaskId) (s : State) :
    (runTask cfg taskId s).2.tasks = Function.update s.tasks taskId none := by
  unfold runTask
  cases h : s.tasks taskId with
  | none => show s.tasks = _; rw [← h, Function.update_eq_self]
  | some task => simp

/-- The loop body run over each id of a list in order, with no budget: the weight charged
for each, and the state after the last. -/
def runEachTask (cfg : Config) : List TaskId → State → List Weight × State
  | [], s => ([], s)
  | taskId :: taskIds, s =>
    let r := runTask cfg taskId s
    let rest := runEachTask cfg taskIds r.2
    (r.1 :: rest.1, rest.2)

@[simp] theorem runEachTask_length (cfg : Config) (taskIds : List TaskId) (s : State) :
    (runEachTask cfg taskIds s).1.length = taskIds.length := by
  induction taskIds generalizing s <;> simp_all [runEachTask]

theorem runEachTask_tasks (cfg : Config) (taskIds : List TaskId) (s : State) (id : TaskId) :
    (runEachTask cfg taskIds s).2.tasks id = if id ∈ taskIds then none else s.tasks id := by
  induction taskIds generalizing s with
  | nil => simp [runEachTask]
  | cons taskId taskIds ih =>
    simp only [runEachTask, ih, runTask_tasks, List.mem_cons]
    by_cases h : id = taskId
    · subst h; simp
    · simp [h]

theorem runEachTask_append (cfg : Config) (xs ys : List TaskId) (s : State) :
    (runEachTask cfg (xs ++ ys) s).2 = (runEachTask cfg ys (runEachTask cfg xs s).2).2 := by
  induction xs generalizing s with
  | nil => rfl
  | cons taskId xs ih => exact ih _

theorem foldl_saturatingSub_refTime (w : Weight) (charges : List Weight) :
    (charges.foldl Weight.saturatingSub w).refTime = w.refTime - (charges.map Weight.refTime).sum := by
  induction charges generalizing w with
  | nil => rfl
  | cons c charges ih => simp [ih, Nat.sub_sub]

theorem foldl_saturatingSub_proofSize (w : Weight) (charges : List Weight) :
    (charges.foldl Weight.saturatingSub w).proofSize =
      w.proofSize - (charges.map Weight.proofSize).sum := by
  induction charges generalizing w with
  | nil => rfl
  | cons c charges ih => simp [ih, Nat.sub_sub]

theorem runTasksLoop_spec (cfg : Config) (taskIds : List TaskId) (consumed : Nat) (w : Weight)
    (s : State) :
    ∃ k ≤ taskIds.length, (taskIds ≠ [] → 1 ≤ k) ∧
      runTasksLoop cfg taskIds consumed w s = (consumed + k,
        (runEachTask cfg (taskIds.take k) s).1.foldl Weight.saturatingSub w,
        (runEachTask cfg (taskIds.take k) s).2) ∧
      (∀ j, 0 < j → j < k → (runAnotherTaskWeight cfg).refTime ≤
        (((runEachTask cfg (taskIds.take k) s).1.take j).foldl Weight.saturatingSub w).refTime) ∧
      (k < taskIds.length → ((runEachTask cfg (taskIds.take k) s).1.foldl Weight.saturatingSub
        w).refTime < (runAnotherTaskWeight cfg).refTime) := by
  induction taskIds generalizing consumed w s with
  | nil => exact ⟨0, le_rfl, fun h => (h rfl).elim, by simp [runTasksLoop, runEachTask],
      fun _ h₀ h₁ => absurd h₁ (by omega), fun h => absurd h (by simp)⟩
  | cons taskId taskIds ih =>
    by_cases stop : ((w.saturatingSub (runTask cfg taskId s).1).refTime <
        (runAnotherTaskWeight cfg).refTime)
    · refine ⟨1, by simp, fun _ => le_rfl, ?_, fun _ h₀ h₁ => absurd h₁ (by omega), fun _ => ?_⟩
      · simp only [runTasksLoop, if_pos stop]; simp [runEachTask]
      · simpa [runEachTask] using stop
    · obtain ⟨k, hk, -, heq, hgo, hstop⟩ :=
        ih (consumed + 1) (w.saturatingSub (runTask cfg taskId s).1) (runTask cfg taskId s).2
      refine ⟨k + 1, by simp [hk], fun _ => by omega, ?_, fun j h₀ h₁ => ?_, fun h => ?_⟩
      · simp only [runTasksLoop, stop, if_false, heq, List.take_succ_cons, runEachTask,
          List.foldl_cons]
        simp only [Nat.add_assoc, Nat.add_comm 1 k]
      · rcases j with _ | _ | j
        · omega
        · simpa [runEachTask] using stop
        · simpa [runEachTask] using hgo (j + 1) (by omega) (by omega)
      · simpa [runEachTask] using hstop (by simpa using h)

/-- `run_tasks` in terms of the loop: it returns the ids it did not take, whether or not it
took them all. -/
theorem runTasks_spec (cfg : Config) (taskIds : List TaskId) (w : Weight) (s : State) :
    ∃ k ≤ taskIds.length, (taskIds ≠ [] → 1 ≤ k) ∧
      runTasks cfg taskIds w s = ((taskIds.drop k,
        (runEachTask cfg (taskIds.take k) s).1.foldl Weight.saturatingSub w),
        (runEachTask cfg (taskIds.take k) s).2) ∧
      (∀ j, 0 < j → j < k → (runAnotherTaskWeight cfg).refTime ≤
        (((runEachTask cfg (taskIds.take k) s).1.take j).foldl Weight.saturatingSub w).refTime) ∧
      (k < taskIds.length → ((runEachTask cfg (taskIds.take k) s).1.foldl Weight.saturatingSub
        w).refTime < (runAnotherTaskWeight cfg).refTime) := by
  obtain ⟨k, hk, hne, heq, hgo, hstop⟩ := runTasksLoop_spec cfg taskIds 0 w s
  refine ⟨k, hk, hne, ?_, hgo, hstop⟩
  simp only [runTasks, heq, Nat.zero_add]
  split
  · next h => simp [h]
  · rfl

theorem runEachTask_charge (cfg : Config) (taskIds : List TaskId) (s : State) (i : Nat) :
    (runEachTask cfg taskIds s).1[i]? =
      taskIds[i]?.map fun id => lookupWeight cfg ((runEachTask cfg (taskIds.take i) s).2.tasks id) := by
  induction taskIds generalizing i s with
  | nil => simp [runEachTask]
  | cons taskId taskIds ih => cases i <;> simp_all [runEachTask]

/-- `run_tasks` charges every id it takes in full: a found task its action's weight, one
write and one read, a missing id `emit_event`. It returns the budget less the total charge,
component by component and saturating at zero. It takes the first id whatever the budget,
each later id only with at least `run_another_task_weight` of ref time left, and stops
before the end only with less left. -/
theorem runTasks_charges (cfg : Config) (taskIds : List TaskId) (w : Weight) (s : State) :
    ∃ k, (runTasks cfg taskIds w s).1.1 = taskIds.drop k ∧ (taskIds ≠ [] → 1 ≤ k) ∧
      let charges := (runEachTask cfg (taskIds.take k) s).1
      (∀ i id, (taskIds.take k)[i]? = some id → charges[i]? =
        some (lookupWeight cfg ((runEachTask cfg (taskIds.take i) s).2.tasks id))) ∧
      (runTasks cfg taskIds w s).1.2.refTime = w.refTime - (charges.map Weight.refTime).sum ∧
      (runTasks cfg taskIds w s).1.2.proofSize =
        w.proofSize - (charges.map Weight.proofSize).sum ∧
      (∀ j, 0 < j → j < k → (runAnotherTaskWeight cfg).refTime ≤
        w.refTime - ((charges.take j).map Weight.refTime).sum) ∧
      (k < taskIds.length → w.refTime - (charges.map Weight.refTime).sum <
        (runAnotherTaskWeight cfg).refTime) := by
  obtain ⟨k, -, hne, heq, hgo, hstop⟩ := runTasks_spec cfg taskIds w s
  refine ⟨k, by rw [heq], hne, fun i id hi => ?_, by rw [heq, foldl_saturatingSub_refTime],
    by rw [heq, foldl_saturatingSub_proofSize], fun j h₀ h₁ => ?_, fun h => ?_⟩
  · rw [runEachTask_charge, hi, List.take_take, Nat.min_eq_left]
    · rfl
    · have := (List.getElem?_eq_some_iff.mp hi).1; simp at this; omega
  · simpa [foldl_saturatingSub_refTime] using hgo j h₀ h₁
  · simpa [foldl_saturatingSub_refTime] using hstop h

/-- An XCMP task on `uniUsdcEth` with trigger parameter 1800, under the given id. -/
def sampleXcmpTask (taskId : TaskId) : Task :=
  { ownerId := 1, taskId, chain := uniUsdcEth.chain, exchange := uniUsdcEth.exchange,
    assetPair := (uniUsdcEth.asset1, uniUsdcEth.asset2), triggerFunction := [],
    triggerParams := [1800],
    action := .xcmp [] [] [] [] Weight.zero Weight.zero none .payThroughSovereignAccount }

/-- Genesis with the given tasks stored under their ids. -/
def withTasks (tasks : List Task) : State :=
  { State.empty with
    tasks := tasks.foldl (fun m t => Function.update m t.taskId (some t)) State.empty.tasks }

/-- With no budget at all, `run_tasks` still runs a stored XCMP task and charges it
126 000 000 of ref time: the whole charge is past the budget, and the saturating subtraction
clamps the weight left at zero. -/
theorem runTasks_overspends_budget :
    (runTasks sampleConfig [[1]] Weight.zero (withTasks [sampleXcmpTask [1]])).1 =
        ([], Weight.zero) ∧
      (runTasks sampleConfig [[1]] Weight.zero (withTasks [sampleXcmpTask [1]])).2.tasks [1] =
        none ∧
      ((runEachTask sampleConfig [[1]] (withTasks [sampleXcmpTask [1]])).1.map
        Weight.refTime).sum = 126000000 := by
  decide

theorem runEachTask_uniform {cfg : Config} {taskIds : List TaskId} {s : State} {a : Weight}
    (hnodup : taskIds.Nodup)
    (hstored : ∀ id ∈ taskIds, ∃ task, s.tasks id = some task ∧ actionWeight cfg task.action = a) :
    (runEachTask cfg taskIds s).1 = List.replicate taskIds.length
      ((a.saturatingAdd (cfg.dbWeight.writes 1)).saturatingAdd (cfg.dbWeight.reads 1)) := by
  induction taskIds generalizing s with
  | nil => rfl
  | cons taskId taskIds ih =>
    obtain ⟨task, htask, ha⟩ := hstored taskId (List.mem_cons_self _ _)
    have rest : ∀ id ∈ taskIds, ∃ task, (runTask cfg taskId s).2.tasks id = some task ∧
        actionWeight cfg task.action = a := fun id hid => by
      have hne : id ≠ taskId := fun h => (List.nodup_cons.mp hnodup).1 (h ▸ hid)
      simpa [Function.update_noteq hne] using hstored id (List.mem_cons_of_mem _ hid)
    simp [runEachTask, htask, lookupWeight, ha, ih (List.nodup_cons.mp hnodup).2 rest,
      List.replicate_succ]

/-- Taking `k` of `N` tasks that each cost `c`, going on after the `j`-th only with `e` left
and stopping early only with less, takes `min N (⌊(B - e) / c⌋ + 1)`, or all `N` if `e = 0`. -/
theorem guarded_count {N k B c e : Nat} (hc : 0 < c) (hk : k ≤ N) (hk₁ : 0 < N → 1 ≤ k)
    (hgo : ∀ j, 0 < j → j < k → e ≤ B - j * c) (hstop : k < N → B - k * c < e) :
    k = if e = 0 then N else min N ((B - e) / c + 1) := by
  split
  · next he => by_contra hne; have := hstop (by omega); omega
  · next he =>
    have upper : k ≤ (B - e) / c + 1 := by
      rcases Nat.lt_or_ge k 2 with h | h
      · have := Nat.zero_le ((B - e) / c); omega
      · have := hgo (k - 1) (by omega) (by omega)
        have := (Nat.le_div_iff_mul_le hc).mpr (show (k - 1) * c ≤ B - e by omega)
        omega
    have lower : k < N → (B - e) / c + 1 ≤ k := fun hlt => by
      have := hstop hlt
      have : c ≤ k * c := Nat.le_mul_of_pos_left c (hk₁ (by omega))
      have := (Nat.div_lt_iff_lt_mul hc).mpr (show B - e < k * c by omega)
      omega
    omega

/-- Distinct ids whose tasks are all stored, with actions of one weight `a`, so that each
costs `c = a + write + read` of ref time, `c > 0`: `run_tasks` with budget `B` runs exactly
`min N (⌊(B - e) / c⌋ + 1)` of them, `e = emit_event + write + read`, and all `N` when
`e = 0`. It runs one even when `B < c`, and goes on while `e` is left, not `c`. -/
theorem runTasks_uniform_count (cfg : Config) (taskIds : List TaskId) (B : Weight) (s : State)
    (a : Weight) (hnodup : taskIds.Nodup)
    (hstored : ∀ id ∈ taskIds, ∃ task, s.tasks id = some task ∧ actionWeight cfg task.action = a)
    (hc : 0 < ((a.saturatingAdd (cfg.dbWeight.writes 1)).saturatingAdd
      (cfg.dbWeight.reads 1)).refTime) :
    let c := ((a.saturatingAdd (cfg.dbWeight.writes 1)).saturatingAdd (cfg.dbWeight.reads 1)).refTime
    let e := (runAnotherTaskWeight cfg).refTime
    let m := if e = 0 then taskIds.length else min taskIds.length ((B.refTime - e) / c + 1)
    (runTasks cfg taskIds B s).1.1 = taskIds.drop m ∧
      ∀ id, (runTasks cfg taskIds B s).2.tasks id =
        if id ∈ taskIds.take m then none else s.tasks id := by
  intro c e m
  obtain ⟨k, hk, hne, heq, hgo, hstop⟩ := runTasks_spec cfg taskIds B s
  have charges : (runEachTask cfg (taskIds.take k) s).1 = List.replicate k
      ((a.saturatingAdd (cfg.dbWeight.writes 1)).saturatingAdd (cfg.dbWeight.reads 1)) := by
    rw [runEachTask_uniform (hnodup.sublist (List.take_sublist _ _))
      (fun id hid => hstored id (List.mem_of_mem_take hid))]
    simp [hk]
  have hkm : k = m := by
    refine guarded_count hc hk (fun h => hne (List.ne_nil_of_length_pos h)) (fun j h₀ h₁ => ?_)
      (fun h => ?_)
    · simpa only [charges, foldl_saturatingSub_refTime, List.take_replicate,
        Nat.min_eq_left h₁.le, List.map_replicate, List.sum_replicate, smul_eq_mul] using hgo j h₀ h₁
    · simpa only [charges, foldl_saturatingSub_refTime, List.map_replicate, List.sum_replicate,
        smul_eq_mul] using hstop h
  rw [← hkm, heq]
  exact ⟨rfl, runEachTask_tasks cfg _ s⟩

/-- Two stored XCMP tasks and a budget of 252 000 000: the count is
`min 2 (⌊(252 000 000 - 145 000 000) / 126 000 000⌋ + 1) = 1`, so one id is left. -/
theorem runTasks_uniform_count_two_tasks :
    (runTasks sampleConfig [[1], [2]] ⟨252000000, 0, by decide, by decide⟩
      (withTasks [sampleXcmpTask [1], sampleXcmpTask [2]])).1.1 = [[2]] :=
  (runTasks_uniform_count sampleConfig [[1], [2]] _ _ xcmpActionWeight (by decide)
    (by decide) (by decide)).1

/-- Two stored XCMP tasks and a budget of exactly two charges, 252 000 000: `⌊B / c⌋ = 2`,
but `run_tasks` runs one and returns the other, as the 126 000 000 left is below the
145 000 000 it requires to go on. -/
theorem runTasks_count_not_floor :
    (lookupWeight sampleConfig (some (sampleXcmpTask [1]))).refTime = 126000000 ∧
      252000000 / 126000000 = 2 ∧
      (runTasks sampleConfig [[1], [2]] ⟨252000000, 0, by decide, by decide⟩
        (withTasks [sampleXcmpTask [1], sampleXcmpTask [2]])).1.1 = [[2]] := by
  decide

/-- `run_tasks` called again on the ids it returned, once per budget, as the commented-out
part of `trigger_tasks` would drive it through `TaskQueue`, block after block. -/
def runTasksResumed (cfg : Config) : List Weight → List TaskId → State → List TaskId × State
  | [], taskIds, s => (taskIds, s)
  | w :: ws, taskIds, s =>
    let r := runTasks cfg taskIds w s
    runTasksResumed cfg ws r.1.1 r.2

/-- Calling `run_tasks` again on the ids it returned, once per budget, loses and repeats no
id: the calls together take a prefix of the ids, at least one per call until none is left,
and leave the state of the loop body run once over that prefix in order. With as many calls
as ids, every id is taken, whatever the budgets. -/
theorem runTasks_resumed (cfg : Config) (budgets : List Weight) (taskIds : List TaskId)
    (s : State) :
    ∃ k, min budgets.length taskIds.length ≤ k ∧ k ≤ taskIds.length ∧
      runTasksResumed cfg budgets taskIds s =
        (taskIds.drop k, (runEachTask cfg (taskIds.take k) s).2) := by
  induction budgets generalizing taskIds s with
  | nil => exact ⟨0, by simp, by simp, by simp [runTasksResumed, runEachTask]⟩
  | cons w ws ih =>
    obtain ⟨k₁, hk₁, hne, heq, -, -⟩ := runTasks_spec cfg taskIds w s
    obtain ⟨k₂, hmin, hk₂, hrest⟩ := ih (taskIds.drop k₁) (runEachTask cfg (taskIds.take k₁) s).2
    refine ⟨k₁ + k₂, ?_, ?_, ?_⟩
    · have := fun h => hne (List.ne_nil_of_length_pos h)
      simp only [List.length_drop, List.length_cons] at hmin ⊢
      omega
    · simp only [List.length_drop] at hk₂; omega
    · rw [runTasksResumed, heq]
      simp only [hrest, List.drop_drop, List.take_add, runEachTask_append]

end AutomationPrice
