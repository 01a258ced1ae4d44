import AutomationPrice.Weight
import AutomationPrice.Types
import AutomationPrice.TaskId
import AutomationPrice.Registry
import AutomationPrice.Schedule
import AutomationPrice.RunTasks
import AutomationPrice.Hooks
import AutomationPrice.Runtime
import AutomationPrice.Invariants
