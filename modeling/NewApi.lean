import NewApi.Subscription.RefundRetry
import NewApi.Subscription.OrderRuns
import NewApi.Payment.EpayRuns
import NewApi.Payment.OrderLock
import NewApi.Billing.ErrorAtomicity
import NewApi.Billing.Realtime
import NewApi.Quota.LostUpdates
import NewApi.Billing.Overdraft
import NewApi.Quota.BatchUpdates
import NewApi.Tasks.Liveness
import NewApi.Drawing.Charges
import NewApi.Routing.Retries
import NewApi.Routing.Disabling
import NewApi.Routing.Repair
import NewApi.Stream.PassThrough
import NewApi.Stream.ClaudeMessages
import NewApi.Stream.ClaudeContent
import NewApi.Stream.ResponsesInput
import NewApi.Stream.Scanner
import NewApi.Subscription.ResetTask
import NewApi.Payment.PaidFor
import NewApi.Tasks.RecalculationRatio
import NewApi.Login.BackupCodes
import NewApi.Login.Lockout
import NewApi.Quota.Checkins
import NewApi.Cache.UserWrites
import NewApi.Tasks.SubmitRatios
import NewApi.Billing.TextQuota
import NewApi.Billing.UsageCounts
import NewApi.Limits.TokenBucket
import NewApi.Limits.InMemory
import NewApi.Tasks.VideoBilling
