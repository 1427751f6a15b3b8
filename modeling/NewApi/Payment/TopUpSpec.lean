/-
# Payment.TopUpSpec — what the completions of a top-up order do

Each of the six functions is one transaction that recovers from no failed statement.  It fails and
leaves the store alone, finds nothing to do, marks a pending order as failed or expired
(`mark_exec`), or makes it a success with one recorded credit (`Credited`).
`Completion.Completes` says who may complete an order of which provider.
-/
import NewApi.Theory.Rows
import NewApi.Model.Lookup
import NewApi.Model.TopUp

namespace NewApi.Payment
open Theory Model Sql Rows

/-- The provider whose orders a completion function is for; the admin has none. -/
def providerOf : Completion → Option PaymentProvider
  | .recharge => some .stripe
  | .rechargeCreem => some .creem
  | .rechargeWaffo => some .waffo
  | .rechargeWaffoPancake => some .waffoPancake
  | .epayNotify => some .epay
  | .manual => none

/-- A completion function is the provider's own, or the admin's. -/
def Completes (by_ : Completion) (provider : PaymentProvider) : Prop :=
  by_ = .manual ∨ providerOf by_ = some provider

/-- What a completion credits for an order.  Money of Stripe is added to the wallet as it is then, and
the column keeps what it can of the sum. -/
def Worth (cfg : Config) (topUp : TopUp) (amount : Int) : Completion → Prop
  | .recharge => ∃ s : Store, amount = s.gain cfg topUp.userId (topUp.money * cfg.quotaPerUnit)
  | .rechargeCreem => amount = topUp.amount
  | .rechargeWaffo | .rechargeWaffoPancake | .epayNotify => amount = quotaOfUnits cfg topUp.amount
  | .manual => amount = manualQuota cfg topUp

variable {cfg : Config} {s : Store} {topUp : TopUp} {tradeNo : String}

theorem findTopUp_saveTopUp {old : TopUp}
    (number : topUp.tradeNo = tradeNo) (found : s.findTopUp tradeNo = some old) (t : String) :
    (s.saveTopUp topUp).findTopUp t = if t = tradeNo then some topUp else s.findTopUp t := by
  subst number
  exact find_put_of_found found t

/-- A column of a user other than the quota is set. -/
theorem walletOf_setUser (s : Store) (userId id : Int) {change : User → User}
    (keeps : ∀ u, (change u).quota = u.quota) : walletOf (s.setUser userId change) id = walletOf s id := by
  unfold walletOf Store.setUser
  by_cases same : id = userId
  · subst same
    cases s.users id <;> simp [keeps]
  · simp [same]

/-! ## A completed order -/

/-- The order was pending and is a success now; `amount` was credited to its user. -/
structure Credited (cfg : Config) (tradeNo : String) (by_ : Completion) (amount : Int) (topUp topUp' : TopUp)
    (s s' : Store) : Prop where
  found : s.findTopUp tradeNo = some topUp
  pending : topUp.status = .pending
  own : Completes by_ topUp.paymentProvider
  worth : Worth cfg topUp' amount by_
  success : topUp'.status = .success
  user : topUp'.userId = topUp.userId
  provider : topUp'.paymentProvider = topUp.paymentProvider
  topUps : ∀ t, s'.findTopUp t = if t = tradeNo then some topUp' else s.findTopUp t
  history : s'.history = s.history ++ [.credited tradeNo topUp.userId amount by_]
  wallets : ∀ id, walletOf s' id = (walletOf s id).map (· + if id = topUp.userId then amount else 0)

/-- Nothing happened, or the order was completed. -/
def LeavesOrCredits (cfg : Config) (tradeNo : String) (by_ : Completion) (s s' : Store) : Prop :=
  s' = s ∨ ∃ amount topUp topUp', Credited cfg tradeNo by_ amount topUp topUp' s s'

variable {by_ : Completion}

/-- `s'` is the store after saving the order and crediting the user, up to columns that do
not matter here. -/
theorem credited_of {amount clock : Int}
    {s' : Store} (found : s.findTopUp tradeNo = some topUp) (pending : topUp.status = .pending)
    (own : Completes by_ topUp.paymentProvider) (worth : Worth cfg (topUp.succeed clock) amount by_)
    (topUps : s'.topUps = (s.saveTopUp (topUp.succeed clock)).topUps)
    (history : s'.history = s.history ++ [.credited topUp.tradeNo topUp.userId amount by_])
    (wallets : ∀ id, walletOf s' id = walletOf (s.addUserQuota topUp.userId amount) id) :
    Credited cfg tradeNo by_ amount topUp (topUp.succeed clock) s s' where
  found := found
  pending := pending
  own := own
  worth := worth
  success := rfl
  user := rfl
  provider := rfl
  topUps t := by
    have number : (topUp.succeed clock).tradeNo = tradeNo := (mem_of_find found).2
    rw [← findTopUp_saveTopUp number found t]
    simp only [Store.findTopUp, topUps]
  history := by rw [history, (mem_of_find found).2]
  wallets id := by rw [wallets, walletOf_addUserQuota]

@[simp] theorem atomic_findTopUp (tradeNo missing : String) : Atomic (findTopUpTx tradeNo missing) := by
  simp [findTopUpTx]

theorem ok_of_findTopUp {α : Type} {missing : String} {w : Store → Store} {rest : TopUp → Db α}
    {a : α} {c : Conn Store} (ran : (findTopUpTx tradeNo missing >>= rest) ⟨s, w, []⟩ = (.ok a, c)) :
    ∃ topUp, (w s).findTopUp tradeNo = some topUp ∧ rest topUp ⟨s, w, []⟩ = (.ok a, c) := by
  obtain ⟨topUp, m, looked, after⟩ := ok_of_bind ran
  obtain ⟨found, rfl⟩ := ok_of_first (ok_of_failWith looked)
  exact ⟨topUp, found, after⟩

/-- A transaction that leaves the store alone or completes the order, when it succeeds. -/
theorem exec_completion {body : Db Unit} (atomic : Atomic body)
    (effect : ∀ w, body ⟨s, id, []⟩ = (.ok (), ⟨s, w, []⟩) → LeavesOrCredits cfg tradeNo by_ s (w s))
    (faults : Faults) : LeavesOrCredits cfg tradeNo by_ s ((transaction body).exec s faults).2 := by
  rcases exec_transaction_cases atomic s faults with ⟨e, failed⟩ | ⟨_, w, ran, done⟩
  · rw [failed]
    exact .inl rfl
  · rw [done]
    exact effect w ran

section
variable (cfg : Config) (referenceId customerId : String) (clock : Int)

/-- `Recharge` credits what the column keeps of the sum. -/
theorem recharge_exec (s : Store) (faults : Faults) : LeavesOrCredits cfg referenceId .recharge s
      ((recharge cfg referenceId customerId clock).exec s faults).2 := by
  unfold recharge
  split
  · exact .inl rfl
  rw [exec_failWith]
  refine exec_completion (by simp [rechargeTx]) (fun w ran => ?_) faults
  obtain ⟨topUp, found, rest⟩ := ok_of_findTopUp ran
  split at rest
  · cases rest
  rename_i provider
  split at rest
  · cases rest
  rename_i pending
  cases rest
  refine .inr ⟨_, topUp, topUp.succeed clock, credited_of found (not_not.mp pending)
    (.inr (by rw [not_not.mp provider]; rfl)) ⟨_, rfl⟩ rfl rfl fun id => ?_⟩
  exact walletOf_setUser _ topUp.userId id fun _ => rfl

end

section
variable (cfg : Config) (referenceId customerEmail : String) (clock : Int)

@[simp] theorem atomic_needsEmail (userId : Int) (email : String) : Atomic (needsEmailTx userId email) := by
  simp [needsEmailTx]

theorem ok_of_needsEmail {userId : Int} {email : String} {w : Store → Store} {needs : Bool}
    {c : Conn Store} (ran : needsEmailTx userId email ⟨s, w, []⟩ = (.ok needs, c)) : c = ⟨s, w, []⟩ := by
  unfold needsEmailTx at ran
  split at ran
  · obtain ⟨user, m, looked, rest⟩ := ok_of_bind ran
    obtain ⟨-, rfl⟩ := ok_of_first looked
    cases rest
    rfl
  · cases ran
    rfl

theorem rechargeCreem_exec (s : Store) (faults : Faults) : LeavesOrCredits cfg referenceId .rechargeCreem s
      ((rechargeCreem referenceId customerEmail clock).exec s faults).2 := by
  unfold rechargeCreem
  split
  · exact .inl rfl
  rw [exec_failWith]
  refine exec_completion (atomic_bind (by simp) (by simp)) (fun w ran => ?_) faults
  obtain ⟨topUp, found, rest⟩ := ok_of_findTopUp ran
  split at rest
  · cases rest
  rename_i provider
  split at rest
  · cases rest
  rename_i pending
  rw [bind_ok (write_nil _ _ _)] at rest
  obtain ⟨setsEmail, m, asked, rest⟩ := ok_of_bind rest
  cases ok_of_needsEmail asked
  cases rest
  have own : Completes .rechargeCreem topUp.paymentProvider := .inr (by rw [not_not.mp provider]; rfl)
  refine .inr ⟨topUp.amount, topUp, topUp.succeed clock, ?_⟩
  cases setsEmail with
  | false => exact credited_of found (not_not.mp pending) own rfl rfl rfl fun id => rfl
  | true =>
    refine credited_of found (not_not.mp pending) own rfl rfl rfl fun id => ?_
    exact walletOf_setUser _ topUp.userId id fun _ => rfl

end

section
variable (cfg : Config) (tradeNo : String) (clock : Int)

theorem rechargeUnits_exec {provider : PaymentProvider} {by_ : Completion} (own : providerOf by_ = some provider)
    (worth : ∀ topUp, Worth cfg topUp (quotaOfUnits cfg topUp.amount) by_) (s : Store) (faults : Faults) : LeavesOrCredits cfg tradeNo by_ s
      ((transaction (rechargeUnitsTx cfg provider by_ tradeNo clock)).exec s faults).2 := by
  refine exec_completion (by simp [rechargeUnitsTx]) (fun w ran => ?_) faults
  obtain ⟨topUp, found, rest⟩ := ok_of_findTopUp ran
  split at rest
  · cases rest
  rename_i same
  split at rest
  · cases rest
    exact .inl rfl
  split at rest
  · cases rest
  rename_i pending
  dsimp only at rest
  split at rest
  · cases rest
  cases rest
  exact .inr ⟨_, topUp, topUp.succeed clock, credited_of found (not_not.mp pending)
    (.inr (by rw [not_not.mp same]; exact own)) (worth (topUp.succeed clock)) rfl rfl fun id => rfl⟩

variable (s : Store) (faults : Faults)

theorem rechargeWaffo_exec : LeavesOrCredits cfg tradeNo .rechargeWaffo s
      ((rechargeWaffo cfg tradeNo clock).exec s faults).2 := by
  unfold rechargeWaffo
  split
  · exact .inl rfl
  rw [exec_failWith]
  exact rechargeUnits_exec cfg tradeNo clock rfl (by intro _; rfl) s faults

theorem rechargeWaffoPancake_exec : LeavesOrCredits cfg tradeNo .rechargeWaffoPancake s
      ((rechargeWaffoPancake cfg tradeNo clock).exec s faults).2 := by
  unfold rechargeWaffoPancake
  split
  · exact .inl rfl
  rw [exec_failWith]
  exact rechargeUnits_exec cfg tradeNo clock rfl (by intro _; rfl) s faults

/-- The admin completion fails and changes nothing, or the order is a success afterwards:
it was one already, or it is completed now. -/
theorem manualComplete_exec : ∃ outcome s', (manualCompleteTopUp cfg tradeNo clock).exec s faults = (outcome, s') ∧
      ((∃ e, outcome = .error e ∧ s' = s) ∨ outcome = .ok () ∧ ∃ topUp, s.findTopUp tradeNo = some topUp ∧
          (topUp.status = .success ∧ s' = s ∨ topUp.status = .pending ∧
              s' = (s.saveTopUp (topUp.succeed clock)).credit topUp (manualQuota cfg topUp) .manual)) := by
  unfold manualCompleteTopUp
  split
  · exact ⟨_, s, rfl, .inl ⟨_, rfl, rfl⟩⟩
  rcases exec_transaction_cases (show Atomic (manualCompleteTx cfg tradeNo clock) by simp [manualCompleteTx]) s faults
    with ⟨e, failed⟩ | ⟨_, w, ran, done⟩
  · exact ⟨_, s, failed, .inl ⟨e, rfl, rfl⟩⟩
  refine ⟨_, w s, done, .inr ⟨rfl, ?_⟩⟩
  obtain ⟨topUp, found, rest⟩ := ok_of_findTopUp ran
  refine ⟨topUp, found, ?_⟩
  split at rest
  · rename_i success
    cases rest
    exact .inl ⟨success, rfl⟩
  split at rest
  · cases rest
  rename_i pending
  dsimp only at rest
  split at rest
  · cases rest
  cases rest
  exact .inr ⟨not_not.mp pending, rfl⟩

theorem manualComplete_credited : LeavesOrCredits cfg tradeNo .manual s
      ((manualCompleteTopUp cfg tradeNo clock).exec s faults).2 := by
  obtain ⟨outcome, s', ran, effect⟩ := manualComplete_exec cfg tradeNo clock s faults
  rw [ran]
  rcases effect with ⟨-, -, same⟩ | ⟨-, topUp, found, ⟨-, same⟩ | ⟨pending, effect⟩⟩
  · exact .inl same
  · exact .inl same
  · refine .inr ⟨manualQuota cfg topUp, topUp, topUp.succeed clock, ?_⟩
    rw [effect]
    exact credited_of found pending (.inl rfl) rfl rfl rfl fun id => rfl

end

theorem mark_exec (tradeNo : String) (expected : PaymentProvider) (target : TopUpStatus) (s : Store)
    (faults : Faults) : ((updatePendingTopUpStatus tradeNo expected target).exec s faults).2 = s ∨
      ∃ topUp, s.findTopUp tradeNo = some topUp ∧ topUp.status = .pending ∧
        ((updatePendingTopUpStatus tradeNo expected target).exec s faults).2 =
          s.saveTopUp { topUp with status := target } := by
  unfold updatePendingTopUpStatus
  split
  · exact .inl rfl
  rcases exec_transaction_cases (show Atomic (updatePendingTopUpTx tradeNo expected target) by
      simp [updatePendingTopUpTx]) s faults
    with ⟨e, failed⟩ | ⟨_, w, ran, done⟩
  · rw [failed]
    exact .inl rfl
  rw [done]
  obtain ⟨topUp, found, rest⟩ := ok_of_findTopUp ran
  split at rest
  · cases rest
  split at rest
  · cases rest
  rename_i pending
  cases rest
  exact .inr ⟨topUp, found, not_not.mp pending, rfl⟩

end NewApi.Payment
