/-
# Payment.EpayRuns — Epay callbacks and admin completions of one order, in many processes

`EpayNotify` reads the order, saves it and credits the user in three separate statements.
`LockOrder` keeps the calls of one process apart; across processes nothing does, so two callbacks may
both credit (`epay_credited_twice`), and a credit that fails is never made up for.  `Careful` rules
both out.

A handler is at one of six points (`Point`).  The invariant is that these fit the stage the order is
in: fresh, saved but not credited, or paid.
-/
import NewApi.Payment.TopUpRuns

namespace NewApi.Payment
open Theory Model Function Pool Program

/-! ## The calls and where they can be -/

/-- A verified callback with its payment type, or an admin completion at its time. -/
inductive EpayCall where
  | notify (type : String)
  | admin (clock : Int)

def EpayCall.type : EpayCall → String
  | .notify type => type
  | .admin _ => ""

section
variable (cfg : Config) (tradeNo : String) (process : Nat)

def EpayCall.program : EpayCall → Program Store Reply
  | .notify type => epayNotify cfg process tradeNo type
  | .admin clock => adminCompleteTopUp cfg process tradeNo clock

/-- What is left of an admin completion with the order locked. -/
def adminLocked (clock : Int) : Program Store Reply := do
  match ← store (manualCompleteTopUp cfg tradeNo clock) with
  | .error e => unlockAndReply process tradeNo (.fail e)
  | .ok _ => unlockAndReply process tradeNo .success

def EpayCall.locked : EpayCall → Program Store Reply
  | .notify type => epayLocked cfg process tradeNo type
  | .admin clock => adminLocked cfg tradeNo process clock

inductive Point where
  | idle
  | locked
  /-- the order was read as `row` -/
  | saving (row : TopUp)
  /-- the order was saved as `row` -/
  | crediting (row : TopUp)
  | leaving (reply : Reply)
  | ended (reply : Reply)

def Point.inside : Point → Bool
  | .idle | .ended _ => false
  | _ => true

def Point.program (call : EpayCall) : Point → Program Store Reply
  | .idle => call.program cfg tradeNo process
  | .locked => call.locked cfg tradeNo process
  | .saving row => epaySave cfg process tradeNo (row.epayPaid call.type)
  | .crediting row => epayCredit cfg process tradeNo row
  | .leaving reply => unlockAndReply process tradeNo reply
  | .ended reply => .done reply

end

/-- A handler that is over is at its end, or it was refused at once. -/
theorem Point.ended_of_done {cfg : Config} {tradeNo : String} {process : Nat} {call : EpayCall}
    {point : Point} {reply : Reply} (done : point.program cfg tradeNo process call = .done reply) :
    point = .ended reply ∨ (point = .idle ∧ reply ≠ .success) := by
  cases point with
  | idle =>
    refine .inr ⟨rfl, ?_⟩
    cases call with
    | notify type => cases done
    | admin clock =>
      simp only [Point.program, EpayCall.program, adminCompleteTopUp] at done
      split at done
      · cases done
        simp
      · cases done
  | locked => cases call <;> cases done
  | saving row | crediting row | leaving reply' => cases done
  | ended reply' =>
    cases done
    exact .inl rfl

/-- The order as it was created; only its status and payment method change. -/
structure Order where
  tradeNo : String
  userId : Int
  amount : Int
  /-- the user's quota before -/
  wallet : Int

structure Order.IsRow (o : Order) (row : TopUp) : Prop where
  tradeNo : row.tradeNo = o.tradeNo
  userId : row.userId = o.userId
  amount : row.amount = o.amount
  provider : row.paymentProvider = .epay

def Order.quota (cfg : Config) (o : Order) : Int := quotaOfUnits cfg o.amount

inductive Stage where
  | fresh | owed | paid
deriving DecidableEq

/-- The order is at a stage: its row, its credits and the user's wallet. -/
structure Order.At (cfg : Config) (o : Order) (s : Store) (row : TopUp) (stage : Stage) : Prop where
  found : s.findTopUp o.tradeNo = some row
  isRow : o.IsRow row
  status : row.status = if stage = .fresh then .pending else .success
  credits : if stage = .paid then ∃ by_, credits o.tradeNo s.history = [⟨o.userId, o.quota cfg, by_⟩]
    else credits o.tradeNo s.history = []
  wallet : walletOf s o.userId = some (o.wallet + if stage = .paid then o.quota cfg else 0)

section
variable {ι : Type} [DecidableEq ι]

/-- `hit i`: handler `i` met a failure plan.  Nobody else touches the order, its locks, the
history or the user's wallet. -/
def epayRules (o : Order) (admitted : Faults → Store → Store → Prop) : Rules Store ι (ι → Bool) where
  env s s' := s'.findTopUp o.tradeNo = s.findTopUp o.tradeNo ∧ s'.history = s.history ∧
    (∀ p, s'.orderLocks p o.tradeNo = s.orderLocks p o.tradeNo) ∧
    walletOf s' o.userId = walletOf s o.userId
  guard _ faults s s' _ := admitted faults s s'
  own i faults _ _ hit := update hit i (hit i || faults ≠ [])
  outside _ _ hit := hit

/-- The order is saved as a success, and its credit outstanding. -/
def CreditDue (o : Order) (s : Store) : Prop :=
  (s.findTopUp o.tradeNo).map (·.status) = some .success ∧ credits o.tradeNo s.history = []
deriving Decidable

/-- The order's lock is taken only while no process holds it, and nothing fails while its
credit is due. -/
structure Careful (o : Order) (faults : Faults) (s s' : Store) : Prop where
  apart : ∀ p, s'.orderLocks p o.tradeNo = true → s.orderLocks p o.tradeNo = false →
    ∀ q, s.orderLocks q o.tradeNo = false
  credit : CreditDue o s → faults = []

end

/-- The handlers' points fit the order's stage. -/
structure Fit {ι : Type} (cfg : Config) (o : Order) (process : ι → Nat) (point : ι → Point)
    (s : Store) (hit : ι → Bool) (row : TopUp) (stage : Stage) : Prop where
  order : o.At cfg s row stage
  unique : ∀ i j, (point i).inside = true → (point j).inside = true → i = j
  locks : ∀ i, (point i).inside = true → s.orderLocks (process i) o.tradeNo = true
  saving : ∀ i row', point i = .saving row' → stage = .fresh ∧ row' = row
  crediting : ∀ i row', point i = .crediting row' → stage = .owed ∧ row' = row
  owed : stage = .owed → ∃ i, point i = .crediting row
  replied : ∀ i, point i = .leaving .success ∨ point i = .ended .success → hit i = false →
    stage ≠ .fresh

/-! ## How the points of a pool may move -/

@[simp] theorem orderLocks_setLock_self (s : Store) (process : Nat) (tradeNo : String) (held : Bool) :
    (s.setLock process tradeNo held).orderLocks process tradeNo = held := by
  simp [Store.setLock]

theorem orderLocks_setLock (s : Store) (process : Nat) (tradeNo : String) (held : Bool) (q : Nat) :
    (s.setLock process tradeNo held).orderLocks q tradeNo =
      if q = process then held else s.orderLocks q tradeNo := by
  by_cases same : q = process <;> simp [Store.setLock, same]

section
variable {cfg : Config} {o : Order} {s s' : Store} {stage : Stage}

theorem Order.At.congr {row : TopUp}
    (here : o.At cfg s row stage) (found : s'.findTopUp o.tradeNo = s.findTopUp o.tradeNo)
    (history : s'.history = s.history) (wallet : walletOf s' o.userId = walletOf s o.userId) :
    o.At cfg s' row stage where
  found := found.trans here.found
  isRow := here.isRow
  status := here.status
  credits := by rw [history]; exact here.credits
  wallet := wallet.trans here.wallet

/-- The credit is made. -/
theorem Order.At.pay {row row' : TopUp} (here : o.At cfg s row stage) (unpaid : stage ≠ .paid) (by_ : Completion)
    (found : s'.findTopUp o.tradeNo = some row') (isRow : o.IsRow row') (success : row'.status = .success)
    (history : s'.history = s.history ++ [.credited o.tradeNo o.userId (o.quota cfg) by_])
    (wallet : walletOf s' o.userId = walletOf (s.addUserQuota o.userId (o.quota cfg)) o.userId) :
    o.At cfg s' row' .paid where
  found := found
  isRow := isRow
  status := success
  credits := by
    have none := here.credits
    rw [if_neg unpaid] at none
    rw [if_pos rfl]
    refine ⟨by_, ?_⟩
    rw [history, credits_concat, none, if_pos rfl]
    rfl
  wallet := by
    rw [wallet, walletOf_addUserQuota, here.wallet, if_neg unpaid]
    simp

end

section
variable {o : Order} {row : TopUp}

theorem Order.IsRow.succeed (isRow : o.IsRow row) (clock : Int) :
    o.IsRow (row.succeed clock) := ⟨isRow.tradeNo, isRow.userId, isRow.amount, isRow.provider⟩

theorem Order.IsRow.epayPaid (isRow : o.IsRow row) (type : String) :
    o.IsRow (row.epayPaid type) := ⟨isRow.tradeNo, isRow.userId, isRow.amount, isRow.provider⟩

theorem Order.At.fresh {cfg : Config} {s : Store} {stage : Stage}
    (here : o.At cfg s row stage) (pending : row.status = .pending) : stage = .fresh := by
  by_contra other
  have status := here.status
  rw [if_neg other, pending] at status
  cases status

end

section
variable {ι : Type} [DecidableEq ι] {cfg : Config} {o : Order} {process : ι → Nat} {point : ι → Point}
  {s s' : Store} {hit : ι → Bool} {row row' : TopUp} {stage stage' : Stage} {i : ι}

/-- Where handler `i` is after a step, and that everything fits again. -/
def Arrives (cfg : Config) (o : Order) (process : ι → Nat) (point : ι → Point) (hit : ι → Bool)
    (call : EpayCall) (i : ι) (faults : Faults) (p : Program Store Reply) (s' : Store) : Prop :=
  ∃ pt row' stage', p = pt.program cfg o.tradeNo (process i) call ∧
    Fit cfg o process (update point i pt) s'
      (update hit i (hit i || faults ≠ [])) row' stage'

namespace Fit

variable (fit : Fit cfg o process point s hit row stage)

include fit

/-- Handler `i` goes to the point `pt` while everyone else is outside. -/
theorem move (alone : ∀ j, j ≠ i → (point j).inside = false) {pt : Point} {bad : Bool}
    (lock : pt.inside = true → s'.orderLocks (process i) o.tradeNo = true)
    (order : o.At cfg s' row' stage') (onwards : stage ≠ .fresh → stage' ≠ .fresh)
    (saving : ∀ r, pt = .saving r → stage' = .fresh ∧ r = row')
    (crediting : ∀ r, pt = .crediting r → stage' = .owed ∧ r = row') (owed : stage' = .owed → pt = .crediting row')
    (replied : pt = .leaving .success ∨ pt = .ended .success → hit i = false → bad = false → stage' ≠ .fresh) :
    Fit cfg o process (update point i pt) s' (update hit i (hit i || bad)) row' stage' := by
  have here_of {j : ι} (inside : (update point i pt j).inside = true) : j = i := by
    by_contra other
    rw [update_of_ne other, alone j other] at inside
    cases inside
  have point_of {j : ι} {pt' : Point} (here : update point i pt j = pt') (inside : pt'.inside = true) : pt = pt' := by
    obtain rfl := here_of (by rw [here, inside])
    rwa [update_self] at here
  refine ⟨order, fun j k atJ atK => (here_of atJ).trans (here_of atK).symm, fun j atJ => ?_,
    fun j r here => saving r (point_of here rfl), fun j r here => crediting r (point_of here rfl),
    fun due => ⟨i, ?_⟩, fun j here clean => ?_⟩
  · obtain rfl := here_of atJ
    rw [update_self] at atJ
    exact lock atJ
  · rw [update_self]
    exact owed due
  · by_cases same : j = i
    · subst same
      rw [update_self] at here clean
      rw [Bool.or_eq_false_iff] at clean
      exact replied here clean.1 clean.2
    · rw [update_of_ne same] at here clean
      exact onwards (fit.replied j here clean)

omit [DecidableEq ι] in
theorem alone (at_ : (point i).inside = true) (j : ι) (other : j ≠ i) : (point j).inside = false := by
  by_contra inside
  exact other (fit.unique j i (by simpa using inside) at_)

omit [DecidableEq ι] in
/-- While the order is not owed to be credited by `i` itself, it is not owed at all. -/
theorem not_owed (alone : ∀ j, j ≠ i → (point j).inside = false) (other : ∀ r, point i ≠ .crediting r) :
    stage ≠ .owed := by
  intro due
  obtain ⟨j, crediting⟩ := fit.owed due
  by_cases same : j = i
  · subst same
    exact other row crediting
  · have outside := alone j same
    rw [crediting] at outside
    cases outside

/-- A handler takes the lock while nobody has it. -/
theorem enter (free : ∀ q, s.orderLocks q o.tradeNo = false) (bad : Bool) :
    Fit cfg o process (update point i .locked) (s.setLock (process i) o.tradeNo true)
      (update hit i (hit i || bad)) row stage := by
  have outside (j : ι) : (point j).inside = false := by
    by_contra inside
    have held := fit.locks j (by simpa using inside)
    rw [free] at held
    cases held
  have notDue := fit.not_owed (fun j _ => outside j) fun r crediting => by
    have := outside i
    rw [crediting] at this
    cases this
  exact fit.move (fun j _ => outside j) (fun _ => orderLocks_setLock_self _ _ _ _)
    (fit.order.congr rfl rfl rfl) id (by simp) (by simp) (fun due => (notDue due).elim) (by simp)

/-- A handler that has the lock goes on to point `pt`. -/
theorem within (at_ : (point i).inside = true) {pt : Point} (inside : pt.inside = true) {bad : Bool}
    (locks : ∀ q, s'.orderLocks q o.tradeNo = s.orderLocks q o.tradeNo)
    (order : o.At cfg s' row' stage') (onwards : stage ≠ .fresh → stage' ≠ .fresh)
    (saving : ∀ r, pt = .saving r → stage' = .fresh ∧ r = row')
    (crediting : ∀ r, pt = .crediting r → stage' = .owed ∧ r = row') (owed : stage' = .owed → pt = .crediting row')
    (replied : pt = .leaving .success → bad = false → stage' ≠ .fresh) :
    Fit cfg o process (update point i pt) s' (update hit i (hit i || bad)) row' stage' := by
  refine fit.move (fit.alone at_) (fun _ => (locks _).trans (fit.locks i at_)) order onwards saving
    crediting owed fun here _ => replied (here.resolve_right fun ended => ?_)
  rw [ended] at inside
  cases inside

variable {reply : Reply}

theorem answer (at_ : (point i).inside = true) (notDue : stage ≠ .owed) {bad : Bool}
    (replied : reply = .success → bad = false → stage ≠ .fresh) :
    Fit cfg o process (update point i (.leaving reply)) s (update hit i (hit i || bad)) row stage :=
  fit.within at_ rfl (fun _ => rfl) fit.order (fun h => h) (by simp) (by simp) (fun due => absurd due notDue)
    fun here => replied (by simpa using here)

/-- A handler gives the lock back. -/
theorem leave (at_ : point i = .leaving reply) (bad : Bool) : Fit cfg o process (update point i (.ended reply))
      (s.setLock (process i) o.tradeNo false) (update hit i (hit i || bad)) row stage := by
  have alone := fit.alone (by rw [at_]; rfl)
  have notDue := fit.not_owed alone (by simp [at_])
  refine fit.move alone nofun (fit.order.congr rfl rfl rfl) id (by simp) (by simp)
    (fun due => (notDue due).elim) fun here clean _ => fit.replied i (.inl ?_) clean
  rcases here with here | here
  · cases here
  · cases here
    exact at_

/-! ## The steps -/

variable {call : EpayCall} {faults : Faults} {p : Program Store Reply} {kid : Option (Program Store Unit)}

theorem step_idle (ran : (call.program cfg o.tradeNo (process i)).step s faults = some (p, s', kid))
    (careful : Careful o faults s s') : kid = none ∧ Arrives cfg o process point hit call i faults p s' := by
  have entered : p = call.locked cfg o.tradeNo (process i) ∧
      s.orderLocks (process i) o.tradeNo = false ∧ s' = s.setLock (process i) o.tradeNo true ∧
      kid = none := by
    cases call with
    | notify type =>
      obtain ⟨free, rest, moved, alone⟩ := step_await_bind ran
      exact ⟨rest, by simpa using free, moved, alone⟩
    | admin clock =>
      by_cases blank : o.tradeNo = ""
      · simp only [EpayCall.program, adminCompleteTopUp, if_pos blank] at ran
        cases ran
      · simp only [EpayCall.program, adminCompleteTopUp, if_neg blank] at ran
        obtain ⟨free, rest, moved, alone⟩ := step_await_bind ran
        exact ⟨rest, by simpa using free, moved, alone⟩
  obtain ⟨rfl, free, rfl, rfl⟩ := entered
  refine ⟨rfl, .locked, row, stage, rfl, fit.enter ?_ _⟩
  exact careful.apart (process i) (orderLocks_setLock_self _ _ _ _) free

/-- A callback reads the order. -/
theorem step_read (at_ : point i = .locked) {type : String}
    (ran : (epayLocked cfg (process i) o.tradeNo type).step s faults = some (p, s', kid)) :
    kid = none ∧ Arrives cfg o process point hit (.notify type) i faults p s' := by
  have inside : (point i).inside = true := by rw [at_]; rfl
  have notDue := fit.not_owed (fit.alone inside) (by rw [at_]; simp)
  rw [epayLocked, step_store_bind] at ran
  have unchanged : ((first (·.findTopUp o.tradeNo) errRecordNotFound).exec s faults).2 = s :=
    local_first _ _ ⟨s, id, faults⟩
  rcases looked : (first (·.findTopUp o.tradeNo) errRecordNotFound).exec s faults with ⟨outcome, s₁⟩
  rw [looked] at ran unchanged
  have same : s₁ = s := unchanged
  subst same
  cases outcome with
  | error e =>
    -- Only a failure can hide the row.
    cases ran
    refine ⟨rfl, .leaving .success, row, stage, rfl, fit.answer inside notDue fun _ clean => ?_⟩
    have none : faults = [] := by simpa using clean
    subst none
    have answer : first (·.findTopUp o.tradeNo) errRecordNotFound ⟨s₁, id, []⟩ =
        (.ok row, ⟨s₁, id, []⟩) := first_found fit.order.found errRecordNotFound
    simp only [Sql.exec, answer] at looked
    cases looked
  | ok topUp =>
    have same : topUp = row := by
      unfold Sql.exec first Sql.read Sql.statement at looked
      have found := fit.order.found
      split at looked <;> simp_all [Conn.view]
    subst same
    have provider := fit.order.isRow.provider
    simp only [provider] at ran
    by_cases pending : topUp.status = .pending
    · simp only [if_pos pending] at ran
      cases ran
      have fresh := fit.order.fresh pending
      refine ⟨rfl, .saving topUp, topUp, stage, rfl, ?_⟩
      refine fit.within inside rfl (fun _ => rfl) fit.order (fun h => h) ?_ (by simp)
        (fun due => absurd due notDue) (by simp)
      rintro r ⟨⟩
      exact ⟨fresh, rfl⟩
    · simp only [if_neg pending] at ran
      cases ran
      refine ⟨rfl, .leaving .success, topUp, stage, rfl, fit.answer inside notDue ?_⟩
      intro _ _ fresh
      have status := fit.order.status
      rw [if_pos fresh] at status
      exact pending status

/-- The admin completes the order, or finds it completed, or fails. -/
theorem step_manual (at_ : point i = .locked) {clock : Int}
    (ran : (adminLocked cfg o.tradeNo (process i) clock).step s faults = some (p, s', kid)) :
    kid = none ∧ Arrives cfg o process point hit (.admin clock) i faults p s' := by
  have inside : (point i).inside = true := by rw [at_]; rfl
  have notDue := fit.not_owed (fit.alone inside) (by rw [at_]; simp)
  obtain ⟨outcome, s₁, manual, effect⟩ := manualComplete_exec cfg o.tradeNo clock s faults
  rw [adminLocked, step_store_bind, manual] at ran
  rcases effect with ⟨e, rfl, rfl⟩ | ⟨rfl, topUp, found, ⟨success, rfl⟩ | ⟨pending, rfl⟩⟩
  · cases ran
    exact ⟨rfl, .leaving (.fail e), row, stage, rfl, fit.answer inside notDue nofun⟩
  · cases ran
    cases found.symm.trans fit.order.found
    refine ⟨rfl, .leaving .success, row, stage, rfl, fit.answer inside notDue fun _ _ fresh => ?_⟩
    have status := fit.order.status
    rw [if_pos fresh, success] at status
    cases status
  · cases ran
    cases found.symm.trans fit.order.found
    have fresh := fit.order.fresh pending
    have isRow := fit.order.isRow
    have amount : manualQuota cfg row = o.quota cfg := by
      unfold manualQuota Order.quota
      rw [isRow.provider, isRow.amount]
      rfl
    have number : (row.succeed clock).tradeNo = o.tradeNo := isRow.tradeNo
    refine ⟨rfl, .leaving .success, row.succeed clock, .paid, rfl, ?_⟩
    refine fit.within inside rfl (fun _ => rfl) ?_ (by simp) (by simp) (by simp) (by simp) (by simp)
    refine fit.order.pay (by simp [fresh]) .manual ?_ (isRow.succeed clock) rfl ?_ ?_
    · have saved := findTopUp_saveTopUp number found o.tradeNo
      rw [if_pos rfl] at saved
      exact saved
    · rw [amount, ← isRow.tradeNo, ← isRow.userId]
      rfl
    · rw [amount, ← isRow.userId]
      rfl

/-- A callback saves the order it has read. -/
theorem step_save {read : TopUp} (at_ : point i = .saving read) {type : String}
    (ran : (epaySave cfg (process i) o.tradeNo (read.epayPaid type)).step s faults = some (p, s', kid)) :
    kid = none ∧ Arrives cfg o process point hit call i faults p s' := by
  have inside : (point i).inside = true := by rw [at_]; rfl
  obtain ⟨rfl, rfl⟩ := fit.saving i read at_
  have isRow := fit.order.isRow
  have number : (read.epayPaid type).tradeNo = o.tradeNo := isRow.tradeNo
  rw [epaySave, step_store_bind] at ran
  have effect : (∃ e, (Sql.autocommit (·.saveTopUp (read.epayPaid type)) : Db Unit).exec s faults =
        (.error e, s) ∧ faults ≠ []) ∨
      (Sql.autocommit (·.saveTopUp (read.epayPaid type)) : Db Unit).exec s faults =
        (.ok (), s.saveTopUp (read.epayPaid type)) := by
    match faults with
    | [] | none :: _ => exact .inr rfl
    | some e :: _ => exact .inl ⟨e, rfl, by simp⟩
  rcases effect with ⟨e, failed, struck⟩ | saved
  · rw [failed] at ran
    cases ran
    refine ⟨rfl, .leaving .success, read, .fresh, rfl, fit.answer inside (by simp) fun _ clean => ?_⟩
    exact absurd (by simpa using clean) struck
  · rw [saved] at ran
    cases ran
    refine ⟨rfl, .crediting (read.epayPaid type), read.epayPaid type, .owed, rfl, ?_⟩
    refine fit.within inside rfl (fun _ => rfl) ?_ (by simp) (by simp) ?_ (by simp) (by simp)
    · have found := findTopUp_saveTopUp number fit.order.found o.tradeNo
      rw [if_pos rfl] at found
      exact ⟨found, isRow.epayPaid type, rfl, fit.order.credits, fit.order.wallet⟩
    · rintro r ⟨⟩
      exact ⟨rfl, rfl⟩

/-- A callback credits the user: nothing may fail here. -/
theorem step_credit {saved : TopUp}
    (at_ : point i = .crediting saved) (nonneg : 0 ≤ o.quota cfg) (careful : Careful o faults s s')
    (ran : (epayCredit cfg (process i) o.tradeNo saved).step s faults = some (p, s', kid)) :
    kid = none ∧ Arrives cfg o process point hit call i faults p s' := by
  have inside : (point i).inside = true := by rw [at_]; rfl
  obtain ⟨rfl, rfl⟩ := fit.crediting i saved at_
  have isRow := fit.order.isRow
  have due : CreditDue o s := by
    refine ⟨?_, fit.order.credits⟩
    rw [fit.order.found]
    exact congrArg some fit.order.status
  cases careful.credit due
  have quota : quotaOfUnits cfg saved.amount = o.quota cfg := by rw [isRow.amount]; rfl
  have credited : (creditEpay cfg saved).exec s [] = (.ok (), (s.addUserQuota saved.userId (o.quota cfg)).log
      (.credited saved.tradeNo saved.userId (o.quota cfg) .epayNotify)) := by
    unfold creditEpay increaseUserQuota changeUserQuota
    rw [quota, if_neg (by omega)]
    rfl
  rw [epayCredit, step_store_bind, credited] at ran
  cases ran
  refine ⟨rfl, .leaving .success, saved, .paid, rfl, ?_⟩
  refine fit.within inside rfl (fun _ => rfl) ?_ (by simp) (by simp) (by simp) (by simp) (by simp)
  refine fit.order.pay (by simp) .epayNotify fit.order.found isRow fit.order.status ?_ ?_
  · rw [← isRow.tradeNo, ← isRow.userId]
    rfl
  · rw [← isRow.userId]
    rfl

theorem step_leave (at_ : point i = .leaving reply)
    (ran : (unlockAndReply (process i) o.tradeNo reply).step s faults = some (p, s', kid)) :
    kid = none ∧ Arrives cfg o process point hit call i faults p s' := by
  rw [unlockAndReply, unlockOrder, step_store_bind] at ran
  cases ran
  exact ⟨rfl, .ended reply, row, stage, rfl, fit.leave at_ _⟩

/-- Every step of every handler, wherever it is. -/
theorem step {calls : ι → EpayCall} (nonneg : 0 ≤ o.quota cfg) (careful : Careful o faults s s')
    (ran : ((point i).program cfg o.tradeNo (process i) (calls i)).step s faults = some (p, s', kid)) :
    kid = none ∧ Arrives cfg o process point hit (calls i) i faults p s' := by
  cases at_ : point i with
  | idle => rw [at_] at ran; exact fit.step_idle ran careful
  | locked =>
    rw [at_] at ran
    cases which : calls i with
    | notify type => rw [which] at ran; exact fit.step_read at_ ran
    | admin clock => rw [which] at ran; exact fit.step_manual at_ ran
  | saving read => rw [at_] at ran; exact fit.step_save at_ ran
  | crediting saved => rw [at_] at ran; exact fit.step_credit at_ nonneg careful ran
  | leaving reply => rw [at_] at ran; exact fit.step_leave at_ ran
  | ended reply => rw [at_] at ran; cases ran

end Fit
end

/-! ## Whole runs -/

/-- The order before the calls: pending, not credited, not locked, worth no less than zero. -/
structure Order.Opened (cfg : Config) (o : Order) (s : Store) : Prop where
  row : ∃ row, s.findTopUp o.tradeNo = some row ∧ o.IsRow row ∧ row.status = .pending
  credits : credits o.tradeNo s.history = []
  wallet : walletOf s o.userId = some o.wallet
  locks : ∀ p, s.orderLocks p o.tradeNo = false
  nonneg : 0 ≤ o.quota cfg

/-- Some points fit what the handlers have still to do. -/
def Placed {ι : Type} (cfg : Config) (o : Order) (process : ι → Nat) (calls : ι → EpayCall)
    (c : Pool Store Reply ι) (hit : ι → Bool) : Prop :=
  (∀ i, c.kids i = []) ∧ ∃ point row stage,
    (∀ i, c.main i = (point i).program cfg o.tradeNo (process i) (calls i)) ∧
    Fit cfg o process point c.store hit row stage

section
variable {ι : Type} [DecidableEq ι] {cfg : Config} {o : Order} {process : ι → Nat}
  {calls : ι → EpayCall} {s : Store} {c : Pool Store Reply ι} {hit : ι → Bool}

omit [DecidableEq ι] in
theorem Order.Opened.placed (opened : o.Opened cfg s) : Placed cfg o process calls
      (initial s fun i => (calls i).program cfg o.tradeNo (process i)) (fun _ => false) := by
  obtain ⟨row, found, isRow, pending⟩ := opened.row
  refine ⟨fun _ => rfl, fun _ => .idle, row, .fresh, fun _ => rfl,
    ⟨found, isRow, pending, opened.credits, opened.wallet.trans (by simp)⟩, ?_, ?_, ?_, ?_, ?_, ?_⟩
  · intro i j inside
    cases inside
  · intro i inside
    cases inside
  · rintro i row' ⟨⟩
  · rintro i row' ⟨⟩
  · rintro ⟨⟩
  · rintro i (⟨⟨⟩⟩ | ⟨⟨⟩⟩)

theorem Placed.step {c' : Pool Store Reply ι} {i : ι} {faults : Faults} (nonneg : 0 ≤ o.quota cfg)
    (placed : Placed cfg o process calls c hit) (stepped : Step i faults c c')
    (careful : Careful o faults c.store c'.store) :
    Placed cfg o process calls c' (update hit i (hit i || faults ≠ [])) := by
  obtain ⟨alone, point, row, stage, programs, fit⟩ := placed
  cases stepped with
  | main ran =>
    rw [programs] at ran
    obtain ⟨rfl, pt, row', stage', rfl, fit'⟩ := fit.step nonneg careful ran
    refine ⟨fun j => ?_, update point i pt, row', stage', fun j => ?_, fit'⟩
    · by_cases same : j = i
      · subst same; simp [alone]
      · simp [same, alone]
    · by_cases same : j = i
      · subst same; simp
      · simp [same, programs]
  | kid here ran =>
    rw [alone] at here
    simp at here

theorem Placed.outside {s' : Store} {admitted : Faults → Store → Store → Prop}
    (placed : Placed cfg o process calls c hit)
    (changed : (epayRules o admitted : Rules Store ι (ι → Bool)).env c.store s') :
    Placed cfg o process calls { c with store := s' } hit := by
  obtain ⟨alone, point, row, stage, programs, fit⟩ := placed
  obtain ⟨found, history, locks, wallet⟩ := changed
  refine ⟨alone, point, row, stage, programs, fit.order.congr found history wallet, fit.unique,
    fun i inside => ?_, fit.saving, fit.crediting, fit.owed, fit.replied⟩
  rw [locks]
  exact fit.locks i inside

/-- **An Epay order is credited exactly once**, however its callbacks and admin completions
interleave in however many processes, if no two of them hold its lock at once, nothing fails
between the save and the credit, and one call that reported success met no failure. -/
theorem epay_credited_once (opened : o.Opened cfg s) (run : Run (epayRules o (Careful o))
      (initial s fun i => (calls i).program cfg o.tradeNo (process i)) (fun _ => false) c hit)
    (over_ : ∀ i, ∃ reply, c.main i = .done reply) (unharmed : ∃ i, c.main i = .done .success ∧ hit i = false) :
    (∃ row, c.store.findTopUp o.tradeNo = some row ∧ row.status = .success) ∧
      (∃ by_, credits o.tradeNo c.store.history = [⟨o.userId, o.quota cfg, by_⟩]) ∧
      walletOf c.store o.userId = some (o.wallet + o.quota cfg) := by
  have placed : Placed cfg o process calls c hit :=
    Run.invariant (Placed cfg o process calls) opened.placed
      (fun _ _ _ _ _ placed stepped careful => placed.step opened.nonneg stepped careful)
      (fun _ _ _ placed changed => placed.outside changed) run
  obtain ⟨-, point, row, stage, programs, fit⟩ := placed
  have fine : stage ≠ .fresh := by
    obtain ⟨i, done, clean⟩ := unharmed
    rw [programs] at done
    rcases Point.ended_of_done done with ended | ⟨-, failed⟩
    · exact fit.replied i (.inr ended) clean
    · exact absurd rfl failed
  have settled : stage ≠ .owed := by
    intro due
    obtain ⟨i, crediting⟩ := fit.owed due
    obtain ⟨reply, done⟩ := over_ i
    rw [programs, crediting] at done
    cases done
  have paid : stage = .paid := by
    cases stage with
    | fresh => exact absurd rfl fine
    | owed => exact absurd rfl settled
    | paid => rfl
  subst paid
  exact ⟨⟨row, fit.order.found, fit.order.status⟩, fit.order.credits, fit.order.wallet⟩

end

/-! ## One order of two units -/

def epayOrder : Order := ⟨"T", 7, 2, 0⟩

def onePending : Store :=
  { Store.empty with
    users := fun id => if id = 7 then some ⟨7, "default", 0, "", ""⟩ else none
    topUps := [⟨7, 2, 14, "T", "alipay", .epay, 0, 0, .pending⟩] }

theorem onePending_opened : epayOrder.Opened plainConfig onePending :=
  ⟨⟨_, rfl, ⟨rfl, rfl, rfl, rfl⟩, rfl⟩, rfl, rfl, fun _ => rfl, by decide +kernel⟩

/-- Two processes, no failure: both callbacks find the order pending, and both credit. -/
theorem epay_credited_twice :
    ∃ (c : Pool Store Reply (Fin 2)) (hit : Fin 2 → Bool), epayOrder.Opened plainConfig onePending ∧
      Run (epayRules epayOrder fun faults _ _ => faults = [])
        (initial onePending fun i : Fin 2 => epayNotify plainConfig i "T" "alipay") (fun _ => false) c hit ∧
      (∀ i, c.main i = .done .success) ∧
      credits "T" c.store.history = [⟨7, 1000000, .epayNotify⟩, ⟨7, 1000000, .epayNotify⟩] ∧
      walletOf c.store 7 = some 2000000 := by
  have locked₀ : Run (epayRules epayOrder fun faults _ _ => faults = [])
      (initial onePending fun i : Fin 2 => epayNotify plainConfig i "T" "alipay")
      (fun _ => false) _ _ := .step .start 0 [] (.main rfl) rfl
  have locked₁ := Run.step locked₀ 1 [] (.main rfl) rfl
  have read₀ := Run.step locked₁ 0 [] (.main rfl) rfl
  have read₁ := Run.step read₀ 1 [] (.main rfl) rfl
  have saved₀ := Run.step read₁ 0 [] (.main rfl) rfl
  have credited₀ := Run.step saved₀ 0 [] (.main rfl) rfl
  have saved₁ := Run.step credited₀ 1 [] (.main rfl) rfl
  have credited₁ := Run.step saved₁ 1 [] (.main rfl) rfl
  have left₀ := Run.step credited₁ 0 [] (.main rfl) rfl
  have left₁ := Run.step left₀ 1 [] (.main rfl) rfl
  refine ⟨_, _, onePending_opened, left₁, ?_, by decide +kernel, by decide +kernel⟩
  intro i
  match i with
  | 0 | 1 => rfl

/-- A callback in one process and, when it has left, an admin completion in another. -/
def callThenAdmin : Fin 2 → EpayCall
  | 0 => .notify "wxpay"
  | 1 => .admin 50

theorem careful_of_locks {o : Order} {s s' : Store} (same : s'.orderLocks = s.orderLocks) : Careful o [] s s' where
  apart p held free := by
    rw [same, free] at held
    cases held
  credit _ := rfl

theorem careful_unlock (o : Order) (s : Store) (process : Nat) :
    Careful o [] s (s.setLock process o.tradeNo false) where
  apart p held free := by
    rw [orderLocks_setLock] at held
    split at held
    · cases held
    · rw [free] at held
      cases held
  credit _ := rfl

theorem orderLocks_creditEpay (cfg : Config) (topUp : TopUp) (s : Store) :
    ((creditEpay cfg topUp).exec s []).2.orderLocks = s.orderLocks := by
  unfold creditEpay increaseUserQuota
  split <;> rfl

theorem orderLocks_manualComplete (cfg : Config) (tradeNo : String) (clock : Int) (s : Store) :
    ((manualCompleteTopUp cfg tradeNo clock).exec s []).2.orderLocks = s.orderLocks := by
  obtain ⟨outcome, s', ran, effect⟩ := manualComplete_exec cfg tradeNo clock s []
  rw [ran]
  rcases effect with ⟨-, -, rfl⟩ | ⟨-, topUp, -, ⟨-, rfl⟩ | ⟨-, rfl⟩⟩ <;> rfl

theorem epay_credited_once_callThenAdmin : ∃ (c : Pool Store Reply (Fin 2)), (∀ i, c.main i = .done .success) ∧
      (∃ row, c.store.findTopUp "T" = some row ∧ row.status = .success) ∧
      (∃ by_, credits "T" c.store.history = [⟨7, epayOrder.quota plainConfig, by_⟩]) ∧
      walletOf c.store 7 = some (0 + epayOrder.quota plainConfig) := by
  have locked : Run (epayRules epayOrder (Careful epayOrder))
      (initial onePending fun i : Fin 2 => (callThenAdmin i).program plainConfig "T" i)
      (fun _ => false) _ _ :=
    .step .start 0 [] (.main rfl) ⟨fun _ _ _ _ => rfl, fun _ => rfl⟩
  have read := Run.step locked 0 [] (.main rfl) (careful_of_locks rfl)
  have saved := Run.step read 0 [] (.main rfl) (careful_of_locks rfl)
  have credited := Run.step saved 0 [] (.main rfl) (careful_of_locks (orderLocks_creditEpay _ _ _))
  have left_ := Run.step credited 0 [] (.main rfl) (careful_unlock epayOrder _ 0)
  have relocked := Run.step left_ 1 [] (.main (by with_unfolding_all rfl)) ⟨fun _ _ _ q => by
    refine (orderLocks_setLock _ 0 "T" false q).trans ?_
    split
    · rfl
    · rename_i other
      refine (congrFun (congrFun (orderLocks_creditEpay plainConfig _ _) q) "T").trans ?_
      exact (orderLocks_setLock onePending 0 "T" true q).trans (if_neg other), fun _ => rfl⟩
  have completed := Run.step relocked 1 [] (.main (by with_unfolding_all rfl))
    (careful_of_locks (orderLocks_manualComplete _ _ _ _))
  have left₁ := Run.step completed 1 [] (.main (by with_unfolding_all rfl)) (careful_unlock epayOrder _ 1)
  refine ⟨_, fun i => ?_, epay_credited_once onePending_opened left₁ (fun i => ⟨.success, ?_⟩) ⟨0, rfl, rfl⟩⟩
  all_goals
    match i with
    | 0 | 1 => rfl

end NewApi.Payment
