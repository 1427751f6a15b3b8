/-
# Payment.TopUpRuns — top-up orders along every interleaving of their completions

Any number of the six functions run side by side, and every statement may fail.  The orders are
matters to be settled once (`Settlement`), with their credits as entries: an order is a success
exactly when its user was credited, at most once, and a failed or expired order is never credited.
-/
import NewApi.Theory.Pool
import NewApi.Theory.Settlement
import NewApi.Payment.TopUpSpec

namespace NewApi.Payment
open Theory Theory.Settlement Model Pool

/-! ## The history -/

/-- Who was credited how much, and by what. -/
structure Credit where
  userId : Int
  amount : Int
  by_ : Completion
deriving DecidableEq

def credits (tradeNo : String) (history : List Event) : List Credit :=
  history.filterMap fun
    | .credited t userId amount by_ => if t = tradeNo then some ⟨userId, amount, by_⟩ else none
    | _ => none

/-- What an event adds to the quota of `userId`. -/
def creditOf (userId : Int) : Event → Int
  | .credited _ id amount _ => if userId = id then amount else 0
  | _ => 0

def creditedTo (userId : Int) (history : List Event) : Int := (history.map (creditOf userId)).sum

theorem credits_concat (tradeNo t : String) (userId amount : Int) (by_ : Completion) (history : List Event) :
    credits tradeNo (history ++ [.credited t userId amount by_]) =
      credits tradeNo history ++ if t = tradeNo then [⟨userId, amount, by_⟩] else [] := by
  by_cases same : t = tradeNo <;> simp [credits, same]

theorem creditedTo_concat (userId : Int) (history : List Event) (event : Event) :
    creditedTo userId (history ++ [event]) = creditedTo userId history + creditOf userId event := by
  simp [creditedTo]

/-! ## The orders as matters to be settled -/

def topUpKind (topUp : TopUp) : Phase :=
  match topUp.status with
  | .pending => .open_
  | .success => .done
  | .failed | .expired => .closed

variable {topUp : TopUp}

theorem topUpKind_done : topUpKind topUp = .done ↔ topUp.status = .success := by
  unfold topUpKind
  cases topUp.status <;> simp

theorem topUpKind_open : topUpKind topUp = .open_ ↔ topUp.status = .pending := by
  unfold topUpKind
  cases topUp.status <;> simp

def topUpBook (s : Store) : Book String TopUp Credit where
  row := s.findTopUp
  entries t := credits t s.history

/-- The order's own user was credited what it is worth, by its provider's completion or the admin. -/
def Rightful (cfg : Config) (topUp : TopUp) (credit : Credit) : Prop :=
  credit.userId = topUp.userId ∧ Completes credit.by_ topUp.paymentProvider ∧ Worth cfg topUp credit.amount credit.by_

variable {cfg : Config} {tradeNo : String}

theorem Credited.move {by_ : Completion} {amount : Int} {topUp' : TopUp}
    {s s' : Store} (credited : Credited cfg tradeNo by_ amount topUp topUp' s s') :
    Move topUpKind (Rightful cfg) (topUpBook s) (topUpBook s') := by
  refine .settle tradeNo topUp' ⟨topUp.userId, amount, by_⟩ (fun old found => ?_)
    (topUpKind_done.mpr credited.success) ⟨credited.user.symm, ?_, credited.worth⟩ credited.topUps fun t => ?_
  · cases credited.found.symm.trans found
    exact topUpKind_open.mpr credited.pending
  · rw [credited.provider]
    exact credited.own
  · show credits t s'.history = if t = tradeNo then credits t s.history ++ [_] else credits t s.history
    rw [credited.history, credits_concat]
    by_cases same : t = tradeNo
    · simp [same]
    · simp [same, Ne.symm same]

variable (cfg) in
theorem mark_move {target : TopUpStatus} {s : Store}
    (found : s.findTopUp tradeNo = some topUp) (pending : topUp.status = .pending) (closes : target ≠ .success) :
    Move topUpKind (Rightful cfg) (topUpBook s) (topUpBook (s.saveTopUp { topUp with status := target })) := by
  have number : ({ topUp with status := target } : TopUp).tradeNo = tradeNo := (Rows.mem_of_find found).2
  refine .relabel (fun _ => rfl) fun t => ?_
  show Store.findTopUp _ t = _ ∨ _ ∧ ∃ r, Store.findTopUp _ t = some r ∧ _
  rw [findTopUp_saveTopUp number found]
  by_cases same : t = tradeNo
  · subst same
    refine .inr ⟨fun old found' => ?_, _, if_pos rfl, ?_⟩
    · cases found.symm.trans found'
      exact topUpKind_open.mpr pending
    · rw [Ne, topUpKind_done]
      exact closes
  · exact .inl (if_neg same)

/-- `start` are the wallets from before the run. -/
structure TopUpsOk (cfg : Config) (start : Int → Option Int) (s : Store) : Prop where
  sound : Sound topUpKind (Rightful cfg) (topUpBook s)
  wallets : ∀ id, walletOf s id = (start id).map (· + creditedTo id s.history)

section
variable {start : Int → Option Int} {s s' : Store}

theorem TopUpsOk.credit (ok : TopUpsOk cfg start s) {tradeNo : String} {by_ : Completion} {amount : Int}
    {topUp' : TopUp} (credited : Credited cfg tradeNo by_ amount topUp topUp' s s') : TopUpsOk cfg start s' where
  sound := credited.move.sound ok.sound
  wallets id := by
    rw [credited.wallets, ok.wallets, credited.history, creditedTo_concat, Option.map_map]
    congr 1
    funext quota
    simp only [Function.comp, creditOf]
    omega

theorem TopUpsOk.relabel (ok : TopUpsOk cfg start s) (history : s'.history = s.history)
    (wallets : ∀ id, walletOf s' id = walletOf s id)
    (move : Move topUpKind (Rightful cfg) (topUpBook s) (topUpBook s')) : TopUpsOk cfg start s' where
  sound := move.sound ok.sound
  wallets id := by rw [wallets, history, ok.wallets]

end

/-! ## Runs -/

inductive TopUpCall where
  | recharge (referenceId customerId : String)
  | rechargeCreem (referenceId customerEmail : String)
  | rechargeWaffo (tradeNo : String)
  | rechargeWaffoPancake (tradeNo : String)
  | manualComplete (tradeNo : String)
  | markFailed (tradeNo : String) (expected : PaymentProvider)
  | markExpired (tradeNo : String) (expected : PaymentProvider)

def TopUpCall.act (cfg : Config) (clock : Int) : TopUpCall → Db Unit
  | .recharge referenceId customerId => Model.recharge cfg referenceId customerId clock
  | .rechargeCreem referenceId email => Model.rechargeCreem referenceId email clock
  | .rechargeWaffo tradeNo => Model.rechargeWaffo cfg tradeNo clock
  | .rechargeWaffoPancake tradeNo => Model.rechargeWaffoPancake cfg tradeNo clock
  | .manualComplete tradeNo => manualCompleteTopUp cfg tradeNo clock
  | .markFailed tradeNo expected => updatePendingTopUpStatus tradeNo expected .failed
  | .markExpired tradeNo expected => updatePendingTopUpStatus tradeNo expected .expired

def TopUpCall.program (cfg : Config) (clock : Int) (call : TopUpCall) : Program Store (Except String Unit) :=
  Program.store (call.act cfg clock)

/-- One call under any failures: one move, or none. -/
theorem TopUpCall.keeps (cfg : Config) (clock : Int) (call : TopUpCall) {start : Int → Option Int}
    {s : Store} (faults : Faults) (ok : TopUpsOk cfg start s) : TopUpsOk cfg start ((call.act cfg clock).exec s faults).2 ∧
      Frozen topUpKind (topUpBook s) (topUpBook ((call.act cfg clock).exec s faults).2) := by
  have credit {tradeNo : String} {by_ : Completion} {s' : Store} (effect : LeavesOrCredits cfg tradeNo by_ s s') :
      TopUpsOk cfg start s' ∧ Frozen topUpKind (topUpBook s) (topUpBook s') := by
    rcases effect with rfl | ⟨amount, topUp, topUp', credited⟩
    · exact ⟨ok, .refl _⟩
    · exact ⟨ok.credit credited, credited.move.frozen⟩
  have mark {tradeNo : String} {target : TopUpStatus} {s' : Store} (closes : target ≠ .success)
      (effect : s' = s ∨ ∃ topUp, s.findTopUp tradeNo = some topUp ∧ topUp.status = .pending ∧
        s' = s.saveTopUp { topUp with status := target }) :
      TopUpsOk cfg start s' ∧ Frozen topUpKind (topUpBook s) (topUpBook s') := by
    rcases effect with rfl | ⟨topUp, found, pending, rfl⟩
    · exact ⟨ok, .refl _⟩
    · have move := mark_move cfg found pending closes
      exact ⟨ok.relabel rfl (fun _ => rfl) move, move.frozen⟩
  cases call with
  | recharge referenceId customerId => exact credit (recharge_exec cfg referenceId customerId clock s faults)
  | rechargeCreem referenceId email => exact credit (rechargeCreem_exec cfg referenceId email clock s faults)
  | rechargeWaffo tradeNo => exact credit (rechargeWaffo_exec cfg tradeNo clock s faults)
  | rechargeWaffoPancake tradeNo => exact credit (rechargeWaffoPancake_exec cfg tradeNo clock s faults)
  | manualComplete tradeNo => exact credit (manualComplete_credited cfg tradeNo clock s faults)
  | markFailed tradeNo expected => exact mark (by decide) (mark_exec tradeNo expected .failed s faults)
  | markExpired tradeNo expected => exact mark (by decide) (mark_exec tradeNo expected .expired s faults)

/-- Any statement may fail.  Meanwhile others may open new pending orders, but write no
wallet. -/
def topUpRules (ι : Type) : Rules Store ι Unit where
  env s s' := s'.history = s.history ∧ (∀ id, walletOf s' id = walletOf s id) ∧
    ∀ t, s'.findTopUp t = s.findTopUp t ∨
      s.findTopUp t = none ∧ ∃ topUp, s'.findTopUp t = some topUp ∧ topUp.status = .pending
  guard _ _ _ _ _ := True
  own _ _ _ _ _ := ()
  outside _ _ _ := ()

theorem topUpRules_env {ι : Type} {start : Int → Option Int} {s s' : Store} (ok : TopUpsOk cfg start s)
    (changed : (topUpRules ι).env s s') : TopUpsOk cfg start s' ∧ Frozen topUpKind (topUpBook s) (topUpBook s') := by
  obtain ⟨history, wallets, topUps⟩ := changed
  have move : Move topUpKind (Rightful cfg) (topUpBook s) (topUpBook s') := by
    refine .relabel (fun t => ?_) fun t => ?_
    · show credits t s'.history = credits t s.history
      rw [history]
    · rcases topUps t with same | ⟨missing, topUp, found, pending⟩
      · exact .inl same
      · refine .inr ⟨fun old found' => ?_, topUp, found, ?_⟩
        · cases missing.symm.trans found'
        · rw [topUpKind_open.mpr pending]
          decide
  exact ⟨ok.relabel history wallets move, move.frozen⟩

/-- A store to start from: no credit recorded, no order completed. -/
structure TopUpsOpened (s : Store) : Prop where
  history : s.history = []
  open_ : ∀ topUp ∈ s.topUps, topUp.status ≠ .success

theorem TopUpsOpened.ok {s : Store} (opened : TopUpsOpened s) : TopUpsOk cfg (walletOf s) s where
  sound := by
    constructor
    · intro t topUp found done
      exact absurd (topUpKind_done.mp done) (opened.open_ topUp (Rows.mem_of_find found).1)
    · intro t _
      show credits t s.history = []
      rw [opened.history]
      rfl
  wallets id := by
    rw [opened.history]
    simp [creditedTo]

/-- What is promised of the orders in state `s`, reached from `s₁`, reached from `s₀`. -/
structure TopUpsSound (cfg : Config) (s₀ s₁ s : Store) : Prop where
  /-- an order is credited at most once -/
  once : ∀ t, (credits t s.history).length ≤ 1
  /-- to its own user, by its provider's completion or the admin, and with what it is worth -/
  rightful : ∀ t topUp, s.findTopUp t = some topUp → ∀ credit ∈ credits t s.history,
    credit.userId = topUp.userId ∧ Completes credit.by_ topUp.paymentProvider ∧
      Worth cfg topUp credit.amount credit.by_
  /-- `success` means credited -/
  success_iff : ∀ t topUp, s.findTopUp t = some topUp →
    (topUp.status = .success ↔ credits t s.history ≠ [])
  /-- once an order is not pending, neither it nor its credits change -/
  settled : ∀ t topUp, s₁.findTopUp t = some topUp → topUp.status ≠ .pending →
    s.findTopUp t = some topUp ∧ credits t s.history = credits t s₁.history
  /-- failed and expired orders are never credited -/
  closed : ∀ t topUp, s₁.findTopUp t = some topUp →
    topUp.status = .failed ∨ topUp.status = .expired → credits t s.history = []
  /-- the recorded credits are what the wallets have gained -/
  wallets : ∀ id, walletOf s id = (walletOf s₀ id).map (· + creditedTo id s.history)

theorem TopUpsOk.promises {s₀ s₁ s : Store} (ok : TopUpsOk cfg (walletOf s₀) s)
    (frozen : Frozen topUpKind (topUpBook s₁) (topUpBook s)) : TopUpsSound cfg s₀ s₁ s where
  once t := ok.sound.length_le_one t
  rightful t topUp found credit member := (ok.sound.fits_of_mem found member).2
  success_iff t topUp found := topUpKind_done.symm.trans (ok.sound.done_iff found)
  settled t topUp found settled := frozen t topUp found fun open_ => settled (topUpKind_open.mp open_)
  closed t topUp found closed := by
    have kind : topUpKind topUp = .closed := by
      rcases closed with failed | expired <;> simp [topUpKind, *]
    obtain ⟨still, -⟩ := frozen t topUp found (by rw [kind]; decide)
    refine ok.sound.rest t fun topUp' found' => ?_
    cases still.symm.trans found'
    rw [kind]
    decide
  wallets := ok.wallets

section
variable {ι : Type} [DecidableEq ι] {start : Int → Option Int}
  {c₁ c₂ : Pool Store (Except String Unit) ι}

/-- A call keeps the invariant and what is settled, whatever fails in it. -/
def KeepsTopUps (cfg : Config) (start : Int → Option Int) {β : Type} (act : Db β) : Prop :=
  ∀ s faults, TopUpsOk cfg start s → TopUpsOk cfg start (act.exec s faults).2 ∧
    Frozen topUpKind (topUpBook s) (topUpBook (act.exec s faults).2)

theorem topUpsOk_of_run (calls : c₁.All fun _ _ act => KeepsTopUps cfg start act)
    (ok : TopUpsOk cfg start c₁.store) (run : Run (topUpRules ι) c₁ () c₂ ()) :
    TopUpsOk cfg start c₂.store ∧ Frozen topUpKind (topUpBook c₁.store) (topUpBook c₂.store) := by
  refine Run.store_invariant
    (fun s => TopUpsOk cfg start s ∧ Frozen topUpKind (topUpBook c₁.store) (topUpBook s)) (fun _ => True)
    ⟨ok, .refl _⟩ ?_ (fun _ _ _ _ _ _ => trivial) ?_ run
  · refine calls.mono fun i _ act keeps s faults _ holds => ?_
    obtain ⟨ok, frozen⟩ := holds
    obtain ⟨ok', step⟩ := keeps s faults ok
    exact ⟨ok', frozen.trans step⟩
  · intro s s' holds changed
    obtain ⟨ok, frozen⟩ := holds
    obtain ⟨ok', step⟩ := topUpRules_env ok changed
    exact ⟨ok', frozen.trans step⟩

/-- **Top-up orders.**  In every state of every interleaving, under every pattern of
failures. -/
theorem topUp_run {cfg : Config} {clock : ι → Int} {calls : ι → TopUpCall} {s : Store} (opened : TopUpsOpened s)
    (before : Run (topUpRules ι) (initial s fun i => (calls i).program cfg (clock i)) () c₁ ())
    (after : Run (topUpRules ι) c₁ () c₂ ()) : TopUpsSound cfg s c₁.store c₂.store := by
  have all : (initial s fun i => (calls i).program cfg (clock i)).All fun _ _ act => KeepsTopUps cfg (walletOf s) act := by
    refine ⟨fun i => ⟨fun s faults ok => ?_, fun _ => trivial⟩, fun i k member => by cases member⟩
    exact (calls i).keeps cfg (clock i) faults ok
  obtain ⟨ok₁, -⟩ := topUpsOk_of_run all opened.ok before
  obtain ⟨ok₂, frozen⟩ := topUpsOk_of_run (before.all all) ok₁ after
  exact ok₂.promises frozen

end

/-- A Stripe order of 2 units and a Creem order of 300, both pending. -/
def twoTopUps : Store :=
  { Store.empty with
    users := fun id => if id = 7 then some ⟨7, "default", 0, "", ""⟩ else none
    topUps := [⟨7, 2, 2, "S", "stripe", .stripe, 0, 0, .pending⟩, ⟨7, 300, 1, "C", "creem", .creem, 0, 0, .pending⟩] }

/-- The Creem order expires before its payment arrives; the Stripe order is completed by
the wrong provider, by its own, and by the admin. -/
def topUpCalls : Fin 5 → TopUpCall
  | 0 => .markExpired "C" .creem
  | 1 => .rechargeCreem "C" "a@b.c"
  | 2 => .rechargeWaffo "S"
  | 3 => .recharge "S" "cus_1"
  | 4 => .manualComplete "S"

theorem topUp_run_twoTopUps : ∃ c₁ c₂ : Pool Store (Except String Unit) (Fin 5),
      (c₁.store.findTopUp "C").map (·.status) = some .expired ∧
      c₂.store.history = [.credited "S" 7 1000000 .recharge] ∧ walletOf c₂.store 7 = some 1000000 ∧
      TopUpsSound plainConfig twoTopUps c₁.store c₂.store := by
  have opened : TopUpsOpened twoTopUps := ⟨rfl, by decide⟩
  have expired : Run (topUpRules (Fin 5)) (initial twoTopUps fun i => (topUpCalls i).program plainConfig 10) () _ () :=
    .step .start 0 [] (.main rfl) trivial
  have late := Run.step expired.restart 1 [] (.main rfl) trivial
  have wrong := Run.step late 2 [] (.main rfl) trivial
  have paid := Run.step wrong 3 [] (.main rfl) trivial
  have again := Run.step paid 4 [] (.main rfl) trivial
  exact ⟨_, _, by decide +kernel, by decide +kernel, by decide +kernel, topUp_run opened expired again⟩

end NewApi.Payment
