/-
# Billing.SessionCalls — a billing session meets its contract: the calls

`runCalls` makes any sequence of `Reserve`, `Settle` and `Refund` calls on an open session, whose
mutex serialises them; the refund itself runs in a handler of its own.  From a `Position` every call
leads to a position, a settlement or a refund, and then no further store call is made.
-/
import NewApi.Billing.Session

namespace NewApi.Billing
open Theory Model Subscription BillingSession List Int

variable {cfg : Config} {info : RelayInfo} {quota amount slack delta actualQuota : Int} {session : BillingSession}
  {g g' g₁ : Ledger}

theorem Ledger.ext_of (record : g'.record = g.record) (booked : g'.booked = g.booked) : g' = g := by
  cases g
  cases g'
  cases record
  cases booked
  rfl

/-! ## Reserve -/

/-- A funding source that holds `delta` more: a wallet counts it, a subscription does not. -/
def extend (delta : Int) : FundingSource → FundingSource
  | .wallet funding => .wallet { funding with consumed := funding.consumed + delta }
  | .subscription funding => .subscription funding

@[simp] theorem fundingAccount_extend (delta : Int) (funding : FundingSource) :
    fundingAccount (extend delta funding) = fundingAccount funding := by
  cases funding <;> rfl

@[simp] theorem source_extend (delta : Int) (funding : FundingSource) :
    (extend delta funding).source = funding.source := by
  cases funding <;> rfl

section
variable (position : Position info quota amount slack session g)

include position

theorem reserveFunding_books (positive : 0 < delta) :
    (session.reserveFunding cfg delta).Meets (bookSetting info) g fun outcome g' =>
      (∃ e, outcome = .error e ∧ g' = g) ∨ (outcome = .ok (extend delta session.funding) ∧ g'.record = g.record ∧
          g'.booked = taken info (fundingAccount session.funding) (amount + delta) amount) := by
  have books := position.books
  unfold reserveFunding
  cases position.funded with
  | wallet is =>
    rw [is] at books ⊢
    refine .bind (does_decreaseUserQuota (by omega)).store ?_
    rintro _ _ ⟨rfl, rfl⟩
    exact .inr ⟨rfl, rfl, taken_take books delta⟩
  | subscription funding is =>
    rw [is] at books ⊢
    have enough : 0 ≤ g.booked (.subscription funding.subscriptionId) + delta := by
      rw [books, fundingAccount, taken_subscription]
      omega
    refine .bind (does_postConsume enough).store ?_
    rintro _ _ (⟨e, rfl, rfl⟩ | ⟨rfl, rfl⟩)
    · exact .inl ⟨_, rfl, rfl⟩
    · exact .inr ⟨rfl, rfl, taken_take books delta⟩

variable {held : BillingSession} {f : Int}

/-- The roll-back of a reservation restores the funding source and the ledger. -/
theorem rollbackFundingReserve_books (positive : 0 < delta)
    (extended : held.funding = extend delta session.funding) (record : g₁.record = g.record)
    (books : g₁.booked = taken info (fundingAccount session.funding) (amount + delta) amount) :
    (held.rollbackFundingReserve cfg delta).Meets (bookSetting info) g₁ fun funding g' =>
      funding = session.funding ∧ g' = g := by
  have before := position.books
  have restored : amount + delta + -delta = amount := by omega
  unfold rollbackFundingReserve
  rw [extended]
  cases position.funded with
  | wallet is =>
    rw [is] at before books ⊢
    refine .bind (does_increaseUserQuota (by omega)).undo ?_
    rintro _ _ ⟨rfl, rfl⟩
    refine ⟨?_, Ledger.ext_of record ?_⟩
    · rw [Int.add_sub_cancel]
    · have after := taken_take books (-delta)
      rw [restored] at after
      exact after.trans before.symm
  | subscription funding is =>
    rw [is] at before books ⊢
    have holds : delta ≤ g₁.booked (.subscription funding.subscriptionId) := by
      rw [books, fundingAccount, taken_subscription]
      omega
    refine .bind (does_postBack positive holds).undo ?_
    rintro _ _ ⟨rfl, rfl⟩
    refine ⟨rfl, Ledger.ext_of record ?_⟩
    have after := taken_take books (-delta)
    rw [restored] at after
    exact after.trans before.symm

omit position in
theorem reserveToken_books {account : Account} {t : Int}
    (same : SameRequest info held.relayInfo) (positive : 0 < delta) (books : g.booked = taken info account f t) :
    (held.reserveToken cfg delta).Meets (bookSetting info) g fun outcome g' =>
      (∃ e, outcome = .error e ∧ g' = g) ∨ (outcome = .ok () ∧ g'.record = g.record ∧
          g'.booked = taken info account f (t + delta)) := by
  unfold reserveToken
  rw [same.isPlayground]
  split
  · rename_i free
    have played : info.isPlayground = true := free.resolve_left (by omega)
    exact .inr ⟨rfl, rfl, books.trans (taken_playground played f t _)⟩
  · refine .bind (preConsumeTokenQuota_books same books delta) ?_
    rintro _ _ (⟨e, rfl, rfl⟩ | ⟨rfl, record, after⟩)
    · exact .inl ⟨_, rfl, rfl⟩
    · exact .inr ⟨rfl, record, after⟩

/-- The session after a reservation of `delta` more. -/
def reserved (delta : Int) (session : BillingSession) : BillingSession :=
  { session with
    funding := extend delta session.funding
    preConsumedQuota := session.preConsumedQuota + delta
    tokenConsumed := session.tokenConsumed + delta
    extraReserved := session.extraReserved + delta }

/-- A reservation raises what the session holds by `delta`. -/
theorem Position.reserved (positive : 0 < delta) (record : g'.record = g.record)
    (books : g'.booked = taken info (fundingAccount session.funding) (amount + delta) (amount + delta)) :
    Position info quota (amount + delta) slack (reserved delta session).syncRelayInfo g' := by
  have linked : ∀ funding, (Billing.reserved delta session).funding = .subscription funding →
      (Billing.reserved delta session).syncRelayInfo.relayInfo.subscriptionId =
        funding.subscriptionId := fun _ => sync_linked _
  rw [sync_eq]
  refine {
    request := sync_request _ position.request
    unsettled := position.unsettled
    unrefunded := position.unrefunded
    uncommitted := position.uncommitted
    source := sync_source _
    funded := ?_
    nonneg := by have := position.nonneg; omega
    token := congrArg (· + delta) position.token
    pre := by
      show session.preConsumedQuota + delta = _
      rw [position.pre]
      omega
    fit := fun fit => position.fit ?_
    books := by
      show g'.booked = taken info (fundingAccount (extend delta session.funding)) _ _
      rw [fundingAccount_extend]
      exact books }
  · cases position.funded with
    | wallet is => exact .wallet (by show extend delta session.funding = _; rw [is]; rfl)
    | subscription funding is request named pos extra row _ whole recorded =>
      have kept : (Billing.reserved delta session).funding = .subscription funding := by
        show extend delta session.funding = _
        rw [is]
        rfl
      refine .subscription funding kept request named pos ?_ row (linked funding kept) ?_ (record.trans recorded)
      · show 0 ≤ session.extraReserved + delta
        omega
      · show amount + delta = funding.preConsumed + (session.extraReserved + delta)
        omega
  · rcases fit with nonneg | trusted | source
    · exact .inl nonneg
    · exact .inr (.inl trusted)
    · refine .inr (.inr ?_)
      rw [← source_extend delta]
      exact source

/-- A reservation leaves an open session, with the funding source it had. -/
theorem reserve_position (targetQuota : Int) :
    (session.reserve cfg targetQuota).Meets (bookSetting info) g fun result g' =>
      result.2.funding.source = session.funding.source ∧ ∃ amount', Position info quota amount' slack result.2 g' := by
  unfold reserve
  split
  · exact ⟨rfl, amount, position⟩
  rename_i open_
  have positive : 0 < targetQuota - session.preConsumedQuota := by omega
  refine .bind (reserveFunding_books position positive) ?_
  rintro _ _ (⟨e, rfl, rfl⟩ | ⟨rfl, record, books⟩)
  · exact ⟨rfl, amount, position⟩
  refine .bind (reserveToken_books position.request positive books) ?_
  rintro _ _ (⟨e, rfl, rfl⟩ | ⟨rfl, record', books'⟩)
  · refine .bind (rollbackFundingReserve_books position positive rfl record books) ?_
    rintro _ _ ⟨rfl, rfl⟩
    exact ⟨rfl, amount, position⟩
  · refine ⟨?_, _, position.reserved positive (record'.trans record) books'⟩
    rw [sync_funding]
    exact source_extend _ _

theorem settleFunding_books (books : g₁.booked = taken info (fundingAccount session.funding) f f)
    (moves : delta ≠ 0) (enough : session.funding.source = .subscription → 0 ≤ f + delta) :
    (session.settleFunding cfg delta).Meets (bookSetting info) g₁ fun outcome g' =>
      (∃ e, outcome = .error e ∧ g' = g₁) ∨ (outcome = .ok () ∧
          g'.booked = taken info (fundingAccount session.funding) (f + delta) f) := by
  unfold settleFunding FundingSource.settle
  rw [if_neg (by simp [position.uncommitted]), if_neg moves]
  cases position.funded with
  | wallet is =>
    rw [is] at books ⊢
    dsimp only
    split
    · refine (does_decreaseUserQuota (by omega)).store.mono ?_
      rintro _ _ ⟨rfl, rfl⟩
      exact .inr ⟨rfl, taken_take books delta⟩
    · refine (does_increaseUserQuota (by omega)).store.mono ?_
      rintro _ _ ⟨rfl, rfl⟩
      rw [neg_neg]
      exact .inr ⟨rfl, taken_take books delta⟩
  | subscription funding is =>
    have whole := enough (by rw [is]; rfl)
    rw [is] at books ⊢
    have holds : 0 ≤ g₁.booked (.subscription funding.subscriptionId) + delta := by
      rw [books, fundingAccount, taken_subscription]
      exact whole
    refine (does_postConsume holds).store.mono ?_
    rintro _ _ (⟨e, rfl, rfl⟩ | ⟨rfl, rfl⟩)
    · exact .inl ⟨e, rfl, rfl⟩
    · exact .inr ⟨rfl, taken_take books delta⟩

structure Settled (info : RelayInfo) (quota total : Int) (session : BillingSession)
    (g : Ledger) : Prop where
  settled : session.settled = true
  unrefunded : session.refunded = false
  books : Fit quota session →
    g.booked = taken info (fundingAccount session.funding) total total

omit position in
theorem addPostDelta_eq (delta : Int) (session : BillingSession) : session.addPostDelta delta =
    { session with relayInfo := (session.addPostDelta delta).relayInfo } := by
  unfold addPostDelta
  split <;> rfl

/-- A settlement is refused and changes nothing, or settles the session for good.  What was
taken besides the pre-consumption (`extra`) stays taken. -/
theorem settle_extra {extra : Int} (books : g₁.booked = taken info (fundingAccount session.funding) (amount + extra)
      (amount + extra)) (nonneg : session.funding.source = .subscription → 0 ≤ actualQuota + extra) :
    (session.settle cfg actualQuota).Meets (bookSetting info) g₁ fun result g' =>
      (∃ e, result.1 = .error e ∧ result.2 = session ∧ g' = g₁) ∨
        (result.1 = .ok () ∧ result.2.funding = session.funding ∧
          Settled info quota (actualQuota + extra) result.2 g') := by
  have pre := position.pre
  unfold settle
  rw [if_neg (by simp [position.unsettled])]
  dsimp only
  split
  · refine .inr ⟨rfl, rfl, rfl, position.unrefunded, fun fit => ?_⟩
    have exact_ := position.fit fit
    rw [show actualQuota = amount by omega]
    exact books
  rename_i moves
  refine .bind (settleFunding_books position books moves fun source => ?_) ?_
  · have := nonneg source
    have := position.fit (.inr (.inr source))
    omega
  rintro _ _ (⟨e, rfl, rfl⟩ | ⟨rfl, after⟩)
  · exact .inl ⟨e, rfl, rfl, rfl⟩
  refine .bind (adjustTokenQuota_books position.request after _) ?_
  rintro _ _ ⟨rfl, -, after⟩
  refine .inr ⟨rfl, ?_, rfl, ?_, fun fit => ?_⟩
  · rw [addPostDelta_eq]
  · rw [addPostDelta_eq]
    exact position.unrefunded
  · rw [addPostDelta_eq] at fit ⊢
    have exact_ := position.fit fit
    rw [show amount + extra + (actualQuota - session.preConsumedQuota) = actualQuota + extra by
      omega] at after
    exact after

theorem settle_position (nonneg : session.funding.source = .subscription → 0 ≤ actualQuota) :
    (session.settle cfg actualQuota).Meets (bookSetting info) g fun result g' =>
      (∃ e, result.1 = .error e ∧ result.2 = session ∧ g' = g) ∨
        (result.1 = .ok () ∧ Settled info quota actualQuota result.2 g') := by
  have books := position.books
  rw [← add_zero amount] at books
  refine (settle_extra position books fun source => by have := nonneg source; omega).mono ?_
  rintro result g' (refused | ⟨ok, -, settled⟩)
  · exact .inl refused
  · rw [add_zero] at settled
    exact .inr ⟨ok, settled⟩

/-- What the funding source's own refund leaves: a subscription gives back its record, not
what was reserved later. -/
def leftover (session : BillingSession) : Int :=
  match session.funding with
  | .wallet _ => 0
  | .subscription _ => session.extraReserved

theorem fundingRefund_books : (session.funding.refund cfg).Meets (bookSetting info) g fun _ g' =>
      g'.booked = taken info (fundingAccount session.funding) (leftover session) amount := by
  have books := position.books
  unfold leftover
  cases position.funded with
  | wallet is =>
    rw [is] at books ⊢
    simp only [FundingSource.refund]
    split
    · have := position.nonneg
      obtain rfl : amount = 0 := by omega
      exact books
    · refine (does_increaseUserQuota (by omega)).store.mono ?_
      rintro _ _ ⟨-, rfl⟩
      refine (taken_take books (-amount)).trans ?_
      rw [Int.add_right_neg]
  | subscription funding is request named positive extra row linked whole recorded =>
    rw [is] at books ⊢
    simp only [FundingSource.refund]
    rw [if_neg (by omega), request]
    have holds : funding.preConsumed ≤ g.booked (.subscription funding.subscriptionId) := by
      rw [books, fundingAccount, taken_subscription]
      omega
    refine .bind (does_refund named recorded holds).store ?_
    rintro _ _ ⟨rfl, rfl⟩
    refine (taken_take books (-funding.preConsumed)).trans ?_
    rw [whole, show funding.preConsumed + session.extraReserved + -funding.preConsumed = session.extraReserved by omega]

theorem refundExtra_books (refunded : g₁.booked =
      taken info (fundingAccount session.funding) (leftover session) amount) :
    session.refundExtra.Meets (bookSetting info) g₁ fun _ g' =>
      g'.booked = taken info (fundingAccount session.funding) 0 amount := by
  unfold leftover at refunded
  unfold refundExtra
  cases position.funded with
  | wallet is =>
    rw [is] at refunded ⊢
    exact refunded
  | subscription funding is request named positive extra row linked =>
    rw [is] at refunded ⊢
    dsimp only at refunded ⊢
    split
    · rename_i more
      have holds : session.extraReserved ≤ g₁.booked (.subscription funding.subscriptionId) := by
        rw [refunded, fundingAccount, taken_subscription]
      rw [linked]
      refine .bind (does_postBack more.1 holds).store ?_
      rintro _ _ ⟨-, rfl⟩
      refine (taken_take refunded (-session.extraReserved)).trans ?_
      rw [Int.add_right_neg]
    · rename_i none_
      have zero : session.extraReserved = 0 := by
        rw [linked] at none_
        omega
      rw [zero] at refunded
      exact refunded

theorem refundToken_books (refunded : g₁.booked = taken info (fundingAccount session.funding) 0 amount) :
    (session.refundToken cfg).Meets (bookSetting info) g₁ fun _ g' => g'.booked = fun _ => 0 := by
  unfold refundToken
  rw [position.request.isPlayground, position.request.tokenId, position.token]
  split
  · rename_i charged
    have real : info.isPlayground = false := by simpa using charged.2
    refine .bind (does_increaseTokenQuota position.nonneg real).store ?_
    rintro _ _ ⟨-, rfl⟩
    rw [← taken_zero info _]
    refine (taken_takeToken real refunded (-amount)).trans ?_
    rw [Int.add_right_neg]
  · rename_i uncharged
    rw [← taken_zero info _]
    refine refunded.trans ?_
    cases played : info.isPlayground with
    | true => exact taken_playground played 0 _ 0
    | false =>
      have := position.nonneg
      have zero : amount = 0 := by
        simp only [played, Bool.not_false, and_true] at uncharged
        omega
      rw [zero]

theorem refundTask_books : (session.refundTask cfg).Meets (bookSetting info) g fun _ g' => g'.booked = fun _ => 0 := by
  refine .bind (fundingRefund_books position) ?_
  intro _ g₁ refunded
  refine .bind (refundExtra_books position refunded) ?_
  intro _ g₂ refunded
  exact refundToken_books position refunded

end

/-! ## Sequences of calls -/

/-- What can be asked of an open session. -/
inductive SessionCall where
  | reserve (targetQuota : Int)
  | settle (actualQuota : Int)
  | refund
deriving DecidableEq

/-- The calls in order, keeping the amount of the first settlement that succeeds. -/
def runCalls (cfg : Config) :
    List SessionCall → BillingSession → Option Int → Program Store (BillingSession × Option Int)
  | [], session, first => .done (session, first)
  | .reserve targetQuota :: rest, session, first => do
      let result ← session.reserve cfg targetQuota
      runCalls cfg rest result.2 first
  | .settle actualQuota :: rest, session, first => do
      let result ← session.settle cfg actualQuota
      match result.1, first with
      | .ok (), none => runCalls cfg rest result.2 (some actualQuota)
      | _, _ => runCalls cfg rest result.2 first
  | .refund :: rest, session, first => do
      let session ← session.refund cfg
      runCalls cfg rest session first

/-- No settlement follows a refund. -/
def Orderly (calls : List SessionCall) : Prop :=
  calls.Pairwise fun earlier later => earlier = .refund → ∀ actualQuota, later ≠ .settle actualQuota

instance (calls : List SessionCall) : Decidable (Orderly calls) :=
  haveI : DecidableRel fun earlier later : SessionCall =>
      earlier = .refund → ∀ actualQuota, later ≠ .settle actualQuota := fun earlier later =>
    match earlier, later with
    | .refund, .settle a => isFalse fun never => never rfl a rfl
    | .refund, .reserve _ => isTrue nofun
    | .refund, .refund => isTrue nofun
    | .reserve _, _ => isTrue nofun
    | .settle _, _ => isTrue nofun
  inferInstanceAs (Decidable (List.Pairwise _ _))

theorem runCalls_settled (settled : session.settled = true) (calls : List SessionCall) (actualQuota : Int) :
    runCalls cfg calls session (some actualQuota) = .done (session, some actualQuota) := by
  induction calls with
  | nil => rfl
  | cons call rest ih =>
    cases call with
    | reserve _ => simpa [runCalls, reserve, settled] using ih
    | settle _ => simpa [runCalls, settle, settled] using ih
    | refund => simpa [runCalls, refund, settled] using ih

theorem runCalls_refunded (refunded : session.refunded = true) {calls : List SessionCall}
    (unsettled : ∀ actualQuota, .settle actualQuota ∉ calls) (first : Option Int) :
    runCalls cfg calls session first = .done (session, first) := by
  induction calls with
  | nil => rfl
  | cons call rest ih =>
    have later : ∀ actualQuota, .settle actualQuota ∉ rest :=
      fun a inside => unsettled a (mem_cons_of_mem _ inside)
    cases call with
    | reserve _ => simpa [runCalls, reserve, refunded] using ih later
    | settle a => exact absurd mem_cons_self (unsettled a)
    | refund => simpa [runCalls, refund, refunded] using ih later

/-- What a session leaves behind when its calls and its refund have ended. -/
structure Concluded (info : RelayInfo) (quota : Int) (session : BillingSession)
    (first : Option Int) (g : Ledger) : Prop where
  settled_iff : session.settled = true ↔ first.isSome
  exclusive : session.settled = false ∨ session.refunded = false
  settled : ∀ actualQuota, first = some actualQuota → Fit quota session →
    g.booked = taken info (fundingAccount session.funding) actualQuota actualQuota
  refunded : session.refunded = true → g.booked = fun _ => 0
  open_ : session.settled = false → session.refunded = false → Fit quota session →
    g.booked = taken info (fundingAccount session.funding) session.preConsumedQuota
      session.preConsumedQuota

theorem Position.concluded (position : Position info quota amount slack session g) :
    Concluded info quota session none g where
  settled_iff := by simp [position.unsettled]
  exclusive := .inl position.unsettled
  settled := nofun
  refunded refunded := by simp [position.unrefunded] at refunded
  open_ _ _ fit := by
    rw [position.pre, position.fit fit, add_zero]
    exact position.books

theorem Settled.concluded (settled : Settled info quota actualQuota session g) :
    Concluded info quota session (some actualQuota) g where
  settled_iff := by simp [settled.settled]
  exclusive := .inr settled.unrefunded
  settled := by
    rintro _ ⟨⟩
    exact settled.books
  refunded refunded := by simp [settled.unrefunded] at refunded
  open_ unsettled := by simp [settled.settled] at unsettled

theorem Position.refund_concluded (position : Position info quota amount slack session g)
    (books : g'.booked = fun _ => 0) : Concluded info quota { session with refunded := true } none g' where
  settled_iff := by simp [position.unsettled]
  exclusive := .inl position.unsettled
  settled := nofun
  refunded _ := books
  open_ _ unrefunded := by cases unrefunded

/-- **The calls of an open session.**  The induction is on the calls; the position carries
it up to the settlement or the refund, after which nothing happens any more. -/
theorem runCalls_ends (calls : List SessionCall) (orderly : Orderly calls)
    (position : Position info quota amount slack session g) (nonneg : session.funding.source = .subscription →
      ∀ actualQuota, .settle actualQuota ∈ calls → 0 ≤ actualQuota) :
    (runCalls cfg calls session none).Ends (bookSetting info) g fun result g' =>
      Concluded info quota result.1 result.2 g' := by
  induction calls generalizing session amount g with
  | nil => exact position.concluded
  | cons call rest ih =>
    have ordered := pairwise_cons.mp orderly
    have later : session.funding.source = .subscription → ∀ actualQuota, .settle actualQuota ∈ rest → 0 ≤ actualQuota :=
      fun source a inside => nonneg source a (mem_cons_of_mem _ inside)
    cases call with
    | reserve targetQuota =>
      refine .bind (reserve_position position targetQuota) ?_
      rintro result g' ⟨source, amount', position'⟩
      exact ih ordered.2 position' (by rw [source]; exact later)
    | settle actualQuota =>
      refine .bind (settle_position position fun source => nonneg source _ mem_cons_self) ?_
      rintro ⟨outcome, session'⟩ g' (⟨e, rfl, rfl, rfl⟩ | ⟨rfl, settled⟩)
      · exact ih ordered.2 position later
      · rw [runCalls_settled settled.settled]
        exact settled.concluded
    | refund =>
      simp only [runCalls, refund]
      split
      · exact ih ordered.2 position later
      · refine ⟨({ session with refunded := true }, none), ?_, ?_⟩
        · exact runCalls_refunded rfl (fun a inside => ordered.1 _ inside rfl a rfl) none
        · refine (refundTask_books position).mono ?_
          intro _ g' books
          exact position.refund_concluded books

/-- How a session ended: refused at the door, or with its last state and the amount of the
first settlement that succeeded. -/
inductive SessionEnd where
  | refused (e : ApiError)
  | ended (session : BillingSession) (first : Option Int)

/-- A request: it opens a session and makes its calls, which may depend on the session it
got. -/
def sessionProgram (cfg : Config) (fuel : Nat) (ctx : RequestContext) (info : RelayInfo) (quota : Int)
    (calls : BillingSession → List SessionCall) : Program Store SessionEnd := do
  match ← newBillingSession cfg fuel ctx info quota with
  | .error e => .done (.refused e)
  | .ok session => do
      let result ← runCalls cfg (calls session) session none
      .done (.ended result.1 result.2)

/-- A caller that settles nothing after a refund and charges no negative amount to a
subscription. -/
structure FairCaller (calls : BillingSession → List SessionCall) : Prop where
  orderly : ∀ session, Orderly (calls session)
  nonneg : ∀ session, session.funding.source = .subscription →
    ∀ actualQuota, .settle actualQuota ∈ calls session → 0 ≤ actualQuota

def SessionEnd.Sound (info : RelayInfo) (quota : Int) : SessionEnd → Ledger → Prop
  | .refused _, g => g = .empty
  | .ended session first, g => Concluded info quota session first g

/-- **A session keeps its books**, whatever the others do meanwhile. -/
theorem session_contract {fuel : Nat} {ctx : RequestContext}
    {calls : BillingSession → List SessionCall} (fair : FairCaller calls) :
    (sessionProgram cfg fuel ctx info quota calls).Ends (bookSetting info) .empty (SessionEnd.Sound info quota) := by
  refine .bind newBillingSession_opens ?_
  rintro outcome g (⟨e, rfl, rfl⟩ | ⟨session, amount, slack, rfl, position⟩)
  · rfl
  · exact Program.ends_map (runCalls_ends (calls session) (fair.orderly session) position (fair.nonneg session))

end NewApi.Billing
