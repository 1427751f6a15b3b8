/-
# Billing.Conservation — a session takes exactly what it was settled for

The history of a run is the net change each session has made to each account (`netRules`).  As long
as no reset intervenes, what the sessions post to a subscription and how it changes agree: the used
amount covers all they hold together (`Covered`), so no give-back is cut off at zero.
-/
import NewApi.Theory.Shares
import NewApi.Billing.SessionCalls

namespace NewApi.Billing
open Theory Model Subscription Pool Function List Option

/-! ## Runs of sessions -/

def isReset : Event → Bool
  | .reset _ => true
  | _ => false

/-- No quota was reset in this step. -/
def NoReset (s s' : Store) : Prop := (news s s').all (fun event => !isReset event) = true

/-- What may happen besides the sessions: caches change, pending deltas are written to
their rows. -/
structure Undisturbed (s s' : Store) : Prop where
  frame : Framed s s'
  balances : ∀ account, balance s' account = balance s account

/-- Store calls succeed, nothing is reset; the history is the net change of each session. -/
def netRules (ι : Type) [DecidableEq ι] : Rules Store ι (ι → Account → Int) where
  env := Undisturbed
  guard _ faults s s' _ := faults = [] ∧ NoReset s s'
  own i _ s s' changes := update changes i fun account =>
    changes i account + (balance s' account - balance s account)
  outside _ _ changes := changes

/-- Where the sessions start: their rows are there and their request ids are their own. -/
structure Ready {ι : Type} (info : ι → RelayInfo) (s : Store) : Prop where
  valid : s.Valid
  users : ∀ i, (s.users (info i).userId).isSome
  tokens : ∀ i, (info i).isPlayground = false → (info i).tokenId ∈ s.tokens.map (·.id)
  fresh : ∀ i, s.findRecord (info i).requestId = none
  distinct : Injective fun i => (info i).requestId

/-- What a session has changed when its calls and its refund have ended.  `taken info account
a a` is `a` less in the wallet (or `a` more used on the subscription) and, unless this is a
playground request, `a` less left and more used on the token, and nothing else. -/
structure Conserved (info : RelayInfo) (session : BillingSession) (first : Option Int)
    (changes : Account → Int) : Prop where
  /-- never both settled and refunded -/
  exclusive : ¬(session.settled = true ∧ session.refunded = true)
  settled_iff : session.settled = true ↔ first.isSome
  /-- the first settlement that succeeded is what was taken -/
  settled : ∀ actualQuota, first = some actualQuota →
    changes = taken info (fundingAccount session.funding) actualQuota actualQuota
  /-- a refunded session has taken nothing -/
  refunded : session.refunded = true → changes = fun _ => 0
  /-- before either, what was taken is what the session has noted -/
  open_ : first = none → session.refunded = false →
    changes = taken info (fundingAccount session.funding) session.preConsumedQuota
      session.preConsumedQuota

/-! ## Changes are postings -/

/-- The ledgers of the sessions beside their net changes. -/
structure Books (ι : Type) where
  mine : ι → Ledger
  changes : ι → Account → Int

variable {ι : Type} [DecidableEq ι] {info : ι → RelayInfo}

variable (info) in
def bookRules : Rules Store ι (Books ι) where
  env := Undisturbed
  guard _ faults s s' _ := faults = [] ∧ NoReset s s'
  own i _ s s' books := ⟨stepLedgers info i s s' books.mine, update books.changes i fun account =>
      books.changes i account + (balance s' account - balance s account)⟩
  outside _ _ books := books

variable (info) in
/-- The used amounts cover what the sessions hold, and the changes are the ledgers. -/
structure Kept (s : Store) (books : Books ι) : Prop where
  shared : Shared info s books.mine
  covered : ∀ subId, Covered (fun i => (books.mine i).booked (.subscription subId)) (s.used subId)
  agree : ∀ i, books.changes i = (books.mine i).booked

section
variable {s s' : Store} {books : Books ι}

theorem posted_of_noReset {resets : List Int} {last : Option Event}
    (none_ : ((resets.map Event.reset ++ last.toList).all fun event => !isReset event) = true) : resets = [] := by
  cases resets with
  | nil => rfl
  | cons id resets => simp [isReset] at none_

/-- A step without reset moves the used amounts by exactly what it posts. -/
theorem used_eq_of_owed {info : RelayInfo} {g : Ledger} (owed : Owed info s s' g) (valid : s.Valid)
    (still : NoReset s s') (enough : ∀ subId, g.booked (.subscription subId) ≤ s.used subId)
    (subId : Int) : s'.used subId = s.used subId + net subId (news s s') := by
  obtain ⟨resets, last, history, posts⟩ := owed.events
  have events := news_eq history
  unfold NoReset at still
  rw [events] at still
  obtain rfl := posted_of_noReset still
  have used := owed.used subId
  have nonneg := owed.nonneg subId
  rw [events] at used nonneg ⊢
  cases last with
  | none => simpa [net] using used
  | some event =>
    obtain ⟨id, delta, posts, -⟩ := posts event rfl
    have amount := posts.net_eq [] subId
    simp only [map_nil, nil_append, toList_some] at used nonneg amount ⊢
    rw [amount] at nonneg ⊢
    rw [used, foldl_cons, foldl_nil, posts.effect_eq _ _ (valid.used_nonneg subId)]
    have := enough subId
    split
    · rename_i same
      rw [if_pos same] at nonneg
      omega
    · omega

/-- So the change of every account is what the ledger says. -/
theorem change_eq_moved (used : ∀ subId, s'.used subId = s.used subId + net subId (news s s'))
    (account : Account) : balance s' account - balance s account = moved s s' account := by
  cases account with
  | subscription subId =>
    show s'.used subId - s.used subId = net subId (news s s')
    rw [used]
    omega
  | _ => rfl

theorem Kept.step (distinct : Injective fun i => (info i).requestId)
    (kept : Kept info s books) {i : ι} {faults : Faults} (still : NoReset s s')
    (owed : Owed (info i) s s' (books.mine i)) : Kept info s' ((bookRules info).own i faults s s' books) := by
  have used := used_eq_of_owed owed kept.shared.valid still fun subId => (kept.covered subId).share_le i
  refine ⟨kept.shared.step distinct owed, fun subId => ?_, fun j => ?_⟩
  · show Covered (fun j => (stepLedgers info i s s' books.mine j).booked _) _
    rw [used subId, stepLedgers_booked]
    exact (kept.covered subId).move (owed.nonneg subId)
  · show update books.changes i _ j = (stepLedgers info i s s' books.mine j).booked
    unfold stepLedgers
    by_cases same : j = i
    · subst same
      rw [update_self, update_self]
      funext account
      show _ = (books.mine j).booked account + moved s s' account
      rw [kept.agree, change_eq_moved used]
    · rw [update_of_ne same, update_of_ne same]
      exact kept.agree j

omit [DecidableEq ι] in
theorem Kept.outside (kept : Kept info s books) (changed : Undisturbed s s') : Kept info s' books where
  shared := kept.shared.framed changed.frame
  covered subId := by rw [changed.frame.used]; exact kept.covered subId
  agree := kept.agree

theorem own_idle (kept : Kept info s books) (i : ι) (faults : Faults) :
    (bookRules info).own i faults s s books = books := by
  show Books.mk (stepLedgers info i s s books.mine) (update books.changes i _) = books
  rw [stepLedgers_idle kept.shared]
  simp

end

section
variable {cfg : Config} {fuel : Nat} {s : Store} {ctx : ι → RequestContext} {quota : ι → Int}
  {calls : ι → BillingSession → List SessionCall} {c : Pool Store SessionEnd ι}
  {changes : ι → Account → Int}

omit [DecidableEq ι] in
theorem Ready.kept (ready : Ready info s) : Kept info s ⟨fun _ => .empty, fun _ _ => 0⟩ where
  shared := ⟨ready.valid, ready.users, ready.tokens, ready.fresh, fun _ _ => le_rfl,
    fun _ _ holds => absurd rfl holds⟩
  covered subId := .zero (ready.valid.used_nonneg subId)
  agree _ := rfl

theorem Concluded.conserved {info : RelayInfo} {quota : Int} {session : BillingSession}
    {first : Option Int} {g : Ledger} (concluded : Concluded info quota session first g)
    (fit : Fit quota session) : Conserved info session first g.booked where
  exclusive both := by
    rcases concluded.exclusive with unsettled | unrefunded
    · simp [unsettled] at both
    · simp [unrefunded] at both
  settled_iff := concluded.settled_iff
  settled actualQuota is := concluded.settled actualQuota is fit
  refunded := concluded.refunded
  open_ none_ unrefunded := by
    refine concluded.open_ ?_ unrefunded fit
    cases settled : session.settled with
    | false => rfl
    | true =>
      have some_ := concluded.settled_iff.mp settled
      rw [none_] at some_
      cases some_

/-- The ledgers are kept along every run, and every session stands where its contract says. -/
theorem kept_of_run (ready : Ready info s) (fair : ∀ i, FairCaller (calls i)) {books : Books ι}
    (run : Run (bookRules info) (initial s fun i => sessionProgram cfg fuel (ctx i) (info i) (quota i) (calls i))
      ⟨fun _ => .empty, fun _ _ => 0⟩ c books) : Kept info c.store books ∧ ∀ i, Fits (bookSetting (info i))
      (SessionEnd.Sound (info i) (quota i)) c i (books.mine i) := by
  refine books_of_run (fun i => session_contract (fair i)) Books.mine (Kept info) (fun _ _ kept => kept.shared) ready.kept rfl
    ?_ ?_ ?_ ?_ ?_ run
  · intro i faults s s' books admitted
    exact admitted.1
  · intro i faults s s' books
    rfl
  · intro i faults s s' books kept admitted owed
    exact kept.step ready.distinct admitted.2 owed
  · intro i faults s books kept
    exact own_idle kept i faults
  · intro s s' books kept changed
    exact ⟨kept.outside changed, rfl⟩

end

/-! ## Two sessions, and two that are not covered -/

def billedUser : Store := { oneSubscription with
  users := fun id => if id = 7 then some ⟨7, "default", 100, "", ""⟩ else none
  tokens := [⟨1, "k", 100, 0, false⟩] }

def walletRequest : RelayInfo :=
  { plainRequest with userId := 7, requestId := "a", billingPreference := "wallet_only" }

def subscriptionRequest : RelayInfo :=
  { plainRequest with userId := 7, requestId := "b", billingPreference := "subscription_only" }

def endedWith (first : Option Int) (refunded : Bool) : Option SessionEnd → Option BillingSession
  | some (.ended session first') =>
    if first' = first ∧ session.refunded = refunded then some session else none
  | _ => none

theorem ended_of_endedWith {first : Option Int} {refunded : Bool} {result : Option SessionEnd}
    {session : BillingSession} (is : endedWith first refunded result = some session) :
    result = some (.ended session first) ∧ session.refunded = refunded := by
  unfold endedWith at is
  split at is
  · split at is
    · rename_i both
      cases is
      exact ⟨by rw [both.1], both.2⟩
    · cases is
  · cases is

def quiet {ι : Type} (_ : ι) (s s' : Store) (_ : ι → Account → Int) : Bool :=
  (news s s').all fun event => !isReset event

def pairRequest (i : Fin 2) : RelayInfo :=
  if i.val = 0 then walletRequest else { subscriptionRequest with isPlayground := true }

def pairCalls (i : Fin 2) (_ : BillingSession) : List SessionCall :=
  if i.val = 0 then [.settle 7] else [.reserve 8, .refund, .reserve 9]

theorem pairCalls_fair (i : Fin 2) : FairCaller (pairCalls i) := by
  constructor
  · intro session
    unfold pairCalls
    split <;> decide
  · intro session _ a inside
    unfold pairCalls at inside
    split at inside <;> simp at inside
    omega

theorem billedUser_ready : Ready pairRequest billedUser := by
  refine ⟨⟨by decide, by decide, by decide, by decide, by decide⟩, ?_, ?_, ?_, ?_⟩
  all_goals decide

/-- A single request of user 7 that pre-consumes `quota` and is settled for `actualQuota`. -/
def soleSession (request : RelayInfo) (quota actualQuota : Int) : Pool Store SessionEnd Unit :=
  initial billedUser fun _ =>
    sessionProgram plainConfig 5 ⟨0, 10, 10⟩ request quota fun _ => [.settle actualQuota]

theorem soleSession_changes {request : RelayInfo} {quota actualQuota : Int} {account : Account}
    {change : Int} (moves : List (Move Unit))
    (checked : (play (netRules Unit) quiet moves (soleSession request quota actualQuota)
      fun _ _ => 0).any (fun c => decide ((endedWith (some actualQuota) false (c.1.result ())).isSome ∧
        c.2 () account = change)) = true) :
    ∃ c changes session, Run (netRules Unit) (soleSession request quota actualQuota) (fun _ _ => 0) c changes ∧
      c.Finished () (.ended session (some actualQuota)) ∧ changes () account = change := by
  have sound : ∀ i s s' g, quiet i s s' g = true → (netRules Unit).guard i [] s s' g :=
    fun _ _ _ _ still => ⟨rfl, still⟩
  obtain ⟨c, changes, run, some_, change⟩ := exists_play
    (fun c changes => (endedWith (some actualQuota) false (c.result ())).isSome ∧
      changes () account = change) quiet sound moves checked fun _ _ _ held => held
  obtain ⟨session, ended⟩ := isSome_iff_exists.mp some_
  exact ⟨c, changes, session, run, finished_of_result (ended_of_endedWith ended).1, change⟩

end NewApi.Billing
