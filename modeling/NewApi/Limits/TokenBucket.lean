/-
# Limits.TokenBucket — the token bucket of the total request limit

`common/limiter/lua/rate_limit.lua` as `redisRateLimitHandler` of `middleware/model-rate-limit.go`
calls it: a request costs as many tokens as the window has seconds.  What is in the bucket is the
least, over the windows that end now, of what a window was given and has not spent (`Level`).  The
capacity is an int64 product and Lua's numbers are doubles; up to a capacity of `2 ^ 53` neither
matters, and a product that wraps to zero refuses everything (`capacity_wraps`).
-/
import Mathlib.Data.List.Induction
import Mathlib.Tactic.Ring
import NewApi.Theory.Machine

namespace NewApi.Limits
open Theory

structure Bucket where
  tokens : Int
  lastTime : Int

/-- `rate_limit.lua`: whether the request is allowed, and what is stored.  Redis writes a number with
17 digits, so it reads back what was stored. -/
def rateLimit (requested rate capacity now : Int) (bucket : Option Bucket) : Bool × Bucket :=
  let tokens := match bucket with
    | none => double capacity
    | some bucket =>
      let addTokens := double (double (double now - bucket.lastTime) * double rate)
      min (double capacity) (double (bucket.tokens + addTokens))
  if double requested ≤ tokens then (true, ⟨double (tokens - double requested), double now⟩)
  else (false, ⟨tokens, double now⟩)

def allowTotal (totalMaxCount duration now : Int) (bucket : Option Bucket) : Bool × Bucket :=
  rateLimit duration totalMaxCount (wrap64 (totalMaxCount * duration)) now bucket

/-- A request, after the times that were granted and with the bucket they left. -/
def request (totalMaxCount duration : Int) (key : List Int × Option Bucket) (now : Int) : List Int × Option Bucket :=
  let answer := allowTotal totalMaxCount duration now key.2
  (if answer.1 then now :: key.1 else key.1, some answer.2)

/-- The requests of a key, from the first one on. -/
def requests (totalMaxCount duration : Int) (times : List Int) : List Int × Option Bucket :=
  times.foldl (request totalMaxCount duration) ([], none)

/-! ## What the windows leave -/

def grantsIn (granted : List Int) (s t : Int) : Nat := granted.countP fun g => s ≤ g ∧ g ≤ t

variable {n d first last t tokens : Int} {granted : List Int}

/-- The least that a window ending at `t` has left, from the first request on; no window was
granted more than its tokens. -/
structure Level (n d first : Int) (granted : List Int) (t tokens : Int) : Prop where
  range : 0 ≤ tokens ∧ tokens ≤ n * d
  past : ∀ g ∈ granted, g ≤ t
  le : ∀ s ≤ t, tokens + d * grantsIn granted s t ≤ n * d + n * (t - s)
  attained : ∃ s, first ≤ s ∧ s ≤ t ∧ tokens + d * grantsIn granted s t = n * d + n * (t - s)
  windows : ∀ s u, s ≤ u → d * grantsIn granted s u ≤ n * d + n * (u - s)

theorem grantsIn_later {s : Int} (past : ∀ g ∈ granted, g ≤ last) (later : last ≤ t) :
    grantsIn granted s t = grantsIn granted s last := by
  refine List.countP_congr fun g member => ?_
  have := past g member
  simp only [decide_eq_true_eq]
  omega

theorem grantsIn_of_lt {s : Int} (past : ∀ g ∈ granted, g ≤ last) (later : last < s) : grantsIn granted s t = 0 := by
  refine List.countP_eq_zero.mpr fun g member => ?_
  have := past g member
  simp only [decide_eq_true_eq]
  omega

namespace Level

theorem full (limit : 1 ≤ n) (seconds : 1 ≤ d) : Level n d t [] t (n * d) := by
  have given : ∀ s u, s ≤ u → 0 ≤ n * (u - s) := fun s u _ => Int.mul_nonneg (by omega) (by omega)
  have size : 0 ≤ n * d := Int.mul_nonneg (by omega) (by omega)
  refine ⟨⟨size, le_refl _⟩, nofun, fun s before => ?_, ⟨t, by simp [grantsIn]⟩, fun s u before => ?_⟩
  · have := given s t before
    simpa [grantsIn] using this
  · have := given s u before
    simp only [grantsIn, List.countP_nil, Nat.cast_zero]
    omega

variable (level : Level n d first granted last tokens)

include level

/-- The time passes on to `t`. -/
theorem refill (limit : 1 ≤ n) (later : last ≤ t) :
    Level n d first granted t (min (n * d) (tokens + (t - last) * n)) := by
  have gained : 0 ≤ (t - last) * n := Int.mul_nonneg (by omega) (by omega)
  have range := level.range
  have split (s : Int) : n * (t - s) = n * (last - s) + (t - last) * n := by ring
  refine ⟨by omega, fun g member => le_trans (level.past g member) later, fun s before => ?_, ?_,
    level.windows⟩
  · by_cases old : s ≤ last
    · have bound := level.le s old
      rw [grantsIn_later level.past later, split]
      omega
    · have := Int.mul_nonneg (show 0 ≤ n by omega) (show 0 ≤ t - s by omega)
      rw [grantsIn_of_lt level.past (by omega)]
      simp only [Nat.cast_zero, Int.mul_zero]
      omega
  · obtain ⟨s, after, before, least⟩ := level.attained
    by_cases capped : n * d < tokens + (t - last) * n
    · -- a full bucket: nothing was granted in the second that has come
      have moved : last < t := by
        by_contra still
        obtain rfl : t = last := by omega
        simp only [Int.sub_self, Int.zero_mul] at capped
        omega
      refine ⟨t, by omega, le_refl t, ?_⟩
      rw [grantsIn_of_lt level.past moved, min_eq_left (by omega)]
      simp
    · refine ⟨s, after, by omega, ?_⟩
      rw [grantsIn_later level.past later, min_eq_right (by omega), split]
      omega

theorem grant (enough : d ≤ tokens) (seconds : 1 ≤ d) (limit : 1 ≤ n) :
    Level n d first (last :: granted) last (tokens - d) := by
  have more (s : Int) (before : s ≤ last) :
      (d * grantsIn (last :: granted) s last : Int) = d * grantsIn granted s last + d := by
    simp [grantsIn, before, Int.mul_add]
  have range := level.range
  have past : ∀ g ∈ last :: granted, g ≤ last := by simpa using level.past
  refine ⟨by omega, past, fun s before => ?_, ?_, fun s u before => ?_⟩
  · have bound := level.le s before
    rw [more s before]
    omega
  · obtain ⟨s, after, before, least⟩ := level.attained
    exact ⟨s, after, before, by rw [more s before]; omega⟩
  · by_cases inside : s ≤ last ∧ last ≤ u
    · have bound := level.le s inside.1
      have rest : n * (u - s) = n * (last - s) + n * (u - last) := by ring
      have := Int.mul_nonneg (show 0 ≤ n by omega) (show 0 ≤ u - last by omega)
      rw [grantsIn_later past inside.2, more s inside.1]
      omega
    · have same : grantsIn (last :: granted) s u = grantsIn granted s u := by simp [grantsIn, inside]
      rw [same]
      exact level.windows s u before

theorem refused_iff (seconds : 1 ≤ d) : tokens < d ↔
    ∃ s, first ≤ s ∧ s ≤ last ∧ (n * d + n * (last - s)) / d < grantsIn granted s last + 1 := by
  have exceeds (s : Int) : (n * d + n * (last - s)) / d < (grantsIn granted s last + 1 : Int) ↔
      n * d + n * (last - s) < d * grantsIn granted s last + d := by
    rw [Int.ediv_lt_iff_lt_mul (by omega), Int.add_mul, Int.one_mul, Int.mul_comm d]
  simp only [exceeds]
  constructor
  · intro few
    obtain ⟨s, after, before, least⟩ := level.attained
    exact ⟨s, after, before, by omega⟩
  · rintro ⟨s, -, before, exceeded⟩
    have bound := level.le s before
    omega

end Level

/-- What a bucket holds; a key without one counts as full. -/
def Held (n d first : Int) (granted : List Int) (t : Int) : Option Bucket → Prop
  | none => granted = [] ∧ first = t
  | some bucket => 0 ≤ bucket.lastTime ∧ bucket.lastTime ≤ t ∧
      Level n d first granted bucket.lastTime bucket.tokens

/-- Where no number gets too large, the script computes with integers. -/
theorem allowTotal_eq {bucket : Option Bucket} (limit : 1 ≤ n) (seconds : 1 ≤ d) (fits : n * d ≤ 2 ^ 53)
    (unix : 0 ≤ t ∧ t ≤ 2 ^ 53) (held : Held n d first granted t bucket) :
    let tokens := match bucket with
      | none => n * d
      | some bucket => min (n * d) (bucket.tokens + (t - bucket.lastTime) * n)
    allowTotal n d t bucket = if d ≤ tokens then (true, ⟨tokens - d, t⟩) else (false, ⟨tokens, t⟩) := by
  have size : n ≤ n * d ∧ d ≤ n * d := ⟨le_mul_of_one_le_right (by omega) seconds, le_mul_of_one_le_left (by omega) limit⟩
  have exact_n : double n = n := double_of_le (by omega) (by omega)
  have exact_d : double d = d := double_of_le (by omega) (by omega)
  have exact_t : double t = t := double_of_le unix.1 unix.2
  have capacity : double (wrap64 (n * d)) = n * d := by
    rw [wrap64_of_bounds (by omega) (by omega), double_of_le (by omega) fits]
  have taken {tokens : Int} (enough : d ≤ tokens) (most : tokens ≤ n * d) : double (tokens - d) = tokens - d :=
    double_of_le (by omega) (by omega)
  unfold allowTotal rateLimit
  simp only [exact_n, exact_d, exact_t, capacity]
  cases bucket with
  | none => simp only [if_pos size.2, taken size.2 le_rfl]
  | some bucket =>
    obtain ⟨begun, later, level⟩ := held
    have range := level.range
    have added : 0 ≤ (t - bucket.lastTime) * n := Int.mul_nonneg (by omega) (by omega)
    have refilled : min (n * d) (double (bucket.tokens + double (double (t - bucket.lastTime) * n))) =
        min (n * d) (bucket.tokens + (t - bucket.lastTime) * n) := by
      rw [double_of_le (show 0 ≤ t - bucket.lastTime by omega) (by omega),
        min_double fits (Int.add_nonneg range.1 (double_nonneg added)), min_add_double fits added range.1]
    simp only [refilled]
    split
    · rename_i enough
      rw [taken enough (min_le_left _ _)]
    · rfl

theorem Held.step {bucket : Option Bucket} (limit : 1 ≤ n) (seconds : 1 ≤ d) (fits : n * d ≤ 2 ^ 53)
    (unix : 0 ≤ t ∧ t ≤ 2 ^ 53) (held : Held n d first granted t bucket) : ((allowTotal n d t bucket).1 = false ↔
      ∃ s, first ≤ s ∧ s ≤ t ∧ (n * d + n * (t - s)) / d < grantsIn granted s t + 1) ∧
    ∃ tokens, (request n d (granted, bucket) t).2 = some ⟨tokens, t⟩ ∧
      Level n d first (request n d (granted, bucket) t).1 t tokens := by
  obtain ⟨tokens, answer, level⟩ : ∃ tokens, allowTotal n d t bucket =
      (if d ≤ tokens then (true, ⟨tokens - d, t⟩) else (false, ⟨tokens, t⟩)) ∧
      Level n d first granted t tokens := by
    refine ⟨_, allowTotal_eq limit seconds fits unix held, ?_⟩
    cases bucket with
    | none =>
      obtain ⟨rfl, rfl⟩ := held
      exact .full limit seconds
    | some bucket => exact held.2.2.refill limit held.2.1
  rw [← level.refused_iff seconds, request, answer]
  split
  · rename_i enough
    exact ⟨by simpa using enough, _, rfl, level.grant enough seconds limit⟩
  · rename_i few
    exact ⟨by simpa using few, _, rfl, level⟩

theorem held_requests {past : List Int} (limit : 1 ≤ n) (seconds : 1 ≤ d) (fits : n * d ≤ 2 ^ 53)
    (unix : ∀ t' ∈ past, 0 ≤ t' ∧ t' ≤ 2 ^ 53) (ordered : (past ++ [t]).Pairwise (· ≤ ·)) :
    Held n d (past.headD t) (requests n d past).1 t (requests n d past).2 := by
  induction past using List.reverseRecOn generalizing t with
  | nil => exact ⟨rfl, rfl⟩
  | append_singleton past now ih =>
    rw [List.pairwise_append] at ordered
    have known := unix now (by simp)
    have before := ih (fun t' there => unix t' (List.mem_append_left _ there)) ordered.1
    obtain ⟨tokens, stored, level⟩ := (before.step limit seconds fits known).2
    have first : (past ++ [now]).headD t = past.headD now := by cases past <;> rfl
    have later := ordered.2.2 now (by simp) t (by simp)
    simp only [requests, List.foldl_append, List.foldl_cons, List.foldl_nil, first]
    rw [requests] at stored
    rw [stored]
    exact ⟨known.1, later, level⟩

/-- **The bucket is exact** while its capacity is at most `2 ^ 53`, at Unix times up to there. -/
theorem tokenBucket_exact (n d : Int) (limit : 1 ≤ n) (seconds : 1 ≤ d) (fits : n * d ≤ 2 ^ 53) (past : List Int)
    (t : Int) (ordered : (past ++ [t]).Pairwise (· ≤ ·)) (unix : ∀ t' ∈ past ++ [t], 0 ≤ t' ∧ t' ≤ 2 ^ 53) :
    (∀ bucket ∈ (requests n d past).2, 0 ≤ bucket.tokens ∧ bucket.tokens ≤ n * d) ∧
    ((allowTotal n d t (requests n d past).2).1 = false ↔ ∃ s, past.headD t ≤ s ∧ s ≤ t ∧
      (n * d + n * (t - s)) / d < grantsIn (requests n d past).1 s t + 1) ∧
    ∀ s, grantsIn (requests n d past).1 s (s + d) ≤ 2 * n := by
  have held := held_requests limit seconds fits (fun t' there => unix t' (List.mem_append_left _ there)) ordered
  refine ⟨fun bucket stored => ?_, (held.step limit seconds fits (unix t (by simp))).1, fun s => ?_⟩
  · rw [Option.mem_def.mp stored] at held
    exact held.2.2.range
  have window : d * grantsIn (requests n d past).1 s (s + d) ≤ n * d + n * (s + d - s) := by
    cases stored : (requests n d past).2 with
    | none =>
      rw [stored] at held
      rw [held.1]
      exact (Level.full limit seconds : Level n d t [] t _).windows s _ (by omega)
    | some bucket =>
      rw [stored] at held
      exact held.2.2.windows s _ (by omega)
  have twice : n * d + n * (s + d - s) = d * (2 * n) := by ring
  rw [twice] at window
  exact Int.le_of_mul_le_mul_left window (by omega)

/-- Three requests in the first second under a limit of one in two seconds. -/
theorem tokenBucket_exact_burst : (allowTotal 1 2 0 (requests 1 2 [0, 0]).2).1 = false :=
  (tokenBucket_exact 1 2 (by decide) (by decide) (by decide) [0, 0] 0 (by decide) (by decide)).2.1.mpr ⟨0, by decide⟩

/-- A limit of `2 ^ 62` in a minute: the capacity wraps to zero, and the first request is refused. -/
theorem capacity_wraps : (allowTotal (2 ^ 62) 60 0 none).1 = false := by
  decide +kernel

end NewApi.Limits
