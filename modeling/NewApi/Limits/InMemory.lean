/-
# Limits.InMemory — the limiter without Redis

`InMemoryRateLimiter` of `common/rate-limit.go`: a queue of accepted times for each key, and a
janitor that deletes the queues whose last time is too old for the limiter.  The times a queue has
lost are out of date, unless the key counts for longer than the limiter keeps (`window_bounded`).
-/
import Mathlib.Logic.Function.Basic
import Mathlib.Data.List.Basic

namespace NewApi.Limits
open List Function

/-- A limiter with its map; the duration is in nanoseconds. -/
structure InMemoryRateLimiter where
  store : String → Option (List Int)
  expirationDuration : Int

namespace InMemoryRateLimiter

/-- `none` is a limiter without a map. -/
def init (l : Option InMemoryRateLimiter) (expirationDuration : Int) : InMemoryRateLimiter :=
  l.getD ⟨fun _ => none, expirationDuration⟩

/-- A turn of the janitor, who is only started for a positive duration. -/
def clearExpiredItems (l : InMemoryRateLimiter) (now : Int) : InMemoryRateLimiter :=
  if l.expirationDuration > 0 then
    { l with store := fun key => (l.store key).filter fun queue =>
        queue.getLast?.any fun last => now - last ≤ l.expirationDuration / 1000000000 }
  else l

/-- Whether the request is let through; looking at the first time of an empty queue panics. -/
def request (l : InMemoryRateLimiter) (key : String) (maxRequestNum : Nat) (duration now : Int) :
    Option (Bool × InMemoryRateLimiter) :=
  let put (queue : List Int) := (true, { l with store := update l.store key (some queue) })
  match l.store key with
  | none => put [now]
  | some queue =>
    if queue.length < maxRequestNum then put (queue ++ [now])
    else queue.head?.map fun first => if now - first ≥ duration then put (queue.tail ++ [now]) else (false, l)

end InMemoryRateLimiter

/-- The janitor deletes no time that a key of this duration still counts. -/
def Fits (expirationDuration duration : Int) : Prop :=
  expirationDuration ≤ 0 ∨ duration ≤ expirationDuration / 1000000000 + 1

/-- The accepted times of each key, after calls at non-decreasing times. -/
inductive Reaches (maxRequestNum : String → Nat) (duration : String → Int) :
    Int → InMemoryRateLimiter → (String → List Int) → Prop
  | init (now expiration : Int) : Reaches _ _ now (.init none expiration) fun _ => []
  | again {now l accepted} (expiration : Int) : Reaches _ _ now l accepted →
    Reaches _ _ now (.init l expiration) accepted
  | clear {now l accepted} (now' : Int) : now ≤ now' → Reaches _ _ now l accepted →
    Reaches _ _ now' (l.clearExpiredItems now') accepted
  | request {now l accepted ok l'} (now' : Int) (key : String) : now ≤ now' →
    l.request key (maxRequestNum key) (duration key) now' = some (ok, l') → Reaches _ _ now l accepted →
    Reaches _ _ now' l' (if ok then update accepted key (accepted key ++ [now']) else accepted)

/-- The accepted times of a key: those that have left the queue are out of date, if the limiter
keeps them long enough (`fits`). -/
structure Kept (fits : Prop) (n : Nat) (d now : Int) (queue accepted : List Int) : Prop where
  lost : ∃ older, accepted = older ++ queue ∧ (fits → ∀ t ∈ older, t + d ≤ now)
  short : queue.length ≤ n
  past : ∀ t ∈ accepted, t ≤ now
  sorted : accepted.Pairwise (· ≤ ·)
  window : fits → ∀ start, accepted.countP (fun t => start ≤ t ∧ t < start + d) ≤ n

section
variable {fits : Prop} {n : Nat} {d now now' : Int} {queue older accepted : List Int}

theorem Kept.later (kept : Kept fits n d now queue accepted) (le : now ≤ now') :
    Kept fits n d now' queue accepted := by
  obtain ⟨older, split, lost⟩ := kept.lost
  refine { kept with lost := ⟨older, split, fun ok t member => ?_⟩, past := fun t member => ?_ }
  · exact Int.le_trans (lost ok t member) le
  · exact Int.le_trans (kept.past t member) le

theorem Kept.drop (kept : Kept fits n d now (older ++ queue) accepted) (out : fits → ∀ t ∈ older, t + d ≤ now) :
    Kept fits n d now queue accepted := by
  obtain ⟨oldest, split, lost⟩ := kept.lost
  have short := kept.short
  rw [length_append] at short
  refine { kept with lost := ⟨oldest ++ older, by rw [split, append_assoc], fun ok t member => ?_⟩, short := by omega }
  exact (mem_append.mp member).elim (lost ok t) (out ok t)

theorem Kept.accept (kept : Kept fits n d now queue accepted) (room : queue.length < n) :
    Kept fits n d now (queue ++ [now]) (accepted ++ [now]) := by
  obtain ⟨⟨older, rfl, lost⟩, short, past, sorted, window⟩ := kept
  refine ⟨⟨older, append_assoc _ _ _, lost⟩, by simp; omega, ?_, ?_, fun ok start => ?_⟩
  · simpa [or_imp, forall_and] using past
  · exact pairwise_append.mpr ⟨sorted, pairwise_singleton _ _, by simpa using past⟩
  · rw [countP_append, countP_singleton]
    split
    · -- a window that holds `now` holds nothing that was lost
      rename_i inside
      have none_ : older.countP (fun t => start ≤ t ∧ t < start + d) = 0 := by
        refine countP_eq_zero.mpr fun t member => ?_
        have := lost ok t member
        simp only [decide_eq_true_eq] at inside ⊢
        omega
      have := countP_le_length (p := fun t => decide (start ≤ t ∧ t < start + d)) (l := queue)
      rw [countP_append, none_]
      omega
    · exact window ok start

variable {l l' : InMemoryRateLimiter} {key : String} {ok : Bool}

/-- A queue that the janitor deletes is out of date for the keys that fit. -/
theorem kept_clear (kept : Kept (Fits l.expirationDuration d) n d now ((l.store key).getD []) accepted) :
    Kept (Fits (l.clearExpiredItems now).expirationDuration d) n d now
      (((l.clearExpiredItems now).store key).getD []) accepted := by
  unfold InMemoryRateLimiter.clearExpiredItems
  split
  · rename_i runs
    show Kept (Fits l.expirationDuration d) n d now (Option.getD (Option.filter _ (l.store key)) []) accepted
    cases here : l.store key with
    | none => rwa [here] at kept
    | some queue =>
      rw [here] at kept
      rw [Option.filter_some]
      split
      · exact kept
      · rename_i expired
        have all : Kept (Fits l.expirationDuration d) n d now (queue ++ []) accepted := by simpa using kept
        refine all.drop fun fits t member => ?_
        obtain rfl | ⟨before, last, rfl⟩ := eq_nil_or_concat' queue
        · cases member
        obtain ⟨older, rfl, -⟩ := kept.lost
        have sorted : (older ++ (before ++ [last])).Pairwise (· ≤ ·) := kept.sorted
        simp only [pairwise_append, mem_singleton, forall_eq] at sorted
        have latest : t ≤ last := (mem_append.mp member).elim (sorted.2.1.2.2 t) fun this => by simp_all
        have due := fits.resolve_left (by omega)
        simp at expired
        omega
  · exact kept

/-- A request goes behind the times that still count, or is refused while the queue is full of them. -/
theorem request_cases (positive : 1 ≤ n) (short : ((l.store key).getD []).length ≤ n)
    (ran : l.request key n d now = some (ok, l')) :
    (ok = true ∧ ∃ older queue, (l.store key).getD [] = older ++ queue ∧ (∀ t ∈ older, t + d ≤ now) ∧
      queue.length < n ∧ l' = { l with store := update l.store key (some (queue ++ [now])) }) ∨
    (ok = false ∧ l' = l ∧ ∃ first rest, (l.store key).getD [] = first :: rest ∧ n ≤ rest.length + 1 ∧
      now - d < first) := by
  unfold InMemoryRateLimiter.request at ran
  cases here : l.store key with
  | none =>
    simp only [here] at ran
    cases ran
    exact .inl ⟨rfl, [], [], rfl, nofun, positive, rfl⟩
  | some queue =>
    simp only [here, Option.getD_some] at ran short ⊢
    split at ran
    · cases ran
      exact .inl ⟨rfl, [], queue, rfl, nofun, ‹_›, rfl⟩
    · obtain ⟨first, head, answer⟩ := Option.map_eq_some_iff.mp ran
      obtain ⟨rest, rfl⟩ : ∃ rest, queue = first :: rest := by cases queue <;> simp_all
      rw [length_cons] at *
      split at answer
      · cases answer
        exact .inl ⟨rfl, [first], rest, rfl, by simp; omega, short, rfl⟩
      · cases answer
        exact .inr ⟨rfl, rfl, first, rest, rfl, by omega, by omega⟩

end

variable {num : String → Nat} {span : String → Int} {now : Int} {l : InMemoryRateLimiter}
  {accepted : String → List Int} (positive : ∀ key, 1 ≤ num key)
  (reaches : Reaches num span now l accepted) (key : String)
include positive reaches

theorem Reaches.kept :
    Kept (Fits l.expirationDuration (span key)) (num key) (span key) now ((l.store key).getD []) (accepted key) := by
  induction reaches generalizing key with
  | init now expiration => exact ⟨⟨[], rfl, nofun⟩, by simp [InMemoryRateLimiter.init], nofun, .nil, by simp⟩
  | again expiration _ ih => exact ih key
  | clear now' later _ ih => exact kept_clear ((ih key).later later)
  | request now' other later ran _ ih =>
    have mine := (ih other).later later
    obtain ⟨rfl, older, queue, split, out, room, rfl⟩ | ⟨rfl, rfl, -⟩ := request_cases (positive other) mine.short ran
    · by_cases same : key = other
      · subst same
        rw [split] at mine
        simpa using (mine.drop fun _ => out).accept room
      · simpa [same] using (ih key).later later
    · exact (ih key).later later

/-- **The window of a key.**  If the janitor deletes no time that the key counts, no window of the
key's length holds more accepted requests than the key may have; and a request is only refused
when as many of the last ones lie within the last `span key` seconds. -/
theorem window_bounded : (Fits l.expirationDuration (span key) →
      ∀ start, (accepted key).countP (fun t => start ≤ t ∧ t < start + span key) ≤ num key) ∧
    ∀ now' l', now ≤ now' → l.request key (num key) (span key) now' = some (false, l') →
      ∃ older recent, accepted key = older ++ recent ∧ recent.length = num key ∧
        ∀ t ∈ recent, now' - span key < t ∧ t ≤ now' := by
  have kept := reaches.kept positive key
  refine ⟨kept.window, fun now' l' later ran => ?_⟩
  obtain ⟨⟨⟩, -⟩ | ⟨-, -, first, rest, here, full, recent⟩ := request_cases (positive key) kept.short ran
  rw [here] at kept
  obtain ⟨⟨older, all, -⟩, short, past, sorted, -⟩ := kept
  rw [all, pairwise_append, pairwise_cons] at sorted
  refine ⟨older, _, all, by simp at short ⊢; omega, fun t member => ⟨?_, ?_⟩⟩
  · rcases mem_cons.mp member with rfl | after
    · exact recent
    · have := sorted.2.1.1 t after
      omega
  · exact Int.le_trans (past t (by rw [all]; exact mem_append_right _ member)) later

omit positive reaches

/-- One request in ten seconds, of a limiter that keeps the times for ten seconds. -/
theorem window_bounded_twice : ∃ l, Reaches (fun _ => 1) (fun _ => 10) 3 l (update (fun _ => []) "k" [3]) ∧
    (∀ start, [3].countP (fun t : Int => start ≤ t ∧ t < start + 10) ≤ 1) ∧ l.request "k" 1 10 5 = some (false, l) ∧
      ∃ older recent, [3] = older ++ recent ∧ recent.length = 1 ∧ ∀ t ∈ recent, (5 - 10 : Int) < t ∧ t ≤ 5 := by
  have reaches : Reaches (fun _ => 1) (fun _ => 10) 3 _ _ := .request 3 "k" (by decide) rfl (.init 0 10000000000)
  have bounded := window_bounded (fun _ => by decide) reaches "k"
  exact ⟨_, reaches, bounded.1 (.inr (by decide)), rfl, bounded.2 5 _ (by decide) rfl⟩

/-- A limiter that was first told to keep the times for one second forgets a key of ten. -/
theorem window_exceeded : ∃ l accepted, Reaches (fun _ => 1) (fun _ => 10) 2 l accepted ∧
    1 < (accepted "k").countP fun t => 0 ≤ t ∧ t < 10 := by
  have first : Reaches (fun _ => 1) (fun _ => 10) 0 _ _ :=
    .request 0 "k" (by decide) rfl (.again 10000000000 (.init 0 1000000000))
  exact ⟨_, _, .request 2 "k" (by decide) rfl (.clear 2 (by decide) first), by decide⟩

/-! ## The log of a sliding window -/

/-- The answers to calls at given times: a request of a key, or a turn of the janitor. -/
def serve (num : String → Nat) (span : String → Int) (l : InMemoryRateLimiter) :
    List (Int × Option String) → Option (List Bool)
  | [] => some []
  | (now, none) :: calls => serve num span (l.clearExpiredItems now) calls
  | (now, some key) :: calls =>
    (l.request key (num key) (span key) now).bind fun answer => (serve num span answer.2 calls).map (answer.1 :: ·)

/-- The limiter as it is meant: it counts what the key was granted in the last `span key` seconds. -/
def slidingWindow (num : String → Nat) (span : String → Int) (accepted : String → List Int) :
    List (Int × Option String) → List Bool
  | [] => []
  | (_, none) :: calls => slidingWindow num span accepted calls
  | (now, some key) :: calls =>
    let ok : Bool := (accepted key).countP (now - span key < ·) < num key
    ok :: slidingWindow num span (if ok then update accepted key (accepted key ++ [now]) else accepted) calls

variable {now' : Int} {l' : InMemoryRateLimiter}
include positive

theorem request_isSome (l : InMemoryRateLimiter) (d now : Int) :
    ∃ answer, l.request key (num key) d now = some answer := by
  unfold InMemoryRateLimiter.request
  cases l.store key with
  | none => exact ⟨_, rfl⟩
  | some queue =>
    cases queue with
    | nil => exact ⟨_, if_pos (positive key)⟩
    | cons first rest =>
      dsimp only
      split <;> exact ⟨_, rfl⟩

include reaches in
theorem Reaches.decides {ok : Bool} (fits : Fits l.expirationDuration (span key)) (later : now ≤ now')
    (ran : l.request key (num key) (span key) now' = some (ok, l')) :
    ok = decide ((accepted key).countP (now' - span key < ·) < num key) ∧
      l'.expirationDuration = l.expirationDuration := by
  obtain ⟨⟨lost, all, out⟩, short, -, sorted, -⟩ := (reaches.kept positive key).later later
  have gone (times : List Int) (old : ∀ t ∈ times, t + span key ≤ now') :
      times.countP (now' - span key < ·) = 0 := by
    refine countP_eq_zero.mpr fun t member => ?_
    have := old t member
    simp only [decide_eq_true_eq]
    omega
  rw [all, countP_append, gone lost (out fits), Nat.zero_add]
  obtain ⟨rfl, older, queue, split, old, room, rfl⟩ | ⟨rfl, rfl, first, rest, here, full, recent⟩ :=
    request_cases (positive key) short ran
  · rw [split, countP_append, gone older old, Nat.zero_add]
    exact ⟨(decide_eq_true (Nat.lt_of_le_of_lt countP_le_length room)).symm, rfl⟩
  · rw [all, here, pairwise_append, pairwise_cons] at sorted
    have every : (first :: rest).countP (now' - span key < ·) = (first :: rest).length := by
      refine countP_eq_length.mpr fun t member => decide_eq_true ?_
      rcases mem_cons.mp member with rfl | after
      · exact recent
      · exact Int.lt_of_lt_of_le recent (sorted.2.1.1 t after)
    rw [here, every, length_cons]
    exact ⟨(decide_eq_false (by omega)).symm, rfl⟩

theorem Reaches.serve_eq (reaches : Reaches num span now l accepted)
    (fits : ∀ key, Fits l.expirationDuration (span key)) {calls : List (Int × Option String)}
    (order : (now :: calls.map Prod.fst).Pairwise (· ≤ ·)) :
    serve num span l calls = some (slidingWindow num span accepted calls) := by
  induction calls generalizing now l accepted with
  | nil => rfl
  | cons call calls step =>
    obtain ⟨now', key⟩ := call
    obtain ⟨later, order⟩ := pairwise_cons.mp order
    have due : now ≤ now' := later _ mem_cons_self
    cases key with
    | none =>
      apply step (.clear now' due reaches) _ order
      unfold InMemoryRateLimiter.clearExpiredItems
      split <;> exact fits
    | some key =>
      obtain ⟨⟨ok, l'⟩, ran⟩ := request_isSome positive key l (span key) now'
      obtain ⟨same, kept⟩ := reaches.decides positive key (fits key) due ran
      have next := step (.request now' key due ran reaches) (kept ▸ fits) order
      rw [serve, ran, Option.bind_some, next, slidingWindow, ← same]
      rfl

omit positive

end NewApi.Limits
