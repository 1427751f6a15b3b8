/-
# Theory.Message — messages that are sent as blocks

A message is a sequence of signals: its head, the start, the deltas and the stop of each block, and its
tail.  `Monitor` reads them one at a time, refuses the first one that is out of place, and accepts
exactly the `WellFormed` sequences.  `Shows` is what a sender that has done nothing wrong knows of the
monitor, `Unopened` and `Spent` are the reasons for which a later stop or start will be refused.
-/
import Mathlib.Data.List.Basic
import Mathlib.Data.List.Count
import Mathlib.Data.List.Induction

namespace NewApi.Theory
open List

/-- Blocks have an index in `ι` and a kind in `κ`. -/
inductive Signal (ι κ : Type) where
  | head
  | start (index : ι) (kind : κ)
  | delta (index : ι) (kind : κ)
  | stop (index : ι)
  | note
  | tail
deriving DecidableEq

variable {ι κ : Type} [DecidableEq ι] [DecidableEq κ]

structure WellFormed (signals : List (Signal ι κ)) : Prop where
  head_first : signals.head? = some .head
  /-- A delta is for a block that is open and of its kind. -/
  delta_open : ∀ before after i k, signals = before ++ .delta i k :: after →
    .start i k ∈ before ∧ .stop i ∉ before
  start_new : ∀ before after i k, signals = before ++ .start i k :: after →
    ∀ kind, .start i kind ∉ before
  stop_started : ∀ before after i, signals = before ++ .stop i :: after →
    ∃ kind, .start i kind ∈ before
  stopped_once : ∀ i k, .start i k ∈ signals → signals.count (.stop i) = 1
  tail_once : signals.count .tail = 1
  tail_last : signals.getLast? = some .tail

/-- The signal is in place after the ones before it. -/
@[mk_iff] structure InPlace (before : List (Signal ι κ)) (signal : Signal ι κ) : Prop where
  head : before = [] → signal = .head
  open_end : .tail ∉ before
  delta : ∀ i k, signal = .delta i k → .start i k ∈ before ∧ .stop i ∉ before
  start : ∀ i k, signal = .start i k → ∀ kind, .start i kind ∉ before
  stop : ∀ i, signal = .stop i → (∃ kind, .start i kind ∈ before) ∧ .stop i ∉ before

theorem count_ne_one_of_split {signal : Signal ι κ} {before after : List (Signal ι κ)}
    (earlier : signal ∈ before) : (before ++ signal :: after).count signal ≠ 1 := by
  have positive := count_pos_iff.mpr earlier
  simp only [count_append, count_cons_self]
  omega

variable {signal : Signal ι κ} {signals : List (Signal ι κ)} {kind : κ}

theorem count_eq_one_of_split (member : signal ∈ signals)
    (once : ∀ before after, signals = before ++ signal :: after → signal ∉ before) : signals.count signal = 1 := by
  obtain ⟨before, after, rfl⟩ := append_of_mem member
  have first := count_eq_zero.mpr (once before after rfl)
  have last : after.count signal = 0 := by
    by_contra again
    obtain ⟨middle, rest, rfl⟩ := append_of_mem (count_pos_iff.mp (Nat.pos_of_ne_zero again))
    exact once (before ++ signal :: middle) rest (by simp) (by simp)
  simp [first, last]

theorem WellFormed.inPlace (formed : WellFormed signals) {before after : List (Signal ι κ)}
    (split : signals = before ++ signal :: after) : InPlace before signal where
  head := by
    rintro rfl
    have first := formed.head_first
    rw [split] at first
    simpa using first
  open_end := by
    intro ended
    obtain ⟨front, isLast⟩ : ∃ front, signal :: after = front ++ [Signal.tail] := by
      have last := formed.tail_last
      rw [split, getLast?_append_of_ne_nil _ (by simp)] at last
      exact getLast?_eq_some_iff.mp last
    have once := formed.tail_once
    rw [split, isLast, ← append_assoc] at once
    exact count_ne_one_of_split (mem_append_left _ ended) once
  delta i k isDelta := by
    subst isDelta
    exact formed.delta_open _ _ _ _ split
  start i k isStart := by
    subst isStart
    exact formed.start_new _ _ _ _ split
  stop i isStop := by
    subst isStop
    obtain ⟨kind, started⟩ := formed.stop_started _ _ _ split
    refine ⟨⟨kind, started⟩, fun stopped => ?_⟩
    have once := formed.stopped_once i kind (by rw [split]; exact mem_append_left _ started)
    rw [split] at once
    exact count_ne_one_of_split stopped once

/-- Signals that are all in place, with every block stopped and the tail sent. -/
theorem wellFormed_iff (signals : List (Signal ι κ)) : WellFormed signals ↔
      (∀ before signal after, signals = before ++ signal :: after → InPlace before signal) ∧
        (∀ i k, .start i k ∈ signals → .stop i ∈ signals) ∧ .tail ∈ signals := by
  constructor
  · intro formed
    refine ⟨fun before signal after split => formed.inPlace split, fun i k started => ?_, ?_⟩
    · exact count_pos_iff.mp (by rw [formed.stopped_once i k started]; exact Nat.one_pos)
    · exact count_pos_iff.mp (by rw [formed.tail_once]; exact Nat.one_pos)
  · rintro ⟨placed, stopped, ended⟩
    refine
      { head_first := ?_
        delta_open := fun before after i k split => (placed _ _ _ split).delta i k rfl
        start_new := fun before after i k split => (placed _ _ _ split).start i k rfl
        stop_started := fun before after i split => ((placed _ _ _ split).stop i rfl).1
        stopped_once := fun i k started => count_eq_one_of_split (stopped i k started)
          fun before after split => ((placed _ _ _ split).stop i rfl).2
        tail_once := count_eq_one_of_split ended
          fun before after split => (placed _ _ _ split).open_end
        tail_last := ?_ }
    · cases signals with
      | nil => simp at ended
      | cons signal after => simp [(placed [] signal after rfl).head rfl]
    · obtain ⟨before, after, rfl⟩ := append_of_mem ended
      cases after with
      | nil => simp
      | cons next after =>
        exact absurd (by simp) (placed (before ++ [.tail]) next after (by simp)).open_end

/-! ## The monitor -/

structure Monitor (ι κ : Type) where
  begun : Bool
  ended : Bool
  opened : List (ι × κ)
  used : List ι

def Monitor.initial : Monitor ι κ := ⟨false, false, [], []⟩

/-- Read one signal; `none` refuses it. -/
def Monitor.read (monitor : Monitor ι κ) (signal : Signal ι κ) : Option (Monitor ι κ) :=
  if monitor.ended then none
  else match signal with
    | .head => some { monitor with begun := true }
    | .start i k =>
      if monitor.begun && !monitor.used.contains i then
        some { monitor with opened := (i, k) :: monitor.opened, used := i :: monitor.used }
      else none
    | .delta i k => if monitor.begun && monitor.opened.contains (i, k) then some monitor else none
    | .stop i =>
      if monitor.begun && monitor.opened.any (fun block => block.1 = i) then
        some { monitor with opened := monitor.opened.filter fun block => block.1 ≠ i }
      else none
    | .note => if monitor.begun then some monitor else none
    | .tail => if monitor.begun then some { monitor with ended := true } else none

/-- Read a signal unless one was refused before. -/
def watch (monitor : Option (Monitor ι κ)) (signal : Signal ι κ) : Option (Monitor ι κ) :=
  monitor.bind fun monitor => monitor.read signal

@[simp] theorem watch_none (signal : Signal ι κ) : watch (none : Option (Monitor ι κ)) signal = none := rfl

@[simp] theorem watch_some (monitor : Monitor ι κ) (signal : Signal ι κ) :
    watch (some monitor) signal = monitor.read signal := rfl

/-- The message is over and nothing is open. -/
def Accepts : Option (Monitor ι κ) → Prop
  | none => False
  | some monitor => monitor.ended = true ∧ monitor.opened = []

instance (monitor : Option (Monitor ι κ)) : Decidable (Accepts monitor) :=
  match monitor with
  | none => inferInstanceAs (Decidable False)
  | some monitor => inferInstanceAs (Decidable (monitor.ended = true ∧ monitor.opened = []))

/-- What a monitor knows about the signals it has read. -/
structure Monitor.Tracks (monitor : Monitor ι κ) (signals : List (Signal ι κ)) : Prop where
  begun : monitor.begun = true ↔ signals ≠ []
  ended : monitor.ended = true ↔ .tail ∈ signals
  used : ∀ i, i ∈ monitor.used ↔ ∃ kind, .start i kind ∈ signals
  opened : ∀ i k, (i, k) ∈ monitor.opened ↔ .start i k ∈ signals ∧ .stop i ∉ signals
  stopped : ∀ i, .stop i ∈ signals → ∃ kind, .start i kind ∈ signals

omit [DecidableEq ι] [DecidableEq κ] in
theorem Monitor.tracks_initial : (Monitor.initial : Monitor ι κ).Tracks [] := by
  constructor <;> simp [Monitor.initial]

variable {monitor : Monitor ι κ}

/-- The monitor goes on exactly at signals that are in place. -/
theorem Monitor.Tracks.read_isSome_iff (tracks : monitor.Tracks signals) (signal : Signal ι κ) :
    (monitor.read signal).isSome ↔ InPlace signals signal := by
  have begun := tracks.begun
  have ended := tracks.ended
  rw [inPlace_iff]
  by_cases isOver : monitor.ended = true
  · simp [Monitor.read, isOver, ended.mp isOver]
  have goes : Signal.tail ∉ signals := mt ended.mpr isOver
  cases signal with
  | head => simp [Monitor.read, isOver, goes]
  | start i k => simp [Monitor.read, isOver, goes, begun, tracks.used]
  | delta i k | stop i => simp [Monitor.read, isOver, goes, begun, tracks.opened]
  | note | tail => simp [Monitor.read, isOver, goes, begun]

/-- What the monitor does with a signal that it does not refuse. -/
theorem Monitor.read_cases {next : Monitor ι κ} (reads : monitor.read signal = some next) :
    match signal with
    | .head => next = { monitor with begun := true }
    | .start i k => monitor.begun = true ∧ i ∉ monitor.used ∧
        next = { monitor with opened := (i, k) :: monitor.opened, used := i :: monitor.used }
    | .delta _ _ => monitor.begun = true ∧ next = monitor
    | .stop i => monitor.begun = true ∧ (∃ k, (i, k) ∈ monitor.opened) ∧
        next = { monitor with opened := monitor.opened.filter fun block => block.1 ≠ i }
    | .note => monitor.begun = true ∧ next = monitor
    | .tail => monitor.begun = true ∧ next = { monitor with ended := true } := by
  have goes : monitor.ended = false := by
    by_contra isOver
    simp [Monitor.read, isOver] at reads
  cases signal with
  | head => simpa [Monitor.read, goes, eq_comm] using reads
  | start i k => simpa [Monitor.read, goes, and_assoc, @eq_comm _ next] using reads
  | delta i k =>
    have known : monitor.begun = true ∧ (i, k) ∈ monitor.opened ∧ monitor = next := by
      simpa [Monitor.read, goes, and_assoc] using reads
    exact ⟨known.1, known.2.2.symm⟩
  | stop i => simpa [Monitor.read, goes, and_assoc, @eq_comm _ next] using reads
  | note | tail => simpa [Monitor.read, goes, @eq_comm _ next] using reads

/-- It still tracks what it has read. -/
theorem Monitor.Tracks.next {next : Monitor ι κ} (tracks : monitor.Tracks signals)
    (reads : monitor.read signal = some next) : next.Tracks (signals ++ [signal]) := by
  obtain ⟨begun, ended, used, opened, stopped⟩ := tracks
  have result := Monitor.read_cases reads
  cases signal with
  | head =>
    obtain rfl : next = { monitor with begun := true } := result
    exact ⟨by simp, by simp [ended], by simp [used], by simp [opened], by simpa using stopped⟩
  | start i k =>
    obtain ⟨hasBegun, new, rfl⟩ := result
    have unstarted : ∀ kind, Signal.start i kind ∉ signals := by simpa [used] using new
    refine ⟨by simp [hasBegun], by simp [ended], ?_, ?_, ?_⟩
    · intro j
      grind
    · intro j kind
      grind
    · intro j old
      obtain ⟨kind, started⟩ := stopped j (by simpa using old)
      exact ⟨kind, mem_append_left _ started⟩
  | delta i k =>
    obtain ⟨hasBegun, rfl⟩ := result
    exact ⟨by simp [hasBegun], by simp [ended], by simp [used], by simp [opened],
      by simpa using stopped⟩
  | stop i =>
    obtain ⟨hasBegun, ⟨kind, wasOpen⟩, rfl⟩ := result
    refine ⟨by simp [hasBegun], by simp [ended], by simp [used], ?_, ?_⟩
    · intro j k
      grind
    · intro j old
      rcases mem_append.mp old with earlier | now
      · simpa using stopped j earlier
      · obtain rfl : j = i := by simpa using now
        exact ⟨kind, mem_append_left _ ((opened j kind).mp wasOpen).1⟩
  | note =>
    obtain ⟨hasBegun, rfl⟩ := result
    exact ⟨by simp [hasBegun], by simp [ended], by simp [used], by simp [opened],
      by simpa using stopped⟩
  | tail =>
    obtain ⟨hasBegun, rfl⟩ := result
    exact ⟨by simp [hasBegun], by simp, by simp [used], by simp [opened], by simpa using stopped⟩

/-- The whole sequence: the monitor refuses it, or every signal is in place. -/
theorem tracks_foldl (signals : List (Signal ι κ)) :
    (∃ monitor, signals.foldl watch (some Monitor.initial) = some monitor ∧ monitor.Tracks signals ∧
        ∀ before signal after, signals = before ++ signal :: after → InPlace before signal) ∨
      (signals.foldl watch (some (Monitor.initial : Monitor ι κ)) = none ∧
        ∃ before signal after, signals = before ++ signal :: after ∧ ¬ InPlace before signal) := by
  induction signals using List.reverseRecOn with
  | nil => exact .inl ⟨Monitor.initial, rfl, Monitor.tracks_initial, by simp⟩
  | append_singleton signals signal ih =>
    rw [foldl_concat]
    rcases ih with ⟨monitor, reached, tracks, placed⟩ | ⟨refused, before, wrong, after, split, unplaced⟩
    · rw [reached, watch_some]
      have goes := tracks.read_isSome_iff signal
      cases reads : monitor.read signal with
      | none =>
        rw [reads] at goes
        exact .inr ⟨rfl, signals, signal, [], rfl, by simpa using goes⟩
      | some next =>
        rw [reads] at goes
        refine .inl ⟨next, rfl, tracks.next reads, fun before later after split => ?_⟩
        rcases eq_nil_or_concat after with rfl | ⟨middle, last, rfl⟩
        · obtain ⟨rfl, isLast⟩ := append_inj' split rfl
          obtain rfl : signal = later := by simpa using isLast
          exact goes.mp rfl
        · refine placed before later middle ?_
          rw [concat_eq_append, ← cons_append, ← append_assoc] at split
          exact (append_inj' split rfl).1
    · exact .inr ⟨by rw [refused, watch_none], before, wrong, after ++ [signal], by simp [split],
        unplaced⟩

/-- The monitor accepts exactly the well-formed sequences. -/
theorem wellFormed_iff_accepts (signals : List (Signal ι κ)) :
    WellFormed signals ↔ Accepts (signals.foldl watch (some Monitor.initial)) := by
  rw [wellFormed_iff]
  rcases tracks_foldl signals with ⟨monitor, reached, tracks, placed⟩ | ⟨refused, before, wrong, after, split, unplaced⟩
  · have nothingOpen : monitor.opened = [] ↔ ∀ i k, .start i k ∈ signals → .stop i ∈ signals := by
      rw [eq_nil_iff_forall_not_mem, Prod.forall]
      simp [tracks.opened]
    rw [reached]
    show _ ↔ monitor.ended = true ∧ monitor.opened = []
    rw [tracks.ended, nothingOpen]
    exact ⟨fun ⟨_, stopped, isOver⟩ => ⟨isOver, stopped⟩, fun ⟨isOver, stopped⟩ => ⟨placed, stopped, isOver⟩⟩
  · rw [refused]
    exact ⟨fun formed => absurd (formed.1 before wrong after split) unplaced, False.elim⟩

/-! ## What a sender knows of the monitor -/

/-- Nothing was refused, these blocks are open, and these indexes are new. -/
def Shows (isOpen : ι → κ → Prop) (fresh : ι → Prop) : Option (Monitor ι κ) → Prop
  | none => False
  | some monitor =>
    monitor.begun = true ∧ monitor.ended = false ∧
      (∀ i k, (i, k) ∈ monitor.opened ↔ isOpen i k) ∧
      (∀ i k, (i, k) ∈ monitor.opened → i ∈ monitor.used) ∧
      ∀ i, fresh i → i ∉ monitor.used

/-- Something was refused, or the message goes on and the block is not open. -/
def Unopened (i : ι) : Option (Monitor ι κ) → Prop
  | none => True
  | some monitor => monitor.ended = false ∧ ∀ k, (i, k) ∉ monitor.opened

/-- Something was refused, or the index has been used. -/
def Spent (i : ι) : Option (Monitor ι κ) → Prop
  | none => True
  | some monitor => i ∈ monitor.used

variable {isOpen : ι → κ → Prop} {fresh : ι → Prop} {i : ι} {watcher : Option (Monitor ι κ)}

theorem shows_head : Shows (fun _ _ => False) (fun _ => True) (watch (some (Monitor.initial : Monitor ι κ)) .head) := by
  simp [Monitor.read, Monitor.initial, Shows]

omit [DecidableEq ι] [DecidableEq κ] in
theorem Shows.congr {others : ι → κ → Prop} {fewer : ι → Prop}
    (shows : Shows isOpen fresh watcher) (same : ∀ i k, isOpen i k ↔ others i k)
    (less : ∀ i, fewer i → fresh i) : Shows others fewer watcher := by
  cases watcher with
  | none => exact shows
  | some monitor =>
    obtain ⟨begun, going, opened, known, unused⟩ := shows
    exact ⟨begun, going, fun i k => (opened i k).trans (same i k), known, fun i new => unused i (less i new)⟩

section
variable (shows : Shows isOpen fresh watcher)

include shows

theorem Shows.head : watch watcher .head = watcher := by
  cases watcher with
  | none => rfl
  | some monitor =>
    obtain ⟨begun, going, -⟩ := shows
    obtain ⟨_, _, opened, used⟩ := monitor
    simp_all [Monitor.read]

theorem Shows.start (new : fresh i) (kind : κ) :
    Shows (fun j k => (j = i ∧ k = kind) ∨ isOpen j k) (fun j => fresh j ∧ j ≠ i) (watch watcher (.start i kind)) := by
  cases watcher with
  | none => exact shows.elim
  | some monitor =>
    obtain ⟨begun, going, opened, known, unused⟩ := shows
    have reads : monitor.read (.start i kind) = some { monitor with
        opened := (i, kind) :: monitor.opened, used := i :: monitor.used } := by
      simp [Monitor.read, begun, going, unused i new]
    rw [watch_some, reads]
    refine ⟨begun, going, fun j k => ?_, fun j k member => ?_, fun j free member => ?_⟩
    · simp [opened]
    · rcases mem_cons.mp member with same | old
      · simp [(Prod.mk.inj same).1]
      · exact mem_cons_of_mem _ (known j k old)
    · rcases mem_cons.mp member with rfl | old
      · exact free.2 rfl
      · exact unused j free.1 old

theorem Shows.delta (opened : isOpen i kind) : watch watcher (.delta i kind) = watcher := by
  cases watcher with
  | none => rfl
  | some monitor =>
    obtain ⟨begun, going, isOpened, -⟩ := shows
    have member := (isOpened i kind).mpr opened
    simp [Monitor.read, begun, going, member]

theorem Shows.stop (opened : isOpen i kind) :
    Shows (fun j k => isOpen j k ∧ j ≠ i) fresh (watch watcher (.stop i)) := by
  cases watcher with
  | none => exact shows.elim
  | some monitor =>
    obtain ⟨begun, going, isOpened, known, unused⟩ := shows
    have member : ∃ k, (i, k) ∈ monitor.opened := ⟨kind, (isOpened i kind).mpr opened⟩
    have reads : monitor.read (.stop i) = some { monitor with
        opened := monitor.opened.filter fun block => block.1 ≠ i } := by
      simp [Monitor.read, begun, going, member]
    rw [watch_some, reads]
    refine ⟨begun, going, fun j k => ?_, fun j k inside => ?_, unused⟩
    · simp [isOpened]
    · exact known j k (mem_of_mem_filter inside)

theorem Shows.note : watch watcher .note = watcher := by
  cases watcher with
  | none => rfl
  | some monitor =>
    obtain ⟨begun, going, -⟩ := shows
    simp [Monitor.read, begun, going]

end

/-- With nothing open the tail is accepted. -/
theorem Shows.tail (shows : Shows (fun _ _ => False) fresh watcher) : Accepts (watch watcher .tail) := by
  cases watcher with
  | none => exact shows
  | some monitor =>
    obtain ⟨begun, going, opened, -⟩ := shows
    have closed : monitor.opened = [] := by
      rw [eq_nil_iff_forall_not_mem, Prod.forall]
      simpa using opened
    simp [Monitor.read, begun, going, Accepts, closed]

section

omit [DecidableEq ι] [DecidableEq κ]

theorem Shows.unopened (shows : Shows isOpen fresh watcher) (closed : ∀ k, ¬ isOpen i k) : Unopened i watcher := by
  cases watcher with
  | none => exact trivial
  | some monitor =>
    obtain ⟨-, going, opened, -⟩ := shows
    exact ⟨going, fun k member => closed k ((opened i k).mp member)⟩

theorem Shows.spent (shows : Shows isOpen fresh watcher) (opened : isOpen i kind) : Spent i watcher := by
  cases watcher with
  | none => exact trivial
  | some monitor =>
    obtain ⟨-, -, isOpened, known, -⟩ := shows
    exact known i kind ((isOpened i kind).mpr opened)

theorem Unopened.not_accepts (closed : Unopened i watcher) : ¬ Accepts watcher := by
  cases watcher with
  | none => exact id
  | some monitor =>
    rintro ⟨ended, -⟩
    exact Bool.false_ne_true (closed.1.symm.trans ended)

theorem Shows.not_accepts (shows : Shows isOpen fresh watcher) : ¬ Accepts watcher := by
  cases watcher with
  | none => exact id
  | some monitor =>
    obtain ⟨-, going, -⟩ := shows
    rintro ⟨ended, -⟩
    exact Bool.false_ne_true (going.symm.trans ended)

end

theorem Unopened.stop (closed : Unopened i watcher) : watch watcher (.stop i) = none := by
  cases watcher with
  | none => rfl
  | some monitor => simp [Monitor.read, closed.2]

/-- A block that is not started stays unopened. -/
theorem Unopened.watch (closed : Unopened i watcher) (other : ∀ k, signal ≠ .start i k) (goes : signal ≠ .tail) :
    Unopened i (Theory.watch watcher signal) := by
  cases watcher with
  | none => exact trivial
  | some monitor =>
    rw [watch_some]
    cases reads : monitor.read signal with
    | none => exact trivial
    | some next =>
      have result := Monitor.read_cases reads
      cases signal with
      | head =>
        obtain rfl : next = { monitor with begun := true } := result
        exact closed
      | start j k =>
        obtain ⟨-, -, rfl⟩ := result
        refine ⟨closed.1, fun kind member => ?_⟩
        rcases mem_cons.mp member with same | old
        · obtain ⟨rfl, -⟩ := Prod.mk.inj same
          exact other k rfl
        · exact closed.2 kind old
      | stop j =>
        obtain ⟨-, -, rfl⟩ := result
        exact ⟨closed.1, fun k member => closed.2 k (mem_of_mem_filter member)⟩
      | delta j k | note =>
        obtain ⟨-, rfl⟩ := result
        exact closed
      | tail => exact absurd rfl goes

theorem Spent.start (spent : Spent i watcher) (kind : κ) : watch watcher (.start i kind) = none := by
  cases watcher with
  | none => rfl
  | some monitor =>
    have used : i ∈ monitor.used := spent
    simp [Monitor.read, used]

/-- What has been used stays used. -/
theorem Spent.watch (spent : Spent i watcher) (signal : Signal ι κ) : Spent i (Theory.watch watcher signal) := by
  cases watcher with
  | none => exact trivial
  | some monitor =>
    rw [watch_some]
    cases reads : monitor.read signal with
    | none => exact trivial
    | some next =>
      have result := Monitor.read_cases reads
      cases signal with
      | head =>
        obtain rfl : next = { monitor with begun := true } := result
        exact spent
      | start j k =>
        obtain ⟨-, -, rfl⟩ := result
        exact mem_cons_of_mem _ spent
      | stop j =>
        obtain ⟨-, -, rfl⟩ := result
        exact spent
      | delta j k | note | tail =>
        obtain ⟨-, rfl⟩ := result
        exact spent

end NewApi.Theory
