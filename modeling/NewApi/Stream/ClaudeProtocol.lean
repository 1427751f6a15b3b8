/-
# Stream.ClaudeProtocol — the converter beside the monitor of a message

An `Outline` follows a stream through its tool calls without looking at the converter: no tool call
yet, a run of them, or past it.  As long as it is in order, the blocks that the monitor has open are
those that the converter would stop (`Outline.Holds`).  Once it is not, the converter will stop a
block that it has never started (`Doomed`): its tool call has had its name already.
-/
import NewApi.Theory.Message
import NewApi.Stream.ClaudeRun

namespace NewApi.Stream
open Theory Emitter ClaudeConvertInfo ClaudeEvent List Option

/-! ## Events as signals -/

inductive BlockKind where
  | text
  | thinking
  | toolUse
deriving DecidableEq

def Block.kind : Block → BlockKind
  | .text => .text
  | .thinking => .thinking
  | .toolUse _ _ _ => .toolUse

def BlockDelta.kind : BlockDelta → BlockKind
  | .text _ => .text
  | .thinking _ => .thinking
  | .inputJson _ => .toolUse

def ClaudeEvent.signal : ClaudeEvent → Signal Nat BlockKind
  | .messageStart _ _ _ => .head
  | .contentBlockStart index block => .start index block.kind
  | .contentBlockDelta index delta => .delta index delta.kind
  | .contentBlockStop index => .stop index
  | .messageDelta _ _ => .note
  | .messageStop => .tail

variable (events : List ClaudeEvent)

/-- The events are a well-formed Claude message. -/
def WellFormedMessage : Prop := WellFormed (events.map signal)

abbrev Watcher := Option (Monitor Nat BlockKind)

def observe (watcher : Watcher) (event : ClaudeEvent) : Watcher := watch watcher event.signal

theorem wellFormedMessage_iff : WellFormedMessage events ↔ Accepts (events.foldl observe (some Monitor.initial)) := by
  rw [WellFormedMessage, wellFormed_iff_accepts, foldl_map]
  rfl

@[simp] theorem observe_none (event : ClaudeEvent) : observe none event = none := rfl

@[simp] theorem foldl_observe_none : events.foldl observe none = none := by
  induction events with
  | nil => rfl
  | cons event events ih => simpa using ih

def Chunk.calls (chunk : Chunk) : List (Nat × ToolCall) :=
  chunk.choices.flatMap fun choice => choice.delta.indexedCalls

/-- A tool call with a name is the next one that has none yet, one without has been named. -/
def introduce (introduced : Option Nat) (call : Nat × ToolCall) : Option Nat :=
  match introduced with
  | none => none
  | some total =>
    if call.2.name ≠ "" then if call.1 = total then some (total + 1) else none
    else if call.1 < total then some total else none

/-- The upstreams in question: tool calls are introduced in order, each named exactly once. -/
structure Upstream (chunks : List Chunk) : Prop where
  single : SingleChoice chunks
  introduced : ((chunks.flatMap Chunk.calls).foldl introduce (some 0)).isSome

/-! ## The condition -/

/-- Where a stream is: no tool call yet, so many tool calls of the only run of them, or past
that run. -/
inductive Phase where
  | before
  | tools (count : Nat)
  | after
deriving DecidableEq

/-- One tool call in a run of them: known to this run, or the next one with its name. -/
def Phase.call (phase : Option Phase) (call : Nat × ToolCall) : Option Phase :=
  match phase with
  | some (.tools count) =>
    if call.1 < count then some (.tools count)
    else if call.1 = count ∧ call.2.name ≠ "" then some (.tools (count + 1))
    else none
  | _ => none

def Phase.openTools : Phase → Option Phase
  | .before => some (.tools 0)
  | .tools count => some (.tools count)
  | .after => none

def Phase.prose : Phase → Phase
  | .before => .before
  | _ => .after

def Phase.content (phase : Phase) (delta : Delta) : Option Phase :=
  match delta.toolCalls with
  | _ :: _ => delta.indexedCalls.foldl Phase.call phase.openTools
  | [] => if delta.prose.isSome then some phase.prose else some phase

/-- The rest of the stream has an end, and its tool calls up to there come in one run, from 0
and without gaps.  A chunk that finishes without a usage is not converted. -/
def closesOrderly (phase : Phase) : List Chunk → Bool
  | [] => false
  | chunk :: rest =>
    match chunk.choices with
    | [] => true
    | choice :: _ =>
      if choice.finishes then
        if chunk.usage.isSome then (phase.content choice.delta).isSome
        else closesOrderly phase rest
      else
        match phase.content choice.delta with
        | none => false
        | some next => closesOrderly next rest

/-- The first chunk's content: of its tool calls only the first one counts. -/
def firstPhase (delta : Delta) : Phase :=
  if delta.toolCalls.isEmpty then .before
  else if delta.prose.isSome then .after
  else .tools 1

/-- The kind of block that the first chunk leaves open. -/
def Delta.lastType (delta : Delta) : MessagesType :=
  match delta.prose with
  | some prose => prose.messagesType
  | none => if delta.toolCalls.isEmpty then .none else .tools

/-- In a stream of two chunks both are taken for the first one: the second must not bring tool
calls after other blocks, or go on with a block. -/
def secondFits (first second : Delta) : Bool :=
  if second.toolCalls.isEmpty then
    match second.prose with
    | none => true
    | some prose => first.lastType != prose.messagesType
  else first.lastType == .none

def convertsWell : List Chunk → Bool
  | [] => false
  | [_] => false
  | first :: second :: rest =>
    match first.choices with
    | [] => false
    | choice :: _ =>
      if choice.finishes then true
      else match rest with
        | [] =>
          match second.choices with
          | [] => false
          | last :: _ => last.finishes && secondFits choice.delta last.delta
        | _ :: _ => closesOrderly (firstPhase choice.delta) (second :: rest)

/-! ## The conversion state and the monitor -/

/-- The block that text or thinking has open. -/
def ClaudeConvertInfo.proseOpen (info : ClaudeConvertInfo) (i : Nat) (kind : BlockKind) : Prop :=
  i = info.index ∧
    (info.lastMessagesType = .text ∧ kind = .text ∨ info.lastMessagesType = .thinking ∧ kind = .thinking)

/-- Outside a run of tool calls. -/
def Outside (info : ClaudeConvertInfo) (watcher : Watcher) : Prop :=
  info.lastMessagesType ≠ .tools ∧
    Shows info.proseOpen (fun i => info.nextIndex ≤ i) watcher

/-- Inside a run of tool calls, `count` of which have their blocks open. -/
def InTools (count : Nat) (info : ClaudeConvertInfo) (watcher : Watcher) : Prop :=
  info.lastMessagesType = .tools ∧ info.toolCallMaxIndexOffset = count - 1 ∧
    Shows (fun i kind => kind = .toolUse ∧ info.toolCallBaseIndex ≤ i ∧ i < info.toolCallBaseIndex + count)
      (fun i => info.toolCallBaseIndex + count ≤ i) watcher

/-- Nothing can save the stream: something was refused, or the blocks to be stopped include one
that was not started, for a call that has had its name. -/
def Doomed (total : Nat) (info : ClaudeConvertInfo) (watcher : Watcher) : Prop :=
  watcher = none ∨
    info.lastMessagesType = .tools ∧
      ∃ offset ≤ info.toolCallMaxIndexOffset, offset < total ∧
        Unopened (info.toolCallBaseIndex + offset) watcher

/-- Where a stream is, and how many of its tool calls have had their names. -/
structure Outline where
  phase : Option Phase
  introduced : Option Nat

open Outline

/-- Between two chunks. -/
def Outline.Holds (outline : Outline) (info : ClaudeConvertInfo) (watcher : Watcher) : Prop :=
  ∀ total, outline.introduced = some total →
    match outline.phase with
    | none => Doomed total info watcher
    | some .before => Outside info watcher
    | some .after => 0 < total ∧ Outside info watcher
    | some (.tools count) => 0 < count ∧ count ≤ total ∧ InTools count info watcher

/-- Between two tool calls of one chunk. -/
def Outline.Runs (outline : Outline) (info : ClaudeConvertInfo) (watcher : Watcher) : Prop :=
  ∀ total, outline.introduced = some total →
    match outline.phase with
    | none => Doomed total info watcher
    | some (.tools count) => count ≤ total ∧ InTools count info watcher
    | _ => False

/-! ## Stopping blocks -/

variable {watcher : Watcher} {count total i : Nat} {info : ClaudeConvertInfo}
  {introduced : Option Nat}

/-- The blocks of a run of tool calls are stopped one after the other. -/
theorem foldl_stops (base count : Nat) (shows : Shows (fun i kind => kind = .toolUse ∧ base ≤ i ∧ i < base + count)
      (fun i => base + count ≤ i) watcher) : ∀ n ≤ count, Shows
      (fun i kind => kind = BlockKind.toolUse ∧ base + n ≤ i ∧ i < base + count) (fun i => base + count ≤ i)
      (((List.range n).map fun offset => contentBlockStop (base + offset)).foldl observe watcher) := by
  intro n
  induction n with
  | zero => exact fun _ => shows
  | succ n ih =>
    intro bound
    rw [range_succ, map_append, foldl_append]
    have isOpen : BlockKind.toolUse = .toolUse ∧ base + n ≤ base + n ∧ base + n < base + count :=
      ⟨rfl, le_rfl, by omega⟩
    refine ((ih (by omega)).stop isOpen).congr (fun i kind => ?_) (fun _ new => new)
    constructor
    · rintro ⟨⟨isTool, above, below⟩, apart⟩
      exact ⟨isTool, by omega, below⟩
    · rintro ⟨isTool, above, below⟩
      exact ⟨⟨isTool, by omega, below⟩, by omega⟩

theorem InTools.stops (inside : InTools count info watcher) (some : 0 < count) :
    Shows (fun _ _ => False) (fun i => info.nextIndex ≤ i) ((stopOpenBlocks info).foldl observe watcher) := by
  obtain ⟨isTools, isMax, shows⟩ := inside
  have stopped := foldl_stops _ _ shows count le_rfl
  have length : info.toolCallMaxIndexOffset + 1 = count := by omega
  rw [stopOpenBlocks, isTools]
  simp only [length]
  refine stopped.congr (fun i kind => ?_) (fun i new => ?_)
  · simp only [iff_false, not_and]
    intro _ above
    omega
  · simp only [nextIndex, isTools] at new
    omega

theorem Outside.stops (outside : Outside info watcher) : Shows (fun _ _ => False) (fun i => info.nextIndex ≤ i)
      ((stopOpenBlocks info).foldl observe watcher) := by
  obtain ⟨notTools, shows⟩ := outside
  cases last : info.lastMessagesType with
  | tools => exact absurd last notTools
  | none =>
    rw [stopOpenBlocks, last]
    exact shows.congr (by simp [proseOpen, last]) (fun _ new => new)
  | text =>
    rw [stopOpenBlocks, last]
    have isOpen : info.proseOpen info.index .text := ⟨rfl, .inl ⟨last, rfl⟩⟩
    exact (shows.stop isOpen).congr (fun i kind => ⟨fun both => both.2 both.1.1, False.elim⟩) (fun _ new => new)
  | thinking =>
    rw [stopOpenBlocks, last]
    have isOpen : info.proseOpen info.index .thinking := ⟨rfl, .inr ⟨last, rfl⟩⟩
    exact (shows.stop isOpen).congr (fun i kind => ⟨fun both => both.2 both.1.1, False.elim⟩) (fun _ new => new)

/-- Stops of other blocks do not open one. -/
theorem foldl_stops_refused (i : Nat) : ∀ (stops : List Nat) (watcher : Watcher), i ∈ stops → Unopened i watcher →
      (stops.map contentBlockStop).foldl observe watcher = none := by
  intro stops
  induction stops with
  | nil => simp
  | cons j stops ih =>
    intro watcher member closed
    by_cases same : j = i
    · subst same
      have refused : observe watcher (.contentBlockStop j) = none := closed.stop
      simp [refused]
    · have later : i ∈ stops := (mem_cons.mp member).resolve_left (Ne.symm same)
      exact ih _ later (closed.watch (by simp [signal]) (by simp [signal]))

theorem Doomed.stops (doomed : Doomed total info watcher) : (stopOpenBlocks info).foldl observe watcher = none := by
  rcases doomed with rfl | ⟨isTools, offset, within, -, closed⟩
  · exact foldl_observe_none _
  have events : stopOpenBlocks info =
      ((List.range (info.toolCallMaxIndexOffset + 1)).map (info.toolCallBaseIndex + ·)).map contentBlockStop := by
    simp [stopOpenBlocks, isTools]
  rw [events]
  refine foldl_stops_refused _ _ watcher ?_ closed
  exact mem_map.mpr ⟨offset, mem_range.mpr (by omega), rfl⟩

variable {outline : Outline} {before : Nat} {phase : Option Phase}

/-- The end of the message is accepted exactly if nothing has gone wrong. -/
theorem Outline.Holds.ends (holds : outline.Holds info watcher) (valid : outline.introduced = some total)
    (usage : Option Usage) (stopReason : String) : Accepts ((stopOpenBlocks info ++
      (messageDelta usage stopReason ++ [messageStop])).foldl observe watcher) ↔ outline.phase.isSome := by
  have known := holds total valid
  rw [foldl_append, foldl_append]
  have closes : ∀ {fresh : Nat → Prop} {watcher : Watcher}, Shows (fun _ _ => False) fresh watcher →
        Accepts (observe ((messageDelta usage stopReason).foldl observe watcher) .messageStop) := by
    intro fresh watcher shows
    cases usage with
    | none => exact shows.tail
    | some usage =>
      have noted : observe watcher
          (.messageDelta (buildClaudeUsageFromOpenAIUsage usage) stopReason) = watcher := shows.note
      show Accepts (observe (observe watcher _) .messageStop)
      rw [noted]
      exact shows.tail
  cases isPhase : outline.phase with
  | none =>
    rw [isPhase] at known
    rw [Doomed.stops known]
    simp [Accepts]
  | some phase =>
    rw [isPhase] at known
    simp only [isSome_some, iff_true]
    cases phase with
    | before => exact closes (Outside.stops known)
    | after => exact closes (Outside.stops known.2)
    | tools count => exact closes (InTools.stops known.2.2 known.1)

/-! ## Tool calls -/

def Outline.call (outline : Outline) (call : Nat × ToolCall) : Outline :=
  ⟨Phase.call outline.phase call, introduce outline.introduced call⟩

/-- What a valid tool call does to the number of named ones. -/
theorem introduce_eq_some {call : Nat × ToolCall} (valid : introduce introduced call = some total) :
    (call.2.name ≠ "" ∧ introduced = some call.1 ∧ total = call.1 + 1) ∨
      (call.2.name = "" ∧ introduced = some total ∧ call.1 < total) := by
  cases introduced with
  | none => exact absurd valid (by simp [introduce])
  | some before =>
    by_cases named : call.2.name = ""
    · simp only [introduce, named, ne_eq, not_true_eq_false, if_false, ite_none_right_eq_some,
        Option.some.injEq] at valid
      obtain ⟨known, rfl⟩ := valid
      exact .inr ⟨named, rfl, known⟩
    · simp only [introduce, ne_eq, named, not_false_eq_true, if_true, ite_none_right_eq_some,
        Option.some.injEq] at valid
      obtain ⟨next, rfl⟩ := valid
      exact .inl ⟨named, by rw [next], by omega⟩

/-- Arguments for an open block are read. -/
theorem foldl_toolArguments {isOpen : Nat → BlockKind → Prop} {fresh : Nat → Prop}
    (shows : Shows isOpen fresh watcher) (opened : isOpen i .toolUse)
    (toolCall : ToolCall) : (toolArguments i toolCall).foldl observe watcher = watcher := by
  unfold toolArguments
  split
  · exact shows.delta opened
  · rfl

theorem unopened_foldl : ∀ (events : List ClaudeEvent) {watcher : Watcher}, Unopened i watcher →
      (∀ event ∈ events, (∀ k, event.signal ≠ .start i k) ∧ event.signal ≠ .tail) →
      Unopened i (events.foldl observe watcher) := by
  intro events
  induction events with
  | nil => exact fun closed _ => closed
  | cons event events ih =>
    intro watcher closed others
    obtain ⟨⟨other, goes⟩, rest⟩ := forall_mem_cons.mp others
    exact ih (closed.watch other goes) rest

/-- A tool call of another block leaves a block unopened. -/
theorem unopened_laterToolCall (closed : Unopened i watcher) {call : Nat × ToolCall}
    (apart : call.2.name ≠ "" → info.toolCallBaseIndex + call.1 ≠ i) :
    Unopened i ((laterToolCall call info).2.foldl observe watcher) := by
  refine unopened_foldl _ closed fun event member => ?_
  rcases mem_append.mp member with start | arguments
  · obtain ⟨named, rfl⟩ : call.2.name ≠ "" ∧ event = startToolUse (info.toolCallBaseIndex + call.1) call.1 call.2 := by
      simpa using start
    exact ⟨fun k same => apart named (Signal.start.inj same).1, nofun⟩
  · obtain ⟨-, rfl⟩ : call.2.arguments ≠ "" ∧ event = .contentBlockDelta
        (info.toolCallBaseIndex + call.1) (.inputJson call.2.arguments) := by
      simpa [toolArguments] using arguments
    exact ⟨nofun, nofun⟩

/-- Once a stream is doomed a tool call does not help. -/
theorem Doomed.laterToolCall {call : Nat × ToolCall} (doomed : Doomed before info watcher)
    (below : before ≤ total) (named : call.2.name ≠ "" → call.1 = before) : Doomed total (laterToolCall call info).1
      ((laterToolCall call info).2.foldl observe watcher) := by
  rcases doomed with rfl | ⟨isTools, offset, within, introduced, closed⟩
  · exact .inl (foldl_observe_none _)
  · refine .inr ⟨isTools, offset, le_trans within (le_max_left _ _), by omega, ?_⟩
    exact unopened_laterToolCall closed fun isNamed => by have := named isNamed; omega

section
variable {call : Nat × ToolCall} (inside : InTools count info watcher)
include inside

/-- A tool call that is out of order dooms the stream. -/
theorem InTools.out_of_order (unknown : count ≤ call.1) (wrong : call.1 = count → call.2.name = "")
    (named : call.2.name ≠ "" → call.1 = before ∧ total = before + 1)
    (unnamed : call.2.name = "" → call.1 < total) : Doomed total (laterToolCall call info).1
      ((laterToolCall call info).2.foldl observe watcher) := by
  obtain ⟨isTools, isMax, shows⟩ := inside
  have closed : Unopened (info.toolCallBaseIndex + count) watcher := shows.unopened fun k => by omega
  refine .inr ⟨isTools, count, le_trans unknown (le_max_right _ _), ?_, ?_⟩
  · by_cases isNamed : call.2.name = ""
    · have := unnamed isNamed
      omega
    · have := named isNamed
      omega
  · refine unopened_laterToolCall closed fun isNamed same => isNamed (wrong ?_)
    omega

/-- The next tool call in order, with its name. -/
theorem InTools.next (next : call.1 = count)
    (named : call.2.name ≠ "") : InTools (count + 1) (laterToolCall call info).1
      ((laterToolCall call info).2.foldl observe watcher) := by
  obtain ⟨isTools, isMax, shows⟩ := inside
  have started := shows.start (i := info.toolCallBaseIndex + call.1) (show _ ≤ _ by omega) BlockKind.toolUse
  have arguments := foldl_toolArguments started (.inl ⟨rfl, rfl⟩) call.2
  have events : (laterToolCall call info).2 = startToolUse (info.toolCallBaseIndex + call.1) call.1 call.2 ::
        toolArguments (info.toolCallBaseIndex + call.1) call.2 := by
    simp [Stream.laterToolCall, named]
  rw [events]
  refine ⟨isTools, ?_, ?_⟩
  · show max _ _ = _
    omega
  show Shows _ _ (List.foldl observe (watch watcher (.start _ .toolUse)) _)
  rw [arguments]
  refine started.congr (fun i kind => ?_) (fun i new => ?_)
  · show _ ↔ kind = .toolUse ∧ info.toolCallBaseIndex ≤ i ∧ i < info.toolCallBaseIndex + (count + 1)
    constructor
    · rintro (⟨rfl, rfl⟩ | ⟨rfl, above, below⟩)
      · exact ⟨rfl, by omega, by omega⟩
      · exact ⟨rfl, above, by omega⟩
    · rintro ⟨rfl, above, below⟩
      by_cases last : i = info.toolCallBaseIndex + call.1
      · exact .inl ⟨last, rfl⟩
      · exact .inr ⟨rfl, above, by omega⟩
  · change info.toolCallBaseIndex + (count + 1) ≤ i at new
    exact ⟨by omega, by omega⟩

/-- A fragment for a tool call of this run. -/
theorem InTools.known (known : call.1 < count)
    (unnamed : call.2.name = "") : InTools count (laterToolCall call info).1
      ((laterToolCall call info).2.foldl observe watcher) := by
  obtain ⟨isTools, isMax, shows⟩ := inside
  have isOpen : BlockKind.toolUse = .toolUse ∧ info.toolCallBaseIndex ≤ info.toolCallBaseIndex + call.1 ∧
      info.toolCallBaseIndex + call.1 < info.toolCallBaseIndex + count :=
    ⟨rfl, by omega, by omega⟩
  have arguments := foldl_toolArguments shows isOpen call.2
  have events : (laterToolCall call info).2 = toolArguments (info.toolCallBaseIndex + call.1) call.2 := by
    simp [Stream.laterToolCall, unnamed]
  rw [events, arguments]
  refine ⟨isTools, ?_, shows⟩
  show max _ _ = _
  omega

end

variable (outline : Outline)

/-- One tool call of a run. -/
theorem laterToolCall_runs (call : Nat × ToolCall) :
    Leads observe outline.Runs (laterToolCall call) (outline.call call).Runs := by
  intro info watcher runs total valid
  have counted := introduce_eq_some valid
  obtain ⟨before, wasIntroduced, below, named, unnamed⟩ : ∃ before, outline.introduced = some before ∧ before ≤ total ∧
        (call.2.name ≠ "" → call.1 = before ∧ total = before + 1) ∧
        (call.2.name = "" → call.1 < total ∧ total = before) := by
    rcases counted with ⟨isNamed, was, rfl⟩ | ⟨isUnnamed, was, bound⟩
    · exact ⟨_, was, by omega, fun _ => ⟨rfl, rfl⟩, fun no => absurd no isNamed⟩
    · exact ⟨_, was, le_rfl, fun yes => absurd isUnnamed yes, fun _ => ⟨bound, rfl⟩⟩
  have known := runs before wasIntroduced
  show match Phase.call outline.phase call with
    | none => Doomed total _ _
    | some (.tools count) => count ≤ total ∧ InTools count _ _
    | _ => False
  cases isPhase : outline.phase with
  | none =>
    rw [isPhase] at known
    exact Doomed.laterToolCall known below fun isNamed => (named isNamed).1
  | some phase =>
    rw [isPhase] at known
    cases phase with
    | before | after => exact known.elim
    | tools count =>
      obtain ⟨within, inside⟩ := known
      by_cases old : call.1 < count
      · have isUnnamed : call.2.name = "" := by
          by_contra isNamed
          have := named isNamed
          omega
        rw [Phase.call, if_pos old]
        exact ⟨by omega, inside.known old isUnnamed⟩
      · by_cases next : call.1 = count ∧ call.2.name ≠ ""
        · rw [Phase.call, if_neg old, if_pos next]
          exact ⟨by omega, inside.next next.1 next.2⟩
        · rw [Phase.call, if_neg old, if_neg next]
          refine inside.out_of_order (by omega) (fun same => ?_) named fun no => (unnamed no).1
          by_contra isNamed
          exact next ⟨same, isNamed⟩

theorem foldl_outline (calls : List (Nat × ToolCall)) : ∀ outline : Outline, calls.foldl call outline =
      ⟨calls.foldl Phase.call outline.phase, calls.foldl introduce outline.introduced⟩ := by
  induction calls with
  | nil => exact fun _ => rfl
  | cons call calls ih => exact fun outline => ih (outline.call call)

@[simp] theorem Phase.foldl_call_none (calls : List (Nat × ToolCall)) : calls.foldl Phase.call none = none := by
  induction calls with
  | nil => rfl
  | cons call calls ih => exact ih

/-- After a tool call the run has one. -/
theorem Phase.call_eq_some {call : Nat × ToolCall} {next : Phase}
    (goes : Phase.call phase call = some next) : ∃ count, next = .tools count ∧ 0 < count := by
  rcases phase with _ | ⟨_ | count | _⟩
  · cases goes
  · cases goes
  · rw [Phase.call] at goes
    split at goes
    · obtain rfl := Option.some.inj goes
      exact ⟨count, rfl, by omega⟩
    · split at goes
      · obtain rfl := Option.some.inj goes
        exact ⟨count + 1, rfl, by omega⟩
      · cases goes
  · cases goes

/-- A new base index, with no block started yet. -/
theorem openTools_shows (outside : Outside info watcher) :
    InTools 0 (openTools info).1 ((openTools info).2.foldl observe watcher) := by
  have stopped := outside.stops
  rw [openTools_outside outside.1]
  refine ⟨rfl, rfl, stopped.congr (fun i kind => ?_) (fun i new => ?_)⟩
  · simp only [false_iff, not_and, Nat.not_lt]
    exact fun _ above => above
  · rw [advanced_index] at new
    exact new

theorem openTools_runs : Leads observe outline.Holds openTools
      (Runs ⟨outline.phase.bind Phase.openTools, outline.introduced⟩) := by
  intro info watcher holds total valid
  have known := holds total valid
  cases isPhase : outline.phase with
  | none =>
    rw [isPhase] at known
    rcases known with rfl | ⟨isTools, closed⟩
    · exact .inl (foldl_observe_none _)
    · rw [openTools_inside isTools]
      exact .inr ⟨isTools, closed⟩
  | some phase =>
    rw [isPhase] at known
    cases phase with
    | before => exact ⟨Nat.zero_le _, openTools_shows known⟩
    | after =>
      obtain ⟨isTools, isMax, shows⟩ := openTools_shows known.2
      refine .inr ⟨isTools, 0, Nat.zero_le _, known.1, shows.unopened fun k => ?_⟩
      omega
    | tools count =>
      obtain ⟨-, within, inside⟩ := known
      rw [openTools_inside inside.1]
      exact ⟨within, inside⟩

/-- The tool calls of a later chunk. -/
theorem laterToolCalls_holds {delta : Delta} (calls : delta.toolCalls ≠ []) :
    Leads observe outline.Holds (laterToolCalls delta) (Holds
        ⟨delta.indexedCalls.foldl Phase.call (outline.phase.bind Phase.openTools),
          delta.indexedCalls.foldl introduce outline.introduced⟩) := by
  have looped := Leads.each laterToolCall_runs delta.indexedCalls
    ⟨outline.phase.bind Phase.openTools, outline.introduced⟩
  rw [foldl_outline] at looped
  refine (openTools_runs outline).andThen (looped.andThen (Leads.quiet ?_))
  intro info watcher runs total valid
  have known := runs total valid
  have listed : delta.indexedCalls ≠ [] := by simpa [Delta.indexedCalls] using calls
  rcases eq_nil_or_concat delta.indexedCalls with nothing | ⟨before, last, isLast⟩
  · exact absurd nothing listed
  cases isPhase : delta.indexedCalls.foldl Phase.call (outline.phase.bind Phase.openTools) with
  | none =>
    simp only [isPhase] at known
    exact known
  | some phase =>
    have goes := isPhase
    rw [isLast, concat_eq_append, foldl_append] at goes
    obtain ⟨count, rfl, positive⟩ := Phase.call_eq_some goes
    simp only [isPhase] at known
    exact ⟨positive, known⟩

variable (prose : Prose)

/-- A block of text or thinking that is started at the next index, and its first delta. -/
theorem startProse_outside (shows : Shows (fun _ _ => False) (fun i => info.index ≤ i) watcher) :
    Outside ((startProse prose).andThen (writeProse prose) info).1
      (((startProse prose).andThen (writeProse prose) info).2.foldl observe watcher) := by
  have started := shows.start (show _ ≤ _ from le_rfl) prose.block.kind
  have kinds : prose.delta.kind = prose.block.kind := by cases prose <;> rfl
  have written := started.delta (.inl ⟨rfl, rfl⟩)
  refine ⟨by cases prose <;> simp [writeProse, andThen, quiet, Prose.messagesType], ?_⟩
  show Shows _ _ (watch (watch watcher (.start info.index prose.block.kind)) (.delta info.index prose.delta.kind))
  rw [kinds, written]
  refine started.congr (fun i kind => ?_) (fun i new => ?_)
  · cases prose <;> simp [proseOpen, startProse, writeProse, andThen,
      write, quiet, Prose.messagesType, Prose.block, Block.kind]
  · have above : info.index + 1 ≤ i := by
      cases prose <;> simpa [nextIndex, startProse, writeProse, andThen, write, quiet, Prose.messagesType] using new
    exact ⟨by omega, by omega⟩

/-- Text or thinking after blocks of another kind, or after none. -/
theorem laterProse_outside (other : info.lastMessagesType ≠ prose.messagesType)
    (stopped : Shows (fun _ _ => False) (fun i => info.nextIndex ≤ i) ((stopOpenBlocks info).foldl observe watcher)) :
    Outside (laterProse prose info).1 ((laterProse prose info).2.foldl observe watcher) := by
  rw [← info.advanced_index] at stopped
  have started := startProse_outside prose stopped
  simp only [laterProse, other, ne_eq, not_false_eq_true, if_true]
  rw [andThen, foldl_append]
  exact started

/-- Text or thinking in a block that is open. -/
theorem laterProse_continues (same : info.lastMessagesType = prose.messagesType) (outside : Outside info watcher) :
    Outside (laterProse prose info).1 ((laterProse prose info).2.foldl observe watcher) := by
  have isOpen : info.proseOpen info.index prose.delta.kind := by
    cases prose <;> simp_all [proseOpen, Prose.messagesType, Prose.delta, BlockDelta.kind]
  have written : observe watcher (.contentBlockDelta info.index prose.delta) = watcher := outside.2.delta isOpen
  rw [laterProse_same same]
  show Outside info (observe watcher _)
  rw [written]
  exact outside

theorem laterProse_holds (prose : Prose) : Leads observe outline.Holds (laterProse prose)
      (Holds ⟨outline.phase.map Phase.prose, outline.introduced⟩) := by
  intro info watcher holds total valid
  have known := holds total valid
  have goesOn : Outside info watcher →
      Outside (laterProse prose info).1 ((laterProse prose info).2.foldl observe watcher) := by
    intro outside
    by_cases same : info.lastMessagesType = prose.messagesType
    · exact laterProse_continues prose same outside
    · exact laterProse_outside prose same outside.stops
  cases isPhase : outline.phase with
  | none =>
    rw [isPhase] at known
    rcases known with rfl | doomed
    · exact .inl (foldl_observe_none _)
    have other : info.lastMessagesType ≠ prose.messagesType := doomed.1 ▸ prose.messagesType_ne_tools.symm
    have refused := Doomed.stops (.inr doomed)
    left
    simp only [laterProse, other, ne_eq, not_false_eq_true, if_true]
    rw [andThen, foldl_append]
    show List.foldl observe (List.foldl observe watcher (stopOpenBlocks info)) _ = none
    rw [refused, foldl_observe_none]
  | some phase =>
    rw [isPhase] at known
    cases phase with
    | before => exact goesOn known
    | after => exact ⟨known.1, goesOn known.2⟩
    | tools count =>
      obtain ⟨positive, within, inside⟩ := known
      have other : info.lastMessagesType ≠ prose.messagesType := inside.1 ▸ prose.messagesType_ne_tools.symm
      exact ⟨by omega, laterProse_outside prose other (inside.stops positive)⟩

/-- The content of a later chunk. -/
theorem laterContent_holds (delta : Delta) : Leads observe outline.Holds (laterContent delta)
      (Holds ⟨outline.phase.bind fun phase => phase.content delta,
        delta.indexedCalls.foldl introduce outline.introduced⟩) := by
  cases calls : delta.toolCalls with
  | cons first others =>
    have folded := laterToolCalls_holds outline (calls ▸ cons_ne_nil first others)
    have content : (outline.phase.bind fun phase => phase.content delta) =
        delta.indexedCalls.foldl Phase.call (outline.phase.bind Phase.openTools) := by
      cases outline.phase with
      | none => exact (Phase.foldl_call_none _).symm
      | some phase => simp [Phase.content, calls]
    simpa only [laterContent, calls, content] using folded
  | nil =>
    have silent : delta.indexedCalls = [] := by simp [Delta.indexedCalls, calls]
    cases said : delta.prose with
    | none =>
      have content : (outline.phase.bind fun phase => phase.content delta) = outline.phase := by
        simp [Phase.content, calls, said]
      rw [content, silent, laterContent, calls, said]
      exact Leads.quiet fun _ _ holds => holds
    | some prose =>
      have content : (outline.phase.bind fun phase => phase.content delta) = outline.phase.map Phase.prose := by
        cases outline.phase <;> simp [Phase.content, calls, said]
      rw [content, silent, laterContent, calls, said]
      exact laterProse_holds outline prose

/-- What is not converted still counts: later names are those of later tool calls. -/
theorem le_foldl_introduce (calls : List (Nat × ToolCall)) :
    ∀ {introduced : Option Nat} {total : Nat}, calls.foldl introduce introduced = some total →
      ∃ before ≤ total, introduced = some before := by
  induction calls with
  | nil => exact fun valid => ⟨_, le_rfl, valid⟩
  | cons call calls ih =>
    intro introduced total valid
    obtain ⟨middle, below, reached⟩ := ih valid
    rcases introduce_eq_some reached with ⟨-, was, rfl⟩ | ⟨-, was, -⟩
    · exact ⟨_, by omega, was⟩
    · exact ⟨_, below, was⟩

theorem Outline.Holds.skip (holds : Holds ⟨phase, introduced⟩ info watcher) (calls : List (Nat × ToolCall)) :
    Holds ⟨phase, calls.foldl introduce introduced⟩ info watcher := by
  intro total valid
  obtain ⟨before, below, was⟩ := le_foldl_introduce calls valid
  have known := holds before was
  rcases phase with _ | ⟨_ | count | _⟩
  · rcases known with refused | ⟨isTools, offset, within, named, closed⟩
    · exact .inl refused
    · exact .inr ⟨isTools, offset, within, lt_of_lt_of_le named below, closed⟩
  · exact known
  · exact ⟨known.1, le_trans known.2.1 below, known.2.2⟩
  · exact ⟨lt_of_lt_of_le known.1 below, known.2⟩

/-- As long as nothing has gone wrong nothing was refused. -/
theorem Outline.Holds.shows {phase : Phase} (holds : Holds ⟨some phase, introduced⟩ info watcher)
    (valid : introduced = some total) : ∃ isOpen fresh, Shows isOpen fresh watcher := by
  have known := holds total valid
  cases phase with
  | before => exact ⟨_, _, known.2⟩
  | after => exact ⟨_, _, known.2.2⟩
  | tools count => exact ⟨_, _, known.2.2.2.2⟩

variable {outline}

theorem Outline.Holds.not_accepts (holds : outline.Holds info watcher)
    (valid : outline.introduced = some total) : ¬ Accepts watcher := by
  have known := holds total valid
  rcases isPhase : outline.phase with _ | ⟨_ | count | _⟩ <;> rw [isPhase] at known
  · rcases known with rfl | ⟨-, _, -, -, closed⟩
    · exact id
    · exact closed.not_accepts
  · exact known.2.not_accepts
  · exact known.2.2.2.2.not_accepts
  · exact known.2.2.not_accepts

end NewApi.Stream
