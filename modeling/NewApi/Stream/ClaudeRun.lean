/-
# Stream.ClaudeRun — the conversion of a whole stream

The handler calls the converter with the chunk's number for all chunks but the last one, and with the
number of the chunk before it for the last one (`claudeEvents_eq`).  So a stream of one chunk has no
first chunk, a stream of two has two first chunks, and a longer one has one (`converse_later`).
-/
import NewApi.Stream.Handler

namespace NewApi.Stream
open Theory Emitter ClaudeConvertInfo List Option

def Output.claudeEvent? : Output → Option ClaudeEvent
  | .claudeData event => some event
  | _ => none

def claudeEvents (config : StreamConfig) (chunks : List Chunk) : List ClaudeEvent :=
  (oaiStreamHandler config chunks).filterMap Output.claudeEvent?

@[simp] theorem filterMap_claudeData (events : List ClaudeEvent) :
    events.filterMap (fun event => (Output.claudeData event).claudeEvent?) = events :=
  filterMap_some

/-- The usage of a chunk is kept for later ones. -/
def noteUsage (usage : Option Usage) : Converts := quiet fun info => { info with usage := usage.or info.usage }

/-- The conversion of the rest of a stream, `count` chunks of which have been converted.  At the
last chunk the usage that the handler has settled on is known. -/
def converse (estimatePromptTokens : Int) (settled : Usage) : Nat → List Chunk → Converts
  | _, [] => quiet id
  | count, chunk :: rest =>
    (noteUsage (if rest.isEmpty then some settled else chunk.usage)).andThen
      ((streamResponseOpenAI2Claude chunk (if rest.isEmpty then count else count + 1)
        estimatePromptTokens).andThen (converse estimatePromptTokens settled (count + 1) rest))

section
variable {config : StreamConfig}

variable (client : config.relayFormat = .claude)

include client

/-- A chunk that is passed on while the stream goes on. -/
theorem handleStreamFormat_claude (chunk : Chunk) (s : StreamState) :
    let converted := (noteUsage chunk.usage).andThen
      (streamResponseOpenAI2Claude chunk (s.sendResponseCount + 1) config.estimatePromptTokens)
        s.claudeConvertInfo
    handleStreamFormat config chunk s =
      ({ s with
          sendResponseCount := s.sendResponseCount + 1
          claudeConvertInfo := converted.1 }, converted.2.map Output.claudeData) := by
  cases known : chunk.usage <;>
    simp [handleStreamFormat, client, handleClaudeFormat, known, setClaudeUsage, sendClaude, noteUsage, andThen, quiet]

variable (chunks : List Chunk)

/-- The end of the stream converts the chunk that waits. -/
theorem endStream_claude {s : StreamState} {last : Chunk} (waiting : s.lastStreamData = some last) :
    ∃ settled, (endStream config chunks s).2.filterMap Output.claudeEvent? =
      (converse config.estimatePromptTokens settled s.sendResponseCount [last] s.claudeConvertInfo).2 := by
  refine ⟨settledUsage config chunks s.lastStreamData (handleLastResponse config s.lastStreamData
    (audioUsage config s.secondLastStreamData)), ?_⟩
  simp [endStream, client, waiting, handleFinalResponse, setClaudeUsage, sendClaude, converse,
    noteUsage, andThen, quiet]

theorem onStreamData_claude (all : List Chunk) : ∀ (s : StreamState) (last : Chunk), s.lastStreamData = some last →
      ∃ settled, (((each (onStreamData config) chunks).andThen
          (endStream config all)) s).2.filterMap Output.claudeEvent? =
        (converse config.estimatePromptTokens settled s.sendResponseCount (last :: chunks) s.claudeConvertInfo).2 := by
  induction chunks with
  | nil =>
    intro s last waiting
    simpa [each, andThen, quiet] using endStream_claude client all waiting
  | cons data chunks ih =>
    intro s last waiting
    obtain ⟨settled, rest⟩ := ih (onStreamData config data s).1 data rfl
    refine ⟨settled, ?_⟩
    simp only [each, andThen, append_assoc, filterMap_append] at rest ⊢
    rw [rest]
    simp [onStreamData, waiting, handleStreamFormat_claude client, converse, andThen, quiet]

/-- The whole handler, for a Claude client. -/
theorem claudeEvents_eq : ∃ settled, claudeEvents config chunks =
      (converse config.estimatePromptTokens settled 0 chunks .initial).2 := by
  cases chunks with
  | nil =>
    refine ⟨⟨0, 0, 0, 0, 0, 0⟩, ?_⟩
    simp [claudeEvents, oaiStreamHandler, each, andThen, quiet, endStream,
      client, handleFinalResponse, StreamState.initial, converse]
  | cons first rest =>
    have begins : onStreamData config first StreamState.initial =
        ({ StreamState.initial with lastStreamData := some first }, []) := by
      simp [onStreamData, StreamState.initial, andThen, quiet]
    obtain ⟨settled, converted⟩ := onStreamData_claude client rest (first :: rest)
      { StreamState.initial with lastStreamData := some first } first rfl
    refine ⟨settled, ?_⟩
    rw [claudeEvents, oaiStreamHandler]
    simp only [each, andThen, begins] at converted ⊢
    exact converted

end

/-! ## First chunks and later ones -/

/-- The converter at a chunk that it takes for the first one. -/
def openingChunk (chunk : Chunk) (estimatePromptTokens : Int) : Converts := fun info =>
  if info.done then (info, []) else firstChunk chunk estimatePromptTokens info

/-- The converter at a chunk that it does not take for the first one. -/
def laterChunk (chunk : Chunk) : Converts := fun info =>
  if info.done then (info, [])
  else match chunk.choices with
    | [] => usageOnlyChunk chunk.usage info
    | choice :: _ => laterChoice choice chunk.usage info

theorem streamResponse_opening (chunk : Chunk) (estimatePromptTokens : Int) :
    streamResponseOpenAI2Claude chunk 1 estimatePromptTokens = openingChunk chunk estimatePromptTokens := by
  funext info
  simp [streamResponseOpenAI2Claude, openingChunk]

theorem streamResponse_later (chunk : Chunk) {count : Nat} (estimatePromptTokens : Int) (later : count ≠ 1) :
    streamResponseOpenAI2Claude chunk count estimatePromptTokens = laterChunk chunk := by
  funext info
  cases listed : chunk.choices <;>
    simp only [streamResponseOpenAI2Claude, laterChunk, later, if_false, listed]

/-- The conversion of chunks that are all later ones. -/
def converseLater (settled : Usage) : List Chunk → Converts
  | [] => quiet id
  | chunk :: rest =>
    (noteUsage (if rest.isEmpty then some settled else chunk.usage)).andThen
      ((laterChunk chunk).andThen (converseLater settled rest))

variable (estimatePromptTokens : Int)

/-- Past the first chunk, and with the last one not the second. -/
theorem converse_later (settled : Usage) :
    ∀ (rest : List Chunk) (count : Nat), 1 ≤ count → 2 ≤ count ∨ 2 ≤ rest.length →
      converse estimatePromptTokens settled count rest = converseLater settled rest := by
  intro rest
  induction rest with
  | nil => intros; rfl
  | cons chunk rest ih =>
    intro count begun far
    have later : (if rest.isEmpty then count else count + 1) ≠ 1 := by
      cases rest with
      | nil => simp at far ⊢; omega
      | cons next rest => simp; omega
    rw [converse, converseLater, streamResponse_later chunk _ later, ih (count + 1) (by omega) (by omega)]

theorem converse_one (settled : Usage) (chunk : Chunk) :
    converse estimatePromptTokens settled 0 [chunk] = converseLater settled [chunk] := by
  rw [converse, converseLater, isEmpty_nil, if_pos rfl, if_pos rfl,
    streamResponse_later chunk _ (by decide), converse, converseLater]

/-- The initial state, with the usage of the first chunk noted. -/
def ClaudeConvertInfo.starting (usage : Option Usage) : ClaudeConvertInfo := { initial with usage := usage }

theorem converse_first (settled : Usage) (first second : Chunk) (rest : List Chunk) :
    let opened := openingChunk first estimatePromptTokens (.starting first.usage)
    (converse estimatePromptTokens settled 0 (first :: second :: rest) .initial).2 =
      opened.2 ++ (converse estimatePromptTokens settled 1 (second :: rest) opened.1).2 := by
  simp [converse, streamResponse_opening, noteUsage, andThen, quiet, starting, initial]

theorem converse_second (settled : Usage) (second : Chunk) (info : ClaudeConvertInfo) :
    (converse estimatePromptTokens settled 1 [second] info).2 =
      (openingChunk second estimatePromptTokens { info with usage := some settled }).2 := by
  simp [converse, streamResponse_opening, noteUsage, andThen, quiet]

/-- Once the message is over nothing more is written. -/
theorem converse_done (settled : Usage) :
    ∀ (rest : List Chunk) (count : Nat) (info : ClaudeConvertInfo), info.done = true →
      (converse estimatePromptTokens settled count rest info).2 = [] := by
  intro rest
  induction rest with
  | nil => intros; rfl
  | cons chunk rest ih =>
    intro count info isOver
    have still := ih (count + 1)
      { info with usage := (if rest.isEmpty then some settled else chunk.usage).or info.usage } isOver
    simpa [converse, andThen, noteUsage, quiet, streamResponseOpenAI2Claude, isOver] using still

theorem converseLater_done (settled : Usage) : ∀ (rest : List Chunk) (info : ClaudeConvertInfo), info.done = true →
      (converseLater settled rest info).2 = [] := by
  intro rest
  induction rest with
  | nil => intros; rfl
  | cons chunk rest ih =>
    intro info isOver
    have still := ih
      { info with usage := (if rest.isEmpty then some settled else chunk.usage).or info.usage } isOver
    simpa [converseLater, andThen, noteUsage, quiet, laterChunk, isOver] using still

/-! ## What the pieces do -/

variable (info : ClaudeConvertInfo)

/-- The first index that the converter has not used. -/
def ClaudeConvertInfo.nextIndex : Nat :=
  match info.lastMessagesType with
  | .none => info.index
  | .tools => info.toolCallBaseIndex + info.toolCallMaxIndexOffset + 1
  | _ => info.index + 1

theorem ClaudeConvertInfo.advanced_index : info.advanced.index = info.nextIndex := by
  unfold advanced nextIndex
  cases info.lastMessagesType <;> rfl

theorem openTools_inside {info : ClaudeConvertInfo} (inside : info.lastMessagesType = .tools) :
    openTools info = (info, []) := by
  obtain ⟨_, _, _, _, _, _, _⟩ := info
  obtain rfl := inside
  simp [openTools, andThen, quiet]

theorem openTools_outside {info : ClaudeConvertInfo} (outside : info.lastMessagesType ≠ .tools) : openTools info =
      ({ info.advanced with
          toolCallBaseIndex := info.advanced.index
          toolCallMaxIndexOffset := 0
          lastMessagesType := .tools }, stopOpenBlocks info) := by
  simp [openTools, outside, stopOpenBlocksAndAdvance, andThen, quiet]

theorem advanced_done : info.advanced.done = info.done := by
  unfold advanced
  cases info.lastMessagesType <;> rfl

theorem each_laterToolCall_kept (calls : List (Nat × ToolCall)) :
    ∀ info : ClaudeConvertInfo, (each laterToolCall calls info).1.done = info.done ∧
      (each laterToolCall calls info).1.lastMessagesType = info.lastMessagesType := by
  induction calls with
  | nil => exact fun _ => ⟨rfl, rfl⟩
  | cons call calls ih => exact fun info => ih (laterToolCall call info).1

theorem openTools_done : (openTools info).1.done = info.done := by
  by_cases inside : info.lastMessagesType = .tools
  · rw [openTools_inside inside]
  · rw [openTools_outside inside]
    exact advanced_done info

variable (prose : Prose)

theorem laterProse_done (info : ClaudeConvertInfo) : (laterProse prose info).1.done = info.done := by
  unfold laterProse
  split
  · exact advanced_done info
  · rfl

theorem laterContent_done (delta : Delta) (info : ClaudeConvertInfo) :
    (laterContent delta info).1.done = info.done := by
  cases calls : delta.toolCalls with
  | cons first others =>
    rw [laterContent, calls]
    exact (each_laterToolCall_kept _ _).1.trans (openTools_done info)
  | nil =>
    cases said : delta.prose with
    | none => rw [laterContent, calls, said]; rfl
    | some prose =>
      rw [laterContent, calls, said]
      exact laterProse_done prose info

theorem Prose.messagesType_ne_tools : prose.messagesType ≠ .tools := by
  cases prose <;> simp [Prose.messagesType]

variable {prose : Prose}

theorem laterProse_same {info : ClaudeConvertInfo} (same : info.lastMessagesType = prose.messagesType) :
    laterProse prose info = (info, [.contentBlockDelta info.index prose.delta]) := by
  obtain ⟨_, _, _, _, _, _, _⟩ := info
  obtain rfl := same
  simp [laterProse, writeProse, andThen, write, quiet]

section
variable {info : ClaudeConvertInfo} (other : info.lastMessagesType ≠ prose.messagesType)
include other

theorem laterProse_other : laterProse prose info = ({ info.advanced with lastMessagesType := prose.messagesType },
        stopOpenBlocks info ++ [.contentBlockStart info.advanced.index prose.block,
          .contentBlockDelta info.advanced.index prose.delta]) := by
  simp [laterProse, other, stopOpenBlocksAndAdvance, startProse, writeProse, andThen, write, quiet]

theorem firstProse_eq : firstProse prose info = laterProse prose info := by
  simp [firstProse, laterProse, leaveOthers, other, andThen]

end

theorem firstProse_done (info : ClaudeConvertInfo) : (firstProse prose info).1.done = info.done := by
  show (leaveOthers prose.messagesType info).1.done = info.done
  unfold leaveOthers
  split
  · exact advanced_done info
  · rfl

theorem firstContent_done (delta : Delta) (info : ClaudeConvertInfo) :
    (firstContent delta info).1.done = info.done := by
  cases calls : delta.toolCalls <;> cases said : delta.prose <;>
    simp [firstContent, firstCalls, firstWords, calls, said, andThen, quiet, firstToolCall, firstProse_done]

/-! ## One chunk -/


section
variable {chunk : Chunk} (info : ClaudeConvertInfo)

theorem laterChunk_usageOnly (going : info.done = false) (noChoice : chunk.choices = [])
    (known : chunk.usage.isSome) : ∃ usage stopReason, laterChunk chunk info = ({ info with done := true },
      stopOpenBlocks info ++ (messageDelta usage stopReason ++ [.messageStop])) := by
  obtain ⟨usage, isUsage⟩ := isSome_iff_exists.mp known
  simp only [laterChunk, going, noChoice, isUsage]
  exact ⟨_, _, rfl⟩

variable {choice : Choice} {others : List Choice}

variable (going : info.done = false) (listed : chunk.choices = choice :: others)
include going listed

theorem laterChunk_skip (finishes : choice.finishes = true) (unknown : chunk.usage = none) : laterChunk chunk info =
      ({ info with finishReason := choice.finishReason.getD "" }, []) := by
  simp [laterChunk, going, listed, laterChoice, finishes, unknown, setFinishReason, andThen, quiet]

/-- A chunk that finishes with a usage: its content, and the end of the message. -/
theorem laterChunk_close (finishes : choice.finishes = true) (known : chunk.usage.isSome) :
    let content := laterContent choice.delta
      { info with finishReason := choice.finishReason.getD "" }
    ∃ stopReason, laterChunk chunk info = ({ content.1 with done := true }, content.2 ++ (stopOpenBlocks content.1 ++
        (messageDelta (chunk.usage.or content.1.usage) stopReason ++ [.messageStop]))) := by
  obtain ⟨usage, isUsage⟩ := isSome_iff_exists.mp known
  simp only [laterChunk, going, listed, laterChoice, finishes, isUsage, setFinishReason, andThen, quiet, if_true]
  exact ⟨_, rfl⟩

theorem laterChunk_content (goesOn : choice.finishes = false) : laterChunk chunk info = laterContent choice.delta info := by
  simp [laterChunk, going, listed, laterChoice, goesOn]

end

section
variable {chunk : Chunk} {choice : Choice} {others : List Choice}

theorem openingChunk_content (estimate : Int) (info : ClaudeConvertInfo) (going : info.done = false)
    (listed : chunk.choices = choice :: others) (goesOn : choice.finishes = false) :
    openingChunk chunk estimate info = ((firstContent choice.delta info).1,
      messageStart chunk estimate :: (firstContent choice.delta info).2) := by
  simp [openingChunk, going, firstChunk, listed, firstChoice, goesOn, andThen, write, quiet]

theorem openingChunk_close (estimate : Int) (info : ClaudeConvertInfo) (going : info.done = false)
    (listed : chunk.choices = choice :: others) (finishes : choice.finishes = true) :
    ∃ usage stopReason, openingChunk chunk estimate info = ({ (firstContent choice.delta info).1 with
          finishReason := choice.finishReason.getD ""
          done := true },
        messageStart chunk estimate :: ((firstContent choice.delta info).2 ++
          (stopOpenBlocks (firstContent choice.delta info).1 ++
            (messageDelta usage stopReason ++ [.messageStop])))) := by
  simp only [openingChunk, going, firstChunk, listed, firstChoice, finishes]
  exact ⟨_, _, rfl⟩

end

/-- Chunks with one choice, and at the end perhaps one with a usage only. -/
def SingleChoice : List Chunk → Prop
  | [] => True
  | chunk :: rest =>
    (chunk.choices.length = 1 ∨ (rest = [] ∧ chunk.choices = [] ∧ chunk.usage.isSome)) ∧
      SingleChoice rest

/-- The usage that is noted first has no say in the rest. -/
theorem converseLater_cons (settled : Usage) (chunk : Chunk) (rest : List Chunk) (info : ClaudeConvertInfo) :
    ∃ usage, (converseLater settled (chunk :: rest) info).2 = (laterChunk chunk { info with usage }).2 ++
      (converseLater settled rest (laterChunk chunk { info with usage }).1).2 :=
  ⟨_, rfl⟩

end NewApi.Stream
