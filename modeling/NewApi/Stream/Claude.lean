/-
# Stream.Claude — chat chunks as Claude events

`StreamResponseOpenAI2Claude` in `service/convert.go` turns each chunk of an OpenAI stream into
events of a Claude stream.  The closures `stopOpenBlocks` and `stopOpenBlocksAndAdvance` are functions
on the conversion state.  `call` of a `tool_use` block start is a history variable, not on the wire.
-/
import NewApi.Theory.Emitter
import Mathlib.Algebra.Ring.Int.Defs

namespace NewApi.Stream
open Theory Emitter

/-! ## The chunks of a streamed chat completion

`dto/openai_response.go` and the helpers that read a chunk.  A chunk stands for the data of one
SSE event that parses; its fields are those that the stream handlers read.  The `index` of a
tool call is a natural number, as the chat API has it.
-/

structure Usage where
  promptTokens : Int
  completionTokens : Int
  cachedTokens : Int
  cachedCreationTokens : Int
  claudeCacheCreation5mTokens : Int
  claudeCacheCreation1hTokens : Int
deriving DecidableEq

def validUsage : Option Usage → Bool
  | none => false
  | some usage => usage.promptTokens != 0 || usage.completionTokens != 0

/-- `ToolCallResponse` with its `FunctionResponse`. -/
structure ToolCall where
  index : Option Nat
  id : String
  name : String
  arguments : String
deriving DecidableEq

/-- `ChatCompletionsStreamResponseChoiceDelta`. -/
structure Delta where
  role : String
  content : Option String
  reasoningContent : Option String
  reasoning : Option String
  toolCalls : List ToolCall
deriving DecidableEq

def Delta.getContentString (delta : Delta) : String := delta.content.getD ""

def Delta.getReasoningContent (delta : Delta) : String :=
  match delta.reasoningContent with
  | some text => text
  | none => delta.reasoning.getD ""

structure Choice where
  delta : Delta
  finishReason : Option String
  index : Nat
deriving DecidableEq

/-- The test that the handlers make of `FinishReason`: there, and not empty. -/
def Choice.finishes (choice : Choice) : Bool := choice.finishReason.getD "" != ""

structure Chunk where
  id : String
  created : Int
  model : String
  systemFingerprint : Option String
  choices : List Choice
  usage : Option Usage
deriving DecidableEq

def Chunk.getSystemFingerprint (chunk : Chunk) : String := chunk.systemFingerprint.getD ""

/-- `helper.GenerateFinalUsageResponse`, with the fingerprint set after it. -/
def generateFinalUsageResponse (id : String) (created : Int) (model fingerprint : String) (usage : Usage) : Chunk :=
  { id := id, created := created, model := model, systemFingerprint := some fingerprint,
    choices := [], usage := some usage }

def choiceChunk (delta : Delta) (finishReason : Option String) (usage : Option Usage) : Chunk :=
  { id := "chatcmpl-1", created := 0, model := "gpt", systemFingerprint := none,
    choices := [⟨delta, finishReason, 0⟩], usage := usage }

def textDelta (content : String) : Delta := ⟨"assistant", some content, none, none, []⟩

def silentDelta : Delta := ⟨"", none, none, none, []⟩

def callDelta (index : Nat) (name arguments : String) : Delta :=
  ⟨"", none, none, none, [⟨some index, "call", name, arguments⟩]⟩

def usageChunk (usage : Usage) : Chunk := { choiceChunk silentDelta none (some usage) with choices := [] }

/-! ## Events -/

structure ClaudeUsage where
  inputTokens : Int
  outputTokens : Int
  cacheCreationInputTokens : Int
  cacheReadInputTokens : Int
  cacheCreation : Option (Int × Int)
deriving DecidableEq

def normalizeCacheCreationSplit (totalTokens tokens5m tokens1h : Int) : Int × Int :=
  (tokens5m + max (totalTokens - tokens5m - tokens1h) 0, tokens1h)

def buildClaudeUsageFromOpenAIUsage (usage : Usage) : ClaudeUsage :=
  let split := normalizeCacheCreationSplit usage.cachedCreationTokens
    usage.claudeCacheCreation5mTokens usage.claudeCacheCreation1hTokens
  { inputTokens := usage.promptTokens
    outputTokens := usage.completionTokens
    cacheCreationInputTokens := usage.cachedCreationTokens
    cacheReadInputTokens := usage.cachedTokens
    cacheCreation := if split.1 > 0 || split.2 > 0 then some split else none }

/-- The content block of a `content_block_start`. -/
inductive Block where
  | text
  | thinking
  | toolUse (id name : String) (call : Nat)
deriving DecidableEq

inductive BlockDelta where
  | text (text : String)
  | thinking (thinking : String)
  | inputJson (partialJson : String)
deriving DecidableEq

inductive ClaudeEvent where
  | messageStart (id model : String) (usage : ClaudeUsage)
  | contentBlockStart (index : Nat) (block : Block)
  | contentBlockDelta (index : Nat) (delta : BlockDelta)
  | contentBlockStop (index : Nat)
  | messageDelta (usage : ClaudeUsage) (stopReason : String)
  | messageStop
deriving DecidableEq

def stopReasonOpenAI2Claude (finishReason : String) : String :=
  match finishReason.toLower with
  | "stop" => "end_turn"
  | "stop_sequence" => "stop_sequence"
  | "length" => "max_tokens"
  | "max_tokens" => "max_tokens"
  | "content_filter" => "refusal"
  | "tool_calls" => "tool_use"
  | _ => finishReason

/-! ## The conversion state -/

inductive MessagesType where
  | none
  | text
  | tools
  | thinking
deriving DecidableEq

structure ClaudeConvertInfo where
  lastMessagesType : MessagesType
  index : Nat
  usage : Option Usage
  finishReason : String
  done : Bool
  toolCallBaseIndex : Nat
  toolCallMaxIndexOffset : Nat
deriving DecidableEq

def ClaudeConvertInfo.initial : ClaudeConvertInfo :=
  { lastMessagesType := .none, index := 0, usage := none, finishReason := "", done := false,
    toolCallBaseIndex := 0, toolCallMaxIndexOffset := 0 }

/-- A piece of the conversion. -/
abbrev Converts := Emitter ClaudeConvertInfo ClaudeEvent

def stopOpenBlocks (info : ClaudeConvertInfo) : List ClaudeEvent :=
  match info.lastMessagesType with
  | .none => []
  | .text => [.contentBlockStop info.index]
  | .thinking => [.contentBlockStop info.index]
  | .tools => (List.range (info.toolCallMaxIndexOffset + 1)).map fun offset =>
    .contentBlockStop (info.toolCallBaseIndex + offset)

/-- Where `stopOpenBlocksAndAdvance` leaves the state. -/
def ClaudeConvertInfo.advanced (info : ClaudeConvertInfo) : ClaudeConvertInfo :=
  match info.lastMessagesType with
  | .none => info
  | .tools =>
    { info with
      index := info.toolCallBaseIndex + info.toolCallMaxIndexOffset + 1
      toolCallBaseIndex := 0
      toolCallMaxIndexOffset := 0
      lastMessagesType := .none }
  | _ => { info with index := info.index + 1, lastMessagesType := .none }

def stopOpenBlocksAndAdvance : Converts := fun info => (info.advanced, stopOpenBlocks info)

/-! ## Text and thinking -/

/-- What a delta has to say besides tool calls: the reasoning, or else the text, or nothing. -/
inductive Prose where
  | thinking (reasoning : String)
  | text (content : String)
deriving DecidableEq

def Delta.prose (delta : Delta) : Option Prose :=
  if delta.getReasoningContent ≠ "" then some (.thinking delta.getReasoningContent)
  else if delta.getContentString ≠ "" then some (.text delta.getContentString)
  else none

def Prose.messagesType : Prose → MessagesType
  | .thinking _ => .thinking
  | .text _ => .text

def Prose.block : Prose → Block
  | .thinking _ => .thinking
  | .text _ => .text

def Prose.delta : Prose → BlockDelta
  | .thinking reasoning => .thinking reasoning
  | .text content => .text content

/-- Leave the open block or blocks, unless the last one is of the type that comes. -/
def leaveOthers (type : MessagesType) : Converts := fun info =>
  if info.lastMessagesType ≠ type then stopOpenBlocksAndAdvance info else (info, [])

variable (prose : Prose)

def startProse : Converts := write fun info => [.contentBlockStart info.index prose.block]

def writeProse : Converts :=
  (write fun info => [.contentBlockDelta info.index prose.delta]).andThen
    (quiet fun info => { info with lastMessagesType := prose.messagesType })

/-- Text or reasoning in the first chunk: its block is started whatever the last one was. -/
def firstProse : Converts :=
  (leaveOthers prose.messagesType).andThen ((startProse prose).andThen (writeProse prose))

/-- Text or reasoning in a later chunk: a block of its type that is open goes on. -/
def laterProse : Converts := fun info =>
  if info.lastMessagesType ≠ prose.messagesType then
    (stopOpenBlocksAndAdvance.andThen ((startProse prose).andThen (writeProse prose))) info
  else writeProse prose info

/-! ## Tool calls -/

def startToolUse (index call : Nat) (toolCall : ToolCall) : ClaudeEvent :=
  .contentBlockStart index (.toolUse toolCall.id toolCall.name call)

/-- The fragment of the arguments, if it is not empty. -/
def toolArguments (index : Nat) (toolCall : ToolCall) : List ClaudeEvent :=
  if toolCall.arguments ≠ "" then
    [.contentBlockDelta index (.inputJson toolCall.arguments)]
  else []

/-- The first chunk's first tool call, as block 0 whatever its index and name. -/
def firstToolCall (toolCall : ToolCall) : Converts := fun info =>
  ({ info with
      lastMessagesType := .tools
      toolCallBaseIndex := 0
      toolCallMaxIndexOffset := 0 }, startToolUse 0 (toolCall.index.getD 0) toolCall :: toolArguments 0 toolCall)

/-- The tool calls of a delta with their indexes; a call without one has its position. -/
def Delta.indexedCalls (delta : Delta) : List (Nat × ToolCall) :=
  delta.toolCalls.mapIdx fun i toolCall => (toolCall.index.getD i, toolCall)

/-- Tool calls after another kind of block, or after none, get a new base index. -/
def openTools : Converts :=
  andThen
    (fun info =>
      if info.lastMessagesType ≠ .tools then
        (stopOpenBlocksAndAdvance.andThen (quiet fun info =>
          { info with toolCallBaseIndex := info.index, toolCallMaxIndexOffset := 0 })) info
      else (info, []))
    (quiet fun info => { info with lastMessagesType := .tools })

/-- One round of the loop over the tool calls. -/
def laterToolCall (call : Nat × ToolCall) : Converts := fun info =>
  ({ info with toolCallMaxIndexOffset := max info.toolCallMaxIndexOffset call.1 }, (if call.2.name ≠ "" then
      [startToolUse (info.toolCallBaseIndex + call.1) call.1 call.2]
    else []) ++ toolArguments (info.toolCallBaseIndex + call.1) call.2)

def laterToolCalls (delta : Delta) : Converts :=
  openTools.andThen ((each laterToolCall delta.indexedCalls).andThen (quiet fun info =>
      { info with index := info.toolCallBaseIndex + info.toolCallMaxIndexOffset }))

def messageDelta (usage : Option Usage) (stopReason : String) : List ClaudeEvent :=
  match usage with
  | some usage => [.messageDelta (buildClaudeUsageFromOpenAIUsage usage) stopReason]
  | none => []

/-- Stop what is open and end the message.  The chunk's own usage goes before the one seen
earlier. -/
def endMessage (usage : Option Usage) : Converts := fun info =>
  ({ info with done := true }, stopOpenBlocks info ++
      (messageDelta (usage.or info.usage) (stopReasonOpenAI2Claude info.finishReason) ++ [.messageStop]))

def setFinishReason (choice : Choice) : Converts :=
  quiet fun info => { info with finishReason := choice.finishReason.getD "" }

/-! ## A chunk -/

def messageStart (chunk : Chunk) (estimatePromptTokens : Int) : ClaudeEvent :=
  .messageStart chunk.id chunk.model
    { inputTokens := estimatePromptTokens, outputTokens := 0, cacheCreationInputTokens := 0,
      cacheReadInputTokens := 0, cacheCreation := none }

def firstCalls (delta : Delta) : Converts :=
  match delta.toolCalls with
  | [] => quiet id
  | toolCall :: _ => firstToolCall toolCall

def firstWords (delta : Delta) : Converts :=
  match delta.prose with
  | none => quiet id
  | some prose => firstProse prose

/-- The first chunk's content: its first tool call, and then its reasoning or text. -/
def firstContent (delta : Delta) : Converts := (firstCalls delta).andThen (firstWords delta)

/-- The part of the first chunk that its choice decides. -/
def firstChoice (choice : Choice) (usage : Option Usage) : Converts :=
  (firstContent choice.delta).andThen
    (if choice.finishes then (setFinishReason choice).andThen (endMessage usage)
      else quiet id)

def firstChunk (chunk : Chunk) (estimatePromptTokens : Int) : Converts :=
  (write fun _ => [messageStart chunk estimatePromptTokens]).andThen
    (match chunk.choices with
      | [] => quiet id
      | choice :: _ => firstChoice choice chunk.usage)

/-- A chunk without choices ends the message if a usage is known. -/
def usageOnlyChunk (usage : Option Usage) : Converts := fun info =>
  match usage.or info.usage with
  | none => (info, [])
  | some usage =>
    let stopReason := stopReasonOpenAI2Claude info.finishReason
    ({ info with done := true }, stopOpenBlocks info ++
        (messageDelta (some usage) (if stopReason = "" then "end_turn" else stopReason) ++ [.messageStop]))

/-- The content of a later chunk: its tool calls, or else its reasoning or text. -/
def laterContent (delta : Delta) : Converts :=
  match delta.toolCalls with
  | _ :: _ => laterToolCalls delta
  | [] =>
    match delta.prose with
    | none => quiet id
    | some prose => laterProse prose

/-- A later chunk with a choice.  One that finishes without a usage of its own is put off:
the source returns before it looks at the delta. -/
def laterChoice (choice : Choice) (usage : Option Usage) : Converts :=
  if choice.finishes then
    (setFinishReason choice).andThen
      (if usage.isNone then quiet id
        else (laterContent choice.delta).andThen (endMessage usage))
  else laterContent choice.delta

def streamResponseOpenAI2Claude (chunk : Chunk) (sendResponseCount : Nat)
    (estimatePromptTokens : Int) : Converts := fun info =>
  if info.done then (info, [])
  else if sendResponseCount = 1 then firstChunk chunk estimatePromptTokens info
  else match chunk.choices with
    | [] => usageOnlyChunk chunk.usage info
    | choice :: _ => laterChoice choice chunk.usage info

end NewApi.Stream
