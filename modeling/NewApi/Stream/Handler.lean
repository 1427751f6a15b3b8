/-
# Stream.Handler — the handler of an OpenAI stream

`OaiStreamHandler` with `sendStreamData` (`relay/channel/openai/relay-openai.go`) and the functions of
`relay/channel/openai/helper.go` that it calls.  A chunk is passed on when the next one arrives, and
the last one after the stream has ended.  `ResponseText2Usage` and `applyUsagePostProcessing` are
inputs.
-/
import NewApi.Stream.Claude

namespace NewApi.Stream
open Theory Emitter

/-- The client formats with a case of their own here. -/
inductive RelayFormat where
  | openAI
  | claude
deriving DecidableEq

/-- What does not change during a stream. -/
structure StreamConfig where
  relayFormat : RelayFormat
  shouldIncludeUsage : Bool
  forceFormat : Bool
  thinkingToContent : Bool
  isAudioModel : Bool
  upstreamModelName : String
  estimatePromptTokens : Int
  responseText2Usage : List Chunk → Usage
  applyUsagePostProcessing : Usage → Option Chunk → Usage

structure ThinkingContentInfo where
  isFirstThinkingContent : Bool
  sendLastThinkingContent : Bool
  hasSentThinkingContent : Bool
deriving DecidableEq

/-- What the client gets. -/
inductive Output where
  | stringData (chunk : Chunk)
  | objectData (chunk : Chunk)
  | finalUsage (chunk : Chunk)
  | done
  | claudeData (event : ClaudeEvent)
deriving DecidableEq

structure StreamState where
  sendResponseCount : Nat
  thinkingContentInfo : ThinkingContentInfo
  claudeConvertInfo : ClaudeConvertInfo
  lastStreamData : Option Chunk
  secondLastStreamData : Option Chunk
deriving DecidableEq

def StreamState.initial : StreamState :=
  { sendResponseCount := 0, thinkingContentInfo := ⟨true, false, false⟩,
    claudeConvertInfo := .initial, lastStreamData := none, secondLastStreamData := none }

abbrev Handles := Emitter StreamState Output

def Delta.clearReasoning (delta : Delta) : Delta := { delta with reasoningContent := none, reasoning := none }

def Chunk.withContent (chunk : Chunk) (text : String) : Chunk :=
  { chunk with choices := chunk.choices.map fun choice =>
      { choice with delta := { choice.delta.clearReasoning with content := some text } } }

def Choice.thinkToContent (hasThinkingContent hasContent : Bool) (choice : Choice) : Choice :=
  if choice.delta.getReasoningContent ≠ "" then
    { choice with delta := { choice.delta.clearReasoning with content := some choice.delta.getReasoningContent } }
  else if !hasThinkingContent && !hasContent then
    { choice with delta := choice.delta.clearReasoning }
  else choice

/-- The thinking-to-content part of `sendStreamData`.  The loop over the choices sends the
closing tag in its first round at most, before it has changed a choice. -/
def sendThinking (chunk : Chunk) : Handles := fun s =>
  let info := s.thinkingContentInfo
  let hasThinkingContent := chunk.choices.any fun choice => choice.delta.getReasoningContent != ""
  let hasContent := chunk.choices.any fun choice => choice.delta.getContentString != ""
  let thinkingContent := String.join (chunk.choices.map fun choice =>
    choice.delta.getReasoningContent)
  if info.isFirstThinkingContent && hasThinkingContent then
    ({ s with thinkingContentInfo :=
        { info with isFirstThinkingContent := false, hasSentThinkingContent := true } },
      [.objectData (chunk.withContent ("<think>\n" ++ thinkingContent))])
  else if chunk.choices.isEmpty then (s, [.objectData chunk])
  else
    let closes := hasContent && !info.sendLastThinkingContent && info.hasSentThinkingContent
    ({ s with thinkingContentInfo :=
        { info with sendLastThinkingContent := info.sendLastThinkingContent || closes } },
      (if closes then [.objectData (chunk.withContent "\n</think>\n")] else []) ++ [.objectData { chunk with
          choices := chunk.choices.map (Choice.thinkToContent hasThinkingContent hasContent) }])

variable (config : StreamConfig)

def sendStreamData (chunk : Chunk) : Handles :=
  if !config.forceFormat && !config.thinkingToContent then
    write fun _ => [.stringData chunk]
  else if !config.thinkingToContent then write fun _ => [.objectData chunk]
  else sendThinking chunk

/-- The conversion of one chunk, its events sent. -/
def sendClaude (chunk : Chunk) : Handles := fun s =>
  let converted := streamResponseOpenAI2Claude chunk s.sendResponseCount
    config.estimatePromptTokens s.claudeConvertInfo
  ({ s with claudeConvertInfo := converted.1 }, converted.2.map .claudeData)

def setClaudeUsage (usage : Option Usage) : Handles :=
  quiet fun s =>
    { s with claudeConvertInfo := { s.claudeConvertInfo with usage := usage } }

def handleClaudeFormat (chunk : Chunk) : Handles :=
  (if chunk.usage.isSome then setClaudeUsage chunk.usage else quiet id).andThen
    (sendClaude config chunk)

/-! ## The stream -/

def handleStreamFormat (chunk : Chunk) : Handles :=
  (quiet fun s => { s with sendResponseCount := s.sendResponseCount + 1 }).andThen
    (match config.relayFormat with
      | .openAI => sendStreamData config chunk
      | .claude => handleClaudeFormat config chunk)

/-- The data handler that `OaiStreamHandler` gives to the scanner. -/
def onStreamData (data : Chunk) : Handles :=
  andThen
    (fun s =>
      match s.lastStreamData with
      | none => (s, [])
      | some last => handleStreamFormat config last s)
    (quiet fun s =>
      { s with
        secondLastStreamData :=
          if config.isAudioModel && s.lastStreamData.isSome then s.lastStreamData
          else s.secondLastStreamData
        lastStreamData := some data })

/-- What `handleLastResponse` reports through its pointers. -/
structure LastResponse where
  responseId : String
  createAt : Int
  systemFingerprint : String
  model : String
  usage : Option Usage
  shouldSendLastResp : Bool

/-- `usage` is the usage found in the stream; it stands for `containStreamUsage` too. -/
def handleLastResponse (lastStreamData : Option Chunk) (usage : Option Usage) : LastResponse :=
  match lastStreamData with
  | none => ⟨"", 0, "", config.upstreamModelName, usage, true⟩
  | some last =>
    { responseId := last.id
      createAt := last.created
      systemFingerprint := last.getSystemFingerprint
      model := last.model
      usage := if validUsage last.usage then last.usage else usage
      shouldSendLastResp :=
        if validUsage last.usage && !config.shouldIncludeUsage then
          last.choices.any fun choice =>
            choice.delta.getContentString != "" || choice.delta.getReasoningContent != ""
        else true }

def audioUsage (secondLastStreamData : Option Chunk) : Option Usage :=
  match secondLastStreamData with
  | none => none
  | some chunk => if config.isAudioModel && validUsage chunk.usage then chunk.usage else none

def handleFinalResponse (lastStreamData : Option Chunk) (response : LastResponse) (usage : Usage) : Handles :=
  match config.relayFormat with
  | .openAI => write fun _ =>
    (if config.shouldIncludeUsage && response.usage.isNone then
      [.finalUsage (generateFinalUsageResponse response.responseId response.createAt
        response.model response.systemFingerprint usage)]
    else []) ++ [.done]
  | .claude =>
    match lastStreamData with
    | none => quiet id
    | some last => (setClaudeUsage (some usage)).andThen ((sendClaude config last).andThen (quiet fun s =>
          { s with claudeConvertInfo := { s.claudeConvertInfo with done := true } }))

variable (chunks : List Chunk)

def settledUsage (lastStreamData : Option Chunk) (response : LastResponse) : Usage :=
  config.applyUsagePostProcessing (response.usage.getD (config.responseText2Usage chunks))
    lastStreamData

/-- The part of `OaiStreamHandler` after the stream has ended. -/
def endStream : Handles := fun s =>
  let response := handleLastResponse config s.lastStreamData
    (audioUsage config s.secondLastStreamData)
  let sendLast : Handles :=
    match config.relayFormat, s.lastStreamData with
    | .openAI, some last =>
      if response.shouldSendLastResp then sendStreamData config last else quiet id
    | _, _ => quiet id
  (sendLast.andThen (handleFinalResponse config s.lastStreamData response
    (settledUsage config chunks s.lastStreamData response))) s

/-- `OaiStreamHandler`: what the client gets for the chunks of an upstream. -/
def oaiStreamHandler : List Output :=
  (((each (onStreamData config) chunks).andThen (endStream config chunks)) StreamState.initial).2

/-- A client of either format with the given wish for a usage, and no special settings. -/
def plainConfig (relayFormat : RelayFormat) (shouldIncludeUsage : Bool) : StreamConfig :=
  { relayFormat := relayFormat
    shouldIncludeUsage := shouldIncludeUsage
    forceFormat := false
    thinkingToContent := false
    isAudioModel := false
    upstreamModelName := "gpt"
    estimatePromptTokens := 1
    responseText2Usage := fun _ => ⟨1, 1, 0, 0, 0, 0⟩
    applyUsagePostProcessing := fun usage _ => usage }

end NewApi.Stream
