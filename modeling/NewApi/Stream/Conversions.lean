/-
# Stream.Conversions — chat completions for Claude and Gemini clients

`ResponseOpenAI2Claude` and `StreamResponseOpenAI2Gemini` in `service/convert.go`.  The finish reason
of a choice decides what a Claude client gets of it, the tool calls or the text.  A Gemini client gets
every fragment of a tool call as a function call of its own, and no text beside tool calls.
-/
import NewApi.Stream.Claude
import NewApi.Theory.Delivery
import Mathlib.Data.List.Dedup

namespace NewApi.Stream
open List Theory

/-! ## A chat completion as one Claude message -/

/-- An element of a content array, by its entries that are strings. -/
structure ContentItem where
  type : Option String
  text : Option String

inductive MessageContent where
  | text (text : String)
  | items (items : List ContentItem)

/-- `ToolCallRequest` with its `FunctionRequest`. -/
structure ToolCallRequest where
  id : String
  name : String
  arguments : String

/-- `OpenAITextResponseChoice`; the tool calls are what `ParseToolCalls` reads. -/
structure ResponseChoice where
  finishReason : String
  content : Option MessageContent
  toolCalls : List ToolCallRequest

/-- `StringContent` of the message. -/
def ResponseChoice.stringContent (choice : ResponseChoice) : String :=
  match choice.content with
  | none => ""
  | some (.text text) => text
  | some (.items items) =>
    String.join (items.filterMap fun item => if item.type = some "text" then item.text else none)

structure OpenAITextResponse where
  id : String
  model : String
  choices : List ResponseChoice
  usage : Usage

/-- The arguments of a tool call: a map if they parse as one, else their text. -/
inductive ToolInput (J : Type) where
  | params (mapParams : J)
  | raw (arguments : String)
deriving DecidableEq

/-- `ClaudeMediaMessage`, of the two types that are made here. -/
inductive ClaudeMediaMessage (J : Type) where
  | text (text : String)
  | toolUse (id name : String) (input : ToolInput J)
deriving DecidableEq

structure ClaudeResponse (J : Type) where
  id : String
  type : String
  role : String
  model : String
  content : List (ClaudeMediaMessage J)
  stopReason : String
  usage : ClaudeUsage

section
open ClaudeMediaMessage

variable {J : Type} (unmarshal : String → Option J)

def toolUseContent (toolUse : ToolCallRequest) : ClaudeMediaMessage J :=
  .toolUse toolUse.id toolUse.name
    (match unmarshal toolUse.arguments with
    | some mapParams => .params mapParams
    | none => .raw toolUse.arguments)

variable (choice : ResponseChoice)

/-- The blocks that the loop appends for a choice. -/
def choiceContents : List (ClaudeMediaMessage J) :=
  if choice.finishReason = "tool_calls" then choice.toolCalls.map (toolUseContent unmarshal)
  else [.text choice.stringContent]

def responseOpenAI2Claude (openAIResponse : OpenAITextResponse) : ClaudeResponse J :=
  { id := openAIResponse.id
    type := "message"
    role := "assistant"
    model := openAIResponse.model
    content := openAIResponse.choices.flatMap (choiceContents unmarshal)
    -- that of the last choice
    stopReason := openAIResponse.choices.foldl (fun _ choice => stopReasonOpenAI2Claude choice.finishReason) ""
    usage := buildClaudeUsageFromOpenAIUsage openAIResponse.usage }

/-- What a choice has to say. -/
def ResponseChoice.meant : List (ClaudeMediaMessage J) :=
  (if choice.stringContent = "" then [] else [.text choice.stringContent]) ++
    choice.toolCalls.map (toolUseContent unmarshal)

/-- The choice has nothing of the kind that its finish reason leaves out. -/
def ResponseChoice.Plain : Prop :=
  if choice.finishReason = "tool_calls" then choice.stringContent = "" else choice.toolCalls = []

def ClaudeMediaMessage.speaks : ClaudeMediaMessage J → Bool
  | .text said => said ≠ ""
  | .toolUse .. => true

theorem filter_toolUse (calls : List ToolCallRequest) :
    (calls.map (toolUseContent unmarshal)).filter speaks = calls.map (toolUseContent unmarshal) := by
  simp [filter_map, Function.comp_def, toolUseContent, speaks]

theorem filter_text (text : String) :
    ([.text text] : List (ClaudeMediaMessage J)).filter speaks = if text = "" then [] else [.text text] := by
  by_cases empty : text = "" <;> simp [speaks, empty]

theorem filter_meant : (choice.meant unmarshal).filter speaks = choice.meant unmarshal := by
  unfold ResponseChoice.meant
  rw [filter_append, filter_toolUse]
  split
  · rfl
  · rename_i said
    rw [filter_text, if_neg said]

theorem kept_sublist : (choiceContents unmarshal choice).filter speaks <+ choice.meant unmarshal := by
  unfold choiceContents ResponseChoice.meant
  split
  · rw [filter_toolUse]
    exact sublist_append_right _ _
  · rw [filter_text]
    exact sublist_append_left _ _

theorem kept_eq_iff : (choiceContents unmarshal choice).filter speaks = choice.meant unmarshal ↔ choice.Plain := by
  unfold choiceContents ResponseChoice.meant ResponseChoice.Plain
  split
  · rw [filter_toolUse, self_eq_append_left]
    simp
  · rw [filter_text, self_eq_append_right, map_eq_nil_iff]

end

/-- A choice that says what it does before it calls a tool. -/
def announcedCall : ResponseChoice := ⟨"tool_calls", some (.text "Let me look."), [⟨"call_1", "look", "\x7b\x7d"⟩]⟩

/-- `ChatCompletionsStreamResponseChoice`, with tool calls that may be nil. -/
structure StreamChoice where
  index : Int
  content : Option String
  toolCalls : Option (List ToolCall)
  finishReason : Option String

def StreamChoice.text (choice : StreamChoice) : String := choice.content.getD ""

structure StreamChunk where
  choices : List StreamChoice
  usage : Option (Int × Int × Int)

inductive GeminiPart (J : Type) where
  | text (text : String)
  | functionCall (functionName : String) (arguments : J)
deriving DecidableEq

structure GeminiChatCandidate (J : Type) where
  index : Int
  finishReason : Option String
  role : String
  parts : List (GeminiPart J)

structure GeminiChatResponse (J : Type) where
  candidates : List (GeminiChatCandidate J)
  promptTokenCount : Int
  candidatesTokenCount : Int
  totalTokenCount : Int

/-- The JSON maps: how a text is read, the empty one, and the one that holds an unread text. -/
structure JsonMaps (J : Type) where
  unmarshal : String → Option J
  empty : J
  unread : String → J

def geminiFinishReason : String → String
  | "length" => "MAX_TOKENS"
  | "content_filter" => "SAFETY"
  | _ => "STOP"

section
variable {J : Type} (json : JsonMaps J)

def geminiArguments (arguments : String) : J :=
  if arguments ≠ "" then (json.unmarshal arguments).getD (json.unread arguments) else json.empty

variable (choice : StreamChoice)

def geminiParts : List (GeminiPart J) :=
  match choice.toolCalls with
  | some toolCalls => toolCalls.map fun toolCall => .functionCall toolCall.name (geminiArguments json toolCall.arguments)
  | none => if choice.text ≠ "" then [.text choice.text] else []

def geminiCandidate : GeminiChatCandidate J :=
  { index := choice.index
    finishReason := choice.finishReason.map geminiFinishReason
    role := "model"
    parts := geminiParts json choice }

/-- `none` is a chunk that is passed over. -/
def streamResponseOpenAI2Gemini (estimatePromptTokens : Int) (openAIResponse : StreamChunk) : Option (GeminiChatResponse J) :=
  let hasContent := openAIResponse.choices.any fun choice => choice.text ≠ "" || choice.toolCalls.getD [] ≠ []
  let hasFinishReason := openAIResponse.choices.any fun choice => choice.finishReason.isSome
  if !hasContent && !hasFinishReason then none
  else
    let usage := openAIResponse.usage.getD (estimatePromptTokens, 0, estimatePromptTokens)
    some ⟨openAIResponse.choices.map (geminiCandidate json), usage.1, usage.2.1, usage.2.2⟩

/-- The parts that `handleGeminiFormat` sends of a stream. -/
def geminiStream (estimatePromptTokens : Int) (chunks : List StreamChunk) : List (GeminiPart J) :=
  (chunks.filterMap (streamResponseOpenAI2Gemini json estimatePromptTokens)).flatMap fun response =>
    response.candidates.flatMap (·.parts)

def GeminiPart.text? : GeminiPart J → Option String
  | .text words => some words
  | .functionCall .. => none

def GeminiPart.call? : GeminiPart J → Option (String × J)
  | .text _ => none
  | .functionCall functionName arguments => some (functionName, arguments)

open GeminiPart

/-- The fragments of tool calls in a choice, by the index of the call. -/
def StreamChoice.fragments : List (Nat × ToolCall) :=
  (choice.toolCalls.getD []).mapIdx fun i toolCall => (toolCall.index.getD i, toolCall)

/-- A tool call put together. -/
def wholeCall (fragments : List (Nat × ToolCall)) (index : Nat) : String × J :=
  let own := (fragments.filter fun fragment => fragment.1 = index).map Prod.snd
  (String.join (own.map (·.name)), geminiArguments json (String.join (own.map (·.arguments))))

/-- A stream with one choice in each chunk, by its choices and usages. -/
abbrev SingleChoices := List (StreamChoice × Option (Int × Int × Int))

def singleChoices (stream : SingleChoices) : List StreamChunk := stream.map fun chunk => ⟨[chunk.1], chunk.2⟩

theorem geminiStream_parts (estimate : Int) (stream : SingleChoices) :
    geminiStream json estimate (singleChoices stream) = stream.flatMap fun chunk => geminiParts json chunk.1 := by
  unfold geminiStream singleChoices
  rw [filterMap_map, filterMap_eq_flatMap_toList, flatMap_assoc]
  congr 1
  funext chunk
  simp only [Function.comp, streamResponseOpenAI2Gemini]
  split
  · rename_i silent
    -- a chunk that is passed over has no parts
    simp only [any_cons, any_nil, Bool.or_false, Bool.and_eq_true, Bool.not_eq_true', Bool.or_eq_false_iff,
      decide_eq_false_iff_not, not_not] at silent
    unfold geminiParts
    split
    · rename_i calls
      simp_all
    · simp [silent.1.1]
  · simp [geminiCandidate]

theorem calls_geminiParts : (geminiParts json choice).filterMap call? =
      choice.fragments.map fun fragment => (fragment.2.name, geminiArguments json fragment.2.arguments) := by
  unfold geminiParts StreamChoice.fragments
  split
  · rename_i toolCalls calls
    simp only [calls, filterMap_map, Function.comp_def, call?, Option.getD_some]
    exact ext_getElem (by simp) (by simp)
  · rename_i nil
    split <;> simp [nil, call?]

theorem text_geminiParts : (geminiParts json choice).filterMap text? =
      if choice.toolCalls = none ∧ choice.text ≠ "" then [choice.text] else [] := by
  unfold geminiParts
  split
  · rename_i calls
    simp [calls, filterMap_map, Function.comp_def, text?]
  · rename_i nil
    split <;> simp_all [text?]

theorem filter_index {fragments : List (Nat × ToolCall)} (distinct : (fragments.map Prod.fst).Nodup)
    {fragment : Nat × ToolCall} (member : fragment ∈ fragments) :
    fragments.filter (fun other => other.1 = fragment.1) = [fragment] := by
  induction fragments with
  | nil => cases member
  | cons first rest ih =>
    obtain ⟨fresh, distinct⟩ := nodup_cons.mp distinct
    rcases mem_cons.mp member with rfl | later
    · rw [filter_cons_of_pos (by simp), filter_eq_nil_iff.mpr]
      intro other listed same
      exact fresh (mem_map.mpr ⟨other, listed, by simpa using same⟩)
    · rw [filter_cons_of_neg, ih distinct later]
      intro same
      exact fresh (mem_map.mpr ⟨fragment, later, by simpa using Eq.symm (by simpa using same)⟩)

theorem calls_whole_iff (fragments : List (Nat × ToolCall)) :
    (fragments.map fun fragment => (fragment.2.name, geminiArguments json fragment.2.arguments)).Perm
        ((fragments.map Prod.fst).dedup.map (wholeCall json fragments)) ↔ (fragments.map Prod.fst).Nodup := by
  constructor
  · intro whole
    have lengths := whole.length_eq
    simp only [length_map] at lengths
    have same := (dedup_sublist (fragments.map Prod.fst)).eq_of_length (by simp [lengths])
    rw [← same]
    exact nodup_dedup _
  · intro distinct
    rw [distinct.dedup, map_map]
    refine .of_eq (map_congr_left fun fragment member => ?_)
    simp [wholeCall, filter_index distinct member]

theorem text_whole_iff (choices : List StreamChoice) :
    String.join (choices.flatMap fun choice => (geminiParts json choice).filterMap text?) =
        String.join (choices.map (·.text)) ↔ ∀ choice ∈ choices, choice.toolCalls ≠ none → choice.text = "" := by
  have part (choice : StreamChoice) :
      ((geminiParts json choice).filterMap text?).flatMap String.toList <+ choice.text.toList := by
    rw [text_geminiParts]
    split <;> simp
  rw [← String.toList_inj, String.toList_join, String.toList_join, flatMap_assoc, flatMap_map,
    flatMap_eq_iff_of_sublist part]
  refine forall₂_congr fun choice _ => ?_
  rw [text_geminiParts]
  by_cases nil : choice.toolCalls = none <;> by_cases empty : choice.text = "" <;> simp [nil, empty]

end

/-- A tool call with the arguments `{}`, in two fragments. -/
def fragmentedCall : SingleChoices :=
  [(⟨0, none, some [⟨some 0, "call_1", "look", "\x7b"⟩], none⟩, none),
    (⟨0, none, some [⟨some 0, "", "", "\x7d"⟩], some "tool_calls"⟩, none)]

end NewApi.Stream
