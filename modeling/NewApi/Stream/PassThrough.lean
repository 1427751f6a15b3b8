/-
# Stream.PassThrough — what an OpenAI client gets of an OpenAI stream

A chunk with choice data has to reach the client; only one that carries nothing but a usage may be
withheld (`PassedThrough`).  The handler decides about the last chunk by its texts and reasoning only:
one with a usage that the client did not ask for, and with tool calls or a finish reason but no text,
is withheld as well (`finish_reason_withheld`).
-/
import NewApi.Stream.Handler

namespace NewApi.Stream
open Theory Emitter StreamConfig Output

/-! ## What should be sent -/

/-- Text, reasoning, tool-call fragments or a finish reason. -/
def Choice.carriesData (choice : Choice) : Bool :=
  choice.delta.getContentString != "" || choice.delta.getReasoningContent != "" ||
    !choice.delta.toolCalls.isEmpty || choice.finishes

def Chunk.carriesData (chunk : Chunk) : Bool := chunk.choices.any Choice.carriesData

def Output.upstream? : Output → Option Chunk
  | .stringData chunk => some chunk
  | .objectData chunk => some chunk
  | _ => none

/-- The chunks of the second list are those of the first, in order and each once, except for
some that carry nothing but a usage. -/
inductive PassedThrough : List Chunk → List Chunk → Prop where
  | nil : PassedThrough [] []
  | sent {chunk : Chunk} {chunks rest : List Chunk} :
      PassedThrough chunks rest → PassedThrough (chunk :: chunks) (chunk :: rest)
  | withheld {chunk : Chunk} {chunks rest : List Chunk} :
      chunk.usage.isSome → chunk.carriesData = false →
      PassedThrough chunks rest → PassedThrough (chunk :: chunks) rest

open PassedThrough

theorem PassedThrough.refl : ∀ chunks : List Chunk, PassedThrough chunks chunks
  | [] => .nil
  | _ :: chunks => .sent (refl chunks)

variable {chunks rest : List Chunk}

theorem PassedThrough.append {others kept : List Chunk}
    (first : PassedThrough chunks rest) (second : PassedThrough others kept) :
    PassedThrough (chunks ++ others) (rest ++ kept) := by
  induction first with
  | nil => exact second
  | sent _ ih => exact .sent ih
  | withheld used silent _ ih => exact .withheld used silent ih

theorem PassedThrough.filter_eq (passed : PassedThrough chunks rest) :
    chunks.filter Chunk.carriesData = rest.filter Chunk.carriesData := by
  induction passed with
  | nil => rfl
  | sent _ ih => simp [List.filter_cons, ih]
  | withheld _ silent _ ih => simpa [silent] using ih

theorem passedThrough_dropLast_iff (chunks : List Chunk) (last : Chunk) (used : last.usage.isSome) :
    PassedThrough (chunks ++ [last]) chunks ↔ last.carriesData = false := by
  constructor
  · intro passed
    have same := passed.filter_eq
    by_contra carries
    simp [carries] at same
  · intro silent
    have alone : PassedThrough [last] [] := .withheld used silent .nil
    simpa using (refl chunks).append alone

/-! ## What is sent -/

/-- The form in which a chunk is sent. -/
def StreamConfig.sent (config : StreamConfig) (chunk : Chunk) : Output :=
  if config.forceFormat then .objectData chunk else .stringData chunk

section
variable {config : StreamConfig}

@[simp] theorem StreamConfig.upstream?_sent (chunk : Chunk) : (config.sent chunk).upstream? = some chunk := by
  unfold sent
  split <;> rfl

theorem sendStreamData_eq (plain : config.thinkingToContent = false) (chunk : Chunk) :
    sendStreamData config chunk = write fun _ => [config.sent chunk] := by
  cases forced : config.forceFormat <;> simp [sendStreamData, StreamConfig.sent, plain, forced]

section
variable (client : config.relayFormat = .openAI) (plain : config.thinkingToContent = false)
include client plain

/-- One chunk arrives: the one before it is sent. -/
theorem onStreamData_eq (data : Chunk) (s : StreamState) :
    (onStreamData config data s).2 = s.lastStreamData.toList.map config.sent ∧
      (onStreamData config data s).1.lastStreamData = some data := by
  cases waiting : s.lastStreamData with
  | none => simp [onStreamData, andThen, quiet, waiting]
  | some last =>
    simp [onStreamData, andThen, quiet, waiting, handleStreamFormat, client, sendStreamData_eq plain, write]

/-- The whole stream: everything but the last chunk is sent, in order. -/
theorem onStreamData_each : ∀ (chunks : List Chunk) (s : StreamState), (each (onStreamData config) chunks s).2 =
          (s.lastStreamData.toList ++ chunks).dropLast.map config.sent ∧
        (each (onStreamData config) chunks s).1.lastStreamData = (s.lastStreamData.toList ++ chunks).getLast? := by
  intro chunks
  induction chunks with
  | nil =>
    intro s
    cases waiting : s.lastStreamData <;> simp [each, quiet, waiting]
  | cons data chunks ih =>
    intro s
    obtain ⟨sent, waits⟩ := onStreamData_eq client plain data s
    obtain ⟨laterSent, laterWaits⟩ := ih (onStreamData config data s).1
    rw [waits] at laterSent laterWaits
    constructor
    · show (onStreamData config data s).2 ++ _ = _
      rw [sent, laterSent]
      cases s.lastStreamData <;> simp
    · show (each (onStreamData config) chunks _).1.lastStreamData = _
      rw [laterWaits]
      cases s.lastStreamData <;> simp

end

/-- The last chunk is withheld: its usage was not asked for, and it has no text. -/
def StreamConfig.withholds (config : StreamConfig) (last : Chunk) : Bool :=
  validUsage last.usage && !config.shouldIncludeUsage &&
    !last.choices.any fun choice =>
      choice.delta.getContentString != "" || choice.delta.getReasoningContent != ""

theorem shouldSendLastResp_eq (last : Chunk) (usage : Option Usage) :
    (handleLastResponse config (some last) usage).shouldSendLastResp = !config.withholds last := by
  cases valid : validUsage last.usage <;> cases wanted : config.shouldIncludeUsage <;>
    simp [handleLastResponse, withholds]

theorem upstream_handleFinalResponse (client : config.relayFormat = .openAI)
    (lastStreamData : Option Chunk) (response : LastResponse) (usage : Usage) (s : StreamState) :
    (handleFinalResponse config lastStreamData response usage s).2.filterMap upstream? = [] := by
  simp only [handleFinalResponse, client]
  split <;> rfl

/-- The end of the stream sends the chunk that waits, unless it is withheld. -/
theorem upstream_endStream (client : config.relayFormat = .openAI)
    (plain : config.thinkingToContent = false) (chunks : List Chunk) (s : StreamState) :
    (endStream config chunks s).2.filterMap upstream? =
      s.lastStreamData.toList.filter fun last => !config.withholds last := by
  cases waiting : s.lastStreamData with
  | none =>
    simp [endStream, waiting, andThen, quiet, upstream_handleFinalResponse client]
  | some last =>
    cases held : config.withholds last <;>
      simp [endStream, client, waiting, andThen, quiet, write,
        upstream_handleFinalResponse client, shouldSendLastResp_eq, sendStreamData_eq plain, held]

/-- The upstream chunks that the client gets. -/
theorem upstream_oaiStreamHandler (client : config.relayFormat = .openAI)
    (plain : config.thinkingToContent = false) (chunks : List Chunk) :
    (oaiStreamHandler config chunks).filterMap upstream? =
      chunks.dropLast ++ chunks.getLast?.toList.filter fun last => !config.withholds last := by
  obtain ⟨sent, waits⟩ := onStreamData_each client plain chunks StreamState.initial
  have passed : ∀ sentChunks : List Chunk, (sentChunks.map config.sent).filterMap upstream? = sentChunks := by
    intro sentChunks
    simp [List.filterMap_map]
  show List.filterMap _ ((each (onStreamData config) chunks StreamState.initial).2 ++ _) = _
  rw [List.filterMap_append, upstream_endStream client plain, sent, waits, passed]
  simp [StreamState.initial]

/-- The last chunk has neither text nor reasoning. -/
def Chunk.textless (chunk : Chunk) : Prop :=
  ∀ choice ∈ chunk.choices,
    choice.delta.getContentString = "" ∧ choice.delta.getReasoningContent = ""

theorem withholds_iff (config : StreamConfig) (last : Chunk) : config.withholds last = true ↔
      validUsage last.usage ∧ config.shouldIncludeUsage = false ∧ last.textless := by
  simp [withholds, Chunk.textless, and_assoc]

theorem usage_of_valid {usage : Option Usage} (valid : validUsage usage) : usage.isSome := by
  cases usage with
  | none => exact absurd valid (by simp [validUsage])
  | some usage => rfl

theorem carriesData_of_textless {chunk : Chunk} (textless : chunk.textless) : chunk.carriesData = false ↔
      ∀ choice ∈ chunk.choices, choice.delta.toolCalls = [] ∧ choice.finishes = false := by
  simp only [Chunk.carriesData, List.any_eq_false]
  refine forall₂_congr fun choice member => ?_
  obtain ⟨noText, noReasoning⟩ := textless choice member
  simp [Choice.carriesData, noText, noReasoning]

/-- Every chunk with choice data reaches the client, in order and once, exactly when the last
one is not withheld with tool calls or a finish reason in it. -/
theorem oaiStreamHandler_passes_through_iff (config : StreamConfig)
    (client : config.relayFormat = .openAI) (plain : config.thinkingToContent = false) (chunks : List Chunk) :
    PassedThrough chunks ((oaiStreamHandler config chunks).filterMap upstream?) ↔ ∀ last ∈ chunks.getLast?,
        validUsage last.usage → config.shouldIncludeUsage = false → last.textless →
        ∀ choice ∈ last.choices, choice.delta.toolCalls = [] ∧ choice.finishes = false := by
  rw [upstream_oaiStreamHandler client plain]
  rcases List.eq_nil_or_concat chunks with rfl | ⟨before, last, rfl⟩
  · simp [nil]
  rw [List.concat_eq_append]
  cases held : config.withholds last with
  | false =>
    have released := mt (withholds_iff config last).mpr (by simp [held])
    refine iff_of_true ?_ ?_
    · simpa [held] using refl (before ++ [last])
    · intro tail isLast valid unwanted textless
      obtain rfl : last = tail := by simpa using isLast
      exact absurd ⟨valid, unwanted, textless⟩ released
  | true =>
    obtain ⟨valid, unwanted, textless⟩ := (withholds_iff config last).mp held
    have lost := passedThrough_dropLast_iff before last (usage_of_valid valid)
    rw [carriesData_of_textless textless] at lost
    simpa [held, valid, unwanted, textless] using lost

end

/-- A finish reason in a chunk without a usage, then a usage that was not asked for. -/
theorem trailing_usage_passes_through : PassedThrough
      [choiceChunk (textDelta "hi") none none, choiceChunk silentDelta (some "stop") none,
        usageChunk ⟨3, 5, 0, 0, 0, 0⟩] ((oaiStreamHandler (plainConfig .openAI false)
        [choiceChunk (textDelta "hi") none none, choiceChunk silentDelta (some "stop") none,
          usageChunk ⟨3, 5, 0, 0, 0, 0⟩]).filterMap upstream?) :=
  (oaiStreamHandler_passes_through_iff (plainConfig .openAI false) rfl rfl _).mpr (by
    simp [usageChunk])

/-- A finish reason and a usage in one chunk, as some upstreams send them: the client never
gets the finish reason. -/
theorem finish_reason_withheld : (choiceChunk silentDelta (some "stop") (some ⟨3, 5, 0, 0, 0, 0⟩)).carriesData = true ∧
      (oaiStreamHandler (plainConfig .openAI false) [choiceChunk (textDelta "hi") none none,
          choiceChunk silentDelta (some "stop") (some ⟨3, 5, 0, 0, 0, 0⟩)]).filterMap
            upstream? = [choiceChunk (textDelta "hi") none none] ∧ ¬ PassedThrough
        [choiceChunk (textDelta "hi") none none, choiceChunk silentDelta (some "stop") (some ⟨3, 5, 0, 0, 0, 0⟩)]
        ((oaiStreamHandler (plainConfig .openAI false) [choiceChunk (textDelta "hi") none none,
            choiceChunk silentDelta (some "stop") (some ⟨3, 5, 0, 0, 0, 0⟩)]).filterMap upstream?) := by
  have carried : (choiceChunk silentDelta (some "stop") (some ⟨3, 5, 0, 0, 0, 0⟩)).carriesData = true := by
    decide
  have sent : (oaiStreamHandler (plainConfig .openAI false) [choiceChunk (textDelta "hi") none none,
        choiceChunk silentDelta (some "stop") (some ⟨3, 5, 0, 0, 0, 0⟩)]).filterMap
          upstream? = [choiceChunk (textDelta "hi") none none] := by
    decide
  refine ⟨carried, sent, ?_⟩
  rw [sent]
  intro passed
  have lost := (passedThrough_dropLast_iff [choiceChunk (textDelta "hi") none none] _ rfl).mp passed
  exact Bool.false_ne_true (lost.symm.trans carried)

end NewApi.Stream
