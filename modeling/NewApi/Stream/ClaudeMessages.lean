/-
# Stream.ClaudeMessages — when an OpenAI stream becomes a well-formed Claude message

The converter over a whole stream, with the monitor of `Theory.Message` beside it.  A stream of one
chunk is never converted well; a longer one is if its first chunk finishes; otherwise it has to end
with a usage that comes with or after the finish reason, and its tool calls have to come in one run,
the first chunk with one of them at most.
-/
import NewApi.Stream.ClaudeProtocol

namespace NewApi.Stream
open Theory Emitter ClaudeEvent ClaudeConvertInfo List Option

/-- The rest of a stream, from wherever it is. -/
theorem converseLater_accepts (settled : Usage) : ∀ (rest : List Chunk) (phase : Option Phase) (introduced : Option Nat)
      (info : ClaudeConvertInfo) (watcher : Watcher), SingleChoice rest → info.done = false →
      Outline.Holds ⟨phase, introduced⟩ info watcher → ((rest.flatMap Chunk.calls).foldl introduce introduced).isSome →
      (Accepts ((converseLater settled rest info).2.foldl observe watcher) ↔
        ∃ here, phase = some here ∧ closesOrderly here rest = true) := by
  intro rest
  induction rest with
  | nil =>
    intro phase introduced info watcher _ _ holds valid
    obtain ⟨total, isTotal⟩ := isSome_iff_exists.mp valid
    have refuses := holds.not_accepts isTotal
    simpa [converseLater, quiet, closesOrderly] using refuses
  | cons chunk rest ih =>
    intro phase introduced info watcher single going holds valid
    obtain ⟨shape, single⟩ := single
    rw [flatMap_cons, foldl_append] at valid
    obtain ⟨final, isFinal⟩ := isSome_iff_exists.mp valid
    obtain ⟨total, -, isTotal⟩ := le_foldl_introduce _ isFinal
    obtain ⟨before, -, wasTotal⟩ := le_foldl_introduce _ isTotal
    obtain ⟨usage, events⟩ := converseLater_cons settled chunk rest info
    replace holds : Outline.Holds _ { info with usage } watcher := holds
    replace going : ({ info with usage } : ClaudeConvertInfo).done = false := going
    generalize ({ info with usage } : ClaudeConvertInfo) = noted at holds going events
    rw [events, foldl_append]
    cases listed : chunk.choices with
    | nil =>
      have known : chunk.usage.isSome := (shape.resolve_left (by simp [listed])).2.2
      obtain ⟨own, reason, ended⟩ := laterChunk_usageOnly noted going listed known
      rw [ended, converseLater_done settled rest _ rfl, foldl_nil, holds.ends wasTotal own reason]
      simp [closesOrderly, listed, isSome_iff_exists]
    | cons choice others =>
      obtain rfl : others = [] := by
        rcases shape with one | ⟨-, none, -⟩
        · simpa [listed] using one
        · simp [listed] at none
      have calls : chunk.calls = choice.delta.indexedCalls := by simp [Chunk.calls, listed]
      rw [calls] at valid isTotal
      cases finishes : choice.finishes with
      | false =>
        rw [laterChunk_content noted going listed finishes]
        have converted := laterContent_holds ⟨phase, introduced⟩ choice.delta _ _ holds
        rw [ih _ _ _ _ single ((laterContent_done _ _).trans going) converted valid]
        cases phase with
        | none => simp
        | some here =>
          cases content : here.content choice.delta <;>
            simp [closesOrderly, listed, finishes, content]
      | true =>
        cases known : chunk.usage with
        | none =>
          rw [laterChunk_skip noted going listed finishes known, foldl_nil]
          have skipped := holds.skip choice.delta.indexedCalls
          rw [ih phase _ { noted with finishReason := choice.finishReason.getD "" } watcher single going skipped valid]
          simp [closesOrderly, listed, finishes, known]
        | some own =>
          obtain ⟨reason, closes⟩ := laterChunk_close noted going listed finishes (by rw [known]; rfl)
          have converted := laterContent_holds ⟨phase, introduced⟩ choice.delta
            { noted with finishReason := choice.finishReason.getD "" } watcher holds
          rw [closes, converseLater_done settled rest _ rfl, foldl_nil, foldl_append, converted.ends isTotal]
          cases phase <;> simp [closesOrderly, listed, finishes, known]

/-! ## First chunks -/

/-- Nothing is open, and no index has been used. -/
def Untouched (info : ClaudeConvertInfo) (watcher : Watcher) : Prop :=
  info.lastMessagesType = .none ∧ info.index = 0 ∧ info.done = false ∧
    Shows (fun _ _ => False) (fun _ => True) watcher

variable {info : ClaudeConvertInfo} {watcher : Watcher}

theorem Untouched.outside (untouched : Untouched info watcher) : Outside info watcher := by
  obtain ⟨isNone, -, -, shows⟩ := untouched
  refine ⟨by simp [isNone], shows.congr (fun i kind => ?_) (fun _ _ => trivial)⟩
  simp [proseOpen, isNone]

theorem pos_of_introduced {call : Nat × ToolCall} {calls : List (Nat × ToolCall)} {total : Nat}
    (valid : (call :: calls).foldl introduce (some 0) = some total) : 0 < total := by
  obtain ⟨count, below, first⟩ := le_foldl_introduce calls valid
  rcases introduce_eq_some first with ⟨-, -, rfl⟩ | ⟨-, same, bound⟩
  · omega
  · omega

theorem firstToolCall_inTools (info : ClaudeConvertInfo)
    (shows : Shows (fun _ _ => False) (fun _ => True) watcher) (toolCall : ToolCall) :
    InTools 1 (firstToolCall toolCall info).1 ((firstToolCall toolCall info).2.foldl observe watcher) := by
  have started := shows.start (i := 0) trivial BlockKind.toolUse
  have arguments := foldl_toolArguments started (.inl ⟨rfl, rfl⟩) toolCall
  refine ⟨rfl, rfl, ?_⟩
  show Shows _ _ (List.foldl observe (watch watcher (.start 0 .toolUse)) (toolArguments 0 toolCall))
  rw [arguments]
  refine started.congr (fun i kind => ?_) (fun i new => ?_)
  · show _ ↔ kind = .toolUse ∧ 0 ≤ i ∧ i < 0 + 1
    constructor
    · rintro (⟨rfl, rfl⟩ | nothing)
      · exact ⟨rfl, le_rfl, by omega⟩
      · exact nothing.elim
    · rintro ⟨rfl, -, below⟩
      exact .inl ⟨by omega, rfl⟩
  · exact ⟨trivial, by omega⟩

variable (delta : Delta)

/-- The content of a first chunk. -/
theorem firstContent_holds (untouched : Untouched info watcher) :
    Outline.Holds ⟨some (firstPhase delta), delta.indexedCalls.foldl introduce (some 0)⟩
      (firstContent delta info).1 ((firstContent delta info).2.foldl observe watcher) := by
  have isNone := untouched.1
  cases calls : delta.toolCalls with
  | nil =>
    have isPhase : firstPhase delta = .before := by simp [firstPhase, calls]
    intro total valid
    cases said : delta.prose with
    | none =>
      simp only [isPhase, firstContent, firstCalls, firstWords, calls, said]
      exact untouched.outside
    | some prose =>
      have other : info.lastMessagesType ≠ prose.messagesType := by
        cases prose <;> simp [isNone, Prose.messagesType]
      simp only [isPhase, firstContent, firstCalls, firstWords, calls, said, andThen, quiet, id, firstProse_eq other]
      exact laterProse_outside prose other untouched.outside.stops
  | cons toolCall others =>
    have inside := firstToolCall_inTools info untouched.2.2.2 toolCall
    have holds : Outline.Holds ⟨some (.tools 1), delta.indexedCalls.foldl introduce (some 0)⟩
        (firstToolCall toolCall info).1
        ((firstToolCall toolCall info).2.foldl observe watcher) := by
      intro total valid
      refine ⟨Nat.one_pos, ?_, inside⟩
      simp only [Delta.indexedCalls, calls, mapIdx_cons] at valid
      exact pos_of_introduced valid
    cases said : delta.prose with
    | none =>
      have isPhase : firstPhase delta = .tools 1 := by simp [firstPhase, calls, said]
      simp only [isPhase, firstContent, firstCalls, firstWords, calls, said, andThen, quiet, append_nil]
      exact holds
    | some prose =>
      have isPhase : firstPhase delta = .after := by simp [firstPhase, calls, said]
      have other : (firstToolCall toolCall info).1.lastMessagesType ≠ prose.messagesType :=
        prose.messagesType_ne_tools.symm
      have went := laterProse_holds _ prose _ _ holds
      simp only [isPhase, firstContent, firstCalls, firstWords, calls, said, andThen, firstProse_eq other, foldl_append]
      exact went

theorem firstContent_last (isNone : info.lastMessagesType = .none) :
    (firstContent delta info).1.lastMessagesType = delta.lastType := by
  cases calls : delta.toolCalls <;> cases said : delta.prose <;>
    simp [firstContent, firstCalls, firstWords, Delta.lastType, calls, said, andThen, quiet, isNone,
      firstToolCall, firstProse, writeProse]

theorem untouched_opening (usage : Option Usage) (chunk : Chunk) (estimate : Int) : Untouched (.starting usage)
      (observe (some Monitor.initial) (messageStart chunk estimate)) :=
  ⟨rfl, rfl, rfl, shows_head⟩

theorem spent_foldl {i : Nat} (events : List ClaudeEvent) :
    ∀ {watcher : Watcher}, Spent i watcher → Spent i (events.foldl observe watcher) := by
  induction events with
  | nil => exact fun spent => spent
  | cons event events ih => exact fun spent => ih (spent.watch event.signal)

/-- A first chunk that opens a block uses index 0. -/
theorem firstContent_spent {delta : Delta} (untouched : Untouched info watcher) (opens : delta.lastType ≠ .none) :
    Spent 0 ((firstContent delta info).2.foldl observe watcher) := by
  obtain ⟨isNone, isZero, -, shows⟩ := untouched
  cases calls : delta.toolCalls with
  | cons toolCall others =>
    obtain ⟨-, -, started⟩ := firstToolCall_inTools info shows toolCall
    have isOpen : BlockKind.toolUse = .toolUse ∧ 0 ≤ 0 ∧ 0 < 0 + 1 := by decide
    have spent := started.spent isOpen
    rw [firstContent, firstCalls, firstWords, calls, andThen, foldl_append]
    exact spent_foldl _ spent
  | nil =>
    cases said : delta.prose with
    | none => simp [Delta.lastType, calls, said] at opens
    | some prose =>
      have events : (firstContent delta info).2 =
          [.contentBlockStart info.index prose.block, .contentBlockDelta info.index prose.delta] := by
        simp [firstContent, firstCalls, firstWords, calls, said, firstProse, leaveOthers, stopOpenBlocksAndAdvance,
          stopOpenBlocks, advanced, isNone, startProse, writeProse, andThen, write, quiet]
      have started := shows.start (i := info.index) trivial prose.block.kind
      have spent : Spent info.index _ := started.spent (.inl ⟨rfl, rfl⟩)
      rw [events]
      rw [isZero] at spent ⊢
      exact spent_foldl [_] spent

/-- A block that is started anew where one of its kind is open. -/
theorem firstProse_refused {prose : Prose}
    (same : info.lastMessagesType = prose.messagesType) (outside : Outside info watcher) :
    (firstProse prose info).2.foldl observe watcher = none := by
  have isOpen : info.proseOpen info.index prose.block.kind := by
    cases prose <;> simp_all [proseOpen, Prose.messagesType, Prose.block, Block.kind]
  have refused : observe watcher (.contentBlockStart info.index prose.block) = none :=
    (outside.2.spent isOpen).start prose.block.kind
  simp [firstProse, leaveOthers, same, startProse, andThen, write, refused]

/-- The content of a chunk that is taken for the first one again. -/
theorem firstContent_again {first second : Delta} (untouched : Untouched info watcher) {named : Nat}
    (introduced : first.indexedCalls.foldl introduce (some 0) = some named) (usage : Option Usage) :
    let after := { (firstContent first info).1 with usage := usage }
    let seen := (firstContent first info).2.foldl observe watcher
    if secondFits first second then
      ∃ phase, Outline.Holds ⟨some phase, second.indexedCalls.foldl introduce (some named)⟩
        (firstContent second after).1 ((firstContent second after).2.foldl observe seen)
    else (firstContent second after).2.foldl observe seen = none := by
  intro after seen
  have holds : Outline.Holds ⟨some (firstPhase first), some named⟩ after seen :=
    (introduced ▸ firstContent_holds first untouched :)
  have last : after.lastMessagesType = first.lastType := firstContent_last first untouched.1
  cases calls : second.toolCalls with
  | cons toolCall others =>
    by_cases nothing : first.lastType = .none
    · have silent : first.toolCalls = [] ∧ first.prose = none := by
        revert nothing
        unfold Delta.lastType
        cases first.prose with
        | some prose => cases prose <;> simp [Prose.messagesType]
        | none => simp
      have same : firstContent first info = (info, []) := by
        simp [firstContent, firstCalls, firstWords, silent, andThen, quiet]
      obtain rfl : 0 = named := by simpa [Delta.indexedCalls, silent] using introduced
      have again := firstContent_holds second (show Untouched { info with usage := usage } watcher from untouched)
      simp only [secondFits, calls, nothing, after, seen, same]
      exact ⟨_, again⟩
    · have refused : observe seen (startToolUse 0 (toolCall.index.getD 0) toolCall) = none :=
        (firstContent_spent untouched nothing).start .toolUse
      have fails : secondFits first second = false := by simp [secondFits, calls, nothing]
      rw [fails]
      simp [firstContent, firstCalls, calls, andThen, firstToolCall, refused]
  | nil =>
    have silent : second.indexedCalls = [] := by simp [Delta.indexedCalls, calls]
    rw [silent]
    cases said : second.prose with
    | none =>
      simp only [secondFits, calls, said, firstContent, firstCalls, firstWords]
      exact ⟨_, holds⟩
    | some prose =>
      have same : firstContent second after = firstProse prose after := by
        simp [firstContent, firstCalls, firstWords, calls, said, andThen, quiet]
      by_cases repeated : first.lastType = prose.messagesType
      · have fails : secondFits first second = false := by simp [secondFits, calls, said, repeated]
        have outside : Outside after seen := by
          have known := holds named rfl
          cases isPhase : firstPhase first with
          | before => simpa only [isPhase] using known
          | after => simp only [isPhase] at known; exact known.2
          | tools count =>
            simp only [isPhase] at known
            exact absurd (known.2.2.1.symm.trans (last.trans repeated)) prose.messagesType_ne_tools.symm
        rw [fails, same]
        exact firstProse_refused (last.trans repeated) outside
      · have fits : secondFits first second = true := by simp [secondFits, calls, said, repeated]
        have other : after.lastMessagesType ≠ prose.messagesType := last ▸ repeated
        rw [fits, same, firstProse_eq other]
        exact ⟨_, laterProse_holds _ prose _ _ holds⟩

/-! ## A stream of one chunk -/

/-- The converter begins a message at a first chunk only. -/
abbrev Headless (code : Converts) : Prop := Writes (fun event => event.signal ≠ .head) code

theorem stopOpenBlocks_headless (info : ClaudeConvertInfo) : ∀ event ∈ stopOpenBlocks info, event.signal ≠ .head := by
  intro event member
  unfold stopOpenBlocks at member
  split at member <;> simp at member
  · subst member; simp [signal]
  · subst member; simp [signal]
  · obtain ⟨offset, -, rfl⟩ := member; simp [signal]

theorem laterToolCall_headless (call : Nat × ToolCall) : Headless (laterToolCall call) := by
  intro info event member
  rcases mem_append.mp member with start | arguments
  · obtain ⟨-, rfl⟩ : call.2.name ≠ "" ∧ event = startToolUse (info.toolCallBaseIndex + call.1) call.1 call.2 := by
      simpa using start
    simp [startToolUse, signal]
  · obtain ⟨-, rfl⟩ : call.2.arguments ≠ "" ∧ event = .contentBlockDelta
        (info.toolCallBaseIndex + call.1) (.inputJson call.2.arguments) := by
      simpa [toolArguments] using arguments
    simp [signal]

theorem openTools_headless : Headless openTools := by
  intro info
  by_cases inside : info.lastMessagesType = .tools
  · simp [openTools_inside inside]
  · rw [openTools_outside inside]
    exact stopOpenBlocks_headless info

variable (prose : Prose)

theorem writeProse_headless : Headless (writeProse prose) := by
  intro info event member
  obtain rfl : event = .contentBlockDelta info.index prose.delta := by
    simpa [writeProse, andThen, write, quiet] using member
  simp [signal]

theorem startProse_headless : Headless (startProse prose) := by
  intro info event member
  obtain rfl : event = .contentBlockStart info.index prose.block := by simpa [startProse, write] using member
  simp [signal]

theorem laterProse_headless : Headless (laterProse prose) := by
  have started : Headless (stopOpenBlocksAndAdvance.andThen ((startProse prose).andThen (writeProse prose))) :=
    Writes.andThen stopOpenBlocks_headless
      ((startProse_headless prose).andThen (writeProse_headless prose))
  intro info
  unfold laterProse
  split
  · exact started info
  · exact writeProse_headless prose info

theorem laterContent_headless : Headless (laterContent delta) := by
  cases calls : delta.toolCalls with
  | cons first others =>
    rw [laterContent, calls]
    exact openTools_headless.andThen ((Writes.each laterToolCall_headless _).andThen (.quiet _))
  | nil =>
    cases said : delta.prose with
    | none =>
      rw [laterContent, calls, said]
      exact .quiet _
    | some prose =>
      rw [laterContent, calls, said]
      exact laterProse_headless prose

theorem ending_headless (info : ClaudeConvertInfo) (usage : Option Usage) (stopReason : String) :
    ∀ event ∈ stopOpenBlocks info ++ (messageDelta usage stopReason ++ [messageStop]), event.signal ≠ .head := by
  intro event member
  rcases mem_append.mp member with stop | later
  · exact stopOpenBlocks_headless info event stop
  · rcases mem_append.mp later with note | tail
    · cases usage with
      | none => cases note
      | some usage =>
        obtain rfl := mem_singleton.mp note
        simp [signal]
    · obtain rfl := mem_singleton.mp tail
      simp [signal]

theorem laterChunk_headless (chunk : Chunk) : Headless (laterChunk chunk) := by
  intro info event member
  cases going : info.done with
  | true => simp [laterChunk, going] at member
  | false =>
    cases listed : chunk.choices with
    | nil =>
      simp only [laterChunk, going, listed, usageOnlyChunk] at member
      cases known : chunk.usage.or info.usage with
      | none => simp [known] at member
      | some usage =>
        simp only [known] at member
        exact ending_headless info _ _ event member
    | cons choice others =>
      cases finishes : choice.finishes with
      | false =>
        rw [laterChunk_content info going listed finishes] at member
        exact laterContent_headless _ _ event member
      | true =>
        cases known : chunk.usage with
        | none => simp [laterChunk_skip info going listed finishes known] at member
        | some usage =>
          obtain ⟨reason, closes⟩ := laterChunk_close info going listed finishes (by rw [known]; rfl)
          rw [closes] at member
          rcases mem_append.mp member with content | ending
          · exact laterContent_headless _ _ event content
          · exact ending_headless _ _ _ event ending

/-- Without a head nothing is accepted. -/
theorem not_accepts_headless {events : List ClaudeEvent} (headless : ∀ event ∈ events, event.signal ≠ .head) :
    ¬ Accepts (events.foldl observe (some Monitor.initial)) := by
  cases events with
  | nil => simp [Accepts, Monitor.initial]
  | cons event events =>
    have refused : observe (some Monitor.initial) event = none := by
      show Monitor.read Monitor.initial event.signal = none
      cases isSignal : event.signal <;> simp_all [Monitor.read, Monitor.initial]
    rw [foldl_cons, refused, foldl_observe_none]
    exact id

section
variable {first : Chunk} {choice : Choice}

/-- The first chunk, if it finishes, is a whole message. -/
theorem openingChunk_accepts (estimate : Int) (usage : Option Usage)
    (listed : first.choices = [choice]) (finishes : choice.finishes = true) {total : Nat}
    (introduced : choice.delta.indexedCalls.foldl introduce (some 0) = some total) :
    let opened := openingChunk first estimate (.starting usage)
    opened.1.done = true ∧ Accepts (opened.2.foldl observe (some Monitor.initial)) := by
  obtain ⟨known, reason, closes⟩ := openingChunk_close estimate (.starting usage) rfl listed finishes
  have holds := firstContent_holds choice.delta (untouched_opening usage first estimate)
  intro opened
  simp only [opened, closes]
  refine ⟨trivial, ?_⟩
  rw [foldl_cons, foldl_append, holds.ends introduced]
  rfl

/-- A stream of two chunks, the first of which does not finish. -/
theorem converse_second_accepts (estimate : Int) (settled : Usage) {second : Chunk}
    (single : SingleChoice [second]) (untouched : Untouched info watcher) {named : Nat}
    (introduced : choice.delta.indexedCalls.foldl introduce (some 0) = some named)
    (valid : (second.calls.foldl introduce (some named)).isSome) :
    let content := firstContent choice.delta info
    Accepts ((converse estimate settled 1 [second] content.1).2.foldl observe (content.2.foldl observe watcher)) ↔
      ∃ last others, second.choices = last :: others ∧ last.finishes = true ∧
        secondFits choice.delta last.delta = true := by
  intro content
  have going : content.1.done = false := (firstContent_done _ _).trans untouched.2.2.1
  have holds := firstContent_holds choice.delta untouched
  rw [introduced] at holds
  obtain ⟨isOpen, fresh, shows⟩ := holds.shows rfl
  have begun : observe (content.2.foldl observe watcher) (messageStart second estimate) =
      content.2.foldl observe watcher := shows.head
  rw [converse_second]
  cases listed : second.choices with
  | nil =>
    have events : (openingChunk second estimate { content.1 with usage := some settled }).2 =
        [messageStart second estimate] := by
      simp [openingChunk, going, firstChunk, listed, andThen, write, quiet]
    rw [events, foldl_cons, begun, foldl_nil]
    simpa using shows.not_accepts
  | cons last others =>
    obtain rfl : others = [] := by simpa [SingleChoice, listed] using single
    have calls : second.calls = last.delta.indexedCalls := by simp [Chunk.calls, listed]
    rw [calls] at valid
    obtain ⟨total, isTotal⟩ := isSome_iff_exists.mp valid
    have again : if secondFits choice.delta last.delta then _ else _ :=
      firstContent_again untouched introduced (some settled)
    cases finishes : last.finishes with
    | false =>
      rw [openingChunk_content estimate { content.1 with usage := some settled } going listed
        finishes, foldl_cons, begun]
      cases fits : secondFits choice.delta last.delta with
      | true =>
        simp only [fits] at again
        obtain ⟨phase, kept⟩ := again
        simpa [finishes] using kept.not_accepts isTotal
      | false =>
        simp only [fits, Bool.false_eq_true, if_false] at again
        simp [content, again, Accepts, finishes]
    | true =>
      obtain ⟨known, reason, closes⟩ := openingChunk_close estimate
        { content.1 with usage := some settled } going listed finishes
      rw [closes, foldl_cons, begun, foldl_append]
      cases fits : secondFits choice.delta last.delta with
      | true =>
        simp only [fits] at again
        obtain ⟨phase, kept⟩ := again
        simpa [finishes, fits] using kept.ends isTotal known reason
      | false =>
        simp only [fits, Bool.false_eq_true, if_false] at again
        simp [content, again, Accepts, fits]

end

/-- The streams that become a well-formed message are those that `convertsWell` describes. -/
theorem wellFormedMessage_iff_convertsWell (config : StreamConfig)
    (client : config.relayFormat = .claude) (chunks : List Chunk) (upstream : Upstream chunks) :
    WellFormedMessage (claudeEvents config chunks) ↔ convertsWell chunks = true := by
  obtain ⟨settled, events⟩ := claudeEvents_eq client chunks
  rw [wellFormedMessage_iff, events]
  rcases chunks with _ | ⟨first, _ | ⟨second, rest⟩⟩
  · simp [converse, quiet, convertsWell, Accepts, Monitor.initial]
  · rw [converse_one]
    have refused := not_accepts_headless (laterChunk_headless first { initial with usage := some settled })
    simpa [converseLater, noteUsage, andThen, quiet, convertsWell] using refused
  · obtain ⟨⟨choice, listed⟩, rest_single⟩ : (∃ choice, first.choices = [choice]) ∧ SingleChoice (second :: rest) := by
      obtain ⟨shape, later⟩ := upstream.single
      exact ⟨length_eq_one_iff.mp (shape.resolve_right (by simp)), later⟩
    have calls : first.calls = choice.delta.indexedCalls := by simp [Chunk.calls, listed]
    have valid := upstream.introduced
    rw [flatMap_cons, foldl_append, calls] at valid
    obtain ⟨total, isTotal⟩ := isSome_iff_exists.mp valid
    obtain ⟨named, -, introduced⟩ := le_foldl_introduce _ isTotal
    rw [converse_first, foldl_append]
    cases finishes : choice.finishes with
    | true =>
      obtain ⟨isOver, accepted⟩ := openingChunk_accepts config.estimatePromptTokens
        first.usage listed finishes introduced
      rw [converse_done _ _ _ _ _ isOver]
      simpa [convertsWell, listed, finishes] using accepted
    | false =>
      have untouched := untouched_opening first.usage first config.estimatePromptTokens
      rw [openingChunk_content _ _ rfl listed finishes, foldl_cons]
      cases rest with
      | nil =>
        refine (converse_second_accepts _ settled rest_single untouched introduced
          (by simpa [introduced] using valid)).trans ?_
        cases others : second.choices <;> simp [convertsWell, listed, finishes, others]
      | cons third rest =>
        have holds := firstContent_holds choice.delta untouched
        rw [converse_later _ _ _ _ le_rfl (.inr (by simp)),
          converseLater_accepts settled _ _ _ _ _ rest_single
            ((firstContent_done _ _).trans rfl) holds valid]
        simp [convertsWell, listed, finishes]

/-- A text, a tool call in two fragments, and the finish reason with the usage. -/
theorem text_and_tool_call_well_formed : WellFormedMessage (claudeEvents (plainConfig .claude false)
      [choiceChunk (textDelta "Let me look.") none none, choiceChunk (callDelta 0 "search" "") none none,
        choiceChunk (callDelta 0 "" "\x7b\x7d") none none,
        choiceChunk silentDelta (some "tool_calls") (some ⟨3, 5, 0, 0, 0, 0⟩)]) :=
  (wellFormedMessage_iff_convertsWell (plainConfig .claude false) rfl _
    ⟨by simp [SingleChoice, choiceChunk], by decide⟩).mpr (by decide)

/-- Streams that upstreams do send and that are not converted well: no usage at all, so that the
message is never stopped; everything in one chunk, so that it is never started; and two tool calls
in the first chunk, the second of which gets no block. -/
theorem messages_not_well_formed :
    (Upstream [choiceChunk (textDelta "") none none, choiceChunk (textDelta "hi") none none,
        choiceChunk silentDelta (some "stop") none] ∧ ¬ WellFormedMessage (claudeEvents (plainConfig .claude false)
        [choiceChunk (textDelta "") none none, choiceChunk (textDelta "hi") none none,
          choiceChunk silentDelta (some "stop") none])) ∧
    (Upstream [choiceChunk (textDelta "hi") (some "stop") (some ⟨3, 5, 0, 0, 0, 0⟩)] ∧
      ¬ WellFormedMessage (claudeEvents (plainConfig .claude false)
        [choiceChunk (textDelta "hi") (some "stop") (some ⟨3, 5, 0, 0, 0, 0⟩)])) ∧
    (Upstream [choiceChunk ⟨"", none, none, none, [⟨some 0, "a", "search", "\x7b\x7d"⟩,
          ⟨some 1, "b", "fetch", "\x7b\x7d"⟩]⟩ none none, choiceChunk (callDelta 1 "" " ") none none,
        choiceChunk silentDelta (some "tool_calls") (some ⟨3, 5, 0, 0, 0, 0⟩)] ∧
      ¬ WellFormedMessage (claudeEvents (plainConfig .claude false)
        [choiceChunk ⟨"", none, none, none, [⟨some 0, "a", "search", "\x7b\x7d"⟩,
            ⟨some 1, "b", "fetch", "\x7b\x7d"⟩]⟩ none none, choiceChunk (callDelta 1 "" " ") none none,
          choiceChunk silentDelta (some "tool_calls") (some ⟨3, 5, 0, 0, 0, 0⟩)])) := by
  simp only [wellFormedMessage_iff]
  refine ⟨⟨⟨by simp [SingleChoice, choiceChunk], by decide⟩, by decide +kernel⟩,
    ⟨⟨by simp [SingleChoice, choiceChunk], by decide⟩, by decide +kernel⟩,
    ⟨⟨by simp [SingleChoice, choiceChunk], by decide⟩, by decide +kernel⟩⟩

end NewApi.Stream
