/-
# Stream.ClaudeContent — what a Claude client gets of the content of a stream

The texts of a stream come on channels: the text, the reasoning, and the arguments of each tool call.
A client joins what it gets on each of them (`Intake`).

The converter sends each piece of content as it comes or not at all, and the only pieces that can go
to a wrong tool call are those of call 0, when the first chunk has given block 0 to another one.
Dropped are: everything after the end of the message, a chunk that finishes without a usage, text
beside reasoning, either of them beside tool calls, and the first chunk's tool calls but one; astray
go arguments for a call that has no block in the present run of tool calls.
-/
import NewApi.Theory.Delivery
import NewApi.Stream.ClaudeRun

namespace NewApi.Stream
open Theory ClaudeConvertInfo Emitter Function Chunk List

/-! ## Content, sent and received -/

inductive Channel where
  | text
  | reasoning
  | arguments (call : Nat)
deriving DecidableEq

abbrev Piece := Channel × String

variable (delta : Delta)

def Delta.pieces : List Piece :=
  delta.indexedCalls.map (fun call => (.arguments call.1, call.2.arguments)) ++
    [(.reasoning, delta.getReasoningContent), (.text, delta.getContentString)]

def Chunk.pieces (chunk : Chunk) : List Piece := chunk.choices.flatMap fun choice => choice.delta.pieces

/-- What a client has: for each block index the tool call that the last block started there is
for, and what has arrived. -/
structure Intake where
  owner : Nat → Option Nat
  arrived : List Piece

def Intake.empty : Intake := ⟨fun _ => none, []⟩

def Block.call? : Block → Option Nat
  | .toolUse _ _ call => some call
  | _ => none

def Intake.read (intake : Intake) : ClaudeEvent → Intake
  | .contentBlockStart index block =>
    { intake with owner := update intake.owner index block.call? }
  | .contentBlockDelta _ (.text text) =>
    { intake with arrived := intake.arrived ++ [(.text, text)] }
  | .contentBlockDelta _ (.thinking thinking) =>
    { intake with arrived := intake.arrived ++ [(.reasoning, thinking)] }
  | .contentBlockDelta index (.inputJson partialJson) =>
    match intake.owner index with
    | none => intake
    | some call => { intake with arrived := intake.arrived ++ [(.arguments call, partialJson)] }
  | _ => intake

/-- Every channel's text is what was sent on it. -/
def PreservesContent (chunks : List Chunk) (events : List ClaudeEvent) : Prop :=
  ∀ channel, joined (chunks.flatMap pieces) channel =
    joined (events.foldl Intake.read .empty).arrived channel

/-! ## The condition -/

def Delta.silent : Bool :=
  delta.toolCalls.all (fun toolCall => toolCall.arguments = "") &&
    (delta.getReasoningContent = "" && delta.getContentString = "")

def Chunk.silent (chunk : Chunk) : Bool := chunk.choices.all fun choice => choice.delta.silent

/-- The tool calls with a block in this run of them. -/
def opensCall (opened : List Nat) (call : Nat × ToolCall) : List Nat :=
  if call.2.name ≠ "" then call.1 :: opened else opened

/-- Arguments come for tool calls with a block only. -/
def callsFit : List Nat → List (Nat × ToolCall) → Bool
  | _, [] => true
  | opened, call :: calls =>
    (call.2.arguments = "" || (opensCall opened call).contains call.1) &&
      callsFit (opensCall opened call) calls

/-- A later chunk carries tool calls, or reasoning, or text, and not two of them. -/
def Delta.fits (delta : Delta) (opened : List Nat) : Bool :=
  if delta.toolCalls.isEmpty then
    delta.getReasoningContent = "" || delta.getContentString = ""
  else callsFit opened delta.indexedCalls &&
    (delta.getReasoningContent = "" && delta.getContentString = "")

/-- Text and reasoning end a run of tool calls. -/
def Delta.opens (delta : Delta) (opened : List Nat) : List Nat :=
  if delta.toolCalls.isEmpty then if delta.prose.isSome then [] else opened
  else delta.indexedCalls.foldl opensCall opened

/-- The rest of the stream loses nothing: chunks that are not converted carry nothing. -/
def losesNothing (opened : List Nat) : List Chunk → Bool
  | [] => true
  | chunk :: rest =>
    match chunk.choices with
    | [] => rest.all silent
    | choice :: _ =>
      if choice.finishes then
        if chunk.usage.isSome then choice.delta.fits opened && rest.all silent
        else choice.delta.silent && losesNothing opened rest
      else choice.delta.fits opened && losesNothing (choice.delta.opens opened) rest

/-- The first chunk: arguments for its first tool call only, and not both reasoning and text. -/
def Delta.fitsFirst (delta : Delta) : Bool :=
  delta.toolCalls.tail.all (fun toolCall => toolCall.arguments = "") &&
    (delta.getReasoningContent = "" || delta.getContentString = "")

/-- The tool call that has a block after the first chunk, if it is the one with index 0. -/
def Delta.opensFirst (delta : Delta) : List Nat :=
  if delta.prose.isSome then []
  else match delta.toolCalls with
    | [] => []
    | toolCall :: _ => if toolCall.index.getD 0 = 0 then [0] else []

def conveysAll : List Chunk → Bool
  | [] => true
  | [chunk] => losesNothing [] [chunk]
  | first :: second :: rest =>
    match first.choices with
    | [] => true
    | choice :: _ =>
      choice.delta.fitsFirst &&
        if choice.finishes then (second :: rest).all silent
        else match rest with
          | [] => second.choices.all fun last => last.delta.fitsFirst
          | _ :: _ => losesNothing choice.delta.opensFirst (second :: rest)

/-! ## Shipments -/

/-- The pieces were sent, this much of them arrived, and nothing is missing if `whole`. -/
def Carries (pieces : List Piece) (before after : Intake) (whole : Prop) : Prop :=
  ∃ shipments : List (Shipment Channel), sent shipments = pieces ∧
    after.arrived = before.arrived ++ received shipments ∧
    StrayOnly (.arguments 0) shipments ∧ (Whole shipments ↔ whole)

variable {before after intake : Intake} {whole fine : Prop} {info : ClaudeConvertInfo} {opened : List Nat}
  {owner : Nat → Option Nat} {chunk : Chunk} {choice : Choice}

theorem Carries.append {pieces others : List Piece} {middle : Intake} (first : Carries pieces before middle whole)
    (second : Carries others middle after fine) : Carries (pieces ++ others) before after (whole ∧ fine) := by
  obtain ⟨shipments, rfl, arrived, strays, isWhole⟩ := first
  obtain ⟨more, rfl, later, laterStrays, isFine⟩ := second
  refine ⟨shipments ++ more, sent_append _ _, ?_, strays.append laterStrays, ?_⟩
  · rw [later, arrived, received_append, append_assoc]
  · rw [whole_append, isWhole, isFine]

theorem Carries.congr {pieces : List Piece} (carries : Carries pieces before after whole) (same : whole ↔ fine) :
    Carries pieces before after fine := by
  obtain ⟨shipments, isSent, arrived, strays, isWhole⟩ := carries
  exact ⟨shipments, isSent, arrived, strays, isWhole.trans same⟩

/-- Nothing of the pieces arrives. -/
theorem carries_nothing (same : after.arrived = before.arrived) :
    ∀ pieces : List Piece, Carries pieces before after (∀ piece ∈ pieces, piece.2 = "") := by
  intro pieces
  refine ⟨pieces.map fun piece => ⟨piece.1, piece.2, none⟩, by simp [sent, comp_def],
    ?_, ?_, ?_⟩
  · simp [received, same]
  · intro shipment member
    obtain ⟨piece, -, rfl⟩ := mem_map.mp member
    exact .inl rfl
  · constructor
    · intro whole piece member
      by_contra full
      exact absurd (whole _ (mem_map_of_mem member) full) (by simp)
    · intro empty shipment member full
      obtain ⟨piece, isPiece, rfl⟩ := mem_map.mp member
      exact absurd (empty piece isPiece) full

theorem carries_piece (piece : Piece) (arrives : after.arrived = before.arrived ++ [piece]) :
    Carries [piece] before after True := by
  refine ⟨[⟨piece.1, piece.2, some piece.1⟩], rfl, arrives, ?_, by simp [Whole]⟩
  intro shipment member
  obtain rfl := mem_singleton.mp member
  exact .inr (.inl rfl)

/-- A piece of the stray channel arrives on another one. -/
theorem carries_stray {text : String} {call : Nat} (full : text ≠ "")
    (other : call ≠ 0) (arrives : after.arrived = before.arrived ++ [(.arguments call, text)]) :
    Carries [(.arguments 0, text)] before after False := by
  refine ⟨[⟨.arguments 0, text, some (.arguments call)⟩], rfl, arrives, ?_, ?_⟩
  · intro shipment member
    obtain rfl := mem_singleton.mp member
    exact .inr (.inr rfl)
  · simp [Whole, full, other]

theorem Carries.preserves {chunks : List Chunk} {events : List ClaudeEvent}
    (carries : Carries (chunks.flatMap pieces) .empty (events.foldl Intake.read .empty) whole) :
    PreservesContent chunks events ↔ whole := by
  obtain ⟨shipments, isSent, arrived, strays, isWhole⟩ := carries
  rw [PreservesContent, arrived, ← isSent, ← isWhole]
  exact joined_eq_iff_whole _ strays

/-- The events with content, or with a say in where arguments arrive. -/
def ClaudeEvent.matters : ClaudeEvent → Bool
  | .contentBlockStart _ _ => true
  | .contentBlockDelta _ _ => true
  | _ => false

theorem foldl_read_idle (events : List ClaudeEvent) (intake : Intake)
    (idle : ∀ event ∈ events, event.matters = false) : events.foldl Intake.read intake = intake := by
  induction events with
  | nil => rfl
  | cons event events ih =>
    obtain ⟨first, rest⟩ := forall_mem_cons.mp idle
    have same : intake.read event = intake := by
      cases event <;> first | rfl | simp [ClaudeEvent.matters] at first
    rw [foldl_cons, same, ih rest]

@[simp] theorem foldl_read_stops (info : ClaudeConvertInfo) (intake : Intake) :
    (stopOpenBlocks info).foldl Intake.read intake = intake := by
  refine foldl_read_idle _ _ fun event member => ?_
  unfold stopOpenBlocks at member
  split at member <;> simp at member
  · subst member; rfl
  · subst member; rfl
  · obtain ⟨offset, -, rfl⟩ := member; rfl

@[simp] theorem foldl_read_ending (info : ClaudeConvertInfo) (usage : Option Usage)
    (stopReason : String) (intake : Intake) :
    (stopOpenBlocks info ++ (messageDelta usage stopReason ++ [ClaudeEvent.messageStop])).foldl
      Intake.read intake = intake := by
  rw [foldl_append, foldl_read_stops]
  cases usage <;> rfl

/-- Blocks from the next index on have no owner, and in a run of tool calls exactly the opened
ones own their blocks.  Block 0 of the first chunk may belong to another call than its index
says. -/
structure Routes (opened : List Nat) (info : ClaudeConvertInfo) (owner : Nat → Option Nat) :
    Prop where
  fresh : ∀ i, info.nextIndex ≤ i → owner i = none
  outside : info.lastMessagesType ≠ .tools → opened = []
  own : info.lastMessagesType = .tools →
    ∀ o, o ∈ opened ↔ owner (info.toolCallBaseIndex + o) = some o
  stray : info.lastMessagesType = .tools →
    ∀ o, o ≠ 0 → owner (info.toolCallBaseIndex + o) = none ∨
      owner (info.toolCallBaseIndex + o) = some o

theorem routes_initial (isNone : info.lastMessagesType = .none) : Routes [] info Intake.empty.owner :=
  ⟨fun _ _ => rfl, fun _ => rfl, fun isTools => by simp [isNone] at isTools,
    fun isTools => by simp [isNone] at isTools⟩

section
variable (routes : Routes opened info owner) (isTools : info.lastMessagesType = .tools) (call : Nat)
include routes isTools call

/-- The name of a tool call starts its block. -/
theorem Routes.start :
    Routes (call :: opened) { info with toolCallMaxIndexOffset := max info.toolCallMaxIndexOffset call }
      (update owner (info.toolCallBaseIndex + call) (some call)) where
  fresh := by
    intro i above
    simp only [nextIndex, isTools] at above
    rw [update_of_ne (by omega)]
    refine routes.fresh i ?_
    simp only [nextIndex, isTools]
    omega
  outside := fun notTools => absurd isTools notTools
  own := by
    intro _ o
    by_cases same : o = call
    · subst same
      simp
    · have apart : info.toolCallBaseIndex + o ≠ info.toolCallBaseIndex + call := by omega
      rw [update_of_ne apart, ← routes.own isTools o]
      simp [same]
  stray := by
    intro _ o nonzero
    by_cases same : o = call
    · subst same
      simp
    · have apart : info.toolCallBaseIndex + o ≠ info.toolCallBaseIndex + call := by omega
      rw [update_of_ne apart]
      exact routes.stray isTools o nonzero

/-- A tool call without a name starts nothing. -/
theorem Routes.extend : Routes opened { info with toolCallMaxIndexOffset := max info.toolCallMaxIndexOffset call }
      owner where
  fresh := by
    intro i above
    refine routes.fresh i ?_
    simp only [nextIndex, isTools] at above ⊢
    omega
  outside := routes.outside
  own := routes.own
  stray := routes.stray

end

/-- Arguments arrive where the block's owner says. -/
theorem toolArguments_carries (intake : Intake)
    (routes : Routes opened info intake.owner) (isTools : info.lastMessagesType = .tools) (call : Nat × ToolCall) :
    let after := (toolArguments (info.toolCallBaseIndex + call.1) call.2).foldl Intake.read intake
    after.owner = intake.owner ∧
      Carries [(.arguments call.1, call.2.arguments)] intake after
        (call.2.arguments = "" ∨ call.1 ∈ opened) := by
  intro after
  by_cases full : call.2.arguments = ""
  · have same : after = intake := by simp [after, toolArguments, full]
    rw [same]
    refine ⟨rfl, (carries_nothing rfl [_]).congr ?_⟩
    simp [full]
  · have events : toolArguments (info.toolCallBaseIndex + call.1) call.2 =
        [.contentBlockDelta (info.toolCallBaseIndex + call.1) (.inputJson call.2.arguments)] := by
      simp [toolArguments, full]
    have own := routes.own isTools call.1
    cases owned : intake.owner (info.toolCallBaseIndex + call.1) with
    | none =>
      have same : after = intake := by simp [after, events, Intake.read, owned]
      rw [owned] at own
      rw [same]
      refine ⟨rfl, (carries_nothing rfl [_]).congr ?_⟩
      simp [own]
    | some other =>
      have arrived : after = { intake with arrived :=
          intake.arrived ++ [(.arguments other, call.2.arguments)] } := by
        simp [after, events, Intake.read, owned]
      rw [owned] at own
      rw [arrived]
      refine ⟨rfl, ?_⟩
      by_cases home : other = call.1
      · subst home
        refine (carries_piece _ rfl).congr ?_
        simp [own]
      · have zero : call.1 = 0 := by
          by_contra nonzero
          rcases routes.stray isTools call.1 nonzero with none | same
          · rw [owned] at none
            cases none
          · rw [owned] at same
            exact home (Option.some.inj same)
        rw [zero] at own home ⊢
        refine (carries_stray full home rfl).congr ?_
        simp [full, own, home]

/-! ## The pieces of the conversion -/

/-- From `info` and `intake` on, the code carries these pieces, and then the tool calls in
`opened` have their blocks. -/
def Conveys (code : Converts) (info : ClaudeConvertInfo) (intake : Intake) (pieces : List Piece)
    (whole : Prop) (opened : List Nat) : Prop :=
  Carries pieces intake ((code info).2.foldl Intake.read intake) whole ∧
    Routes opened (code info).1 ((code info).2.foldl Intake.read intake).owner

theorem laterToolCall_conveys (routes : Routes opened info intake.owner) (isTools : info.lastMessagesType = .tools)
    (call : Nat × ToolCall) : Conveys (laterToolCall call) info intake [(.arguments call.1, call.2.arguments)]
      (call.2.arguments = "" ∨ call.1 ∈ opensCall opened call) (opensCall opened call) := by
  by_cases named : call.2.name = ""
  · have result : laterToolCall call info =
        ({ info with toolCallMaxIndexOffset := max info.toolCallMaxIndexOffset call.1 },
          toolArguments (info.toolCallBaseIndex + call.1) call.2) := by
      simp [laterToolCall, named]
    obtain ⟨same, carries⟩ := toolArguments_carries intake routes isTools call
    rw [Conveys, result, opensCall, if_neg (not_not_intro named)]
    refine ⟨carries, ?_⟩
    simp only [same]
    exact routes.extend isTools call.1
  · have result : laterToolCall call info =
        ({ info with toolCallMaxIndexOffset := max info.toolCallMaxIndexOffset call.1 },
          startToolUse (info.toolCallBaseIndex + call.1) call.1 call.2 ::
            toolArguments (info.toolCallBaseIndex + call.1) call.2) := by
      simp [laterToolCall, named]
    have started := routes.start isTools call.1
    obtain ⟨same, carries⟩ := toolArguments_carries
      (intake.read (startToolUse (info.toolCallBaseIndex + call.1) call.1 call.2))
      started isTools call
    rw [Conveys, result, opensCall, if_pos named]
    refine ⟨carries, ?_⟩
    simp only [foldl_cons]
    rw [same]
    exact started

/-- The loop over the tool calls of a chunk. -/
theorem each_laterToolCall_conveys : ∀ (calls : List (Nat × ToolCall)) (opened : List Nat) (info : ClaudeConvertInfo)
      (intake : Intake), Routes opened info intake.owner → info.lastMessagesType = .tools →
      Conveys (each laterToolCall calls) info intake (calls.map fun call => (.arguments call.1, call.2.arguments))
        (callsFit opened calls = true) (calls.foldl opensCall opened) := by
  intro calls
  induction calls with
  | nil =>
    intro opened info intake routes _
    exact ⟨(carries_nothing rfl []).congr (by simp [callsFit]), routes⟩
  | cons call calls ih =>
    intro opened info intake routes isTools
    obtain ⟨carries, after⟩ := laterToolCall_conveys routes isTools call
    obtain ⟨others, last⟩ := ih _ (laterToolCall call info).1 _ after isTools
    rw [Conveys, each, andThen, foldl_append]
    refine ⟨(carries.append others).congr ?_, last⟩
    simp [callsFit]

theorem openTools_routes (routes : Routes opened info intake.owner) : (openTools info).1.lastMessagesType = .tools ∧
      (openTools info).2.foldl Intake.read intake = intake ∧ Routes opened (openTools info).1 intake.owner := by
  by_cases inside : info.lastMessagesType = .tools
  · rw [openTools_inside inside]
    exact ⟨inside, rfl, routes⟩
  have nothing : ∀ o, intake.owner (info.advanced.index + o) = none := by
    intro o
    rw [advanced_index]
    exact routes.fresh _ (Nat.le_add_right _ _)
  rw [openTools_outside inside, routes.outside inside]
  refine ⟨rfl, foldl_read_stops info intake, ?_, fun other => absurd rfl other, ?_, ?_⟩
  · intro i above
    refine routes.fresh i ?_
    rw [← advanced_index]
    change info.advanced.index + 0 + 1 ≤ i at above
    omega
  · intro _ o
    simp [nothing o]
  · intro _ o _
    exact .inl (nothing o)

/-- In a run of tool calls `Index` has no say. -/
theorem Routes.setIndex (routes : Routes opened info owner) (isTools : info.lastMessagesType = .tools) (index : Nat) :
    Routes opened { info with index := index } owner where
  fresh := by
    intro i above
    refine routes.fresh i ?_
    simp only [nextIndex, isTools] at above ⊢
    exact above
  outside := routes.outside
  own := routes.own
  stray := routes.stray

theorem laterToolCalls_conveys (routes : Routes opened info intake.owner) (delta : Delta) :
    Conveys (laterToolCalls delta) info intake
      (delta.indexedCalls.map fun call => (.arguments call.1, call.2.arguments))
      (callsFit opened delta.indexedCalls = true) (delta.indexedCalls.foldl opensCall opened) := by
  obtain ⟨isTools, same, opensTools⟩ := openTools_routes routes
  obtain ⟨carries, last⟩ := each_laterToolCall_conveys delta.indexedCalls opened _ intake opensTools isTools
  rw [Conveys, laterToolCalls, andThen, foldl_append, same]
  simp only [andThen, quiet, append_nil]
  exact ⟨carries, last.setIndex ((each_laterToolCall_kept _ _).2.trans isTools) _⟩

def Prose.piece : Prose → Piece
  | .thinking reasoning => (.reasoning, reasoning)
  | .text content => (.text, content)

/-- Of the reasoning and the text of a delta the converter sends one. -/
theorem carries_prose (arrives : after.arrived = before.arrived ++ delta.prose.toList.map Prose.piece) :
    Carries [(.reasoning, delta.getReasoningContent), (.text, delta.getContentString)] before after
      (delta.getReasoningContent = "" ∨ delta.getContentString = "") := by
  by_cases silent : delta.getReasoningContent = ""
  · by_cases wordless : delta.getContentString = ""
    · have said : delta.prose = none := by simp [Delta.prose, silent, wordless]
      rw [said] at arrives
      refine (carries_nothing (by simpa using arrives) _).congr ?_
      simp [silent, wordless]
    · have said : delta.prose = some (.text delta.getContentString) := by simp [Delta.prose, silent, wordless]
      rw [said] at arrives
      have lost : Carries [(Channel.reasoning, delta.getReasoningContent)] before before _ := carries_nothing rfl _
      refine (lost.append (carries_piece (.text, delta.getContentString) arrives)).congr ?_
      simp [silent]
  · have said : delta.prose = some (.thinking delta.getReasoningContent) := by simp [Delta.prose, silent]
    rw [said] at arrives
    have lost : Carries [(Channel.text, delta.getContentString)] after after _ := carries_nothing rfl _
    refine ((carries_piece (.reasoning, delta.getReasoningContent) arrives).append lost).congr ?_
    simp [silent]

theorem read_prose (intake : Intake) (index : Nat) (prose : Prose) :
    intake.read (.contentBlockDelta index prose.delta) =
      { intake with arrived := intake.arrived ++ [prose.piece] } := by
  cases prose <;> rfl

/-- A block of text or reasoning, started or gone on with. -/
theorem laterProse_conveys (routes : Routes opened info intake.owner) (prose : Prose) :
    ((laterProse prose info).2.foldl Intake.read intake).arrived = intake.arrived ++ [prose.piece] ∧
      Routes [] (laterProse prose info).1 ((laterProse prose info).2.foldl Intake.read intake).owner := by
  by_cases same : info.lastMessagesType = prose.messagesType
  · have outside : info.lastMessagesType ≠ .tools := same ▸ prose.messagesType_ne_tools
    rw [laterProse_same same, foldl_cons, foldl_nil, read_prose]
    exact ⟨rfl, routes.outside outside ▸ routes⟩
  · rw [laterProse_other same, foldl_append, foldl_read_stops, foldl_cons, foldl_cons, foldl_nil, read_prose]
    refine ⟨rfl, ?_, fun _ => rfl, fun isTools => absurd isTools prose.messagesType_ne_tools,
      fun isTools => absurd isTools prose.messagesType_ne_tools⟩
    intro i above
    have beyond : info.nextIndex + 1 ≤ i := by
      rw [← advanced_index]
      cases prose <;> simpa [nextIndex, Prose.messagesType] using above
    show update intake.owner info.advanced.index _ i = none
    rw [advanced_index, update_of_ne (by omega)]
    exact routes.fresh i (by omega)

/-! ## Chunks -/

/-- The content of a later chunk. -/
theorem laterContent_conveys (routes : Routes opened info intake.owner) (delta : Delta) :
    Conveys (laterContent delta) info intake delta.pieces (delta.fits opened = true) (delta.opens opened) := by
  cases calls : delta.toolCalls with
  | cons first others =>
    obtain ⟨carries, after⟩ := laterToolCalls_conveys routes delta
    rw [Conveys, laterContent, calls, Delta.opens, calls, Delta.pieces]
    refine ⟨(carries.append (carries_nothing rfl _)).congr ?_, after⟩
    simp [Delta.fits, calls]
  | nil =>
    have silent : delta.indexedCalls = [] := by simp [Delta.indexedCalls, calls]
    have fits : delta.fits opened = true ↔ delta.getReasoningContent = "" ∨ delta.getContentString = "" := by
      simp [Delta.fits, calls]
    cases said : delta.prose with
    | none =>
      have opens : delta.opens opened = opened := by simp [Delta.opens, calls, said]
      rw [Conveys, laterContent, calls, said, opens, Delta.pieces, silent]
      exact ⟨(carries_prose delta (by simp [said, quiet])).congr fits.symm, routes⟩
    | some prose =>
      have opens : delta.opens opened = [] := by simp [Delta.opens, calls, said]
      obtain ⟨arrived, after⟩ := laterProse_conveys routes prose
      rw [Conveys, laterContent, calls, said, opens, Delta.pieces, silent]
      exact ⟨(carries_prose delta (by simpa [said] using arrived)).congr fits.symm, after⟩

theorem map_indexedCalls : delta.indexedCalls.map Prod.snd = delta.toolCalls := by
  refine ext_getElem (by simp [Delta.indexedCalls]) fun i _ _ => ?_
  simp [Delta.indexedCalls]

theorem mem_arguments_iff {calls : List (Nat × ToolCall)} :
    (∀ piece ∈ calls.map fun call => ((.arguments call.1, call.2.arguments) : Piece),
        piece.2 = "") ↔ ∀ toolCall ∈ calls.map Prod.snd, toolCall.arguments = "" := by
  rw [forall_mem_map, forall_mem_map]

theorem silent_iff : delta.silent = true ↔ ∀ piece ∈ delta.pieces, piece.2 = "" := by
  rw [Delta.pieces, forall_mem_append, mem_arguments_iff, map_indexedCalls]
  simp [Delta.silent]

theorem firstProse_arrived (prose : Prose) (info : ClaudeConvertInfo) (intake : Intake) :
    ((firstProse prose info).2.foldl Intake.read intake).arrived = intake.arrived ++ [prose.piece] := by
  have left : (leaveOthers prose.messagesType info).2.foldl Intake.read intake = intake := by
    unfold leaveOthers
    split
    · exact foldl_read_stops info intake
    · rfl
  rw [firstProse, andThen, foldl_append, left]
  show (Intake.read (intake.read (.contentBlockStart _ prose.block)) (.contentBlockDelta _ prose.delta)).arrived = _
  rw [read_prose]
  rfl

/-- The first chunk's first tool call gets its arguments. -/
theorem firstToolCall_carries (toolCall : ToolCall) (info : ClaudeConvertInfo) (intake : Intake) :
    Carries [(.arguments (toolCall.index.getD 0), toolCall.arguments)] intake
      ((firstToolCall toolCall info).2.foldl Intake.read intake) True := by
  by_cases full : toolCall.arguments = ""
  · refine (carries_nothing ?_ _).congr (by simp [full])
    simp [firstToolCall, toolArguments, full, startToolUse, Intake.read]
  · refine carries_piece _ ?_
    simp [firstToolCall, toolArguments, full, startToolUse, Intake.read, Block.call?]

/-- The content of a chunk that is taken for the first one, in any state. -/
theorem firstContent_carries (info : ClaudeConvertInfo) (intake : Intake) :
    Carries delta.pieces intake ((firstContent delta info).2.foldl Intake.read intake) (delta.fitsFirst = true) := by
  have prosed : ∀ (info : ClaudeConvertInfo) (intake : Intake),
      Carries [(.reasoning, delta.getReasoningContent), (.text, delta.getContentString)] intake
        ((firstWords delta info).2.foldl Intake.read intake)
        (delta.getReasoningContent = "" ∨ delta.getContentString = "") := by
    intro info intake
    refine carries_prose delta ?_
    cases said : delta.prose with
    | none => simp [firstWords, said, quiet]
    | some prose => simpa [firstWords, said] using firstProse_arrived prose info intake
  cases calls : delta.toolCalls with
  | nil =>
    have silent : delta.indexedCalls = [] := by simp [Delta.indexedCalls, calls]
    rw [firstContent, firstCalls, firstWords, calls, Delta.pieces, silent]
    refine (prosed info intake).congr ?_
    simp [Delta.fitsFirst, calls]
  | cons toolCall others =>
    obtain ⟨rest, indexed⟩ : ∃ rest, delta.indexedCalls = (toolCall.index.getD 0, toolCall) :: rest := by
      simp [Delta.indexedCalls, calls]
    have named : rest.map Prod.snd = others := by
      have all := map_indexedCalls delta
      rw [indexed, calls] at all
      exact (List.cons.inj all).2
    have first := firstToolCall_carries toolCall info intake
    have lost : Carries (rest.map fun call => (.arguments call.1, call.2.arguments))
        ((firstToolCall toolCall info).2.foldl Intake.read intake) _ _ := carries_nothing rfl _
    have whole := (first.append lost).append (prosed (firstToolCall toolCall info).1 _)
    rw [firstContent, firstCalls, firstWords, calls, Delta.pieces, indexed, andThen, foldl_append]
    refine whole.congr ?_
    rw [mem_arguments_iff, named]
    simp [Delta.fitsFirst, calls]

theorem firstToolCall_routes (toolCall : ToolCall) (info : ClaudeConvertInfo) :
    Routes (if toolCall.index.getD 0 = 0 then [0] else []) (firstToolCall toolCall info).1
      ((firstToolCall toolCall info).2.foldl Intake.read .empty).owner := by
  have owner : ((firstToolCall toolCall info).2.foldl Intake.read .empty).owner =
      update Intake.empty.owner 0 (some (toolCall.index.getD 0)) := by
    by_cases full : toolCall.arguments = "" <;>
      simp [firstToolCall, toolArguments, full, startToolUse, Intake.read, Block.call?]
  have elsewhere : ∀ o, o ≠ 0 → update Intake.empty.owner 0 (some (toolCall.index.getD 0)) (0 + o) = none := by
    intro o nonzero
    rw [Nat.zero_add, update_of_ne nonzero]
    rfl
  rw [owner]
  refine ⟨fun i above => ?_, fun other => absurd rfl other, fun _ o => ?_, fun _ o nonzero => ?_⟩
  · change 0 + 0 + 1 ≤ i at above
    simpa using elsewhere i (by omega)
  · by_cases zero : o = 0
    · subst zero
      by_cases same : toolCall.index.getD 0 = 0 <;> simp [firstToolCall]
    · have nothing := elsewhere o zero
      rw [show (firstToolCall toolCall info).1.toolCallBaseIndex = 0 from rfl, nothing]
      by_cases same : toolCall.index.getD 0 = 0 <;> simp [zero]
  · exact .inl (elsewhere o nonzero)

/-- The tool call that has its block after the first chunk. -/
theorem firstContent_routes (isNone : info.lastMessagesType = .none) :
    Routes delta.opensFirst (firstContent delta info).1
      ((firstContent delta info).2.foldl Intake.read .empty).owner := by
  have routes := routes_initial isNone
  cases calls : delta.toolCalls with
  | nil =>
    cases said : delta.prose with
    | none =>
      have opens : delta.opensFirst = [] := by simp [Delta.opensFirst, calls]
      rw [firstContent, firstCalls, firstWords, calls, said, opens]
      exact routes
    | some prose =>
      have opens : delta.opensFirst = [] := by simp [Delta.opensFirst, said]
      have other : info.lastMessagesType ≠ prose.messagesType := by
        cases prose <;> simp [isNone, Prose.messagesType]
      have same : firstContent delta info = laterProse prose info := by
        simp [firstContent, firstCalls, firstWords, calls, said, andThen, quiet, firstProse_eq other]
      rw [same, opens]
      exact (laterProse_conveys routes prose).2
  | cons toolCall others =>
    have started := firstToolCall_routes toolCall info
    cases said : delta.prose with
    | none =>
      have opens : delta.opensFirst = if toolCall.index.getD 0 = 0 then [0] else [] := by
        simp [Delta.opensFirst, calls, said]
      have same : firstContent delta info = firstToolCall toolCall info := by
        simp [firstContent, firstCalls, firstWords, calls, said, andThen, quiet]
      rw [same, opens]
      exact started
    | some prose =>
      have opens : delta.opensFirst = [] := by simp [Delta.opensFirst, said]
      have other : (firstToolCall toolCall info).1.lastMessagesType ≠ prose.messagesType :=
        prose.messagesType_ne_tools.symm
      have ended := (laterProse_conveys started prose).2
      simp only [firstContent, firstCalls, firstWords, calls, said, opens, andThen, foldl_append, firstProse_eq other]
      exact ended

/-! ## Whole streams -/

theorem pieces_one (listed : chunk.choices = [choice]) : chunk.pieces = choice.delta.pieces := by
  simp [pieces, listed]

/-- Chunks of which nothing is sent. -/
theorem carries_silent (chunks : List Chunk) (intake : Intake) :
    Carries (chunks.flatMap pieces) intake intake (chunks.all silent = true) := by
  refine (carries_nothing rfl _).congr ?_
  simp only [mem_flatMap, pieces, all_eq_true, silent, silent_iff]
  constructor
  · intro empty chunk isChunk choice isChoice piece isPiece
    exact empty piece ⟨chunk, isChunk, choice, isChoice, isPiece⟩
  · rintro silent piece ⟨chunk, isChunk, choice, isChoice, isPiece⟩
    exact silent chunk isChunk choice isChoice piece isPiece

/-- The later chunks, from wherever the stream is. -/
theorem converseLater_carries (settled : Usage) :
    ∀ (rest : List Chunk) (opened : List Nat) (info : ClaudeConvertInfo) (intake : Intake),
      SingleChoice rest → info.done = false → Routes opened info intake.owner → Carries (rest.flatMap pieces) intake
        ((converseLater settled rest info).2.foldl Intake.read intake) (losesNothing opened rest = true) := by
  intro rest
  induction rest with
  | nil =>
    intro opened info intake _ _ _
    exact (carries_nothing rfl []).congr (by simp [losesNothing])
  | cons chunk rest ih =>
    intro opened info intake single going routes
    obtain ⟨shape, single⟩ := single
    obtain ⟨usage, events⟩ := converseLater_cons settled chunk rest info
    have kept : Routes opened { info with usage } intake.owner := { routes with }
    replace going : ({ info with usage } : ClaudeConvertInfo).done = false := going
    generalize ({ info with usage } : ClaudeConvertInfo) = noted at kept going events
    rw [events, foldl_append, flatMap_cons]
    cases listed : chunk.choices with
    | nil =>
      obtain ⟨rfl, -, known⟩ := shape.resolve_left (by simp [listed])
      obtain ⟨own, reason, ended⟩ := laterChunk_usageOnly noted going listed known
      have nothing : chunk.pieces = [] := by simp [pieces, listed]
      rw [ended, foldl_read_ending, nothing]
      exact (carries_nothing rfl []).congr (by simp [losesNothing, listed])
    | cons choice others =>
      obtain rfl : others = [] := by
        rcases shape with one | ⟨-, none, -⟩
        · simpa [listed] using one
        · simp [listed] at none
      rw [pieces_one listed]
      cases finishes : choice.finishes with
      | false =>
        obtain ⟨carries, after⟩ := laterContent_conveys kept choice.delta
        have later := ih _ _ _ single ((laterContent_done choice.delta noted).trans going) after
        rw [laterChunk_content noted going listed finishes]
        refine (carries.append later).congr ?_
        simp [losesNothing, listed, finishes]
      | true =>
        cases known : chunk.usage with
        | none =>
          have skipped : Carries choice.delta.pieces intake intake (choice.delta.silent = true) :=
            (carries_nothing rfl _).congr (silent_iff _).symm
          have later := ih opened
            { noted with finishReason := choice.finishReason.getD "" } intake single going
            { kept with }
          rw [laterChunk_skip noted going listed finishes known, foldl_nil]
          refine (skipped.append later).congr ?_
          simp [losesNothing, listed, finishes, known]
        | some own =>
          obtain ⟨reason, closes⟩ := laterChunk_close noted going listed finishes (by rw [known]; rfl)
          have finished : Routes opened { noted with finishReason := choice.finishReason.getD "" }
              intake.owner := { kept with }
          obtain ⟨carries, -⟩ := laterContent_conveys finished choice.delta
          rw [closes, converseLater_done settled rest _ rfl, foldl_nil, foldl_append, foldl_read_ending]
          refine (carries.append (carries_silent rest _)).congr ?_
          simp [losesNothing, listed, finishes, known]

/-- A chunk that is taken for the first one, in any state. -/
theorem openingChunk_carries (estimate : Int)
    (info : ClaudeConvertInfo) (intake : Intake) (listed : chunk.choices = [choice]) (going : info.done = false) :
    Carries choice.delta.pieces intake ((openingChunk chunk estimate info).2.foldl Intake.read intake)
      (choice.delta.fitsFirst = true) := by
  have content := firstContent_carries choice.delta info (intake.read (messageStart chunk estimate))
  cases finishes : choice.finishes with
  | true =>
    obtain ⟨known, reason, closes⟩ := openingChunk_close estimate info going listed finishes
    rw [closes, foldl_cons, foldl_append, foldl_read_ending]
    exact content
  | false =>
    rw [openingChunk_content estimate info going listed finishes, foldl_cons]
    exact content

/-- The second of two chunks. -/
theorem converse_second_carries {second : Chunk} (estimate : Int) (settled : Usage)
    (info : ClaudeConvertInfo) (intake : Intake) (single : SingleChoice [second]) (going : info.done = false) :
    Carries second.pieces intake ((converse estimate settled 1 [second] info).2.foldl Intake.read intake)
      (second.choices.all (fun last => last.delta.fitsFirst) = true) := by
  have goes : { info with usage := some settled }.done = false := going
  rw [converse_second]
  generalize { info with usage := some settled } = noted at goes
  cases alone : second.choices with
  | nil =>
    have nothing : second.pieces = [] := by simp [pieces, alone]
    have events : (openingChunk second estimate noted).2 = [messageStart second estimate] := by
      simp [openingChunk, goes, firstChunk, alone, andThen, write, quiet]
    rw [nothing, events]
    exact (carries_nothing rfl []).congr (by simp)
  | cons last others =>
    obtain rfl : others = [] := by simpa [SingleChoice, alone] using single
    rw [pieces_one alone]
    exact (openingChunk_carries _ _ _ alone goes).congr (by simp)

/-- The content of a stream is preserved exactly if `conveysAll` says so. -/
theorem preservesContent_iff_conveysAll (config : StreamConfig)
    (client : config.relayFormat = .claude) (chunks : List Chunk) (single : SingleChoice chunks) :
    PreservesContent chunks (claudeEvents config chunks) ↔ conveysAll chunks = true := by
  obtain ⟨settled, events⟩ := claudeEvents_eq client chunks
  rw [events]
  apply Carries.preserves
  rcases chunks with _ | ⟨first, _ | ⟨second, rest⟩⟩
  · exact (carries_nothing rfl []).congr (by simp [conveysAll])
  · rw [converse_one]
    exact converseLater_carries settled [first] [] _ .empty single rfl (routes_initial rfl)
  obtain ⟨⟨choice, listed⟩, restSingle⟩ : (∃ choice, first.choices = [choice]) ∧ SingleChoice (second :: rest) := by
    obtain ⟨shape, later⟩ := single
    exact ⟨length_eq_one_iff.mp (shape.resolve_right (by simp)), later⟩
  have content := openingChunk_carries config.estimatePromptTokens (.starting first.usage) .empty listed rfl
  rw [converse_first, foldl_append, flatMap_cons, pieces_one listed]
  cases finishes : choice.finishes with
  | true =>
    obtain ⟨known, reason, closes⟩ := openingChunk_close config.estimatePromptTokens
      (.starting first.usage) rfl listed finishes
    have isOver : (openingChunk first config.estimatePromptTokens
        (.starting first.usage)).1.done = true := by rw [closes]
    rw [converse_done _ _ _ _ _ isOver, foldl_nil]
    refine (content.append (carries_silent (second :: rest) _)).congr ?_
    simp [conveysAll, listed, finishes]
  | false =>
    have opened := openingChunk_content config.estimatePromptTokens (.starting first.usage) rfl listed finishes
    have goes : (openingChunk first config.estimatePromptTokens (.starting first.usage)).1.done = false := by
      rw [opened]
      exact (firstContent_done _ _).trans rfl
    cases rest with
    | cons third rest =>
      rw [converse_later _ _ _ _ le_rfl (.inr (by simp))]
      refine (content.append (converseLater_carries settled _ choice.delta.opensFirst _ _ restSingle goes ?_)).congr ?_
      · rw [opened]
        exact firstContent_routes choice.delta (show (starting first.usage).lastMessagesType = .none from rfl)
      · simp [conveysAll, listed, finishes]
    | nil =>
      rw [flatMap_cons, flatMap_nil, append_nil]
      refine (content.append (converse_second_carries _ settled _ _ restSingle goes)).congr ?_
      simp [conveysAll, listed, finishes]

/-- A tool call whose name comes first and whose arguments come later, after a text. -/
theorem text_and_tool_call_preserved : PreservesContent [choiceChunk (textDelta "Let me look.") none none,
        choiceChunk (callDelta 0 "search" "") none none, choiceChunk (callDelta 0 "" "\x7b\x7d") none none,
        choiceChunk silentDelta (some "tool_calls") (some ⟨3, 5, 0, 0, 0, 0⟩)]
      (claudeEvents (plainConfig .claude false) [choiceChunk (textDelta "Let me look.") none none,
          choiceChunk (callDelta 0 "search" "") none none, choiceChunk (callDelta 0 "" "\x7b\x7d") none none,
          choiceChunk silentDelta (some "tool_calls") (some ⟨3, 5, 0, 0, 0, 0⟩)]) :=
  (preservesContent_iff_conveysAll (plainConfig .claude false) rfl _
    (by simp [SingleChoice, choiceChunk])).mpr (by decide)

/-- Content that is lost: a last text that comes with the finish reason, the usage after it; and the
second of two tool calls in the first chunk. -/
theorem content_lost : ¬ PreservesContent
      [choiceChunk (textDelta "") none none, choiceChunk (textDelta "hello") (some "stop") none,
        usageChunk ⟨3, 5, 0, 0, 0, 0⟩] (claudeEvents (plainConfig .claude false)
        [choiceChunk (textDelta "") none none, choiceChunk (textDelta "hello") (some "stop") none,
          usageChunk ⟨3, 5, 0, 0, 0, 0⟩]) ∧ ¬ PreservesContent
      [choiceChunk ⟨"", none, none, none, [⟨some 0, "a", "search", "\x7b\x7d"⟩,
          ⟨some 1, "b", "fetch", "\x7b\x7d"⟩]⟩ none none,
        choiceChunk silentDelta (some "tool_calls") none, usageChunk ⟨3, 5, 0, 0, 0, 0⟩]
      (claudeEvents (plainConfig .claude false)
        [choiceChunk ⟨"", none, none, none, [⟨some 0, "a", "search", "\x7b\x7d"⟩,
            ⟨some 1, "b", "fetch", "\x7b\x7d"⟩]⟩ none none,
          choiceChunk silentDelta (some "tool_calls") none, usageChunk ⟨3, 5, 0, 0, 0, 0⟩]) := by
  refine ⟨fun preserved => ?_, fun preserved => ?_⟩
  · exact absurd (preserved .text) (by decide +kernel)
  · exact absurd (preserved (.arguments 1)) (by decide +kernel)

end NewApi.Stream
