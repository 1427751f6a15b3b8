/-
# Stream.ResponsesInput — the messages of a Responses input

`parseResponsesInput` in `service/openaicompat/responses_to_chat.go`, for an array of items.  The
function calls are collected until an output or the end comes, and then go to the last message, if
that is the assistant's; a call right after a message of the user is lost (`call_lost`).
`chat_to_responses.go` writes a message of the user or the assistant as an item without a type, which
the switch on the type skips.
-/
import NewApi.Stream.Conversions
import NewApi.Theory.Text

namespace NewApi.Stream
open List Theory.Text

/-- `Message`, with the tool calls that `ParseToolCalls` reads; all contents are strings here. -/
structure InputMessage where
  role : String
  content : String
  toolCallId : String
  toolCalls : List ToolCallRequest

/-- An item by its entries that are strings; the content of a message is what
`extractContentString` makes of it. -/
inductive InputItem where
  | message (role content : String)
  | functionCall (callID name arguments : String)
  | functionCallOutput (callID output : String)
  | inputText (text : String)
  | outputText (text : String)
  | other

namespace InputItem

def isOutput : InputItem → Bool
  | .functionCallOutput .. => true
  | _ => false

/-- The role of the message that is the last one after the item, if the item makes or changes one. -/
def speaker : InputItem → Option String
  | .message role _ => some role
  | .functionCallOutput .. => some "tool"
  | .inputText _ => some "user"
  | .outputText _ => some "assistant"
  | _ => none

end InputItem

def toolCall (callID name arguments : String) : List ToolCallRequest :=
  if callID ≠ "" ∧ name ≠ "" then [⟨callID, name, arguments⟩] else []

structure InputState where
  messages : List InputMessage
  currentToolCalls : List ToolCallRequest

namespace InputState

def assistantLast (s : InputState) : Bool := s.messages.getLast?.any (·.role = "assistant")

def push (s : InputState) (role content toolCallId : String) : InputState :=
  { s with messages := s.messages ++ [⟨role, content, toolCallId, []⟩] }

def onLast (s : InputState) (change : InputMessage → InputMessage) : List InputMessage :=
  s.messages.dropLast ++ s.messages.getLast?.toList.map change

def flush (s : InputState) : InputState :=
  if s.currentToolCalls ≠ [] ∧ s.messages ≠ [] then
    { messages :=
        if s.assistantLast then s.onLast fun last => { last with toolCalls := s.currentToolCalls } else s.messages
      currentToolCalls := [] }
  else s

/-- One round of the loop over the items. -/
def parse (s : InputState) : InputItem → InputState
  | .message role content => s.push role content ""
  | .functionCall callID name arguments =>
    { s with currentToolCalls := s.currentToolCalls ++ toolCall callID name arguments }
  | .functionCallOutput callID output => s.flush.push "tool" output callID
  | .inputText text => s.push "user" text ""
  | .outputText text =>
    if s.assistantLast then
      { s with messages := s.onLast fun last =>
          { last with content := if last.content ≠ "" then last.content ++ "\n" ++ text else text } }
    else s.push "assistant" text ""
  | .other => s

end InputState

def parseResponsesInput (items : List InputItem) : List InputMessage :=
  (items.foldl InputState.parse ⟨[], []⟩).flush.messages

/-! ## Where the calls go -/

def lastRole (items : List InputItem) : Option String := (items.filterMap (·.speaker)).getLast?

/-- A call after `before`: what is said last before the next output, or the end, is the assistant's.
An output without an id leaves the call to the next one, if nothing was said before it. -/
def Attached (before rest : List InputItem) : Prop :=
  let said := lastRole (before ++ rest.takeWhile (!·.isOutput))
  said = some "assistant" ∨ said = none ∧ ∃ output more,
    rest.dropWhile (!·.isOutput) = .functionCallOutput "" output :: more ∧
      lastRole (more.takeWhile (!·.isOutput)) = some "assistant"

def InputMessage.heldCalls (message : InputMessage) : List ToolCallRequest :=
  if message.role = "assistant" then message.toolCalls else []

def InputItem.calls : InputItem → List ToolCallRequest
  | .functionCall callID name arguments => toolCall callID name arguments
  | _ => []

def InputItem.answered : InputItem → String
  | .functionCallOutput callID _ => callID
  | _ => ""

/-- Who answers a call comes after one who makes it. -/
def Answered {α : Type} (answered : α → String) (calls : α → List ToolCallRequest) (l : List α) : Prop :=
  ∀ before a after, l = before ++ a :: after → answered a ≠ "" → ∃ call ∈ before.flatMap calls, call.id = answered a

/-- The assistant's messages hold the calls of the items, each once and in order, and a tool
answers a call that an earlier message holds. -/
structure ToolCallsKept (items : List InputItem) (messages : List InputMessage) : Prop where
  held : messages.flatMap (·.heldCalls) = items.flatMap (·.calls)
  answers : Answered InputMessage.toolCallId InputMessage.heldCalls messages

/-- The calls and the ids that are answered, in order. -/
abbrev Exchange := List (ToolCallRequest ⊕ String)

def exchangeOf {α : Type} (answered : α → String) (calls : α → List ToolCallRequest) (a : α) : Exchange :=
  (if answered a = "" then [] else [.inr (answered a)]) ++ (calls a).map .inl

abbrev InputMessage.exchange : InputMessage → Exchange := exchangeOf InputMessage.toolCallId InputMessage.heldCalls

abbrev InputItem.exchange : InputItem → Exchange := exchangeOf InputItem.answered InputItem.calls

/-- The messages and then the calls that are collected make the exchange; the last message has no
calls yet. -/
structure Holding (exchange : Exchange) (s : InputState) : Prop where
  held : s.messages.flatMap (·.exchange) ++ s.currentToolCalls.map .inl = exchange
  fresh : ∀ last ∈ s.messages.getLast?, last.toolCalls = []

variable {exchange : Exchange} {s : InputState} {items : List InputItem}

namespace InputState

/-- The calls have a message to go to. -/
def attachable (s : InputState) : Bool := s.currentToolCalls = [] || s.assistantLast

/-- The item leaves the calls where they are. -/
def spared (s : InputState) : InputItem → Bool
  | .functionCallOutput callID _ => s.messages.isEmpty && callID = ""
  | _ => true

/-- They have one at every output that takes them, and at the end. -/
def attaches (s : InputState) : List InputItem → Bool
  | [] => s.attachable
  | item :: rest => (s.attachable || s.spared item) && attaches (s.parse item) rest

section
variable (holding : Holding exchange s)
include holding

theorem holding_flush (attaches : s.attachable = true) :
    s.flush.messages.flatMap (·.exchange) = exchange ∧ s.flush.currentToolCalls = [] := by
  obtain ⟨held, fresh⟩ := holding
  unfold flush
  by_cases idle : s.currentToolCalls = []
  · simpa [idle] using held
  · have last : s.assistantLast = true := by simpa [attachable, idle] using attaches
    rcases eq_nil_or_concat s.messages with nil | ⟨front, message, whole⟩
    · simp [assistantLast, nil] at last
    · have assistant : message.role = "assistant" := by simpa [assistantLast, whole] using last
      have silent : message.toolCalls = [] := fresh message (by simp [whole])
      rw [if_pos ⟨idle, by simp [whole]⟩, last]
      simpa [onLast, whole, exchangeOf, InputMessage.heldCalls, assistant, silent] using held

/-- An item that can be attached adds its part of the exchange. -/
theorem holding_parse (item : InputItem)
    (attaches : s.attachable = true ∨ s.spared item = true) : Holding (exchange ++ item.exchange) (s.parse item) := by
  have pushed (role content : String) : Holding (exchange ++ []) (s.push role content "") :=
    ⟨by simp [push, exchangeOf, InputMessage.heldCalls, ← holding.held], by simp [push]⟩
  cases item with
  | message role content => exact pushed role content
  | inputText text => exact pushed "user" text
  | other => exact (append_nil exchange).symm ▸ holding
  | functionCall callID name arguments =>
    exact ⟨by simp [parse, exchangeOf, InputItem.answered, InputItem.calls, ← holding.held], holding.fresh⟩
  | functionCallOutput callID output =>
    rcases attaches with attaches | spared
    · obtain ⟨held, idle⟩ := holding_flush holding attaches
      rw [← held]
      have answer : InputMessage.exchange ⟨"tool", output, callID, []⟩ =
          InputItem.exchange (.functionCallOutput callID output) := rfl
      exact ⟨by simp [parse, push, idle, answer], by simp [parse, push]⟩
    · -- nothing is said and nothing answered: the calls stay collected
      obtain ⟨silent, rfl⟩ : s.messages = [] ∧ callID = "" := by simpa [InputState.spared] using spared
      have kept : s.flush = s := if_neg (by simp [silent])
      have held := holding.held
      constructor <;>
        simp_all [parse, push, exchangeOf, InputMessage.heldCalls, InputItem.answered, InputItem.calls]
  | outputText text =>
    obtain ⟨held, fresh⟩ := holding
    simp only [parse]
    split
    · rcases eq_nil_or_concat s.messages with nil | ⟨front, last, whole⟩
      all_goals constructor
      all_goals simp_all [onLast, exchangeOf, InputMessage.heldCalls, InputItem.answered, InputItem.calls]
    · exact pushed "assistant" text

theorem foldl_parse_exchange (attaches : s.attaches items = true) :
    (items.foldl parse s).flush.messages.flatMap (·.exchange) = exchange ++ items.flatMap (·.exchange) := by
  induction items generalizing exchange s with
  | nil => simpa using (holding_flush holding attaches).1
  | cons item rest ih =>
    rw [InputState.attaches, Bool.and_eq_true] at attaches
    have next := holding_parse holding item (by simpa using attaches.1)
    simpa using ih next attaches.2

end

/-! ### Calls that are lost -/

/-- The calls that are held or collected. -/
def callCount (s : InputState) : Nat := (s.messages.flatMap (·.heldCalls)).length + s.currentToolCalls.length

theorem heldCalls_onLast_le (change : InputMessage → InputMessage) (extra : Nat)
    (grows : ∀ last, (change last).heldCalls.length ≤ last.heldCalls.length + extra) :
    ((s.onLast change).flatMap (·.heldCalls)).length ≤ (s.messages.flatMap (·.heldCalls)).length + extra := by
  rcases eq_nil_or_concat s.messages with nil | ⟨front, last, whole⟩
  · simp [onLast, nil]
  · have := grows last
    simp [onLast, whole]
    omega

theorem callCount_flush (s : InputState) : s.flush.callCount ≤ s.callCount ∧
    (s.messages ≠ [] → s.attachable = false → s.flush.callCount < s.callCount) := by
  by_cases taken : s.currentToolCalls ≠ [] ∧ s.messages ≠ []
  · have some := length_pos_iff.mpr taken.1
    cases last : s.assistantLast with
    | true =>
      have moved := s.heldCalls_onLast_le (fun last => { last with toolCalls := s.currentToolCalls })
        s.currentToolCalls.length fun last => by simp only [InputMessage.heldCalls]; split <;> simp
      simpa [flush, taken, last, callCount, attachable] using moved
    | false => simp [flush, taken, last, callCount, some]
  · rw [flush, if_neg taken]
    simp only [not_and, not_not] at taken
    refine ⟨le_rfl, fun said lost => ?_⟩
    have waiting : s.currentToolCalls ≠ [] := by simp_all [attachable]
    exact absurd (taken waiting) said

theorem callCount_parse (s : InputState) (item : InputItem) : (s.parse item).callCount ≤ s.callCount + item.calls.length := by
  have pushed (s : InputState) (role content callID : String) : (s.push role content callID).callCount = s.callCount := by
    simp [push, callCount, InputMessage.heldCalls]
  cases item with
  | message role content => simp [parse, pushed]
  | inputText text => simp [parse, pushed]
  | other => simp [parse]
  | functionCall callID name arguments => simp [parse, callCount, InputItem.calls, Nat.add_assoc]
  | functionCallOutput callID output => simpa [parse, pushed, InputItem.calls] using s.callCount_flush.1
  | outputText text =>
    simp only [parse]
    split
    · have same := s.heldCalls_onLast_le (fun last =>
        { last with content := if last.content ≠ "" then last.content ++ "\n" ++ text else text }) 0 fun _ => le_rfl
      simpa [callCount, InputItem.calls] using same
    · simp [pushed]

theorem callCount_foldl (s : InputState) (items : List InputItem) :
    (items.foldl parse s).flush.callCount ≤ s.callCount + (items.flatMap (·.calls)).length := by
  induction items generalizing s with
  | nil => exact s.callCount_flush.1
  | cons item rest ih =>
    have one := s.callCount_parse item
    have all := ih (s.parse item)
    simp only [foldl_cons, flatMap_cons, length_append]
    omega

/-- The first message keeps the id that it answers. -/
def opening (s : InputState) : Option String := s.messages.head?.map (·.toolCallId)

theorem opening_onLast (s : InputState) (change : InputMessage → InputMessage)
    (keeps : ∀ last, (change last).toolCallId = last.toolCallId) :
    (s.onLast change).head?.map (·.toolCallId) = s.opening := by
  rcases eq_nil_or_concat s.messages with nil | ⟨front, last, whole⟩
  · simp [onLast, opening, nil]
  · have changed : s.onLast change = front ++ [change last] := by simp [onLast, whole]
    cases front <;> simp [changed, opening, whole, keeps]

theorem opening_flush (s : InputState) : s.flush.opening = s.opening := by
  unfold flush
  split
  · cases s.assistantLast with
    | true => exact s.opening_onLast _ fun _ => rfl
    | false => rfl
  · rfl

theorem opening_parse {first : String} (s : InputState) (item : InputItem) (opened : s.opening = some first) :
    (s.parse item).opening = some first := by
  have pushed (s : InputState) (role content callID : String) (opened : s.opening = some first) :
      (s.push role content callID).opening = some first := by
    cases whole : s.messages <;> simp_all [opening, push]
  cases item with
  | message role content => exact pushed s _ _ _ opened
  | inputText text => exact pushed s _ _ _ opened
  | other => exact opened
  | functionCall callID name arguments => exact opened
  | functionCallOutput callID output => exact pushed _ _ _ _ (s.opening_flush.trans opened)
  | outputText text =>
    simp only [parse]
    split
    · apply Eq.trans _ opened
      apply opening_onLast
      exact fun _ => rfl
    · exact pushed s _ _ _ opened

theorem opening_foldl {first : String} (items : List InputItem) (opened : s.opening = some first) :
    (items.foldl parse s).flush.opening = some first := by
  induction items generalizing s with
  | nil => exact s.opening_flush.trans opened
  | cons item rest ih => exact ih (s.opening_parse item opened)

/-- Calls that have no message to go to are lost, or the first message answers a call. -/
theorem lost_of_attaches_eq_false (lost : s.attaches items = false) :
    ((items.foldl parse s).flush.messages.flatMap (·.heldCalls)).length < s.callCount + (items.flatMap (·.calls)).length ∨
      ∃ first ≠ "", (items.foldl parse s).flush.opening = some first := by
  induction items generalizing s with
  | nil =>
    refine .inl ?_
    by_cases silent : s.messages = []
    · have waiting : s.currentToolCalls ≠ [] := by simp_all [InputState.attaches, attachable]
      have kept : s.flush = s := if_neg (by simp [silent])
      simpa [kept, silent, callCount] using length_pos_iff.mpr waiting
    · have fewer := s.callCount_flush.2 silent lost
      simp only [foldl_nil, flatMap_nil, length_nil, callCount] at fewer ⊢
      omega
  | cons item rest ih =>
    simp only [InputState.attaches, Bool.and_eq_false_iff, Bool.or_eq_false_iff] at lost
    rcases lost with ⟨unattached, taken⟩ | later
    · cases item with
      | functionCallOutput callID output =>
        by_cases silent : s.messages = []
        · -- an output with an id before anything is said
          refine .inr ⟨callID, by simpa [spared, silent] using taken, opening_foldl rest ?_⟩
          have kept : s.flush = s := if_neg (by simp [silent])
          simp [parse, push, kept, opening, silent]
        · refine .inl ?_
          have fewer := s.callCount_flush.2 silent unattached
          have pushed : (s.parse (.functionCallOutput callID output)).callCount = s.flush.callCount := by
            simp [parse, push, callCount, InputMessage.heldCalls]
          have all := (s.parse (.functionCallOutput callID output)).callCount_foldl rest
          simp only [foldl_cons, flatMap_cons, length_append, callCount] at fewer pushed all ⊢
          omega
      | _ => cases taken
    · rcases ih later with fewer | opened
      · refine .inl ?_
        have one := s.callCount_parse item
        simp only [foldl_cons, flatMap_cons, length_append]
        omega
      · exact .inr opened

/-! ### The condition on the items -/

def said (s : InputState) : Option String := s.messages.getLast?.map (·.role)

theorem said_onLast (s : InputState) (change : InputMessage → InputMessage)
    (keeps : ∀ last, (change last).role = last.role) :
    (s.onLast change).getLast?.map (·.role) = s.said := by
  rcases eq_nil_or_concat s.messages with nil | ⟨front, last, whole⟩
  · simp [onLast, said, nil]
  · simp [onLast, said, whole, keeps]

theorem said_parse (s : InputState) (item : InputItem) : (s.parse item).said = item.speaker.or s.said := by
  cases item with
  | outputText text =>
    simp only [parse]
    split
    · rename_i last
      have assistant : s.said = some "assistant" := by
        cases whole : s.messages.getLast? <;> simp_all [assistantLast, said]
      rw [InputItem.speaker, Option.some_or, ← assistant]
      apply said_onLast
      exact fun _ => rfl
    · simp [push, said, InputItem.speaker]
  | _ => simp [parse, push, said, InputItem.speaker]

theorem assistantLast_iff (s : InputState) : s.assistantLast = true ↔ s.said = some "assistant" := by
  cases whole : s.messages.getLast? <;> simp [assistantLast, said, whole]

theorem said_eq_none (s : InputState) : s.said = none ↔ s.messages = [] := by
  simp [said]

end InputState

theorem lastRole_append (front back : List InputItem) :
    lastRole (front ++ back) = (lastRole back).or (lastRole front) := by
  simp [lastRole, getLast?_append]

theorem lastRole_cons (item : InputItem) (rest : List InputItem) :
    lastRole (item :: rest) = (lastRole rest).or item.speaker := by
  cases spoken : item.speaker <;> simp [lastRole, spoken, getLast?_cons]

/-- `Attached`, after anything that was said last. -/
def Heard (said : Option String) (rest : List InputItem) : Prop :=
  let last := (lastRole (rest.takeWhile (!·.isOutput))).or said
  last = some "assistant" ∨ last = none ∧ ∃ output more,
    rest.dropWhile (!·.isOutput) = .functionCallOutput "" output :: more ∧
      lastRole (more.takeWhile (!·.isOutput)) = some "assistant"

theorem attached_iff_heard (before rest : List InputItem) : Attached before rest ↔ Heard (lastRole before) rest := by
  simp [Attached, Heard, lastRole_append]

theorem heard_nil (said : Option String) : Heard said [] ↔ said = some "assistant" := by
  simp [Heard, lastRole]

theorem heard_cons {item : InputItem} (talk : item.isOutput = false) (said : Option String) (rest : List InputItem) :
    Heard said (item :: rest) ↔ Heard (item.speaker.or said) rest := by
  simp [Heard, talk, lastRole_cons, Option.or_assoc]

theorem heard_output (said : Option String) (callID output : String) (rest : List InputItem) :
    Heard said (.functionCallOutput callID output :: rest) ↔
      said = some "assistant" ∨ said = none ∧ callID = "" ∧ Heard (some "tool") rest := by
  have tool (last : Option String) : (last.or (some "tool") = some "assistant" ↔ last = some "assistant") ∧
      last.or (some "tool") ≠ none := by cases last <;> simp
  simp only [Heard, (tool _).1, (tool _).2, false_and, or_false]
  simp [InputItem.isOutput, lastRole]

theorem forall_split_cons {α : Type} {P : List α → α → List α → Prop} (a : α) (l : List α) :
    (∀ before x after, a :: l = before ++ x :: after → P before x after) ↔
      P [] a l ∧ ∀ before x after, l = before ++ x :: after → P (a :: before) x after := by
  constructor
  · exact fun all => ⟨all [] a l rfl, fun before x after whole => all (a :: before) x after (by rw [whole]; rfl)⟩
  · rintro ⟨here, later⟩ before x after whole
    rcases cons_eq_append_iff.mp whole with ⟨rfl, same⟩ | ⟨front, rfl, rest⟩
    · cases same
      exact here
    · exact later front x after rest

namespace InputState

/-- An item that is no output collects its call and says nothing with it. -/
theorem waiting_parse {item : InputItem} (talk : item.isOutput = false) (s : InputState) :
    (s.parse item).currentToolCalls = s.currentToolCalls ++ item.calls ∧ s.spared item = true ∧
      (item.calls ≠ [] → item.speaker = none) := by
  cases item with
  | functionCallOutput callID output => cases talk
  | functionCall callID name arguments => exact ⟨rfl, rfl, fun _ => rfl⟩
  | outputText text => by_cases last : s.assistantLast = true <;> simp [parse, push, last, InputItem.calls, spared]
  | _ => simp [parse, push, InputItem.calls, spared]

theorem waiting_output (s : InputState) (callID output : String) :
    (s.parse (.functionCallOutput callID output)).currentToolCalls =
      if s.messages = [] then s.currentToolCalls else [] := by
  by_cases silent : s.messages = [] <;> by_cases idle : s.currentToolCalls = [] <;>
    simp [parse, push, flush, silent, idle]

/-- The calls have a message to go to exactly if the items say so. -/
theorem attaches_iff (s : InputState) (items : List InputItem) : s.attaches items = true ↔
    (s.currentToolCalls ≠ [] → Heard s.said items) ∧ ∀ before item rest, items = before ++ item :: rest →
      item.calls ≠ [] → Heard ((lastRole before).or s.said) rest := by
  induction items generalizing s with
  | nil => simp [attaches, attachable, heard_nil, assistantLast_iff, or_iff_not_imp_left]
  | cons item rest ih =>
    simp only [attaches, Bool.and_eq_true, Bool.or_eq_true, ih, forall_split_cons, lastRole_cons, Option.or_assoc,
      said_parse, ← and_assoc]
    refine and_congr_left fun _ => ?_
    cases output : item.isOutput with
    | false =>
      obtain ⟨waiting, spared, silent⟩ := waiting_parse output s
      rw [waiting, heard_cons output]
      by_cases calls : item.calls = []
      · simp [spared, calls]
      · simp only [spared, silent calls, lastRole]
        simp [calls, imp.swap]
    | true =>
      cases item with
      | functionCallOutput callID text =>
        rw [waiting_output, heard_output]
        by_cases idle : s.currentToolCalls = []
        · simp [idle, attachable, InputItem.calls]
        · by_cases silent : s.messages = []
          · simp [idle, silent, s.said_eq_none.mpr silent, attachable, assistantLast_iff, spared, InputItem.calls,
              InputItem.speaker]
          · have spoken : s.said ≠ none := fun none => silent (s.said_eq_none.mp none)
            simp [idle, silent, spoken, attachable, assistantLast_iff, spared, InputItem.calls]
      | _ => cases output

end InputState

section
variable {α β : Type} {answered : α → String} {calls : α → List ToolCallRequest} {answered' : β → String}
  {calls' : β → List ToolCallRequest} {l : List α} {l' : List β}

theorem filterMap_exchange (l : List α) :
    (l.flatMap (exchangeOf answered calls)).filterMap Sum.getLeft? = l.flatMap calls := by
  induction l with
  | nil => rfl
  | cons a rest ih =>
    have one : (exchangeOf answered calls a).filterMap Sum.getLeft? = calls a := by
      by_cases silent : answered a = "" <;> simp [exchangeOf, silent, filterMap_cons, filterMap_map, Function.comp_def]
    simp [filterMap_append, one, ih]

/-- An answer in an exchange is the one of an element, and before it comes the exchange of those before. -/
theorem exists_of_exchange {front back : Exchange} {callID : String}
    (whole : l.flatMap (exchangeOf answered calls) = front ++ .inr callID :: back) :
    ∃ before a after, l = before ++ a :: after ∧ answered a = callID ∧
      before.flatMap (exchangeOf answered calls) = front := by
  induction l generalizing front with
  | nil => simp at whole
  | cons a rest ih =>
    have later {front : Exchange} (whole : rest.flatMap (exchangeOf answered calls) = front ++ .inr callID :: back) :
        ∃ before b after, a :: rest = before ++ b :: after ∧ answered b = callID ∧
          before.flatMap (exchangeOf answered calls) = exchangeOf answered calls a ++ front := by
      obtain ⟨before, b, after, rfl, same, made⟩ := ih whole
      exact ⟨a :: before, b, after, rfl, same, by simp [made]⟩
    rw [flatMap_cons] at whole
    rcases append_eq_append_iff.mp whole with ⟨more, rfl, beyond⟩ | ⟨part, mine, tail⟩
    · exact later beyond
    · cases part with
      | nil => simpa [mine] using @later [] tail.symm
      | cons _ part =>
        obtain ⟨rfl, -⟩ := cons.inj tail
        refine ⟨[], a, rest, rfl, ?_⟩
        have calling (front back : Exchange) : (calls a).map Sum.inl ≠ front ++ .inr callID :: back := by
          intro same
          have mem : Sum.inr callID ∈ (calls a).map Sum.inl := same ▸ by simp
          simp at mem
        by_cases silent : answered a = ""
        · exact absurd (by simpa [exchangeOf, silent] using mine) (calling front part)
        · cases front with
          | nil => simp_all [exchangeOf]
          | cons _ front => exact absurd (by simp_all [exchangeOf]) (calling front part)

theorem Answered.of_exchange (same : l.flatMap (exchangeOf answered calls) = l'.flatMap (exchangeOf answered' calls'))
    (answers : Answered answered calls l) : Answered answered' calls' l' := by
  rintro before b after rfl asks
  have whole : l.flatMap (exchangeOf answered calls) = before.flatMap (exchangeOf answered' calls') ++
      .inr (answered' b) :: ((calls' b).map .inl ++ after.flatMap (exchangeOf answered' calls')) := by
    rw [same, flatMap_append, flatMap_cons]
    simp [exchangeOf, asks]
  obtain ⟨front, a, rest, whole, id, made⟩ := exists_of_exchange whole
  have earlier := answers front a rest whole (id ▸ asks)
  have same := @filterMap_exchange _ answered calls front
  rw [made, filterMap_exchange] at same
  simpa [← same, id] using earlier

end

/-- **Where tool calls are kept.**  The messages hold every call, and answer only calls that they
hold, exactly if every call has the assistant's message to go to and outputs come after their calls. -/
theorem toolCalls_kept_iff (items : List InputItem) : ToolCallsKept items (parseResponsesInput items) ↔
    (∀ before item rest, items = before ++ item :: rest → item.calls ≠ [] → Attached before rest) ∧
      Answered InputItem.answered InputItem.calls items := by
  have attaches := InputState.attaches_iff ⟨[], []⟩ items
  have holding : Holding [] ⟨[], []⟩ := ⟨rfl, by simp⟩
  simp only [attached_iff_heard]
  cases attached : InputState.attaches ⟨[], []⟩ items with
  | true =>
    have exchanged := InputState.foldl_parse_exchange holding attached
    rw [attached] at attaches
    have heard := (attaches.mp rfl).2
    simp only [InputState.said, getLast?_nil, Option.map_none, Option.or_none] at heard
    constructor
    · exact fun kept => ⟨heard, kept.answers.of_exchange exchanged⟩
    · rintro ⟨-, answers⟩
      refine ⟨?_, answers.of_exchange exchanged.symm⟩
      have left := congrArg (filterMap Sum.getLeft?) exchanged
      rwa [nil_append, filterMap_exchange, filterMap_exchange] at left
  | false =>
    rw [attached] at attaches
    constructor
    · rintro ⟨held, answers⟩
      rcases InputState.lost_of_attaches_eq_false attached with fewer | ⟨first, answering, opened⟩
      · have all := congrArg length held
        simp only [parseResponsesInput] at all
        simp [InputState.callCount, all] at fewer
      · -- nobody comes before the first message
        cases whole : parseResponsesInput items with
        | nil => simp_all [parseResponsesInput, InputState.opening]
        | cons message rest =>
          rw [InputState.opening, ← parseResponsesInput, whole] at opened
          have id : message.toolCallId = first := Option.some.inj opened
          have := answers [] message rest whole (id ▸ answering)
          simp at this
    · rintro ⟨heard, -⟩
      refine absurd (attaches.mpr ⟨fun waiting => absurd rfl waiting, ?_⟩) Bool.false_ne_true
      simpa [InputState.said] using heard

theorem call_lost : ¬ ToolCallsKept [.inputText "Look.", .functionCall "c" "look" "", .functionCallOutput "c" "found"]
    (parseResponsesInput [.inputText "Look.", .functionCall "c" "look" "", .functionCallOutput "c" "found"]) :=
  fun kept => absurd (congrArg length kept.held) (by decide)

/-! ## A chat request as a Responses request and back -/

/-- `GeneralOpenAIRequest`: what the conversion of the messages reads. -/
structure ChatRequest where
  model : String
  n : Option Int
  messages : List InputMessage

/-- An item as it is written: with `role` and `content` alone, or with a type. -/
inductive WrittenItem where
  | roleContent (role content : String)
  | functionCall (callID name arguments : String)
  | functionCallOutput (callID output : String)

structure ResponsesRequest where
  model : String
  instructions : Option String
  input : List WrittenItem

/-- One round of the loop over the tool calls, which are functions here. -/
def callItem (call : ToolCallRequest) : List WrittenItem :=
  if trimSpace call.id = "" ∨ trimSpace call.name = "" then []
  else [.functionCall call.id (trimSpace call.name) call.arguments]

def instructionsPart (message : InputMessage) : List String :=
  if trimSpace message.role = "system" ∨ trimSpace message.role = "developer" then
    if trimSpace message.content = "" then [] else [trimSpace message.content]
  else []

def inputItems (message : InputMessage) : List WrittenItem :=
  let role := trimSpace message.role
  if role = "" then []
  else if role = "tool" ∨ role = "function" then
    if trimSpace message.toolCallId = "" then
      [.roleContent "user" ("[tool_output_missing_call_id] " ++ message.content)]
    else [.functionCallOutput (trimSpace message.toolCallId) message.content]
  else if role = "system" ∨ role = "developer" then []
  else .roleContent role message.content ::
    if role = "assistant" then message.toolCalls.flatMap callItem else []

def joinedInstructions (messages : List InputMessage) : Option String :=
  match messages.flatMap instructionsPart with
  | [] => none
  | parts => some ("\n\n".intercalate parts)

def chatCompletionsRequestToResponsesRequest (req : ChatRequest) : Except String ResponsesRequest :=
  if req.model = "" then .error "model is required"
  else if req.n.getD 1 > 1 then .error "n>1 is not supported in responses compatibility mode"
  else .ok ⟨req.model, joinedInstructions req.messages, req.messages.flatMap inputItems⟩

/-- The switch on the type: an item that has none is in none of the cases. -/
def WrittenItem.read : WrittenItem → InputItem
  | .roleContent .. => .other
  | .functionCall callID name arguments => .functionCall callID name arguments
  | .functionCallOutput callID output => .functionCallOutput callID output

def systemMessage (instructions : String) : List InputMessage :=
  if trimSpace instructions ≠ "" then [⟨"system", instructions, "", []⟩] else []

/-- The messages of the chat request. -/
def responsesRequestToChatCompletionsRequest (req : ResponsesRequest) : Except String (List InputMessage) :=
  if req.model = "" then .error "model is required"
  else .ok (req.instructions.toList.flatMap systemMessage ++ parseResponsesInput (req.input.map (·.read)))

def roundTrip (req : ChatRequest) : Except String (List InputMessage) :=
  chatCompletionsRequestToResponsesRequest req >>= responsesRequestToChatCompletionsRequest

/-- The texts of the system's messages, trimmed and without the empty ones. -/
def systemTexts (messages : List InputMessage) : List String :=
  ((messages.filter (·.role = "system")).map fun message => trimSpace message.content).filter (· ≠ "")

/-- All messages but the system's, after one of the system with its texts. -/
def rejoined (messages : List InputMessage) : List InputMessage :=
  (if systemTexts messages = [] then []
    else [⟨"system", "\n\n".intercalate (systemTexts messages), "", []⟩]) ++ messages.filter (·.role ≠ "system")

namespace InputState

def OnlyTools (s : InputState) : Prop := ∀ message ∈ s.messages, message.role = "tool"

theorem OnlyTools.flush (tools : s.OnlyTools) : s.flush.messages = s.messages := by
  have last : s.assistantLast = false := by
    rw [assistantLast, Option.any_eq_false]
    intro message isLast
    simp [tools message (mem_of_getLast? isLast)]
  unfold InputState.flush
  rw [last]
  split <;> rfl

theorem OnlyTools.parse (tools : s.OnlyTools) (item : WrittenItem) : (s.parse item.read).OnlyTools := by
  cases item with
  | roleContent role content => exact tools
  | functionCall callID name arguments => exact tools
  | functionCallOutput callID output =>
    intro message mem
    simp only [WrittenItem.read, InputState.parse, push, tools.flush, mem_append, mem_singleton] at mem
    rcases mem with old | rfl
    · exact tools message old
    · rfl

theorem OnlyTools.foldl (tools : s.OnlyTools) (items : List WrittenItem) :
    ((items.map (·.read)).foldl InputState.parse s).OnlyTools := by
  induction items generalizing s with
  | nil => exact tools
  | cons item rest ih => exact ih (tools.parse item)

end InputState

theorem parseResponsesInput_tools {items : List WrittenItem} {message : InputMessage}
    (mem : message ∈ parseResponsesInput (items.map (·.read))) : message.role = "tool" := by
  have tools := InputState.OnlyTools.foldl (s := ⟨[], []⟩) (by simp [InputState.OnlyTools]) items
  rw [parseResponsesInput, tools.flush] at mem
  exact tools message mem

theorem flatMap_instructionsPart {messages : List InputMessage}
    (systems : ∀ message ∈ messages, message.role = "system") :
    messages.flatMap instructionsPart = systemTexts messages := by
  have trimmed : trimSpace "system" = "system" := by decide
  induction messages with
  | nil => rfl
  | cons message rest ih =>
    have here : message.role = "system" := systems message mem_cons_self
    rw [flatMap_cons, ih fun message mem => systems message (mem_cons_of_mem _ mem)]
    by_cases empty : trimSpace message.content = "" <;> simp [systemTexts, instructionsPart, here, trimmed, empty]

/-- Texts that are not empty when trimmed do not get lost when they are joined. -/
theorem systemMessage_intercalate {texts : List String} (trimmed : ∀ text ∈ texts, trimSpace text = text ∧ text ≠ "")
    (some : texts ≠ []) : systemMessage ("\n\n".intercalate texts) = [⟨"system", "\n\n".intercalate texts, "", []⟩] := by
  refine if_pos fun empty => ?_
  obtain ⟨first, rest, rfl⟩ := exists_cons_of_ne_nil some
  obtain ⟨same, full⟩ := trimmed first mem_cons_self
  refine full (same ▸ trimSpace_eq_empty.mpr fun c mem => trimSpace_eq_empty.mp empty c ?_)
  cases rest <;> simp [mem]

/-- **What comes back.**  Where only the assistant calls tools, and tools answer only what is
called, a request comes back with all its messages exactly if it is accepted and has none but the
system's. -/
theorem roundTrip_iff {req : ChatRequest}
    (called : ∀ message ∈ req.messages, message.toolCalls ≠ [] → message.role = "assistant")
    (answers : ∀ message ∈ req.messages, message.role = "tool" →
      ∃ asking ∈ req.messages, ∃ call ∈ asking.toolCalls, call.id = message.toolCallId) :
    roundTrip req = .ok (rejoined req.messages) ↔
      req.model ≠ "" ∧ req.n.getD 1 ≤ 1 ∧ ∀ message ∈ req.messages, message.role = "system" := by
  by_cases model : req.model = ""
  · simp [roundTrip, chatCompletionsRequestToResponsesRequest, model, bind, Except.bind]
  by_cases n : req.n.getD 1 ≤ 1
  case neg => simp [roundTrip, chatCompletionsRequestToResponsesRequest, model, n, Int.not_le.mp n, bind, Except.bind]
  have whole : roundTrip req = .ok ((joinedInstructions req.messages).toList.flatMap systemMessage ++
      parseResponsesInput ((req.messages.flatMap inputItems).map (·.read))) := by
    simp [roundTrip, chatCompletionsRequestToResponsesRequest, responsesRequestToChatCompletionsRequest, model,
      Int.not_lt.mpr n, bind, Except.bind]
  simp only [whole, Except.ok.injEq, ne_eq, model, n, not_false_eq_true, true_and]
  constructor
  · intro same
    have kept : ∀ message ∈ req.messages, message.role ≠ "system" → message.role = "tool" := by
      intro message mem other
      have back : message ∈ rejoined req.messages := mem_append_right _ (by simp [mem, other])
      rw [← same, mem_append] at back
      rcases back with instructed | parsed
      · obtain ⟨text, -, made⟩ := mem_flatMap.mp instructed
        refine absurd ?_ other
        unfold systemMessage at made
        split at made
        · rw [mem_singleton.mp made]
        · cases made
      · exact parseResponsesInput_tools parsed
    intro message mem
    by_contra other
    -- the tool answers a call, and the message that makes it is lost
    obtain ⟨asking, here, call, calls, -⟩ := answers message mem (kept message mem other)
    have assistant := called asking here (ne_nil_of_mem calls)
    have := kept asking here
    simp [assistant] at this
  · intro systems
    have noItems : req.messages.flatMap inputItems = [] := by
      refine flatMap_eq_nil_iff.mpr fun message mem => ?_
      have trimmed : trimSpace "system" = "system" := by decide
      simp [inputItems, systems message mem, trimmed]
    have noOthers : req.messages.filter (·.role ≠ "system") = [] := by simpa [filter_eq_nil_iff] using systems
    have texts : ∀ text ∈ systemTexts req.messages, trimSpace text = text ∧ text ≠ "" := by
      intro text mem
      obtain ⟨trimmed, full⟩ := mem_filter.mp mem
      obtain ⟨message, -, rfl⟩ := mem_map.mp trimmed
      exact ⟨trimSpace_trimSpace _, by simpa using full⟩
    rw [noItems, rejoined, noOthers, joinedInstructions, flatMap_instructionsPart systems]
    cases joined : systemTexts req.messages with
    | nil => rfl
    | cons first rest =>
      have one := systemMessage_intercalate texts (by simp [joined])
      rw [joined] at one
      simp [one, parseResponsesInput, InputState.flush]

theorem roundTrip_iff_rules : roundTrip ⟨"gpt", none, [⟨"system", " Be brief. ", "", []⟩]⟩ =
    .ok (rejoined [⟨"system", " Be brief. ", "", []⟩]) :=
  (roundTrip_iff (by decide) (by decide)).mpr (by decide)

theorem greeting_lost : roundTrip ⟨"gpt", none, [⟨"user", "Hello.", "", []⟩]⟩ = .ok [] :=
  rfl

end NewApi.Stream
