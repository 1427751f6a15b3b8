/-
# Stream.Scanner — the data lines of an upstream stream

`StreamScannerHandler` in `relay/helper/stream_scanner.go`: one goroutine scans the lines and sends
the data to a channel that holds ten, another one hands them to the handler.  No timeout, a client
that stays, a handler that goes on.  A line that begins with `[DONE]` is meant to end the stream; it
is cut like a data line, and its rest, a bracket, is delivered.
-/
import NewApi.Theory.Text
import Mathlib.Logic.Relation

namespace NewApi.Stream
open List Theory Text

/-- What the scanner makes of a line. -/
inductive Scanned where
  | skipped
  | data (data : String)
  | done
deriving DecidableEq

/-- `data[5:]`, trimmed. -/
def cutLine (line : String) : String := trimSpace (String.ofList (line.toList.drop 5))

/-- One round of the loop over the lines. -/
def scanLine (line : String) : Scanned :=
  if line.utf8ByteSize < 6 then .skipped
  else if ¬hasPrefix line "data:" ∧ ¬hasPrefix line "[DONE]" then .skipped
  else if cutLine line = "" then .skipped
  else if ¬hasPrefix (cutLine line) "[DONE]" then .data (cutLine line)
  else .done

/-- The lines that are left, the channel, and what the handler has got. -/
structure Pipeline where
  lines : List String
  dataChan : List String
  handled : List String

inductive Pipeline.Step : Pipeline → Pipeline → Prop where
  | skip {line : String} {rest chan got : List String} (skipped : scanLine line = .skipped) :
      Step ⟨line :: rest, chan, got⟩ ⟨rest, chan, got⟩
  | send {line data : String} {rest chan got : List String} (sends : scanLine line = .data data)
      (room : chan.length < 10) : Step ⟨line :: rest, chan, got⟩ ⟨rest, chan ++ [data], got⟩
  | stop {line : String} {rest chan got : List String} (done : scanLine line = .done) :
      Step ⟨line :: rest, chan, got⟩ ⟨[], chan, got⟩
  | handle {data : String} {lines chan got : List String} :
      Step ⟨lines, data :: chan, got⟩ ⟨lines, chan, got ++ [data]⟩

/-- A schedule from the first line to where nothing is left to do. -/
def Ends (lines : List String) (p : Pipeline) : Prop :=
  Relation.ReflTransGen Pipeline.Step ⟨lines, [], []⟩ p ∧ ∀ p', ¬p.Step p'

/-- The data of the lines, up to one that is done. -/
def scanned : List String → List String
  | [] => []
  | line :: rest =>
    match scanLine line with
    | .skipped => scanned rest
    | .data data => data :: scanned rest
    | .done => []

theorem step_scanned {p p' : Pipeline} (step : p.Step p') :
    p'.handled ++ p'.dataChan ++ scanned p'.lines = p.handled ++ p.dataChan ++ scanned p.lines := by
  cases step with
  | skip skipped => simp [scanned, skipped]
  | send sends => simp [scanned, sends]
  | stop done => simp [scanned, done]
  | handle => simp

theorem step_shrinks {p p' : Pipeline} (step : p.Step p') :
    2 * p'.lines.length + p'.dataChan.length < 2 * p.lines.length + p.dataChan.length := by
  cases step
  all_goals simp
  all_goals omega

/-- The channel is drained before the scanner could wait for ever. -/
theorem idle_of_stuck {p : Pipeline} (stuck : ∀ p', ¬p.Step p') : p.lines = [] ∧ p.dataChan = [] := by
  obtain ⟨lines, chan, got⟩ := p
  cases chan with
  | cons data chan => exact absurd .handle (stuck _)
  | nil =>
    cases lines with
    | nil => exact ⟨rfl, rfl⟩
    | cons line rest =>
      cases scans : scanLine line with
      | skipped => exact absurd (.skip scans) (stuck _)
      | data data => exact absurd (.send scans (by simp)) (stuck _)
      | done => exact absurd (.stop scans) (stuck _)

theorem Ends.handled {lines : List String} {p : Pipeline} (ends : Ends lines p) : p.handled = scanned lines := by
  obtain ⟨run, stuck⟩ := ends
  obtain ⟨read, drained⟩ := idle_of_stuck stuck
  have kept : p.handled ++ p.dataChan ++ scanned p.lines = scanned lines := by
    clear stuck read drained
    induction run with
    | refl => simp
    | tail _ step ih => exact (step_scanned step).trans ih
  simpa [read, drained, scanned] using kept

theorem exists_ends (lines : List String) : ∃ p, Ends lines p := by
  have from_ (n : Nat) (p : Pipeline) (small : 2 * p.lines.length + p.dataChan.length ≤ n) :
      ∃ p', Relation.ReflTransGen Pipeline.Step p p' ∧ ∀ p'', ¬p'.Step p'' := by
    induction n generalizing p with
    | zero =>
      refine ⟨p, .refl, fun p' step => ?_⟩
      have := step_shrinks step
      omega
    | succ n ih =>
      by_cases stuck : ∀ p', ¬p.Step p'
      · exact ⟨p, .refl, stuck⟩
      · push Not at stuck
        obtain ⟨next, step⟩ := stuck
        have less := step_shrinks step
        obtain ⟨last, run, idle⟩ := ih next (by omega)
        exact ⟨last, run.head step, idle⟩
  exact from_ _ _ le_rfl

/-- The content of a data line; other lines have none. -/
def dataContent (line : String) : String :=
  if hasPrefix line "data:" then trimSpace (trimPrefix line "data:") else ""

def endMarker (line : String) : Bool := hasPrefix line "[DONE]" || hasPrefix (dataContent line) "[DONE]"

/-- What is meant to be delivered. -/
def meantData (lines : List String) : List String :=
  ((lines.takeWhile fun line => !endMarker line).map dataContent).filter (· ≠ "")

theorem utf8ByteSize_split {line word : String} {rest : List Char} (whole : word.toList ++ rest = line.toList) :
    line.utf8ByteSize = word.utf8ByteSize + (String.ofList rest).utf8ByteSize := by
  have cut : line = word ++ String.ofList rest := by rw [← String.toList_inj, ← whole]; simp
  rw [cut, String.utf8ByteSize_append]

theorem scanLine_plain {line : String} (plain : hasPrefix line "[DONE]" = false) : scanLine line =
    if endMarker line then .done else if dataContent line = "" then .skipped else .data (dataContent line) := by
  have unmarked : hasPrefix "" "[DONE]" = false := by decide
  by_cases data : hasPrefix line "data:" = true
  · obtain ⟨rest, whole⟩ := isPrefixOf_iff_prefix.mp data
    have content : dataContent line = cutLine line := by
      unfold dataContent
      rw [if_pos data]
      unfold trimPrefix
      rw [if_pos (by exact data)]
      rfl
    simp only [scanLine, endMarker, data, plain, ← content]
    by_cases short : line.utf8ByteSize < 6
    · have nothing : rest = [] := by
        have size := utf8ByteSize_split whole
        have : "data:".utf8ByteSize = 5 := by decide
        have none : (String.ofList rest).utf8ByteSize = 0 := by omega
        simpa using none
      have empty : dataContent line = "" := by
        rw [content, cutLine, ← whole, nothing]
        rfl
      simp [short, empty, unmarked]
    · by_cases empty : dataContent line = ""
      · simp [empty, unmarked]
      · cases ended : hasPrefix (dataContent line) "[DONE]" <;> simp [short, empty]
  · simp [scanLine, dataContent, endMarker, data, plain, unmarked]

/-- The rest of the line begins with a bracket, which stays when it is trimmed. -/
theorem scanLine_bare {line : String} (bare : hasPrefix line "[DONE]" = true) :
    ∃ data, scanLine line = .data data := by
  obtain ⟨rest, whole⟩ := isPrefixOf_iff_prefix.mp bare
  have long : ¬line.utf8ByteSize < 6 := by
    have size := utf8ByteSize_split whole
    have : "[DONE]".utf8ByteSize = 6 := by decide
    omega
  obtain ⟨tail, kept⟩ := rdropWhile_prefix isSpace (l := ']' :: rest)
  have trimmed : cutLine line = String.ofList ((']' :: rest).rdropWhile isSpace) := by
    rw [cutLine, trimSpace, String.toList_ofList, ← whole]
    rfl
  cases bracket : (']' :: rest).rdropWhile isSpace with
  | nil => exact absurd (rdropWhile_eq_nil_iff.mp bracket ']' mem_cons_self) (by decide)
  | cons c data =>
    rw [bracket] at kept trimmed
    obtain ⟨rfl, -⟩ := cons_eq_cons.mp kept
    have said : cutLine line ≠ "" := by simp [trimmed]
    have unmarked : hasPrefix (cutLine line) "[DONE]" = false := by
      simp only [hasPrefix, trimmed, String.toList_ofList]
      rfl
    exact ⟨cutLine line, by simp [scanLine, long, bare, said, unmarked]⟩

/-- **When the handler gets what is meant.**  Some schedule ends, and in all that do the handler has
got the data up to the first end marker, exactly if no line begins with `[DONE]` before a data line
says so. -/
theorem scanner_delivers_iff (lines : List String) :
    (∃ p, Ends lines p) ∧ ((∀ p, Ends lines p → p.handled = meantData lines) ↔
      ∀ line ∈ lines.takeWhile (scanLine · ≠ .done), hasPrefix line "[DONE]" = false) := by
  obtain ⟨p, ends⟩ := exists_ends lines
  have same : (∀ p, Ends lines p → p.handled = meantData lines) ↔ scanned lines = meantData lines :=
    ⟨fun each => ends.handled ▸ each p ends, fun whole p ends => ends.handled.trans whole⟩
  refine ⟨⟨p, ends⟩, same.trans ?_⟩
  clear same ends
  induction lines with
  | nil => simp [scanned, meantData]
  | cons line rest ih =>
    cases bare : hasPrefix line "[DONE]" with
    | true =>
      obtain ⟨data, sends⟩ := scanLine_bare bare
      simp [scanned, meantData, endMarker, bare, sends]
    | false =>
      have scans := scanLine_plain bare
      unfold meantData at ih ⊢
      cases ended : endMarker line with
      | true => simp [scanned, scans, ended]
      | false =>
        by_cases empty : dataContent line = "" <;> simp_all [scanned]

theorem bare_done_delivered :
    ∃ p, Ends ["[DONE]", "data: late"] p ∧ p.handled = ["]", "late"] ∧ meantData ["[DONE]", "data: late"] = [] := by
  obtain ⟨p, ends⟩ := exists_ends ["[DONE]", "data: late"]
  refine ⟨p, ends, ?_⟩
  rw [ends.handled]
  decide

end NewApi.Stream
