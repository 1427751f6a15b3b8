/-
# Theory.Delivery — texts that are sent in pieces

Texts are sent piece by piece on several channels, and each piece arrives on some channel or is lost.
They arrive as they were sent exactly if every piece that is not empty arrives on its own channel, as
long as pieces stray from one channel only: two channels could exchange equal pieces.
-/
import Mathlib.Data.List.Basic
import Mathlib.Data.List.Flatten

namespace NewApi.Theory
open List Nat

variable {γ : Type}

/-- A piece of a channel's text, and the channel on which it arrives, if it does. -/
structure Shipment (γ : Type) where
  channel : γ
  text : String
  arrival : Option γ

def sent (shipments : List (Shipment γ)) : List (γ × String) :=
  shipments.map fun shipment => (shipment.channel, shipment.text)

def received (shipments : List (Shipment γ)) : List (γ × String) :=
  shipments.filterMap fun shipment => shipment.arrival.map fun channel => (channel, shipment.text)

/-- Every piece arrives where it should, the empty ones apart. -/
def Whole (shipments : List (Shipment γ)) : Prop :=
  ∀ shipment ∈ shipments, shipment.text ≠ "" → shipment.arrival = some shipment.channel

/-- Only pieces of one channel arrive on another one. -/
def StrayOnly (stray : γ) (shipments : List (Shipment γ)) : Prop :=
  ∀ shipment ∈ shipments, shipment.arrival = none ∨ shipment.arrival = some shipment.channel ∨
    shipment.channel = stray

@[simp] theorem sent_append (shipments others : List (Shipment γ)) :
    sent (shipments ++ others) = sent shipments ++ sent others := by
  simp [sent]

@[simp] theorem received_append (shipments others : List (Shipment γ)) :
    received (shipments ++ others) = received shipments ++ received others := by
  simp [received]

@[simp] theorem whole_append (shipments others : List (Shipment γ)) :
    Whole (shipments ++ others) ↔ Whole shipments ∧ Whole others := by
  simp [Whole, or_imp, forall_and]

theorem StrayOnly.append {stray : γ} {shipments others : List (Shipment γ)}
    (first : StrayOnly stray shipments) (second : StrayOnly stray others) : StrayOnly stray (shipments ++ others) := by
  intro shipment member
  rcases mem_append.mp member with early | late
  · exact first shipment early
  · exact second shipment late

variable [DecidableEq γ]

def joined (pieces : List (γ × String)) (channel : γ) : String :=
  String.join ((pieces.filter fun piece => piece.1 = channel).map Prod.snd)

theorem joined_cons (piece : γ × String) (pieces : List (γ × String)) (channel : γ) :
    joined (piece :: pieces) channel = (if piece.1 = channel then piece.2 else "") ++ joined pieces channel := by
  by_cases same : piece.1 = channel <;> simp [joined, same]

section
variable (shipment : Shipment γ) (shipments : List (Shipment γ)) (channel : γ)
include shipment shipments channel

theorem joined_sent_cons :
    joined (sent (shipment :: shipments)) channel = (if shipment.channel = channel then shipment.text else "") ++
        joined (sent shipments) channel :=
  joined_cons _ _ _

theorem joined_received_cons :
    joined (received (shipment :: shipments)) channel =
      (if shipment.arrival = some channel then shipment.text else "") ++ joined (received shipments) channel := by
  cases arrives : shipment.arrival with
  | none => simp [received, arrives]
  | some other =>
    have split : received (shipment :: shipments) = (other, shipment.text) :: received shipments := by
      simp [received, arrives]
    rw [split, joined_cons]
    simp

end

/-- What arrives whole is what was sent. -/
theorem Whole.joined_eq : ∀ {shipments : List (Shipment γ)}, Whole shipments →
    ∀ channel, joined (sent shipments) channel = joined (received shipments) channel := by
  intro shipments
  induction shipments with
  | nil => exact fun _ _ => rfl
  | cons shipment shipments ih =>
    intro whole channel
    obtain ⟨first, rest⟩ := forall_mem_cons.mp whole
    rw [joined_sent_cons, joined_received_cons, ih rest channel]
    by_cases empty : shipment.text = ""
    · simp [empty]
    · simp [first empty]

/-- A channel on which only its own pieces arrive gets no more than its text, and all of it only if
every piece arrives. -/
theorem lengths_of_own {channel : γ} {shipments : List (Shipment γ)}
    (own : ∀ shipment ∈ shipments, shipment.arrival = some channel → shipment.text = "" ∨ shipment.channel = channel) :
    (joined (received shipments) channel).length ≤ (joined (sent shipments) channel).length ∧
      (joined (sent shipments) channel = joined (received shipments) channel →
        ∀ shipment ∈ shipments, shipment.channel = channel → shipment.text ≠ "" → shipment.arrival = some channel) := by
  induction shipments with
  | nil => exact ⟨Nat.le_refl _, by simp⟩
  | cons shipment shipments ih =>
    obtain ⟨first, rest⟩ := forall_mem_cons.mp own
    obtain ⟨below, home⟩ := ih rest
    rw [joined_sent_cons, joined_received_cons, forall_mem_cons, String.length_append, String.length_append]
    by_cases arrives : shipment.arrival = some channel
    · have same : (if shipment.channel = channel then shipment.text else "") = shipment.text := by
        rcases first arrives with empty | mine
        · simp [empty]
        · simp [mine]
      rw [same, if_pos arrives, String.append_right_inj]
      exact ⟨by omega, fun equal => ⟨fun _ _ => arrives, home equal⟩⟩
    · rw [if_neg arrives, String.empty_append]
      refine ⟨by simp only [String.length_empty]; omega, fun equal => ?_⟩
      have lengths := congrArg String.length equal
      rw [String.length_append] at lengths
      have nothing : (if shipment.channel = channel then shipment.text else "") = "" := by
        rw [← String.length_eq_zero_iff]
        omega
      rw [nothing, String.empty_append] at equal
      refine ⟨fun mine full => absurd ?_ full, home equal⟩
      rwa [if_pos mine] at nothing

theorem joined_eq_iff_whole (stray : γ) {shipments : List (Shipment γ)} (strays : StrayOnly stray shipments) :
    (∀ channel, joined (sent shipments) channel = joined (received shipments) channel) ↔ Whole shipments := by
  refine ⟨fun same => ?_, Whole.joined_eq⟩
  have kept : ∀ shipment ∈ shipments, shipment.channel = stray → shipment.text ≠ "" → shipment.arrival = some stray := by
    refine (lengths_of_own fun shipment member arrives => .inr ?_).2 (same stray)
    have := strays shipment member
    simp_all [eq_comm]
  -- the stray channel has lost nothing, so nothing of it is elsewhere
  intro shipment member full
  refine (lengths_of_own fun other inside arrives => ?_).2 (same _) shipment member rfl full
  rcases strays other inside with none | home | isStray
  · simp [none] at arrives
  · exact .inr (Option.some.inj (home.symm.trans arrives))
  · refine or_iff_not_imp_left.mpr fun some => isStray.trans ?_
    exact Option.some.inj ((kept other inside isStray some).symm.trans arrives)

/-- Parts are taken from every element: none is lost on the whole exactly if none is lost of any. -/
theorem flatMap_eq_iff_of_sublist {α β : Type} {kept all : α → List β} (part : ∀ a, kept a <+ all a) (l : List α) :
    l.flatMap kept = l.flatMap all ↔ ∀ a ∈ l, kept a = all a := by
  induction l with
  | nil => simp
  | cons a l ih =>
    rw [flatMap_cons, flatMap_cons, forall_mem_cons, ← ih]
    constructor
    · intro whole
      have lengths := congrArg length whole
      have rest := (Sublist.flatMap_right l fun a _ => part a).length_le
      have here := (part a).length_le
      simp only [length_append] at lengths
      have same : kept a = all a := (part a).eq_of_length (by omega)
      exact ⟨same, append_cancel_left (same ▸ whole)⟩
    · rintro ⟨here, rest⟩
      rw [here, rest]

end NewApi.Theory
