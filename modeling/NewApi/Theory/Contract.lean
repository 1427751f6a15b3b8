/-
# Theory.Contract — pre- and postconditions of handlers that share a store

A handler that runs beside others knows what it has done itself, kept in a private history variable
`P`, and what everyone keeps true of the store.  A `Setting` says what that is:

* `meets` — the failures a call may meet (`true` for compensating calls);
* `sees` — what holds of the store whenever the handler makes a call;
* `moves` — how a call of the handler is recorded in its private variable;
* `keeps` — what the handler owes the others at each of its calls.

`Program.Meets K p g Q` is the weakest precondition of `Q` over every interleaving.  `Program.Ends`
allows, besides, a last handler to be started.  `Pool.Run.contract`: handlers that meet their contracts
meet them side by side, if what each of them keeps is what the others see.  `Setting.alone`: a handler
that nobody disturbs, against every failure plan; `Setting.unfailing`: one that meets no failure either.
-/
import NewApi.Theory.Pool

namespace NewApi.Theory

structure Setting (S P : Type) where
  meets : Bool → Faults → Prop
  sees : P → S → Prop
  moves : S → S → P → P
  keeps : S → S → P → Prop

namespace Program

variable {S P α β : Type}

/-- Whatever the handler sees, each of its calls does what it owes, and its result and its
private variable satisfy `Q` in the end. -/
def Meets (K : Setting S P) : {α : Type} → Program S α → P → (α → P → Prop) → Prop
  | _, .done a, g, Q => Q a g
  | _, .call mode act next, g, Q => ∀ s faults, K.sees g s → K.meets mode.compensating faults →
      K.keeps s (act.exec s faults).2 g ∧
        (next (act.exec s faults).1).Meets K (K.moves s (act.exec s faults).2 g) Q
  | _, .spawn _ _, _, _ => False

/-- The same for a handler whose last act may be to start another one. -/
def Ends (K : Setting S P) : {α : Type} → Program S α → P → (α → P → Prop) → Prop
  | _, .done a, g, Q => Q a g
  | _, .call mode act next, g, Q => ∀ s faults, K.sees g s → K.meets mode.compensating faults →
      K.keeps s (act.exec s faults).2 g ∧
        (next (act.exec s faults).1).Ends K (K.moves s (act.exec s faults).2 g) Q
  | _, .spawn child next, g, Q => ∃ a, next = .done a ∧ child.Meets K g fun _ g' => Q a g'

variable {K : Setting S P} {g : P} {p : Program S α} {Q : α → P → Prop}

section
variable {f : α → Program S β} {R : β → P → Prop} (first : p.Meets K g Q)
include first

theorem Meets.bind (rest : ∀ a g', Q a g' → (f a).Meets K g' R) : (p >>= f).Meets K g R := by
  induction p generalizing g with
  | done a => exact rest a g first
  | call mode act next ih =>
    intro s faults seen may
    obtain ⟨kept, after⟩ := first s faults seen may
    exact ⟨kept, ih _ after rest⟩
  | spawn child next => exact first.elim

theorem Ends.bind (rest : ∀ a g', Q a g' → (f a).Ends K g' R) : (p >>= f).Ends K g R := by
  induction p generalizing g with
  | done a => exact rest a g first
  | call mode act next ih =>
    intro s faults seen may
    obtain ⟨kept, after⟩ := first s faults seen may
    exact ⟨kept, ih _ after rest⟩
  | spawn child next => exact first.elim

end

theorem ends_map {f : α → β} {Q : β → P → Prop}
    (ends : p.Ends K g fun a => Q (f a)) : (p >>= fun a => .done (f a)).Ends K g Q := by
  induction p generalizing g with
  | done a => exact ends
  | call mode act next ih =>
    intro s faults seen may
    obtain ⟨kept, after⟩ := ends s faults seen may
    exact ⟨kept, ih _ after⟩
  | spawn child next =>
    obtain ⟨a, last, met⟩ := ends
    refine ⟨f a, ?_, met⟩
    rw [last]
    rfl

section
variable (met : p.Meets K g Q)
include met

theorem Meets.mono {R : α → P → Prop} (weaker : ∀ a g', Q a g' → R a g') : p.Meets K g R := by
  induction p generalizing g with
  | done a => exact weaker a g met
  | call mode act next ih =>
    intro s faults seen may
    obtain ⟨kept, after⟩ := met s faults seen may
    exact ⟨kept, ih _ after weaker⟩
  | spawn child next => exact met.elim

/-- A contract met in one setting is met in another that allows less and asks for less. -/
theorem Meets.weaken {L : Setting S P} (sees : ∀ g s, L.sees g s → K.sees g s)
    (may : ∀ compensating faults, L.meets compensating faults → K.meets compensating faults)
    (moves : ∀ s s' g, L.moves s s' g = K.moves s s' g)
    (keeps : ∀ s s' g, L.sees g s → K.keeps s s' g → L.keeps s s' g) : p.Meets L g Q := by
  induction p generalizing g with
  | done a => exact met
  | call mode act next ih =>
    intro s faults seen allowed
    obtain ⟨kept, after⟩ := met s faults (sees g s seen) (may _ _ allowed)
    rw [moves]
    exact ⟨keeps _ _ _ seen kept, ih _ after⟩
  | spawn child next => exact met.elim

/-- A contract that expects no failure of its compensating calls is met by the sheltered
handler under any failures. -/
theorem Meets.sheltered (spared : K.meets true []) :
    p.sheltered.Meets { K with meets := fun _ faults => K.meets false faults } g Q := by
  induction p generalizing g with
  | done a => exact met
  | call mode act next ih =>
    intro s faults seen may
    cases undoes : mode.compensating with
    | true =>
      obtain ⟨kept, after⟩ := met s [] seen (by rw [undoes]; exact spared)
      exact ⟨kept, ih _ after⟩
    | false =>
      obtain ⟨kept, after⟩ := met s faults seen (by rw [undoes]; exact may)
      exact ⟨kept, ih _ after⟩
  | spawn child next => exact met.elim

end

theorem Meets.store {act : Sql S α} {Q : Except String α → P → Prop}
    (this : ∀ s faults, K.sees g s → K.meets false faults → K.keeps s (act.exec s faults).2 g ∧
        Q (act.exec s faults).1 (K.moves s (act.exec s faults).2 g)) : (store act).Meets K g Q := this

/-! ## One handler alone -/

/-- A handler that meets its contract and runs to its end by itself: `Inv` is what its calls
keep true of the store and the private variable. -/
theorem Meets.solo {s : S} (met : p.Meets K g Q) (Inv : S → P → Prop) (sees : ∀ s g, Inv s g → K.sees g s)
    (may : ∀ compensating, K.meets compensating [])
    (kept : ∀ s s' g, Inv s g → K.keeps s s' g → Inv s' (K.moves s s' g)) (init : Inv s g) :
    ∃ g', Inv (p.solo s).2 g' ∧ Q (p.solo s).1 g' := by
  induction p generalizing s g with
  | done a => exact ⟨g, init, met⟩
  | call mode act next ih =>
    obtain ⟨owed, rest⟩ := met s [] (sees s g init) (may _)
    exact ih _ rest (kept _ _ _ init owed)
  | spawn child next => exact met.elim

end Program

/-- Nobody else touches the store; compensating calls succeed. -/
def Setting.alone (S : Type) : Setting S S where
  meets compensating faults := compensating = true → faults = []
  sees g s := s = g
  moves _ s' _ := s'
  keeps _ _ _ := True

namespace Program

variable {S α : Type} {s : S}

section
variable {act : Sql S α} {Q : Except String α → S → Prop}

theorem alone_store
    (this : ∀ faults, Q (act.exec s faults).1 (act.exec s faults).2) : (store act).Meets (.alone _) s Q := by
  rintro _ faults rfl -
  exact ⟨trivial, this faults⟩

theorem alone_undo (this : Q (act.exec s []).1 (act.exec s []).2) : (undo act).Meets (.alone _) s Q := by
  rintro _ faults rfl may
  rw [may rfl]
  exact ⟨trivial, this⟩

end

variable {p : Program S α} {Q : α → S → Prop} (met : p.Meets (.alone _) s Q)
include met

theorem Meets.solo_alone : Q (p.solo s).1 (p.solo s).2 := by
  obtain ⟨s', same, ended⟩ := met.solo (fun s g => s = g) (fun _ _ same => same)
    (fun _ _ => rfl) (fun _ _ _ _ _ => rfl) rfl
  rw [same]
  exact ended

/-- **A contract met alone holds under every failure plan.** -/
theorem Meets.run_alone (faults : Faults) : Q (p.run s faults).1 (p.run s faults).2.1 := by
  induction p generalizing s faults with
  | done a => exact met
  | call mode act next ih =>
    unfold run
    split
    · exact ih _ (met s [] rfl fun _ => rfl).2 faults
    · rename_i plain
      exact ih _ (met s faults rfl fun undone => absurd undone plain).2 _
  | spawn child next => exact met.elim

end Program

/-- Nobody else touches the store and no call fails. -/
def Setting.unfailing (S : Type) : Setting S S where
  meets _ faults := faults = []
  sees g s := s = g
  moves _ s' _ := s'
  keeps _ _ _ := True

namespace Program

variable {S α : Type} {s : S}

theorem unfailing_store {act : Sql S α} {Q : Except String α → S → Prop}
    (this : Q (act.exec s []).1 (act.exec s []).2) : (store act).Meets (.unfailing _) s Q := by
  rintro _ _ rfl rfl
  exact ⟨trivial, this⟩

section
variable {p : Program S α} {Q : α → S → Prop}

theorem Meets.solo_unfailing (met : p.Meets (.unfailing _) s Q) :
    Q (p.solo s).1 (p.solo s).2 := by
  obtain ⟨s', same, ended⟩ := met.solo (fun s g => s = g) (fun _ _ same => same)
    (fun _ => rfl) (fun _ _ _ _ _ => rfl) rfl
  rw [same]
  exact ended

/-- On a part of a larger store: the rest of it stays. -/
theorem Meets.zoom_unfailing {T : Type} {get : T → S} {set : S → T → T} (whole : ∀ t, set (get t) t = t)
    (part : ∀ s t, get (set s t) = s) (last : ∀ s s' t, set s' (set s t) = set s' t) {t : T}
    (met : p.Meets (.unfailing _) (get t) Q) :
    (p.zoom get set).Meets (.unfailing _) t fun a t' => Q a (get t') ∧ t' = set (get t') t := by
  induction p generalizing t with
  | done a => exact ⟨met, (whole t).symm⟩
  | call mode act next ih =>
    rintro _ _ rfl rfl
    obtain ⟨-, after⟩ := met _ _ rfl rfl
    rename_i t
    have rest := ih (act.exec (get t) []).1 (t := set (act.exec (get t) []).2 t) (by rw [part]; exact after)
    refine ⟨trivial, rest.mono ?_⟩
    rintro a t' ⟨ended, framed⟩
    refine ⟨ended, ?_⟩
    rw [last] at framed
    exact framed
  | spawn child next => exact met.elim

end

end Program

/-! ## Handlers side by side -/

namespace Pool

variable {S R ι G P : Type}

/-- Handler `i` has its result, and so has whatever it started. -/
def Finished (c : Pool S R ι) (i : ι) (result : R) : Prop := c.main i = .done result ∧ ∀ k ∈ c.kids i, k = .done ()

/-- Where handler `i` stands in its contract. -/
def Fits (K : Setting S P) (Q : R → P → Prop) (c : Pool S R ι) (i : ι) (g : P) : Prop :=
  (c.kids i = [] ∧ (c.main i).Ends K g Q) ∨
    ∃ result child, c.main i = .done result ∧ c.kids i = [child] ∧
      child.Meets K g fun _ g' => Q result g'

variable {K : Setting S P} {Q : R → P → Prop} {c : Pool S R ι} {i : ι} {g : P} {faults : Faults}
  {rules : Rules S ι G} {g₀ : G}

theorem Fits.finished (fits : Fits K Q c i g) {result : R} (ended : c.Finished i result) : Q result g := by
  rcases fits with ⟨-, ends⟩ | ⟨result', child, main, kids, met⟩
  · rw [ended.1] at ends
    exact ends
  have over_ := ended.2 child (by simp [kids])
  obtain rfl : result' = result := by
    have same := main.symm.trans ended.1
    injection same
  rw [over_] at met
  exact met

section
variable {α : Type} {Q : α → P → Prop} {p p' : Program S α} {s s' : S} {kid : Option (Program S Unit)}

/-- A call of a handler that meets its contract: the rest of the contract, and what the
call owed.  It starts no other handler. -/
theorem meets_step (met : p.Meets K g Q) (seen : K.sees g s) (may : ∀ compensating, K.meets compensating faults)
    (ran : p.step s faults = some (p', s', kid)) : K.keeps s s' g ∧ p'.Meets K (K.moves s s' g) Q ∧ kid = none := by
  cases p with
  | done a => simp [Program.step] at ran
  | call mode act next =>
    simp only [Program.step] at ran
    split at ran
    · cases ran
      obtain ⟨kept, rest⟩ := met s faults seen (may _)
      exact ⟨kept, rest, rfl⟩
    · cases ran
  | spawn child next => exact met.elim

/-- The same for `Ends`: a call as before, or the start of the last handler. -/
theorem ends_step (ends : p.Ends K g Q) (seen : K.sees g s) (may : ∀ compensating, K.meets compensating faults)
    (ran : p.step s faults = some (p', s', kid)) : (K.keeps s s' g ∧ p'.Ends K (K.moves s s' g) Q ∧ kid = none) ∨
      (s' = s ∧ ∃ a child, p' = .done a ∧ kid = some child ∧ child.Meets K g fun _ g' => Q a g') := by
  cases p with
  | done a => simp [Program.step] at ran
  | call mode act next =>
    simp only [Program.step] at ran
    split at ran
    · cases ran
      obtain ⟨kept, rest⟩ := ends s faults seen (may _)
      exact .inl ⟨kept, rest, rfl⟩
    · cases ran
  | spawn child next =>
    simp only [Program.step, Option.some.injEq, Prod.mk.injEq] at ran
    obtain ⟨rfl, rfl, rfl⟩ := ran
    obtain ⟨a, last, met⟩ := ends
    exact .inr ⟨rfl, a, child, last, rfl, met⟩

end

theorem Fits.congr {c' : Pool S R ι}
    (fits : Fits K Q c i g) (main : c'.main i = c.main i) (kids : c'.kids i = c.kids i) : Fits K Q c' i g := by
  unfold Fits
  rw [main, kids]
  exact fits

variable [DecidableEq ι]

/-- A step of handler `i`: it owes what a call owes, or has started its last handler. -/
theorem Fits.step {c' : Pool S R ι} (fits : Fits K Q c i g) (seen : K.sees g c.store)
    (may : ∀ compensating, K.meets compensating faults) (stepped : Step i faults c c') :
    (K.keeps c.store c'.store g ∧ Fits K Q c' i (K.moves c.store c'.store g)) ∨
      (c'.store = c.store ∧ Fits K Q c' i g) := by
  cases stepped with
  | main ran =>
    rcases fits with ⟨kids, ends⟩ | ⟨result, child, main, -, -⟩
    · rcases ends_step ends seen may ran with ⟨kept, rest, rfl⟩ | ⟨same, a, child, rfl, rfl, met⟩
      · exact .inl ⟨kept, .inl ⟨by simp [kids], by simpa using rest⟩⟩
      · exact .inr ⟨same, .inr ⟨a, child, by simp, by simp [kids], met⟩⟩
    · rw [main] at ran
      simp [Program.step] at ran
  | kid here ran =>
    rename_i before after k p s kid
    rcases fits with ⟨kids, -⟩ | ⟨result, child, main, kids, met⟩
    · rw [kids] at here
      simp at here
    rw [kids] at here
    obtain ⟨rfl, rfl, rfl⟩ : before = [] ∧ k = child ∧ after = [] := by
      cases before with
      | nil => simpa [eq_comm] using here
      | cons b bs => simp at here
    obtain ⟨kept, rest, rfl⟩ := meets_step met seen may ran
    exact .inl ⟨kept, .inr ⟨result, p, main, by simp, rest⟩⟩

/-- `J` is what everyone keeps true of the store and of the history `G`; `mine i` is the private
variable of handler `i` in it. -/
structure Shared (rules : Rules S ι G) (K : ι → Setting S P) (mine : ι → G → P) (J : S → G → Prop) :
    Prop where
  sees : ∀ i s g, J s g → (K i).sees (mine i g) s
  may : ∀ i faults s s' g, rules.guard i faults s s' g →
      ∀ compensating, (K i).meets compensating faults
  moved : ∀ i faults s s' g, mine i (rules.own i faults s s' g) = (K i).moves s s' (mine i g)
  others : ∀ i j faults s s' g, j ≠ i → mine j (rules.own i faults s s' g) = mine j g
  kept : ∀ i faults s s' g, J s g → rules.guard i faults s s' g →
      (K i).keeps s s' (mine i g) → J s' (rules.own i faults s s' g)
  outside : ∀ s s' g, J s g → rules.env s s' →
      J s' (rules.outside s s' g) ∧ ∀ i, mine i (rules.outside s s' g) = mine i g

variable {c₀ : Pool S R ι} (K : ι → Setting S P) (Q : ι → R → P → Prop) (mine : ι → G → P) (J : S → G → Prop) {g : G}

/-- **Contracts hold side by side.** -/
theorem Run.contract (init : J c₀.store g₀) (fit : ∀ i, Fits (K i) (Q i) c₀ i (mine i g₀))
    (shared : Shared rules K mine J) (idle : ∀ i faults s g, J s g → rules.own i faults s s g = g)
    (run : Run rules c₀ g₀ c g) : J c.store g ∧ ∀ i, Fits (K i) (Q i) c i (mine i g) := by
  refine Run.invariant (fun c g => J c.store g ∧ ∀ i, Fits (K i) (Q i) c i (mine i g)) ⟨init, fit⟩ ?_ ?_ run
  · rintro c c' g i faults ⟨holds, fits⟩ stepped admitted
    have elsewhere : ∀ j, j ≠ i → c'.main j = c.main j ∧ c'.kids j = c.kids j := by
      intro j other
      cases stepped with
      | main | kid => simp [other]
    rcases (fits i).step (shared.sees i _ g holds) (shared.may i faults _ _ g admitted) stepped with
      ⟨owed, rest⟩ | ⟨same, rest⟩
    · refine ⟨shared.kept i faults _ _ g holds admitted owed, fun j => ?_⟩
      by_cases self : j = i
      · subst self
        rw [shared.moved]
        exact rest
      · rw [shared.others i j faults _ _ g self]
        exact (fits j).congr (elsewhere j self).1 (elsewhere j self).2
    · rw [same, idle i faults _ g holds]
      refine ⟨holds, fun j => ?_⟩
      by_cases self : j = i
      · subst self
        exact rest
      · exact (fits j).congr (elsewhere j self).1 (elsewhere j self).2
  · rintro c g s ⟨holds, fits⟩ changed
    obtain ⟨after, same⟩ := shared.outside _ _ g holds changed
    refine ⟨after, fun i => ?_⟩
    rw [same i]
    exact (fits i).congr rfl rfl

/-- The same for handlers that start no other: every step is a call, so the history may
record calls that leave the store alone. -/
theorem Run.meets_from (init : J c₀.store g₀)
    (fit : ∀ i, c₀.kids i = [] ∧ (c₀.main i).Meets (K i) (mine i g₀) (Q i)) (shared : Shared rules K mine J)
    (run : Run rules c₀ g₀ c g) :
    J c.store g ∧ ∀ i, c.kids i = [] ∧ (c.main i).Meets (K i) (mine i g) (Q i) := by
  refine Run.invariant (fun c g => J c.store g ∧ ∀ i, c.kids i = [] ∧ (c.main i).Meets (K i) (mine i g) (Q i))
    ⟨init, fit⟩ ?_ ?_ run
  · rintro c c' g i faults ⟨holds, fits⟩ stepped admitted
    cases stepped with
    | kid here ran =>
      rw [(fits i).1] at here
      simp at here
    | main ran =>
      obtain ⟨owed, rest, rfl⟩ := meets_step (fits i).2 (shared.sees i _ g holds)
        (shared.may i faults _ _ g admitted) ran
      refine ⟨shared.kept i faults _ _ g holds admitted owed, fun j => ?_⟩
      by_cases self : j = i
      · subst self
        rw [shared.moved]
        simpa [(fits j).1] using rest
      · rw [shared.others i j faults _ _ g self]
        simpa [self] using fits j
  · rintro c g s ⟨holds, fits⟩ changed
    obtain ⟨after, same⟩ := shared.outside _ _ g holds changed
    refine ⟨after, fun i => ?_⟩
    rw [same i]
    exact fits i

theorem Run.meets {s₀ : S} {main : ι → Program S R}
    (init : J s₀ g₀) (fit : ∀ i, (main i).Meets (K i) (mine i g₀) (Q i)) (shared : Shared rules K mine J)
    (run : Run rules (initial s₀ main) g₀ c g) :
    J c.store g ∧ ∀ i, c.kids i = [] ∧ (c.main i).Meets (K i) (mine i g) (Q i) :=
  run.meets_from K Q mine J init (fun i => ⟨rfl, fit i⟩) shared

/-- The same when the history does not tell the private variables: they are kept beside it. -/
theorem Run.meets_beside {s₀ : S} {main : ι → Program S R} {p₀ : ι → P} {J : S → G → (ι → P) → Prop}
    (init : J s₀ g₀ p₀) (fit : ∀ i, (main i).Meets (K i) (p₀ i) (Q i)) (sees : ∀ i s g p, J s g p → (K i).sees (p i) s)
    (may : ∀ i faults s s' g, rules.guard i faults s s' g → ∀ compensating, (K i).meets compensating faults)
    (kept : ∀ i faults s s' g p, J s g p → rules.guard i faults s s' g → (K i).keeps s s' (p i) →
      J s' (rules.own i faults s s' g) (Function.update p i ((K i).moves s s' (p i))))
    (outside : ∀ s s' g p, J s g p → rules.env s s' → J s' (rules.outside s s' g) p)
    (run : Run rules (initial s₀ main) g₀ c g) :
    ∃ p, J c.store g p ∧ ∀ i, c.kids i = [] ∧ (c.main i).Meets (K i) (p i) (Q i) := by
  let beside : Rules S ι (G × (ι → P)) := {
    env := rules.env
    guard := fun i faults s s' g => rules.guard i faults s s' g.1
    own := fun i faults s s' g => (rules.own i faults s s' g.1, Function.update g.2 i ((K i).moves s s' (g.2 i)))
    outside := fun s s' g => (rules.outside s s' g.1, g.2) }
  obtain ⟨⟨g, p⟩, rfl, enriched⟩ := run.enrich beside Prod.fst (fun _ _ changed => changed)
    (fun _ _ _ _ _ admitted => admitted) (fun _ _ _ _ _ => rfl) (fun _ _ _ => rfl) (g₀, p₀) rfl
  have shared : Shared beside K (fun i g => g.2 i) fun s g => J s g.1 g.2 := {
    sees := fun i s g => sees i s g.1 g.2
    may := fun i faults s s' g => may i faults s s' g.1
    moved := fun i _ _ _ _ => Function.update_self i _ _
    others := fun i j _ _ _ _ other => Function.update_of_ne other _ _
    kept := fun i faults s s' g => kept i faults s s' g.1 g.2
    outside := fun s s' g holds changed => ⟨outside s s' g.1 g.2 holds changed, fun _ => rfl⟩ }
  exact ⟨p, enriched.meets K Q (fun i g => g.2 i) (fun s g => J s g.1 g.2) init fit shared⟩

end Pool

/-! ## Runs that are computed

A concrete interleaving is a list of moves: which handler, or which handler it started,
makes the next call.  `Pool.play` executes such a list without failures, checking the
guard of every step by a Boolean, and `Pool.run_of_play` turns the result into a `Run`.
-/

namespace Pool

variable {S R ι G : Type} [DecidableEq ι]

/-- Who moves: a handler, or the first of those it started. -/
inductive Move (ι : Type) where
  | main (i : ι)
  | kid (i : ι)

def Move.who : Move ι → ι
  | .main i => i
  | .kid i => i

/-- One call, meeting no failure. -/
def advance (c : Pool S R ι) : Move ι → Option (Pool S R ι)
  | .main i =>
    match (c.main i).step c.store [] with
    | none => none
    | some (p, s, kid) => some
        ⟨s, Function.update c.main i p, Function.update c.kids i (c.kids i ++ kid.toList)⟩
  | .kid i =>
    match c.kids i with
    | [] => none
    | k :: after =>
      match k.step c.store [] with
      | none => none
      | some (p, s, kid) => some
          ⟨s, c.main, Function.update c.kids i (p :: after ++ kid.toList)⟩

variable {c : Pool S R ι}

theorem step_of_advance {c' : Pool S R ι} {move : Move ι} (ran : c.advance move = some c') : Step move.who [] c c' := by
  cases move with
  | main i =>
    simp only [advance] at ran
    split at ran
    · cases ran
    · rename_i stepped
      cases ran
      exact .main stepped
  | kid i =>
    simp only [advance] at ran
    split at ran
    · cases ran
    rename_i here
    split at ran
    · cases ran
    · rename_i stepped
      cases ran
      have first : c.kids i = [] ++ _ :: _ := here
      exact .kid first stepped

/-- The moves in order, each admitted. -/
def play (rules : Rules S ι G) (admits : ι → S → S → G → Bool) :
    List (Move ι) → Pool S R ι → G → Option (Pool S R ι × G)
  | [], c, g => some (c, g)
  | move :: rest, c, g =>
    match c.advance move with
    | none => none
    | some c' =>
      if admits move.who c.store c'.store g then
        play rules admits rest c' (rules.own move.who [] c.store c'.store g)
      else none

theorem run_of_play {rules : Rules S ι G} {admits : ι → S → S → G → Bool}
    (sound : ∀ i s s' g, admits i s s' g = true → rules.guard i [] s s' g) {moves : List (Move ι)}
    {c₀ c₁ : Pool S R ι} {g₀ g₁ g : G} (before : Run rules c₀ g₀ c₁ g₁)
    (played : play rules admits moves c₁ g₁ = some (c, g)) : Run rules c₀ g₀ c g := by
  induction moves generalizing c₁ g₁ with
  | nil =>
    cases played
    exact before
  | cons move rest ih =>
    simp only [play] at played
    split at played
    · cases played
    · rename_i c' ran
      split at played
      · rename_i admitted
        exact ih (before.step _ [] (step_of_advance ran) (sound _ _ _ _ admitted)) played
      · cases played

/-- The result of a handler that has ended, with whatever it started. -/
def result (c : Pool S R ι) (i : ι) : Option R :=
  match c.main i with
  | .done r => if (c.kids i).all (fun | .done _ => true | _ => false) then some r else none
  | _ => none

omit [DecidableEq ι] in
theorem finished_of_result {i : ι} {r : R} (ended : c.result i = some r) : c.Finished i r := by
  unfold result at ended
  split at ended
  · rename_i r' main
    split at ended
    · rename_i kids
      cases ended
      refine ⟨main, fun k member => ?_⟩
      have over_ := List.all_eq_true.mp kids k member
      cases k with
      | done _ => rfl
      | call | spawn => simp at over_
    · cases ended
  · cases ended

omit [DecidableEq ι] in
theorem finished_of_any {i : ι} {check : R → Bool}
    (ended : (c.result i).any check = true) : ∃ r, c.Finished i r ∧ check r = true := by
  cases here : c.result i with
  | none =>
    rw [here] at ended
    cases ended
  | some r =>
    rw [here] at ended
    exact ⟨r, finished_of_result here, ended⟩

/-- Handler `i` has ended well. -/
def succeeded {α : Type} (c : Pool S (Except String α) ι) (i : ι) : Bool := (c.result i).any (·.isOk)

variable {rules : Rules S ι G} {c₀ : Pool S R ι} {g₀ : G} {Q : Pool S R ι → G → Prop}

/-- What a play of `moves` establishes: `holds` is checked at its end. -/
theorem exists_play (holds : Pool S R ι → G → Prop) [∀ c g, Decidable (holds c g)] (admits : ι → S → S → G → Bool)
    (sound : ∀ i s s' g, admits i s s' g = true → rules.guard i [] s s' g) (moves : List (Move ι))
    (checked : (play rules admits moves c₀ g₀).any (fun c => decide (holds c.1 c.2)) = true)
    (gives : ∀ c g, Run rules c₀ g₀ c g → holds c g → Q c g) : ∃ c g, Run rules c₀ g₀ c g ∧ Q c g := by
  cases played : play rules admits moves c₀ g₀ with
  | none =>
    rw [played] at checked
    cases checked
  | some ended =>
    rw [played] at checked
    have run := run_of_play sound .start played
    exact ⟨ended.1, ended.2, run, gives _ _ run (of_decide_eq_true checked)⟩

theorem exists_unit_play {rules : Rules S ι Unit} {Q : Pool S R ι → Prop} (holds : Pool S R ι → Prop)
    [DecidablePred holds] (admits : ι → S → S → Unit → Bool)
    (sound : ∀ i s s' g, admits i s s' g = true → rules.guard i [] s s' g) (moves : List (Move ι))
    (checked : (play rules admits moves c₀ ()).any (fun c => decide (holds c.1)) = true)
    (gives : ∀ c, Run rules c₀ () c () → holds c → Q c) : ∃ c, Run rules c₀ () c () ∧ Q c := by
  obtain ⟨c, _, run⟩ := exists_play (fun c _ => holds c) admits sound moves checked
    (fun c _ run held => gives c run held)
  exact ⟨c, run⟩

/-- The same with steps that are all admitted, when `Q` itself is checked. -/
theorem exists_free_play [∀ c g, Decidable (Q c g)] (free : ∀ i s s' g, rules.guard i [] s s' g) (moves : List (Move ι))
    (checked : (play rules (fun _ _ _ _ => true) moves c₀ g₀).any (fun c => decide (Q c.1 c.2)) = true) :
    ∃ c g, Run rules c₀ g₀ c g ∧ Q c g :=
  exists_play Q _ (fun i s s' g _ => free i s s' g) moves checked fun _ _ _ held => held

end Pool
end NewApi.Theory
