/-
# Theory.Pool — handlers running side by side

`Pool` is any number of handlers over one store, each with the handlers it started.  `Run` is every
interleaving of their store calls with changes from outside, carrying a history variable `G`:

* `Rules.env` — what may happen to the store besides the handlers;
* `Rules.guard` — which steps are admitted;
* `Rules.own`, `Rules.outside` — how a step and an outside change are recorded in `G`.

An invariant is one step lemma (`Run.invariant`).  When all that matters is what every call does to the
store, `Run.call_invariant` and `Run.store_invariant` need only `Program.All`.
-/
import NewApi.Theory.Program

namespace NewApi.Theory
open Function List Option

/-- `main i` is what handler `i` has still to do, `kids i` what the handlers it started
have. -/
structure Pool (S R ι : Type) : Type 1 where
  store : S
  main : ι → Program S R
  kids : ι → List (Program S Unit)

namespace Pool

variable {S R ι G : Type} [DecidableEq ι]

/-- The handlers before any of them has run. -/
def initial (s : S) (main : ι → Program S R) : Pool S R ι := ⟨s, main, fun _ => []⟩

/-- Handler `i`, or one it started, makes its next call and meets `faults` in it. -/
inductive Step (i : ι) (faults : Faults) : Pool S R ι → Pool S R ι → Prop where
  | main {c : Pool S R ι} {p : Program S R} {s : S} {kid : Option (Program S Unit)}
      (ran : (c.main i).step c.store faults = some (p, s, kid)) :
      Step i faults c
        ⟨s, update c.main i p, update c.kids i (c.kids i ++ kid.toList)⟩
  | kid {c : Pool S R ι} {before after : List (Program S Unit)} {k p : Program S Unit} {s : S}
      {kid : Option (Program S Unit)} (here : c.kids i = before ++ k :: after)
      (ran : k.step c.store faults = some (p, s, kid)) :
      Step i faults c
        ⟨s, c.main, update c.kids i (before ++ p :: after ++ kid.toList)⟩

/-- The environment of a run, its admitted steps and its history variable. -/
structure Rules (S ι G : Type) where
  env : S → S → Prop
  guard : ι → Faults → S → S → G → Prop
  own : ι → Faults → S → S → G → G
  outside : S → S → G → G

/-- Every call succeeds, and nobody else touches the store. -/
def Rules.succeeding : Rules S ι Unit where
  env _ _ := False
  guard _ faults _ _ _ := faults = []
  own _ _ _ _ _ := ()
  outside _ _ _ := ()

/-- Every interleaving from `c₀`. -/
inductive Run (rules : Rules S ι G) (c₀ : Pool S R ι) (g₀ : G) : Pool S R ι → G → Prop where
  | start : Run rules c₀ g₀ c₀ g₀
  | step {c c' : Pool S R ι} {g : G} (before : Run rules c₀ g₀ c g) (i : ι) (faults : Faults)
      (stepped : Step i faults c c') (admitted : rules.guard i faults c.store c'.store g) :
      Run rules c₀ g₀ c' (rules.own i faults c.store c'.store g)
  | outside {c : Pool S R ι} {g : G} (before : Run rules c₀ g₀ c g) (s : S)
      (changed : rules.env c.store s) :
      Run rules c₀ g₀ { c with store := s } (rules.outside c.store s g)

variable {rules : Rules S ι G} {c₀ c : Pool S R ι} {g₀ g : G}

theorem Run.restart (_ : Run rules c₀ g₀ c g) : Run rules c g c g := .start

theorem Run.invariant (Inv : Pool S R ι → G → Prop) (init : Inv c₀ g₀)
    (step : ∀ c c' g i faults, Inv c g → Step i faults c c' →
      rules.guard i faults c.store c'.store g → Inv c' (rules.own i faults c.store c'.store g))
    (outside : ∀ c g s, Inv c g → rules.env c.store s → Inv { c with store := s } (rules.outside c.store s g))
    (run : Run rules c₀ g₀ c g) : Inv c g := by
  induction run with
  | start => exact init
  | step _ i faults stepped admitted ih => exact step _ _ _ i faults ih stepped admitted
  | outside _ s changed ih => exact outside _ _ s ih changed

/-- A run can carry a richer history: `erase` says which part of it is the given one. -/
theorem Run.enrich {G' : Type} (rules' : Rules S ι G') (erase : G' → G) (env : ∀ s s', rules.env s s' → rules'.env s s')
    (guard : ∀ i faults s s' g, rules.guard i faults s s' (erase g) → rules'.guard i faults s s' g)
    (own : ∀ i faults s s' g, erase (rules'.own i faults s s' g) = rules.own i faults s s' (erase g))
    (outside : ∀ s s' g, erase (rules'.outside s s' g) = rules.outside s s' (erase g))
    (g₀' : G') (start : erase g₀' = g₀) (run : Run rules c₀ g₀ c g) : ∃ g', erase g' = g ∧ Run rules' c₀ g₀' c g' := by
  induction run with
  | start => exact ⟨g₀', start, .start⟩
  | step _ i faults stepped admitted ih =>
    obtain ⟨g', rfl, before⟩ := ih
    exact ⟨_, own i faults _ _ g', before.step i faults stepped (guard i faults _ _ g' admitted)⟩
  | outside _ s changed ih =>
    obtain ⟨g', rfl, before⟩ := ih
    exact ⟨_, outside _ s g', before.outside s (env _ s changed)⟩

/-- Every call that is still to be made satisfies `P`, which may depend on the handler. -/
def All (P : ι → {β : Type} → Sql S β → Prop) (c : Pool S R ι) : Prop :=
  (∀ i, (c.main i).All (P i)) ∧ ∀ i, ∀ k ∈ c.kids i, k.All (P i)

omit [DecidableEq ι] in
/-- A step of a program whose calls satisfy `P` either starts a handler or executes a
call that satisfies `P`; what remains satisfies `P` too. -/
theorem all_of_step {P : {β : Type} → Sql S β → Prop} {α : Type} {p p' : Program S α} {s s' : S}
    {faults : Faults} {kid : Option (Program S Unit)} (all : p.All P) (ran : p.step s faults = some (p', s', kid)) :
    p'.All P ∧ (∀ k ∈ kid, k.All P) ∧ (s' = s ∨ ∃ (β : Type) (act : Sql S β), P act ∧ s' = (act.exec s faults).2) := by
  cases p with
  | done a => simp [Program.step] at ran
  | call mode act next =>
    simp only [Program.step] at ran
    split at ran
    · cases ran
      exact ⟨all.2 _, by simp, .inr ⟨_, act, all.1, rfl⟩⟩
    · cases ran
  | spawn child next =>
    simp only [Program.step, Option.some.injEq, Prod.mk.injEq] at ran
    obtain ⟨rfl, rfl, rfl⟩ := ran
    exact ⟨all.2, by simpa using all.1, .inl rfl⟩

omit [DecidableEq ι] in
theorem All.mono {P Q : ι → {β : Type} → Sql S β → Prop} (all : c.All P)
    (weaker : ∀ i {β : Type} (act : Sql S β), P i act → Q i act) : c.All Q :=
  ⟨fun i => (all.1 i).mono fun act => weaker i act,
    fun i k member => (all.2 i k member).mono fun act => weaker i act⟩

section
variable {P : ι → {β : Type} → Sql S β → Prop}

/-- What a step does to the store, and that the calls still to be made are among those
before it. -/
theorem Step.all {c' : Pool S R ι} {i : ι} {faults : Faults}
    (all : c.All P) (stepped : Step i faults c c') : c'.All P ∧ (c'.store = c.store ∨
      ∃ (β : Type) (act : Sql S β), P i act ∧ c'.store = (act.exec c.store faults).2) := by
  cases stepped with
  | main ran =>
    obtain ⟨rest, started, effect⟩ := all_of_step (all.1 i) ran
    refine ⟨⟨fun j => ?_, fun j k member => ?_⟩, effect⟩
    · by_cases same : j = i
      · subst same; simpa using rest
      · simpa [same] using all.1 j
    · by_cases same : j = i
      · subst same
        simp only [update_self, mem_append, mem_toList] at member
        exact member.elim (all.2 j k) (started k)
      · simp only [update_of_ne same] at member
        exact all.2 j k member
  | kid here ran =>
    rename_i before after k₀ p s kid
    have member₀ : k₀ ∈ c.kids i := by rw [here]; simp
    obtain ⟨rest, started, effect⟩ := all_of_step (all.2 i k₀ member₀) ran
    refine ⟨⟨all.1, fun j k member => ?_⟩, effect⟩
    by_cases same : j = i
    · subst same
      simp only [update_self, mem_append, mem_cons, mem_toList] at member
      rcases member with (earlier | rfl | later) | new
      · exact all.2 j k (by rw [here]; simp [earlier])
      · exact rest
      · exact all.2 j k (by rw [here]; simp [later])
      · exact started k new
    · simp only [update_of_ne same] at member
      exact all.2 j k member

theorem Run.all (all : c₀.All P) (run : Run rules c₀ g₀ c g) : c.All P :=
  Run.invariant (fun c _ => c.All P) all (fun _ _ _ _ _ all stepped _ => (Step.all all stepped).1)
    (fun _ _ _ all _ => all) run

end

/-- **A property of store and history that every call keeps holds along every
interleaving.**  `idle` is for steps that call no store (a handler that starts another). -/
theorem Run.call_invariant (Inv : S → G → Prop) (init : Inv c₀.store g₀)
    (all : c₀.All fun i _ act => ∀ s faults g, Inv s g → rules.guard i faults s (act.exec s faults).2 g →
      Inv (act.exec s faults).2 (rules.own i faults s (act.exec s faults).2 g))
    (idle : ∀ i faults s g, Inv s g → rules.guard i faults s s g → Inv s (rules.own i faults s s g))
    (outside : ∀ s s' g, Inv s g → rules.env s s' → Inv s' (rules.outside s s' g))
    (run : Run rules c₀ g₀ c g) : Inv c.store g := by
  let Keeps : ι → {β : Type} → Sql S β → Prop := fun i _ act => ∀ s faults g, Inv s g →
    rules.guard i faults s (act.exec s faults).2 g →
    Inv (act.exec s faults).2 (rules.own i faults s (act.exec s faults).2 g)
  refine (Run.invariant (fun c g => c.All Keeps ∧ Inv c.store g) ⟨all, init⟩ ?_ ?_ run).2
  · rintro c c' g i faults ⟨all, holds⟩ stepped admitted
    obtain ⟨rest, effect⟩ := Step.all all stepped
    refine ⟨rest, ?_⟩
    rcases effect with same | ⟨β, act, keeps, effect⟩
    · rw [same] at admitted ⊢
      exact idle i faults _ g holds admitted
    · rw [effect] at admitted ⊢
      exact keeps _ _ g holds admitted
  · rintro c g s ⟨all, holds⟩ changed
    exact ⟨all, outside _ _ g holds changed⟩

/-- The same for a property of the store alone, under the failures the run admits. -/
theorem Run.store_invariant (Inv : S → Prop) (admissible : Faults → Prop) (init : Inv c₀.store)
    (all : c₀.All fun _ _ act => ∀ s faults, admissible faults → Inv s → Inv (act.exec s faults).2)
    (guarded : ∀ i faults s s' g, rules.guard i faults s s' g → admissible faults)
    (outside : ∀ s s', Inv s → rules.env s s' → Inv s') (run : Run rules c₀ g₀ c g) : Inv c.store := by
  refine Run.call_invariant (fun s _ => Inv s) init ?_ (fun _ _ _ _ holds _ => holds)
    (fun s s' _ holds changed => outside s s' holds changed) run
  refine all.mono fun i _ act keeps s faults g holds admitted => ?_
  exact keeps s faults (guarded i faults _ _ g admitted) holds

end Pool
end NewApi.Theory
