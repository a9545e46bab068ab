import Mathlib.Data.List.Basic

/-!
# Machines, admissible runs and histories

A machine is a predicate of initial states with a total step function on labelled events. Nothing
here names a program: the state and event types are arbitrary, and a request that a program refuses
is a step that leaves the state as the refusal leaves it.

Two notions of run are used, and they answer different questions.

* `ReachableBy ok s` — some run in which **every** step meets `ok` ends in `s`. A law that the
  program keeps only while its environment behaves is a law of `ReachableBy`; `Reachable` is the
  case of no condition. `ReachableBy.invariant` is the one induction.
* `History s₀ h s` — the run itself, kept as the list of transitions taken since `s₀`, **newest
  first**. A law about the past ("some earlier step observed …") is a law about `h`;
  `History.invariant` carries a property of the state and its past together.

`OnceSince p q` is the past-time operator the second kind needs: `q` held at some transition at or
after the last `p`.
-/

namespace Kaya

/-- A machine: initial states and a total step on labelled events. -/
structure Machine (σ ε : Type*) where
  /-- The initial states. -/
  init : σ → Prop
  /-- The state after an event. -/
  step : σ → ε → σ

namespace Machine

variable {σ ε : Type*} (M : Machine σ ε) {ok : σ → ε → Prop} {s s₀ : σ} {h : List (σ × ε)}
  {P : σ → Prop}

/-! ### Admissible runs -/

/-- The states that end a run whose steps all meet `ok`. -/
inductive ReachableBy (ok : σ → ε → Prop) : σ → Prop
  | start {s : σ} (hs : M.init s) : ReachableBy ok s
  | next {s : σ} (e : ε) (hs : ReachableBy ok s) (he : ok s e) : ReachableBy ok (M.step s e)

/-- The states that end any run. -/
def Reachable : σ → Prop := M.ReachableBy fun _ _ ↦ True

variable {M}

/-- **The invariant rule.** What holds initially and survives every admissible step holds at the end
of every admissible run. -/
theorem ReachableBy.invariant (hinit : ∀ s, M.init s → P s)
    (hstep : ∀ s e, P s → ok s e → P (M.step s e)) {s : σ} (h : M.ReachableBy ok s) : P s := by
  induction h with
  | start hs => exact hinit _ hs
  | next e _ he ih => exact hstep _ e ih he

/-- A run that meets a condition meets every weaker one. -/
theorem ReachableBy.mono {ok' : σ → ε → Prop} (himp : ∀ s e, ok s e → ok' s e)
    (h : M.ReachableBy ok s) : M.ReachableBy ok' s := by
  induction h with
  | start hs => exact .start hs
  | next e _ he ih => exact .next e ih (himp _ _ he)

theorem ReachableBy.reachable (h : M.ReachableBy ok s) : M.Reachable s :=
  h.mono fun _ _ _ ↦ trivial

/-- The invariant rule without a condition on the steps. -/
theorem Reachable.invariant (hinit : ∀ s, M.init s → P s)
    (hstep : ∀ s e, P s → P (M.step s e)) (h : M.Reachable s) : P s :=
  ReachableBy.invariant hinit (fun s e hs _ ↦ hstep s e hs) h

theorem Reachable.step (h : M.Reachable s) (e : ε) : M.Reachable (M.step s e) :=
  .next e h trivial

/-! ### Finite event sequences -/

variable (M) in
/-- The state after a finite sequence of events. -/
def run (s : σ) (es : List ε) : σ := es.foldl M.step s

@[simp] theorem run_nil (s : σ) : M.run s [] = s := rfl

@[simp] theorem run_cons (s : σ) (e : ε) (es : List ε) :
    M.run s (e :: es) = M.run (M.step s e) es := rfl

/-- A run from a reachable state ends in a reachable state. -/
theorem Reachable.run : ∀ (es : List ε) {s : σ}, M.Reachable s → M.Reachable (M.run s es)
  | [], _, h => h
  | e :: es, _, h => Reachable.run es (h.step e)

variable (M) in
/-- Every event of the sequence meets the condition in the state it is taken in. -/
def Admissible (ok : σ → ε → Prop) : σ → List ε → Prop
  | _, [] => True
  | s, e :: es => ok s e ∧ Admissible ok (M.step s e) es

instance instDecidableAdmissible {ok : σ → ε → Prop} [∀ s e, Decidable (ok s e)] :
    ∀ (s : σ) (es : List ε), Decidable (M.Admissible ok s es)
  | _, [] => inferInstanceAs (Decidable True)
  | s, e :: es =>
    have : Decidable (M.Admissible ok (M.step s e) es) := instDecidableAdmissible (M.step s e) es
    inferInstanceAs (Decidable (ok s e ∧ M.Admissible ok (M.step s e) es))

theorem ReachableBy.run {es : List ε} (hs : M.ReachableBy ok s)
    (hes : M.Admissible ok s es) : M.ReachableBy ok (M.run s es) := by
  induction es generalizing s with
  | nil => exact hs
  | cons e es ih => exact ih (.next e hs hes.1) hes.2

/-! ### Histories -/

variable (M) in
/-- `History s₀ h s`: the transitions `h`, newest first, lead from `s₀` to `s`. A transition is the
state it is taken in with its event. -/
inductive History (s₀ : σ) : List (σ × ε) → σ → Prop
  | nil : History s₀ [] s₀
  | cons {h : List (σ × ε)} {s : σ} (e : ε) (hs : History s₀ h s) :
      History s₀ ((s, e) :: h) (M.step s e)

/-- **The invariant rule for histories.** -/
theorem History.invariant {P : List (σ × ε) → σ → Prop} (hnil : P [] s₀)
    (hcons : ∀ h s e, P h s → P ((s, e) :: h) (M.step s e)) (hh : M.History s₀ h s) : P h s := by
  induction hh with
  | nil => exact hnil
  | cons e _ ih => exact hcons _ _ e ih

/-- What happens only while a flag is down, and raises it for good, happens at most once. -/
theorem History.countP_le_toNat {fires : σ × ε → Bool} (flag : σ → Bool)
    (hfires : ∀ s e, fires (s, e) = true → flag s = false ∧ flag (M.step s e) = true)
    (hkeeps : ∀ s e, flag s = true → flag (M.step s e) = true)
    (hh : M.History s₀ h s) : h.countP fires ≤ (flag s).toNat := by
  induction hh with
  | nil => exact Nat.zero_le _
  | @cons h s e _ ih =>
    cases hfire : fires (s, e) with
    | false =>
      rw [List.countP_cons_of_neg (by rw [hfire]; exact Bool.false_ne_true)]
      refine Nat.le_trans ih ?_
      cases hflag : flag s with
      | false => exact Nat.zero_le _
      | true => exact Nat.le_of_eq (congrArg Bool.toNat (hkeeps s e hflag)).symm
    | true =>
      obtain ⟨hdown, hup⟩ := hfires s e hfire
      rw [hdown] at ih
      rw [List.countP_cons_of_pos hfire, hup]
      exact Nat.succ_le_succ ih

/-- A history from an initial state ends in a reachable state. -/
theorem History.reachable (hinit : M.init s₀) (hh : M.History s₀ h s) : M.Reachable s := by
  induction hh with
  | nil => exact .start hinit
  | cons e _ ih => exact ih.step e

variable (M) in
/-- The transitions of a finite run after those of `h`, newest first. -/
def trace (h : List (σ × ε)) : σ → List ε → List (σ × ε)
  | _, [] => h
  | s, e :: es => trace ((s, e) :: h) (M.step s e) es

theorem History.trace {s₀ : σ} : ∀ (es : List ε) {h : List (σ × ε)} {s : σ}, M.History s₀ h s →
    M.History s₀ (M.trace h s es) (M.run s es)
  | [], _, _, hh => hh
  | e :: es, _, _, hh => History.trace es (hh.cons e)

/-- Every finite run has a history. -/
theorem History.run (es : List ε) (hh : M.History s₀ h s) : ∃ h', M.History s₀ h' (M.run s es) :=
  ⟨_, hh.trace es⟩

end Machine

/-! ### A past-time operator -/

variable {τ ι α : Type*} {p q : τ → Prop} {t : τ} {ts : List τ}

/-- `q` held at some transition at or after the last transition at which `p` held. Lists are newest
first. -/
def OnceSince (p q : τ → Prop) : List τ → Prop
  | [] => False
  | t :: ts => q t ∨ (¬ p t ∧ OnceSince p q ts)

theorem OnceSince.now (h : q t) : OnceSince p q (t :: ts) :=
  Or.inl h

theorem OnceSince.later (hp : ¬ p t) (h : OnceSince p q ts) : OnceSince p q (t :: ts) :=
  Or.inr ⟨hp, h⟩

/-! ### Processes in flight

A map from names to processes, `none` where there is none. -/

/-- The processes in flight after one of them has moved on or ended. -/
theorem update_eq_some_iff [DecidableEq ι] {f : ι → Option α} {i j : ι} {v : Option α}
    {a : α} : Function.update f i v j = some a ↔ j = i ∧ v = some a ∨ j ≠ i ∧ f j = some a := by
  by_cases hij : j = i
  · subst hij
    simp
  · simp [hij]

/-- A process that is in flight after another one has ended was in flight before. -/
theorem of_update_none [DecidableEq ι] {f : ι → Option α} {i j : ι} {a : α}
    (h : Function.update f i none j = some a) : j ≠ i ∧ f j = some a :=
  (update_eq_some_iff.1 h).resolve_left fun h ↦ nomatch h.2

end Kaya
