import Mathlib.Order.Nat

/-!
# One item of a work queue

Workers take an item from a queue, work on it and finish it, or fail and put it back with one
failure more. A worker that stops leaves the item taken, and the item is put back without a failure
being counted. Nothing here names a program: `ω` are the workers and `ρ` what an item can end with.

An item is put back only while nobody works on it (`Step.recover`), and two laws follow.

* `Sole`: one worker at a time, and therefore one completion, after which the item stays as it is.
* `Counted`: where moreover only an item whose work has not begun is put back so, the work begins no
  more often than the limit on the failures says.
-/

namespace Kaya.WorkQueue

open Function

/-- Where an item is. -/
inductive Stage (ρ : Type*)
  | waiting
  | taken
  | done (result : ρ)

/-- How far the worker of an item is: it has taken it, or it has begun. -/
inductive Phase
  | held
  | begun

/-- An item, with what has happened to it so far. -/
structure Item (ω ρ : Type*) where
  stage : Stage ρ
  failures : ℕ
  starts : ℕ
  completions : ℕ
  phase : ω → Option Phase

variable {ω ρ : Type*} {x y : Item ω ρ}

/-! ### A list of workers -/

section Workers

variable {χ : Type*} (phase : χ → Option Phase) {workers : List χ} {worker next : χ} {w : ℕ}

/-- How far each worker of a list is. -/
def phases (workers : List χ) (w : ℕ) : Option Phase := (workers[w]?).bind phase

/-- One worker has gone on. -/
theorem phases_set (hworker : workers[w]? = some worker) :
    phases phase (workers.set w next) = Function.update (phases phase workers) w (phase next) := by
  have hlt : w < workers.length := (List.getElem?_eq_some_iff.1 hworker).1
  funext w'
  by_cases hw : w' = w
  · rw [hw, update_self, phases, List.getElem?_set_self hlt, Option.bind_some]
  · rw [update_of_ne hw, phases, phases, List.getElem?_set_ne (Ne.symm hw)]

/-- There is one worker more, who works on nothing. -/
theorem phases_append (hnext : phase next = none) :
    phases phase (workers ++ [next]) = phases phase workers := by
  funext w
  rcases lt_trichotomy w workers.length with hlt | rfl | hgt
  · rw [phases, phases, List.getElem?_append_left hlt]
  · simp [phases, hnext]
  · rw [phases, phases, List.getElem?_eq_none hgt.le,
      List.getElem?_eq_none (by rw [List.length_append]; exact hgt)]

end Workers

/-! ### One worker at a time -/

/-- One worker at most, while the item is taken, and one completion at most, at the end. -/
structure Sole (x : Item ω ρ) : Prop where
  alone : ∀ w w', x.phase w ≠ none → x.phase w' ≠ none → w = w'
  holds : ∀ w, x.phase w ≠ none → x.stage = .taken
  pending : (∀ result, x.stage ≠ .done result) → x.completions = 0
  once : x.completions ≤ 1

theorem Sole.of_idle (hidle : ∀ w, x.phase w = none)
    (hpend : (∀ result, x.stage ≠ .done result) → x.completions = 0)
    (honce : x.completions ≤ 1) : Sole x where
  alone w _ hw := absurd (hidle w) hw
  holds w hw := absurd (hidle w) hw
  pending := hpend
  once := honce

theorem Sole.not_done (hx : Sole x) {w : ω} (hw : x.phase w ≠ none) (result : ρ) :
    x.stage ≠ .done result := by
  rw [hx.holds w hw]
  exact fun h ↦ nomatch h

/-- Nobody works on an item that is not taken. -/
theorem Sole.idle (hx : Sole x) (hstage : x.stage ≠ .taken) (w : ω) : x.phase w = none := by
  by_contra hw
  exact hstage (hx.holds w hw)

/-- The attempts that have begun are counted, but for one. -/
structure Counted (limit : ℕ) (x : Item ω ρ) : Prop where
  waiting : x.stage = .waiting → x.starts ≤ x.failures
  held : ∀ w, x.phase w = some .held → x.starts ≤ x.failures
  taken : x.stage = .taken → x.starts ≤ x.failures + 1
  below : (∀ result, x.stage ≠ .done result) → x.failures < limit
  bounded : x.starts ≤ limit

/-! ### A new item -/

/-- An item that nothing has happened to. -/
def fresh : Item ω ρ := ⟨.waiting, 0, 0, 0, fun _ ↦ none⟩

theorem sole_fresh : Sole (fresh : Item ω ρ) :=
  .of_idle (fun _ ↦ rfl) (fun _ ↦ rfl) (Nat.zero_le 1)

theorem counted_fresh (hlimit : 0 < limit) : Counted limit (fresh : Item ω ρ) :=
  ⟨fun _ ↦ le_rfl, fun _ h ↦ (nomatch h), fun h ↦ (nomatch h), fun _ ↦ hlimit, Nat.zero_le _⟩

/-! ### Steps -/

variable [DecidableEq ω] {counted : Prop} {limit : ℕ}

/-- What happens to an item. Where attempts are counted, an item whose work has begun is put back by
its worker only. -/
inductive Step (counted : Prop) (limit : ℕ) : Item ω ρ → Item ω ρ → Prop
  | recover {x : Item ω ρ} (htaken : x.stage = .taken) (hfree : ∀ w, x.phase w = none)
      (hcounted : counted → x.starts ≤ x.failures) :
      Step counted limit x { x with stage := .waiting }
  | take {x : Item ω ρ} (w : ω) (hwait : x.stage = .waiting) :
      Step counted limit x
        { x with stage := .taken, phase := Function.update x.phase w (some .held) }
  | begin {x : Item ω ρ} (w : ω) (hheld : x.phase w = some .held) :
      Step counted limit x
        { x with starts := x.starts + 1, phase := Function.update x.phase w (some .begun) }
  | drop {x : Item ω ρ} (w : ω) :
      Step counted limit x { x with phase := Function.update x.phase w none }
  | complete {x : Item ω ρ} (w : ω) (result : ρ) (hbegun : x.phase w = some .begun) :
      Step counted limit x
        { x with
          stage := .done result
          completions := x.completions + 1
          phase := Function.update x.phase w none }
  | fail {x : Item ω ρ} (w : ω) (hph : x.phase w ≠ none) (hlimit : x.failures + 1 < limit) :
      Step counted limit x
        { x with
          stage := .waiting
          failures := x.failures + 1
          phase := Function.update x.phase w none }
  | close {x : Item ω ρ} (w : ω) (result : ρ) (failures : ℕ) (hph : x.phase w ≠ none) :
      Step counted limit x
        { x with
          stage := .done result
          failures := failures
          phase := Function.update x.phase w none }
  | withdraw {x : Item ω ρ} (result : ρ) (hwait : x.stage = .waiting) :
      Step counted limit x { x with stage := .done result }

/-- What happens to an item in one step of a program. -/
def Steps (counted : Prop) (limit : ℕ) : Item ω ρ → Item ω ρ → Prop :=
  Relation.ReflTransGen (Step counted limit)

/-- Nobody works on an item that its worker leaves. -/
theorem Sole.released (hx : Sole x) {w : ω} (hw : x.phase w ≠ none) (w' : ω) :
    Function.update x.phase w none w' = none := by
  by_cases hsame : w' = w
  · exact hsame ▸ update_self ..
  · rw [update_of_ne hsame]
    by_contra hw'
    exact hsame (hx.alone w' w hw' hw)

/-- One worker at most has the item. -/
theorem Sole.step (hx : Sole x) (h : Step counted limit x y) : Sole y := by
  cases h with
  | recover htaken hfree =>
    exact .of_idle hfree (fun _ ↦ hx.pending fun result ↦ by simp [htaken]) hx.once
  | take w hwait =>
    have hidle := hx.idle fun h ↦ nomatch hwait.symm.trans h
    have hph : ∀ w', update x.phase w (some .held) w' ≠ none → w' = w := by
      intro w' hw'
      by_contra hne
      exact hw' ((update_of_ne hne _ _).trans (hidle w'))
    exact ⟨fun w' w'' hw' hw'' ↦ (hph w' hw').trans (hph w'' hw'').symm, fun _ _ ↦ rfl,
      fun _ ↦ hx.pending fun result ↦ by simp [hwait], hx.once⟩
  | begin w hheld =>
    have hph : ∀ w', update x.phase w (some .begun) w' ≠ none → x.phase w' ≠ none := by
      intro w' hw'
      by_cases hsame : w' = w
      · rw [hsame, hheld]
        exact Option.some_ne_none _
      · rwa [update_of_ne hsame] at hw'
    exact ⟨fun w' w'' hw' hw'' ↦ hx.alone w' w'' (hph w' hw') (hph w'' hw''),
      fun w' hw' ↦ hx.holds w' (hph w' hw'), hx.pending, hx.once⟩
  | drop w =>
    have hph : ∀ w', update x.phase w none w' ≠ none → x.phase w' ≠ none := by
      intro w' hw'
      by_cases hsame : w' = w
      · exact absurd (hsame ▸ update_self ..) hw'
      · rwa [update_of_ne hsame] at hw'
    exact ⟨fun w' w'' hw' hw'' ↦ hx.alone w' w'' (hph w' hw') (hph w'' hw''),
      fun w' hw' ↦ hx.holds w' (hph w' hw'), hx.pending, hx.once⟩
  | complete w result hbegun =>
    have hw : x.phase w ≠ none := by simp [hbegun]
    exact .of_idle (hx.released hw) (fun h ↦ absurd rfl (h result))
      (Nat.succ_le_succ (Nat.le_of_eq (hx.pending (hx.not_done hw))))
  | fail w hw =>
    exact .of_idle (hx.released hw) (fun _ ↦ hx.pending (hx.not_done hw)) hx.once
  | close w result failures hw =>
    exact .of_idle (hx.released hw) (fun h ↦ absurd rfl (h result)) hx.once
  | withdraw result hwait =>
    exact .of_idle (hx.idle fun h ↦ nomatch hwait.symm.trans h) (fun h ↦ absurd rfl (h result))
      hx.once

theorem Sole.steps (hx : Sole x) (h : Steps counted limit x y) : Sole y := by
  induction h with
  | refl => exact hx
  | tail _ hstep ih => exact ih.step hstep

/-- **What is done stays done**, with the result it has. -/
theorem Step.done {result : ρ} (hx : Sole x) (hdone : x.stage = .done result)
    (h : Step counted limit x y) : y.stage = .done result := by
  have hidle := hx.idle fun h ↦ nomatch hdone.symm.trans h
  cases h with
  | recover htaken => exact nomatch htaken.symm.trans hdone
  | take _ hwait => exact nomatch hwait.symm.trans hdone
  | begin w hheld => exact nomatch hheld.symm.trans (hidle w)
  | drop => exact hdone
  | complete w _ hbegun => exact nomatch hbegun.symm.trans (hidle w)
  | fail w hw => exact absurd (hidle w) hw
  | close w _ _ hw => exact absurd (hidle w) hw
  | withdraw _ hwait => exact nomatch hwait.symm.trans hdone

theorem Steps.done {result : ρ} (hx : Sole x) (hdone : x.stage = .done result)
    (h : Steps counted limit x y) : y.stage = .done result := by
  induction h with
  | refl => exact hdone
  | tail hsteps hstep ih => exact hstep.done (hx.steps hsteps) ih

/-! ### Bounded attempts -/

theorem Counted.step (hx : Sole x) (hc : Counted limit x) (h : Step True limit x y) :
    Counted limit y := by
  cases h with
  | recover htaken hfree hcounted =>
    have hbelow := hc.below fun result ↦ by simp [htaken]
    exact ⟨fun _ ↦ hcounted trivial, fun w hw ↦ absurd hw (by simp [hfree w]),
      fun h ↦ (nomatch h), fun _ ↦ hbelow, hc.bounded⟩
  | take w hwait =>
    have hstarts := hc.waiting hwait
    have hbelow := hc.below fun result ↦ by simp [hwait]
    exact ⟨fun h ↦ (nomatch h), fun _ _ ↦ hstarts, fun _ ↦ Nat.le_succ_of_le hstarts,
      fun _ ↦ hbelow, hc.bounded⟩
  | begin w hheld =>
    have hw : x.phase w ≠ none := by simp [hheld]
    have hstage := hx.holds w hw
    have hstarts := hc.held w hheld
    have hbelow := hc.below (hx.not_done hw)
    refine ⟨fun h ↦ (nomatch hstage.symm.trans h), fun w' hw' ↦ ?_, fun _ ↦ Nat.succ_le_succ hstarts,
      fun _ ↦ hbelow, Nat.lt_of_le_of_lt hstarts hbelow⟩
    -- the only worker has begun
    by_cases hsame : w' = w
    · subst hsame
      exact nomatch (update_self ..).symm.trans hw'
    · have hold := (update_of_ne hsame _ _).symm.trans hw'
      exact absurd (hx.alone w' w (by simp [hold]) hw) hsame
  | drop w =>
    refine ⟨hc.waiting, fun w' hw' ↦ hc.held w' ?_, hc.taken, hc.below, hc.bounded⟩
    by_cases hsame : w' = w
    · subst hsame
      exact nomatch (update_self ..).symm.trans hw'
    · exact (update_of_ne hsame _ _).symm.trans hw'
  | complete w result hbegun =>
    have hidle := hx.released (w := w) (by simp [hbegun])
    exact ⟨fun h ↦ (nomatch h), fun w' hw' ↦ absurd hw' (by simp [hidle w']), fun h ↦ (nomatch h),
      fun h ↦ absurd rfl (h result), hc.bounded⟩
  | fail w hw hlimit =>
    have hidle := hx.released hw
    exact ⟨fun _ ↦ hc.taken (hx.holds w hw), fun w' hw' ↦ absurd hw' (by simp [hidle w']),
      fun h ↦ (nomatch h), fun _ ↦ hlimit, hc.bounded⟩
  | close w result failures hw =>
    have hidle := hx.released hw
    exact ⟨fun h ↦ (nomatch h), fun w' hw' ↦ absurd hw' (by simp [hidle w']), fun h ↦ (nomatch h),
      fun h ↦ absurd rfl (h result), hc.bounded⟩
  | withdraw result hwait =>
    have hidle := hx.idle fun h ↦ nomatch hwait.symm.trans h
    exact ⟨fun h ↦ (nomatch h), fun w' hw' ↦ absurd hw' (by simp [hidle w']), fun h ↦ (nomatch h),
      fun h ↦ absurd rfl (h result), hc.bounded⟩

theorem Counted.steps (hx : Sole x) (hc : Counted limit x) (h : Steps True limit x y) :
    Counted limit y := by
  induction h with
  | refl => exact hc
  | tail hsteps hstep ih => exact ih.step (hx.steps hsteps) hstep

end Kaya.WorkQueue
