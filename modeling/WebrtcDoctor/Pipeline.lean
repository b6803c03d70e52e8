import Mathlib.Data.Finset.Insert
import Mathlib.Data.List.Basic
import Mathlib.Logic.Relation
import Mathlib.Tactic.Common
import WebrtcDoctor.CheckResult

/-!
# The pipeline runner

`Pipeline.run` runs checks in push order over one context and skips a check when an id it
requires has not passed. `Report.verdict` folds the statuses.

The runner is a fold of `Pipeline.step` over the checks. Its `passed` set after `k` checks
holds the ids of those of the first `k` that passed (`mem_passed_stateAt_iff`), so the
gate of check `k` asks for earlier passes and nothing else (`gate_iff`). Which checks are
invoked is read off a run over a context that records it (`invocations`).
`gating_exact` puts these together.
-/

namespace WebrtcDoctor

variable {Ctx : Type*}

/-- A named diagnostic over a context. -/
structure Check (Ctx : Type*) where
  id : String
  name : String
  /-- The ids that must have passed before this check runs. -/
  requires : List String
  run : Ctx → Ctx × CheckResult

/-- Final verdict of a pipeline run. -/
inductive Verdict where
  | healthy
  | warnings
  | failed
deriving DecidableEq, Repr

/-- The exit code of the process. -/
def Verdict.exitCode : Verdict → ℕ
  | .healthy => 0
  | .failed => 1
  | .warnings => 2

/-- What a run reports. The verdict is computed from the results. -/
structure Report where
  results : List CheckResult
  totalMs : ℕ

/-- The loop of `Report.verdict`, with the flag it carries. -/
def verdictLoop : List CheckResult → Bool → Verdict
  | [], anyWarn => if anyWarn then .warnings else .healthy
  | r :: rs, anyWarn =>
    match r.status with
    | .fail => .failed
    | .warn => verdictLoop rs true
    | _ => verdictLoop rs anyWarn

/-- The worst status, where a skip counts as nothing. -/
def Report.verdict (report : Report) : Verdict := verdictLoop report.results false

/-- The loop of `Report.counts`, with the passes, warnings, failures and skips so far. -/
def countsLoop : List CheckResult → ℕ × ℕ × ℕ × ℕ → ℕ × ℕ × ℕ × ℕ
  | [], counts => counts
  | r :: rs, (p, w, f, s) =>
    match r.status with
    | .pass => countsLoop rs (p + 1, w, f, s)
    | .warn => countsLoop rs (p, w + 1, f, s)
    | .fail => countsLoop rs (p, w, f + 1, s)
    | .skip => countsLoop rs (p, w, f, s + 1)

/-- How many results passed, warned, failed and were skipped. -/
def Report.counts (report : Report) : ℕ × ℕ × ℕ × ℕ := countsLoop report.results (0, 0, 0, 0)

namespace Pipeline

/-- What the runner carries from check to check. -/
structure State (Ctx : Type*) where
  ctx : Ctx
  passed : Finset String
  results : List CheckResult

/-- The required ids that have not passed. -/
def missing (check : Check Ctx) (passed : Finset String) : List String :=
  check.requires.filter (· ∉ passed)

/-- The result of a check that is not run. -/
def skipped (check : Check Ctx) (passed : Finset String) : CheckResult :=
  .skip check.id check.name
    ("prerequisite not satisfied: " ++ ", ".intercalate (missing check passed))

/-- Run or skip one check. -/
def step (s : State Ctx) (check : Check Ctx) : State Ctx :=
  let (ctx, result) :=
    if (missing check s.passed).isEmpty then check.run s.ctx else (s.ctx, skipped check s.passed)
  ⟨ctx, if result.status = .pass then insert check.id s.passed else s.passed,
    s.results ++ [result]⟩

/-- The state after the first `k` checks. -/
def stateAt (checks : List (Check Ctx)) (ctx : Ctx) (k : ℕ) : State Ctx :=
  (checks.take k).foldl step ⟨ctx, ∅, []⟩

/-- Run every check in order. `elapsed` is what the clock reads at the end, in
nanoseconds since the start. -/
def run (checks : List (Check Ctx)) (ctx : Ctx) (elapsed : ℕ) : Ctx × Report :=
  let s := checks.foldl step ⟨ctx, ∅, []⟩
  (s.ctx, ⟨s.results, elapsed / 1000000⟩)

end Pipeline

/-! ## The verdict -/

/-- The loop ends healthy when it meets neither a fail nor a warn. -/
theorem verdictLoop_eq_healthy_iff : ∀ (rs : List CheckResult) (anyWarn : Bool),
    verdictLoop rs anyWarn = .healthy ↔
      anyWarn = false ∧ ∀ r ∈ rs, r.status ≠ .fail ∧ r.status ≠ .warn
  | [], anyWarn => by cases anyWarn <;> simp [verdictLoop]
  | r :: rs, anyWarn => by
    cases h : r.status <;>
      simp [verdictLoop, h, verdictLoop_eq_healthy_iff rs]

/-- A run is healthy exactly if nothing failed or warned. -/
theorem Report.verdict_eq_healthy_iff (report : Report) :
    report.verdict = .healthy ↔ ∀ r ∈ report.results, r.status ≠ .fail ∧ r.status ≠ .warn := by
  simp [Report.verdict, verdictLoop_eq_healthy_iff]

/-- Only the healthy verdict has exit code 0. -/
theorem Verdict.exitCode_eq_zero_iff (v : Verdict) : v.exitCode = 0 ↔ v = .healthy := by
  cases v <;> simp [Verdict.exitCode]

namespace Pipeline

/-! ## One step -/

/-- Nothing is missing exactly when every required id has passed. -/
theorem missing_eq_nil_iff (check : Check Ctx) (passed : Finset String) :
    missing check passed = [] ↔ ∀ id ∈ check.requires, id ∈ passed := by
  simp [missing, List.filter_eq_nil_iff]

/-- A check with an open gate runs; its id is recorded on a pass. -/
theorem step_of_gate (s : State Ctx) (check : Check Ctx)
    (h : ∀ id ∈ check.requires, id ∈ s.passed) :
    step s check = ⟨(check.run s.ctx).1,
      if (check.run s.ctx).2.status = .pass then insert check.id s.passed else s.passed,
      s.results ++ [(check.run s.ctx).2]⟩ := by
  simp [step, (missing_eq_nil_iff _ _).2 h]

/-- A check with a closed gate leaves the context and is reported as skipped. -/
theorem step_of_not_gate (s : State Ctx) (check : Check Ctx)
    (h : ¬ ∀ id ∈ check.requires, id ∈ s.passed) :
    step s check = ⟨s.ctx, s.passed, s.results ++ [skipped check s.passed]⟩ := by
  have hne : missing check s.passed ≠ [] := fun h' => h ((missing_eq_nil_iff _ _).1 h')
  simp [step, skipped, List.isEmpty_iff, hne]

/-- A step adds one result, and adds the check's id to `passed` exactly if it passed. -/
theorem step_cases (s : State Ctx) (check : Check Ctx) : ∃ r,
    (step s check).results = s.results ++ [r] ∧
      (step s check).passed = if r.status = .pass then insert check.id s.passed else s.passed := by
  by_cases h : ∀ id ∈ check.requires, id ∈ s.passed
  · exact ⟨_, by rw [step_of_gate _ _ h], by rw [step_of_gate _ _ h]⟩
  · exact ⟨_, by rw [step_of_not_gate _ _ h], by rw [step_of_not_gate _ _ h]; simp [skipped]⟩

/-! ## The run -/

theorem stateAt_succ (checks : List (Check Ctx)) (ctx : Ctx) {k : ℕ} (hk : k < checks.length) :
    stateAt checks ctx (k + 1) = step (stateAt checks ctx k) checks[k] := by
  rw [stateAt, List.take_succ_eq_append_getElem hk, List.foldl_append]
  rfl

theorem stateAt_length (checks : List (Check Ctx)) (ctx : Ctx) :
    stateAt checks ctx checks.length = checks.foldl step ⟨ctx, ∅, []⟩ := by
  rw [stateAt, List.take_length]

theorem length_results_stateAt (checks : List (Check Ctx)) (ctx : Ctx) :
    ∀ k ≤ checks.length, (stateAt checks ctx k).results.length = k
  | 0, _ => rfl
  | k + 1, hk => by
    obtain ⟨r, hr, -⟩ := step_cases (stateAt checks ctx k) checks[k]
    rw [stateAt_succ checks ctx hk, hr, List.length_append,
      length_results_stateAt checks ctx k (by omega), List.length_singleton]

@[simp] theorem results_run (checks : List (Check Ctx)) (ctx : Ctx) (elapsed : ℕ) :
    (run checks ctx elapsed).2.results = (stateAt checks ctx checks.length).results := by
  rw [run, ← stateAt_length]

/-- A run reports one result for each check. -/
theorem length_results_run (checks : List (Check Ctx)) (ctx : Ctx) (elapsed : ℕ) :
    (run checks ctx elapsed).2.results.length = checks.length := by
  rw [results_run]
  exact length_results_stateAt checks ctx _ le_rfl

/-- Later checks leave earlier results as they are. -/
theorem results_stateAt_append (checks : List (Check Ctx)) (ctx : Ctx) {j k : ℕ} (hjk : j ≤ k)
    (hk : k ≤ checks.length) :
    (stateAt checks ctx j).results <+: (stateAt checks ctx k).results := by
  induction k, hjk using Nat.le_induction with
  | base => exact List.prefix_rfl
  | succ k hjk ih =>
    obtain ⟨r, hr, -⟩ := step_cases (stateAt checks ctx k) checks[k]
    rw [stateAt_succ checks ctx hk, hr]
    exact (ih (by omega)).trans (List.prefix_append _ _)

/-- The result of check `j`, read in any state from its step on. -/
theorem results_stateAt_getElem (checks : List (Check Ctx)) (ctx : Ctx) {j k : ℕ} (hjk : j < k)
    (hk : k ≤ checks.length) :
    (stateAt checks ctx k).results[j]? = (stateAt checks ctx checks.length).results[j]? := by
  have hlen := length_results_stateAt checks ctx k hk
  obtain ⟨rest, hrest⟩ := results_stateAt_append checks ctx hk le_rfl
  rw [← hrest, List.getElem?_append_left (by omega)]

/-- Check `j` has the id `id` and its result in `rs` is a pass. -/
def PassedAs (checks : List (Check Ctx)) (rs : List CheckResult) (j : ℕ) (id : String) : Prop :=
  (checks[j]?).map Check.id = some id ∧ (rs[j]?).map CheckResult.status = some .pass

/-- After `k` checks, `passed` holds the ids of those of them that passed. -/
theorem mem_passed_stateAt_iff (checks : List (Check Ctx)) (ctx : Ctx) (id : String) :
    ∀ k ≤ checks.length, id ∈ (stateAt checks ctx k).passed ↔
      ∃ j < k, PassedAs checks (stateAt checks ctx checks.length).results j id
  | 0, _ => by simp [stateAt]
  | k + 1, hk => by
    obtain ⟨r, hr, hp⟩ := step_cases (stateAt checks ctx k) checks[k]
    have hrk : (stateAt checks ctx checks.length).results[k]? = some r := by
      rw [← results_stateAt_getElem checks ctx (Nat.lt_succ_self k) hk, stateAt_succ checks ctx hk,
        hr, List.getElem?_append_right (length_results_stateAt checks ctx k (by omega)).le,
        length_results_stateAt checks ctx k (by omega), Nat.sub_self, List.getElem?_cons_zero]
    rw [Nat.exists_lt_succ_right, ← mem_passed_stateAt_iff checks ctx id k (by omega),
      stateAt_succ checks ctx hk, hp, PassedAs, hrk, List.getElem?_eq_getElem hk]
    simp only [Option.map_some, Option.some.injEq]
    split_ifs with hpass
    · rw [Finset.mem_insert, or_comm, eq_comm]
      simp [hpass]
    · simp [hpass]

/-- The ids check `k` requires have all passed when its turn comes. -/
def Gate (checks : List (Check Ctx)) (ctx : Ctx) (k : ℕ) : Prop :=
  ∀ c ∈ checks[k]?, ∀ id ∈ c.requires, id ∈ (stateAt checks ctx k).passed

instance (checks : List (Check Ctx)) (ctx : Ctx) (k : ℕ) : Decidable (Gate checks ctx k) :=
  match h : checks[k]? with
  | none => isTrue (by simp [Gate, h])
  | some c => decidable_of_iff (∀ id ∈ c.requires, id ∈ (stateAt checks ctx k).passed)
      (by simp [Gate, h])

/-- The gate of a check depends only on the results reported before it. -/
theorem gate_iff (checks : List (Check Ctx)) (ctx : Ctx) {k : ℕ} (hk : k < checks.length) :
    Gate checks ctx k ↔ ∀ id ∈ checks[k].requires,
      ∃ j < k, PassedAs checks (stateAt checks ctx checks.length).results j id := by
  simp only [Gate, List.getElem?_eq_getElem hk, Option.mem_some_iff, forall_eq']
  exact forall₂_congr fun id _ => mem_passed_stateAt_iff checks ctx id k hk.le

/-- What check `k` does to the context, and its result. -/
theorem stateAt_succ_cases (checks : List (Check Ctx)) (ctx : Ctx) {k : ℕ}
    (hk : k < checks.length) :
    ∃ r, (stateAt checks ctx checks.length).results[k]? = some r ∧
      (Gate checks ctx k →
        checks[k].run (stateAt checks ctx k).ctx = ((stateAt checks ctx (k + 1)).ctx, r)) ∧
      (¬Gate checks ctx k → r = skipped checks[k] (stateAt checks ctx k).passed ∧
        (stateAt checks ctx (k + 1)).ctx = (stateAt checks ctx k).ctx) := by
  have hlen := length_results_stateAt checks ctx k hk.le
  have hgate : Gate checks ctx k ↔
      ∀ id ∈ checks[k].requires, id ∈ (stateAt checks ctx k).passed := by
    simp [Gate, List.getElem?_eq_getElem hk]
  rw [← results_stateAt_getElem checks ctx (Nat.lt_succ_self k) hk, stateAt_succ checks ctx hk,
    hgate]
  by_cases h : ∀ id ∈ checks[k].requires, id ∈ (stateAt checks ctx k).passed
  · rw [step_of_gate _ _ h]
    refine ⟨(checks[k].run (stateAt checks ctx k).ctx).2, ?_, fun _ => rfl, fun h' => absurd h h'⟩
    rw [List.getElem?_append_right hlen.le, hlen, Nat.sub_self, List.getElem?_cons_zero]
  · rw [step_of_not_gate _ _ h]
    refine ⟨skipped checks[k] (stateAt checks ctx k).passed, ?_, fun h' => absurd h' h,
      fun _ => ⟨rfl, rfl⟩⟩
    rw [List.getElem?_append_right hlen.le, hlen, Nat.sub_self, List.getElem?_cons_zero]

/-- A check whose result is a pass was run, and its result and the context after it are what
its run gave. -/
theorem run_eq_of_pass (checks : List (Check Ctx)) (ctx : Ctx) {k : ℕ} (hk : k < checks.length)
    {r : CheckResult} (hr : (stateAt checks ctx checks.length).results[k]? = some r)
    (hpass : r.status = .pass) :
    checks[k].run (stateAt checks ctx k).ctx = ((stateAt checks ctx (k + 1)).ctx, r) := by
  obtain ⟨r', hr', hrun, hskip⟩ := stateAt_succ_cases checks ctx hk
  rw [hr] at hr'
  cases hr'
  refine hrun (by_contra fun hng => ?_)
  rw [(hskip hng).1] at hpass
  simp [skipped] at hpass

/-- A check leaves the context as its run does, or alone. -/
theorem ctx_stateAt_succ (checks : List (Check Ctx)) (ctx : Ctx) {k : ℕ}
    (hk : k < checks.length) :
    (stateAt checks ctx (k + 1)).ctx = (checks[k].run (stateAt checks ctx k).ctx).1 ∨
      (stateAt checks ctx (k + 1)).ctx = (stateAt checks ctx k).ctx := by
  obtain ⟨r, -, hrun, hskip⟩ := stateAt_succ_cases checks ctx hk
  by_cases hgate : Gate checks ctx k
  · exact Or.inl (by rw [hrun hgate])
  · exact Or.inr (hskip hgate).2

/-- The rule for runs that are healthy. If every check requires only earlier checks, and an
invariant of the contexts keeps each check from skipping itself and is handed on by its
pass, then a run in which nothing fails or warns passes every check. -/
theorem all_pass_of_inv (checks : List (Check Ctx)) (ctx : Ctx) (Inv : ℕ → Ctx → Prop)
    (h0 : Inv 0 ctx)
    (hreq : ∀ k (hk : k < checks.length), ∀ id ∈ checks[k].requires,
      id ∈ (checks.take k).map Check.id)
    (hstep : ∀ k (hk : k < checks.length), Inv k (stateAt checks ctx k).ctx →
      (checks[k].run (stateAt checks ctx k).ctx).2.status ≠ .skip ∧
        ((checks[k].run (stateAt checks ctx k).ctx).2.status = .pass →
          Inv (k + 1) (checks[k].run (stateAt checks ctx k).ctx).1))
    (hv : ∀ r ∈ (stateAt checks ctx checks.length).results, r.status ≠ .fail ∧ r.status ≠ .warn) :
    ∀ r ∈ (stateAt checks ctx checks.length).results, r.status = .pass := by
  have key : ∀ k ≤ checks.length, Inv k (stateAt checks ctx k).ctx ∧
      (∀ r ∈ (stateAt checks ctx k).results, r.status = .pass) ∧
      ∀ id ∈ (checks.take k).map Check.id, id ∈ (stateAt checks ctx k).passed := by
    intro k
    induction k with
    | zero => exact fun _ => ⟨h0, by simp [stateAt], by simp⟩
    | succ k ih =>
      intro hk
      obtain ⟨hinv, hres, hids⟩ := ih (by omega)
      obtain ⟨hskip, hnext⟩ := hstep k hk hinv
      have hsucc := step_of_gate (stateAt checks ctx k) checks[k] fun id hid =>
        hids id (hreq k hk id hid)
      rw [← stateAt_succ checks ctx hk] at hsucc
      have hpass : (checks[k].run (stateAt checks ctx k).ctx).2.status = .pass := by
        have hmem : (checks[k].run (stateAt checks ctx k).ctx).2 ∈
            (stateAt checks ctx checks.length).results :=
          (results_stateAt_append checks ctx hk le_rfl).subset (by rw [hsucc]; simp)
        obtain ⟨hfail, hwarn⟩ := hv _ hmem
        cases hs : (checks[k].run (stateAt checks ctx k).ctx).2.status with
        | pass => rfl
        | warn => exact absurd hs hwarn
        | fail => exact absurd hs hfail
        | skip => exact absurd hs hskip
      rw [hsucc, if_pos hpass]
      refine ⟨hnext hpass, ?_, ?_⟩
      · intro r hr
        rcases List.mem_append.1 hr with hr | hr
        · exact hres r hr
        · rw [List.mem_singleton.1 hr]
          exact hpass
      · intro id hid
        rw [List.take_succ_eq_append_getElem hk, List.map_append] at hid
        rcases List.mem_append.1 hid with hid | hid
        · exact Finset.mem_insert_of_mem (hids id hid)
        · rw [List.map_singleton, List.mem_singleton] at hid
          rw [hid]
          exact Finset.mem_insert_self _ _
  exact (key checks.length le_rfl).2.1

section

variable {ι : Type*} (check : ι → Check Ctx) (Inv : Ctx → Prop) {Q : ι → CheckResult → Prop}

theorem forall₂_foldl_step : ∀ {is : List ι},
    (∀ i ∈ is, ∀ ctx, Inv ctx → Inv ((check i).run ctx).1 ∧ Q i ((check i).run ctx).2) →
    (∀ i ∈ is, ∀ passed, Q i (skipped (check i) passed)) → ∀ s : State Ctx, Inv s.ctx →
      ∃ rs, ((is.map check).foldl step s).results = s.results ++ rs ∧ List.Forall₂ Q is rs
  | [], _, _, s, _ => ⟨[], (List.append_nil _).symm, .nil⟩
  | i :: is, hrun, hskip, s, hinv => by
    have hnext : ∃ r, (step s (check i)).results = s.results ++ [r] ∧ Q i r ∧
        Inv (step s (check i)).ctx := by
      by_cases hgate : ∀ id ∈ (check i).requires, id ∈ s.passed
      · obtain ⟨hinv', hq⟩ := hrun i (List.mem_cons_self ..) s.ctx hinv
        rw [step_of_gate _ _ hgate]
        exact ⟨_, rfl, hq, hinv'⟩
      · rw [step_of_not_gate _ _ hgate]
        exact ⟨_, rfl, hskip i (List.mem_cons_self ..) _, hinv⟩
    obtain ⟨r, hr, hq, hinv'⟩ := hnext
    obtain ⟨rs, hrs, hqs⟩ := forall₂_foldl_step
      (fun j hj => hrun j (List.mem_cons_of_mem _ hj))
      (fun j hj => hskip j (List.mem_cons_of_mem _ hj)) _ hinv'
    refine ⟨r :: rs, ?_, .cons hq hqs⟩
    rw [List.map_cons, List.foldl_cons, hrs, hr, List.append_assoc, List.singleton_append]

/-- The rule for what every result of a run satisfies : what a check reports in a context that
satisfies an invariant that every check keeps, and what the runner reports for one it skips. -/
theorem forall₂_run {is : List ι} {ctx : Ctx}
    (hrun : ∀ i ∈ is, ∀ ctx, Inv ctx → Inv ((check i).run ctx).1 ∧ Q i ((check i).run ctx).2)
    (hskip : ∀ i ∈ is, ∀ passed, Q i (skipped (check i) passed)) (elapsed : ℕ) (h₀ : Inv ctx) :
    List.Forall₂ Q is (run (is.map check) ctx elapsed).2.results := by
  obtain ⟨rs, hrs, hqs⟩ := forall₂_foldl_step check Inv hrun hskip ⟨ctx, ∅, []⟩ h₀
  rw [run, hrs]
  exact hqs

end

/-- A result of a check, run in some context or skipped. -/
def Gives (check : Check Ctx) (r : CheckResult) : Prop :=
  (∃ ctx, r = (check.run ctx).2) ∨ ∃ passed, r = skipped check passed

/-- Every result of a run is of one of its checks, run in a context that satisfies an invariant of
the checks, or skipped. -/
theorem exists_run_of_mem {checks : List (Check Ctx)} {Inv : Ctx → Prop}
    (hinv : ∀ check ∈ checks, ∀ ctx, Inv ctx → Inv (check.run ctx).1) {ctx : Ctx} (h₀ : Inv ctx)
    {elapsed : ℕ} {r : CheckResult} (hr : r ∈ (run checks ctx elapsed).2.results) :
    ∃ check ∈ checks, (∃ ctx, Inv ctx ∧ r = (check.run ctx).2) ∨
      ∃ passed, r = skipped check passed := by
  have hrun := forall₂_run (fun check => check) Inv
    (Q := fun check r => (∃ ctx, Inv ctx ∧ r = (check.run ctx).2) ∨
      ∃ passed, r = skipped check passed)
    (fun check hmem ctx hctx => ⟨hinv check hmem ctx hctx, Or.inl ⟨ctx, hctx, rfl⟩⟩)
    (fun _ _ passed => Or.inr ⟨passed, rfl⟩) elapsed h₀
  rw [List.map_id'] at hrun
  obtain ⟨hlen, hget⟩ := List.forall₂_iff_get.1 hrun
  obtain ⟨n, rfl⟩ := List.mem_iff_get.1 hr
  exact ⟨_, List.get_mem _ _, hget n (hlen.symm ▸ n.isLt) n.isLt⟩

/-- Every result of a run is of one of its checks. -/
theorem exists_gives_of_mem {checks : List (Check Ctx)} {ctx : Ctx} {elapsed : ℕ} {r : CheckResult}
    (hr : r ∈ (run checks ctx elapsed).2.results) : ∃ check ∈ checks, Gives check r := by
  have htrue : ∀ check ∈ checks, ∀ ctx : Ctx, True → True := fun _ _ _ _ => trivial
  obtain ⟨check, hmem, ⟨ctx, -, hctx⟩ | hskip⟩ := exists_run_of_mem htrue trivial hr
  · exact ⟨check, hmem, Or.inl ⟨ctx, hctx⟩⟩
  · exact ⟨check, hmem, Or.inr hskip⟩

theorem stateAt_min (checks : List (Check Ctx)) (ctx : Ctx) (k : ℕ) :
    stateAt checks ctx (min k checks.length) = stateAt checks ctx k := by
  rw [stateAt, stateAt, ← List.take_eq_take_min]

/-- The results of the first checks are those of the run so far. -/
theorem take_results_run (checks : List (Check Ctx)) (ctx : Ctx) (elapsed k : ℕ) :
    (run checks ctx elapsed).2.results.take k = (stateAt checks ctx k).results := by
  have hlen := length_results_stateAt checks ctx _ (Nat.min_le_right k checks.length)
  obtain ⟨rest, hrest⟩ := results_stateAt_append checks ctx (Nat.min_le_right k _) le_rfl
  rw [List.take_eq_take_min, length_results_run, results_run, ← stateAt_min checks ctx k, ← hrest,
    List.take_append_of_le_length hlen.ge, List.take_of_length_le hlen.le]

section

variable {Ctx' ι : Type*} {check : ι → Check Ctx} {check' : ι → Check Ctx'}
  {R : Ctx → Ctx' → Prop} {is : List ι} {ctx : Ctx} {ctx' : Ctx'}

theorem lockstep_stateAt (hrequires : ∀ i, (check' i).requires = (check i).requires)
    (hid : ∀ i, (check' i).id = (check i).id)
    (hrun : ∀ i ∈ is, ∀ ctx ctx', R ctx ctx' → ((check i).run ctx).2.status = .pass →
      R ((check i).run ctx).1 ((check' i).run ctx').1 ∧
        ((check' i).run ctx').2 = ((check i).run ctx).2)
    (h₀ : R ctx ctx') : ∀ k ≤ is.length,
      (∀ r ∈ (stateAt (is.map check) ctx k).results, r.status = .pass) →
      R (stateAt (is.map check) ctx k).ctx (stateAt (is.map check') ctx' k).ctx ∧
        (stateAt (is.map check') ctx' k).passed = (stateAt (is.map check) ctx k).passed ∧
        (stateAt (is.map check') ctx' k).results = (stateAt (is.map check) ctx k).results
  | 0, _, _ => ⟨h₀, rfl, rfl⟩
  | k + 1, hk, hpass => by
    have hlt : k < (is.map check).length := by rwa [List.length_map]
    have hlt' : k < (is.map check').length := by rwa [List.length_map]
    have hpre : (stateAt (is.map check) ctx k).results <+:
        (stateAt (is.map check) ctx (k + 1)).results :=
      results_stateAt_append _ _ (Nat.le_succ k) hlt
    obtain ⟨hR, hpassed, hresults⟩ := lockstep_stateAt hrequires hid hrun h₀ k
      (Nat.le_of_succ_le hk) fun r hr => hpass r (hpre.subset hr)
    rw [stateAt_succ _ _ hlt, List.getElem_map] at hpass ⊢
    rw [stateAt_succ _ _ hlt', List.getElem_map]
    by_cases hgate : ∀ id ∈ (check is[k]).requires, id ∈ (stateAt (is.map check) ctx k).passed
    · rw [step_of_gate _ _ hgate] at hpass ⊢
      rw [step_of_gate _ _ (by rwa [hrequires, hpassed])]
      obtain ⟨hR', hresult⟩ := hrun is[k] (List.getElem_mem _) _ _ hR
        (hpass _ (List.mem_append_right _ (List.mem_singleton_self _)))
      exact ⟨hR', by rw [hresult, hpassed, hid], by rw [hresult, hresults]⟩
    · rw [step_of_not_gate _ _ hgate] at hpass
      have hskip := hpass _ (List.mem_append_right _ (List.mem_singleton_self _))
      simp [skipped] at hskip

/-- The rule for two runs side by side. If a check that passes does the same in related contexts
and leaves related ones, the two runs report the same as long as the first passes. -/
theorem lockstep (hrequires : ∀ i, (check' i).requires = (check i).requires)
    (hid : ∀ i, (check' i).id = (check i).id)
    (hrun : ∀ i ∈ is, ∀ ctx ctx', R ctx ctx' → ((check i).run ctx).2.status = .pass →
      R ((check i).run ctx).1 ((check' i).run ctx').1 ∧
        ((check' i).run ctx').2 = ((check i).run ctx).2)
    (h₀ : R ctx ctx') (elapsed elapsed' k : ℕ)
    (hpass : ∀ r ∈ (run (is.map check) ctx elapsed).2.results.take k, r.status = .pass) :
    (run (is.map check') ctx' elapsed').2.results.take k =
      (run (is.map check) ctx elapsed).2.results.take k := by
  rw [take_results_run, ← stateAt_min, List.length_map] at hpass
  rw [take_results_run, take_results_run, ← stateAt_min, ← stateAt_min (is.map check),
    List.length_map, List.length_map]
  exact (lockstep_stateAt hrequires hid hrun h₀ _ (min_le_right _ _) hpass).2.2

end

section

variable {Ctx' : Type*}

/-- Two checks that report the same in contexts related by `R`, and leave them so. -/
structure Alike (R : Ctx → Ctx' → Prop) (check : Check Ctx) (check' : Check Ctx') : Prop where
  id : check'.id = check.id
  name : check'.name = check.name
  requires : check'.requires = check.requires
  run : ∀ ctx ctx', R ctx ctx' →
    R (check.run ctx).1 (check'.run ctx').1 ∧ (check'.run ctx').2 = (check.run ctx).2

/-- A check that does not see what `forget` forgets, and keeps it forgotten. -/
theorem Alike.of_forget {forget : Ctx → Ctx} {check : Check Ctx}
    (h : ∀ ctx, check.run (forget ctx) = (forget (check.run ctx).1, (check.run ctx).2)) :
    Alike (fun ctx ctx' => forget ctx' = forget ctx) check check where
  id := rfl
  name := rfl
  requires := rfl
  run ctx ctx' hctx := by
    have heq : (forget (check.run ctx').1, (check.run ctx').2) =
        (forget (check.run ctx).1, (check.run ctx).2) := by rw [← h, hctx, h]
    exact Prod.ext_iff.1 heq

variable {R : Ctx → Ctx' → Prop}

/-- Two checks that are alike keep the two states alike. -/
theorem Alike.step {check : Check Ctx} {check' : Check Ctx'} (h : Alike R check check')
    {s : State Ctx} {s' : State Ctx'} (hctx : R s.ctx s'.ctx) (hpassed : s'.passed = s.passed) :
    R (step s check).ctx (step s' check').ctx ∧
      (step s' check').passed = (step s check).passed ∧
      ∃ r, (step s check).results = s.results ++ [r] ∧
        (step s' check').results = s'.results ++ [r] := by
  obtain ⟨hctx', hresult⟩ := h.run _ _ hctx
  by_cases hgate : ∀ id ∈ check.requires, id ∈ s.passed
  · have hgate' : ∀ id ∈ check'.requires, id ∈ s'.passed := by rwa [h.requires, hpassed]
    rw [step_of_gate _ _ hgate, step_of_gate _ _ hgate', h.id, hpassed, hresult]
    exact ⟨hctx', rfl, _, rfl, rfl⟩
  · have hgate' : ¬∀ id ∈ check'.requires, id ∈ s'.passed := by rwa [h.requires, hpassed]
    have hskipped : skipped check' s'.passed = skipped check s.passed := by
      rw [skipped, skipped, missing, missing, h.id, h.name, h.requires, hpassed]
    rw [step_of_not_gate _ _ hgate, step_of_not_gate _ _ hgate', hskipped]
    exact ⟨hctx, hpassed, _, rfl, rfl⟩

/-- Checks that are alike, one by one, add the same results to two runs. -/
theorem Alike.foldl_step {checks : List (Check Ctx)} {checks' : List (Check Ctx')}
    (h : List.Forall₂ (Alike R) checks checks') :
    ∀ {s : State Ctx} {s' : State Ctx'}, R s.ctx s'.ctx → s'.passed = s.passed →
      ∃ rs, (checks.foldl Pipeline.step s).results = s.results ++ rs ∧
        (checks'.foldl Pipeline.step s').results = s'.results ++ rs := by
  induction h with
  | nil => exact fun _ _ => ⟨[], (List.append_nil _).symm, (List.append_nil _).symm⟩
  | cons hcheck _ ih =>
    intro s s' hctx hpassed
    obtain ⟨hctx', hpassed', r, hr, hr'⟩ := hcheck.step hctx hpassed
    obtain ⟨rs, hrs, hrs'⟩ := ih hctx' hpassed'
    rw [hr, List.append_assoc] at hrs
    rw [hr', List.append_assoc] at hrs'
    exact ⟨[r] ++ rs, hrs, hrs'⟩

/-- The rule for two runs : checks that are alike, one by one, report the same, however long the
runs take. -/
theorem Alike.results_run {checks : List (Check Ctx)} {checks' : List (Check Ctx')}
    (h : List.Forall₂ (Alike R) checks checks') {ctx : Ctx} {ctx' : Ctx'} (hctx : R ctx ctx')
    (elapsed elapsed' : ℕ) :
    (Pipeline.run checks' ctx' elapsed').2.results =
      (Pipeline.run checks ctx elapsed).2.results := by
  obtain ⟨rs, hrs, hrs'⟩ : ∃ rs, (checks.foldl Pipeline.step ⟨ctx, ∅, []⟩).results = [] ++ rs ∧
      (checks'.foldl Pipeline.step ⟨ctx', ∅, []⟩).results = [] ++ rs := foldl_step h hctx rfl
  rw [Pipeline.run, Pipeline.run, hrs, hrs']

/-- Two runs whose first checks end with one status, and whose further checks are alike, report
the same after the first result. -/
theorem Alike.run_cons {check : Check Ctx} {check' : Check Ctx'} {checks : List (Check Ctx)}
    {checks' : List (Check Ctx')} (h : List.Forall₂ (Alike R) checks checks')
    (hrequires : check.requires = []) (hrequires' : check'.requires = [])
    (hid : check'.id = check.id) {ctx : Ctx} {ctx' : Ctx'}
    (hctx : R (check.run ctx).1 (check'.run ctx').1)
    (hstatus : (check'.run ctx').2.status = (check.run ctx).2.status) (elapsed elapsed' : ℕ) :
    ∃ rs, (Pipeline.run (check :: checks) ctx elapsed).2.results = (check.run ctx).2 :: rs ∧
      (Pipeline.run (check' :: checks') ctx' elapsed').2.results = (check'.run ctx').2 :: rs := by
  have hstep := step_of_gate ⟨ctx, ∅, []⟩ check (by simp [hrequires])
  have hstep' := step_of_gate ⟨ctx', ∅, []⟩ check' (by simp [hrequires'])
  rw [hstatus, hid] at hstep'
  have hctx' : R (Pipeline.step ⟨ctx, ∅, []⟩ check).ctx
      (Pipeline.step ⟨ctx', ∅, []⟩ check').ctx := by rwa [hstep, hstep']
  obtain ⟨rs, hrs, hrs'⟩ := foldl_step h hctx' (by rw [hstep, hstep'])
  rw [hstep] at hrs
  rw [hstep'] at hrs'
  refine ⟨rs, ?_, ?_⟩
  · rw [Pipeline.run, List.foldl_cons, hstep, hrs, List.nil_append, List.singleton_append]
  · rw [Pipeline.run, List.foldl_cons, hstep', hrs', List.nil_append, List.singleton_append]

end

/-! ## Invocations -/

/-- The check `c` over a context that also records, at each invocation, the index `k`. -/
def traced (k : ℕ) (c : Check Ctx) : Check (Ctx × List ℕ) where
  id := c.id
  name := c.name
  requires := c.requires
  run s := (((c.run s.1).1, s.2 ++ [k]), (c.run s.1).2)

/-- The indices of the checks whose `run` the pipeline invokes, in order. -/
def invocations (checks : List (Check Ctx)) (ctx : Ctx) : List ℕ :=
  (run (checks.mapIdx traced) (ctx, []) 0).1.2

/-- A traced step is the step, with the index logged if the check is run. -/
theorem step_traced (s : State Ctx) (log : List ℕ) (k : ℕ) (c : Check Ctx) :
    step ⟨(s.ctx, log), s.passed, s.results⟩ (traced k c) =
      ⟨((step s c).ctx, if ∀ id ∈ c.requires, id ∈ s.passed then log ++ [k] else log),
        (step s c).passed, (step s c).results⟩ := by
  by_cases h : ∀ id ∈ c.requires, id ∈ s.passed
  · rw [step_of_gate s c h, if_pos h]
    exact step_of_gate ⟨(s.ctx, log), s.passed, s.results⟩ (traced k c) h
  · rw [step_of_not_gate s c h, if_neg h]
    exact step_of_not_gate ⟨(s.ctx, log), s.passed, s.results⟩ (traced k c) h

theorem stateAt_traced (checks : List (Check Ctx)) (ctx : Ctx) : ∀ k ≤ checks.length,
    stateAt (checks.mapIdx traced) (ctx, []) k =
      ⟨((stateAt checks ctx k).ctx, (List.range k).filter fun j => Gate checks ctx j),
        (stateAt checks ctx k).passed, (stateAt checks ctx k).results⟩
  | 0, _ => rfl
  | k + 1, hk => by
    rw [stateAt_succ _ _ (by rw [List.length_mapIdx]; exact hk),
      stateAt_traced checks ctx k (by omega), stateAt_succ checks ctx hk, List.range_succ,
      List.filter_append, List.getElem_mapIdx, step_traced]
    have hgate : Gate checks ctx k ↔
        ∀ id ∈ checks[k].requires, id ∈ (stateAt checks ctx k).passed := by
      simp [Gate, List.getElem?_eq_getElem hk]
    by_cases h : ∀ id ∈ checks[k].requires, id ∈ (stateAt checks ctx k).passed
    · simp [if_pos h, hgate.2 h]
    · simp [if_neg h, mt hgate.1 h]

/-- The runner invokes the checks whose gate holds, each once, in order. -/
theorem invocations_eq (checks : List (Check Ctx)) (ctx : Ctx) :
    invocations checks ctx = (List.range checks.length).filter fun j => Gate checks ctx j := by
  have h := stateAt_traced checks ctx checks.length le_rfl
  rw [invocations, run, ← stateAt_length, List.length_mapIdx, h]

/-! ## Gating -/

/-- `id` is required by check `k`, or by a check before it that passed under an id that is
needed already. -/
inductive Needs (checks : List (Check Ctx)) (rs : List CheckResult) (k : ℕ) : String → Prop
  | direct {c : Check Ctx} {id : String} (hc : checks[k]? = some c) (hid : id ∈ c.requires) :
      Needs checks rs k id
  | via {j : ℕ} {c : Check Ctx} {id' id : String} (hneed : Needs checks rs k id') (hj : j < k)
      (hpass : PassedAs checks rs j id') (hc : checks[j]? = some c) (hid : id ∈ c.requires) :
      Needs checks rs k id

/-- Some check with the first id requires the second. -/
def Requires (checks : List (Check Ctx)) (id id' : String) : Prop :=
  ∃ c ∈ checks, c.id = id ∧ id' ∈ c.requires

/-- The ids a check that passed requires have all passed before it. -/
theorem exists_passedAs_of_mem_requires (checks : List (Check Ctx)) (ctx : Ctx) {k : ℕ}
    {id id' : String} {c : Check Ctx}
    (h : PassedAs checks (stateAt checks ctx checks.length).results k id)
    (hc : checks[k]? = some c) (hid : id' ∈ c.requires) :
    ∃ j < k, PassedAs checks (stateAt checks ctx checks.length).results j id' := by
  obtain ⟨hk, rfl⟩ := List.getElem?_eq_some_iff.1 hc
  obtain ⟨r, hr, -, hskip⟩ := stateAt_succ_cases checks ctx hk
  have hgate : Gate checks ctx k := by
    by_contra hng
    have hpass := h.2
    rw [hr, Option.map_some, (hskip hng).1] at hpass
    simp [skipped] at hpass
  exact (gate_iff checks ctx hk).1 hgate id' hid

/-- Everything a check that passed needs has passed before it. -/
theorem exists_passedAs_of_needs (checks : List (Check Ctx)) (ctx : Ctx) {k : ℕ} {id id' : String}
    (h : PassedAs checks (stateAt checks ctx checks.length).results k id)
    (hneed : Needs checks (stateAt checks ctx checks.length).results k id') :
    ∃ j < k, PassedAs checks (stateAt checks ctx checks.length).results j id' := by
  cases hneed with
  | direct hc hid => exact exists_passedAs_of_mem_requires checks ctx h hc hid
  | via _ hj hpass hc hid =>
    obtain ⟨i, hi, hpass'⟩ := exists_passedAs_of_mem_requires checks ctx hpass hc hid
    exact ⟨i, hi.trans hj, hpass'⟩

/-- With distinct ids, everything that follows from a passed id by requirements has passed
before it. -/
theorem exists_passedAs_of_transGen (checks : List (Check Ctx)) (ctx : Ctx)
    (hids : (checks.map Check.id).Nodup) {id id' : String}
    (hreq : Relation.TransGen (Requires checks) id id') {k : ℕ}
    (h : PassedAs checks (stateAt checks ctx checks.length).results k id) :
    ∃ j < k, PassedAs checks (stateAt checks ctx checks.length).results j id' := by
  have one : ∀ {a b : String} {i : ℕ}, Requires checks a b →
      PassedAs checks (stateAt checks ctx checks.length).results i a →
      ∃ j < i, PassedAs checks (stateAt checks ctx checks.length).results j b := by
    rintro a b i ⟨c, hc, rfl, hb⟩ hpass
    obtain ⟨m, hm, rfl⟩ := List.getElem_of_mem hc
    -- Distinct ids : the check that requires `b` is the one that passed.
    obtain ⟨d, hd, hid⟩ := Option.map_eq_some_iff.1 hpass.1
    obtain ⟨hi, rfl⟩ := List.getElem?_eq_some_iff.1 hd
    have him : i = m := by
      refine (@List.Nodup.getElem_inj_iff _ _ hids i ?_ m ?_).1 ?_ <;> simpa
    subst him
    exact exists_passedAs_of_mem_requires checks ctx hpass hd hb
  induction hreq with
  | single hab => exact one hab h
  | tail _ hbc ih =>
    obtain ⟨j, hj, hpass⟩ := ih
    obtain ⟨i, hi, hpass'⟩ := one hbc hpass
    exact ⟨i, hi.trans hj, hpass'⟩

/-- The runner yields one result per check in push order, invokes check `k` exactly if
every id it requires is that of an earlier check that passed, and otherwise skips it under
its own id with the context left alone. So everything a check that passed needs, in any
number of steps, has passed before it. What the list of checks requires of an id is more than
that if two checks have the id, as the one that passed may not be the one that requires more.
So the closure over the list is for distinct ids. -/
theorem gating_exact (checks : List (Check Ctx)) (ctx : Ctx) (elapsed : ℕ) :
    let rs := (run checks ctx elapsed).2.results
    let ctxAt := fun k => (stateAt checks ctx k).ctx
    rs.length = checks.length ∧ ctxAt 0 = ctx ∧
      ctxAt checks.length = (run checks ctx elapsed).1 ∧
      (invocations checks ctx).Pairwise (· < ·) ∧
      (∀ k (hk : k < checks.length),
        (k ∈ invocations checks ctx ↔
          ∀ id ∈ checks[k].requires, ∃ j < k, PassedAs checks rs j id) ∧
        ∃ r, rs[k]? = some r ∧
          (k ∈ invocations checks ctx → checks[k].run (ctxAt k) = (ctxAt (k + 1), r)) ∧
          (k ∉ invocations checks ctx →
            r.status = .skip ∧ r.id = checks[k].id ∧ ctxAt (k + 1) = ctxAt k)) ∧
      (∀ k id, PassedAs checks rs k id → ∀ id', Needs checks rs k id' →
        ∃ j < k, PassedAs checks rs j id') ∧
      ((checks.map Check.id).Nodup → ∀ k id, PassedAs checks rs k id → ∀ id',
        Relation.TransGen (Requires checks) id id' → ∃ j < k, PassedAs checks rs j id') := by
  have hrs := results_run checks ctx elapsed
  have hctx : (run checks ctx elapsed).1 = (stateAt checks ctx checks.length).ctx := by
    rw [run, ← stateAt_length]
  have hmem : ∀ k, k < checks.length → (k ∈ invocations checks ctx ↔ Gate checks ctx k) := by
    intro k hk
    simp [invocations_eq, hk]
  intro rs ctxAt
  refine ⟨length_results_run checks ctx elapsed, rfl, hctx.symm, ?_, fun k hk => ?_, ?_, ?_⟩
  · rw [invocations_eq]
    exact List.Pairwise.filter _ List.pairwise_lt_range
  · rw [hmem k hk, show rs = _ from hrs]
    obtain ⟨r, hr, hrun, hskip⟩ := stateAt_succ_cases checks ctx hk
    refine ⟨gate_iff checks ctx hk, r, hr, hrun, fun hng => ?_⟩
    obtain ⟨rfl, hctx'⟩ := hskip hng
    exact ⟨rfl, rfl, hctx'⟩
  · intro k id hpass id' hneed
    rw [show rs = _ from hrs] at hpass hneed ⊢
    exact exists_passedAs_of_needs checks ctx hpass hneed
  · intro hids k id hpass id' hreq
    rw [show rs = _ from hrs] at hpass ⊢
    exact exists_passedAs_of_transGen checks ctx hids hreq hpass

/-- A check that counts its runs and passes. -/
def counting (id : String) (requires : List String) : Check ℕ where
  id := id
  name := id
  requires := requires
  run n := (n + 1, .pass id id 0 "")

/-- A chain of three and a check that waits for an id nothing has. -/
def chain : List (Check ℕ) :=
  [counting "dns" [], counting "stun.binding" ["dns"], counting "ice.gather" ["turn.alloc.udp"],
    counting "turn.echo.udp" ["stun.binding"]]

/-- The last check passes after the two it builds on; the one that waits is skipped. -/
theorem gating_exact_chain :
    let rs := (run chain 0 0).2.results
    2 ∉ invocations chain 0 ∧ (∃ r, rs[2]? = some r ∧ r.status = .skip ∧ r.id = "ice.gather") ∧
      (∃ j < 3, PassedAs chain rs j "dns") ∧ ∃ j < 3, PassedAs chain rs j "stun.binding" := by
  obtain ⟨-, -, -, -, hcheck, hneeds, hreqs⟩ := gating_exact chain 0 0
  have hnot : 2 ∉ invocations chain 0 := by decide
  have hpass : PassedAs chain (run chain 0 0).2.results 3 "turn.echo.udp" := ⟨rfl, by decide⟩
  have hecho : Requires chain "turn.echo.udp" "stun.binding" :=
    ⟨chain[3], by simp [chain], rfl, by decide⟩
  have hstun : Requires chain "stun.binding" "dns" := ⟨chain[1], by simp [chain], rfl, by decide⟩
  obtain ⟨r, hr, -, hskip⟩ := (hcheck 2 (by decide)).2
  exact ⟨hnot, ⟨r, hr, (hskip hnot).1, (hskip hnot).2.1⟩,
    hreqs (by decide) 3 _ hpass _ (.tail (.single hecho) hstun),
    hneeds 3 _ hpass _ (.direct rfl (by decide))⟩

/-- Two checks of one id, and a check that waits for it. -/
def twins : List (Check ℕ) :=
  [counting "dns" [], counting "dns" ["proxy"], counting "stun.binding" ["dns"]]

-- The second `dns` is skipped. `stun.binding` passes on the first, though by the list `dns`
-- requires `proxy`.
example : (run twins 0 0).2.results.map CheckResult.status = [.pass, .skip, .pass] ∧
    Relation.TransGen (Requires twins) "stun.binding" "proxy" ∧
    ∀ j, ¬PassedAs twins (run twins 0 0).2.results j "proxy" := by
  have hbinding : Requires twins "stun.binding" "dns" := ⟨twins[2], by simp [twins], rfl, by decide⟩
  have hdns : Requires twins "dns" "proxy" := ⟨twins[1], by simp [twins], rfl, by decide⟩
  refine ⟨by decide, .tail (.single hbinding) hdns, fun j hpass => ?_⟩
  obtain ⟨c, hc, hid⟩ := Option.map_eq_some_iff.1 hpass.1
  have hnone : "proxy" ∉ twins.map Check.id := by decide
  exact hnone (List.mem_map.2 ⟨c, List.mem_of_getElem? hc, hid⟩)

end Pipeline

end WebrtcDoctor
