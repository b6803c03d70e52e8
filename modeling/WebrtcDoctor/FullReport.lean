import Mathlib.Algebra.BigOperators.Group.List.Basic
import Mathlib.Algebra.Group.Prod
import Mathlib.Order.Bounds.Basic
import WebrtcDoctor.Session

/-!
# The report of `full`

`full` runs a pipeline for each target, each in its own context, and puts their results one
after the other. Its blocks are one loop over the targets (`planFull_eq_mapM`) that builds for
each what its subcommand builds (`build_of_accepted`).

The verdict on results is the worst on any of them (`le_verdict_iff`), though the loop stops at
the first failure, and the counts add up. So the report of `full` is the worst of the reports
of the subcommands (`full_worst`).
-/

open Checked

namespace WebrtcDoctor

/-! ## Verdicts -/

/-- How bad a verdict is. The exit codes are in another order. -/
def Verdict.severity : Verdict → ℕ
  | .healthy => 0
  | .warnings => 1
  | .failed => 2

theorem Verdict.severity_injective : Function.Injective Verdict.severity := by
  intro v w h
  cases v <;> cases w <;> first | rfl | cases h

instance : LinearOrder Verdict := LinearOrder.lift' Verdict.severity Verdict.severity_injective

/-- The verdict on one result. -/
def CheckStatus.verdict : CheckStatus → Verdict
  | .fail => .failed
  | .warn => .warnings
  | _ => .healthy

theorem Verdict.healthy_le (v : Verdict) : .healthy ≤ v := Nat.zero_le _

theorem Verdict.le_healthy_iff {v : Verdict} : v ≤ .healthy ↔ v = .healthy :=
  ⟨fun h => le_antisymm h v.healthy_le, fun h => h.le⟩

theorem Verdict.le_failed (v : Verdict) : v ≤ .failed := by
  cases v <;> decide

/-- The loop gives the worst of the verdicts on the results and of its flag. -/
theorem le_verdictLoop_iff {v : Verdict} : ∀ {rs : List CheckResult} {anyWarn : Bool},
    v ≤ verdictLoop rs anyWarn ↔
      v ≤ (if anyWarn then .warnings else .healthy) ∨ ∃ r ∈ rs, v ≤ r.status.verdict
  | [], anyWarn => by simp [verdictLoop]
  | r :: rs, anyWarn => by
    rw [verdictLoop]
    simp only [List.mem_cons, exists_eq_or_imp]
    have hflag : (if anyWarn then .warnings else .healthy : Verdict) ≤ .warnings := by
      cases anyWarn <;> decide
    cases hr : r.status with
    | fail => simp [CheckStatus.verdict, v.le_failed]
    | warn =>
      show v ≤ verdictLoop rs true ↔ _ ∨ v ≤ .warnings ∨ _
      rw [le_verdictLoop_iff, if_pos rfl, ← or_assoc]
      exact or_congr_left (or_iff_right_of_imp fun h => h.trans hflag).symm
    | pass | skip =>
      show v ≤ verdictLoop rs anyWarn ↔ _ ∨ v ≤ .healthy ∨ _
      rw [le_verdictLoop_iff, ← or_assoc]
      exact or_congr_left (or_iff_left_of_imp fun h => h.trans (Verdict.healthy_le _)).symm

/-- The verdict of a report is the worst on its results. -/
theorem Report.le_verdict_iff {report : Report} {v : Verdict} :
    v ≤ report.verdict ↔ v = .healthy ∨ ∃ r ∈ report.results, v ≤ r.status.verdict := by
  rw [Report.verdict, le_verdictLoop_iff, if_neg Bool.false_ne_true, Verdict.le_healthy_iff]

/-- A run has failed exactly if a result has. -/
theorem Report.verdict_eq_failed_iff {report : Report} :
    report.verdict = .failed ↔ ∃ r ∈ report.results, r.status = .fail := by
  have hfail : ∀ status : CheckStatus, .failed ≤ status.verdict ↔ status = .fail := by
    intro status
    cases status <;> decide
  rw [← (Verdict.le_failed _).ge_iff_eq, Report.le_verdict_iff]
  simp only [reduceCtorEq, false_or, hfail]

/-- A run has warnings exactly if a result warns and none has failed. -/
theorem Report.verdict_eq_warnings_iff {report : Report} : report.verdict = .warnings ↔
    (∀ r ∈ report.results, r.status ≠ .fail) ∧ ∃ r ∈ report.results, r.status = .warn := by
  have hwarn : ∀ status : CheckStatus, status ≠ .fail →
      (.warnings ≤ status.verdict ↔ status = .warn) := by
    intro status
    cases status <;> decide
  have hsplit : report.verdict = .warnings ↔
      report.verdict ≠ .failed ∧ .warnings ≤ report.verdict := by
    cases report.verdict <;> decide
  rw [hsplit, Ne, Report.verdict_eq_failed_iff, Report.le_verdict_iff]
  simp only [reduceCtorEq, false_or, not_exists, not_and]
  refine and_congr_right fun hfail => exists_congr fun r => and_congr_right fun hr => ?_
  exact hwarn r.status (hfail r hr)

/-! ## Counts -/

/-- The results with a status. -/
def statusCount (status : CheckStatus) (rs : List CheckResult) : ℕ :=
  (rs.map CheckResult.status).count status

/-- The passes, warnings, failures and skips. -/
def statusCounts (rs : List CheckResult) : ℕ × ℕ × ℕ × ℕ :=
  (statusCount .pass rs, statusCount .warn rs, statusCount .fail rs, statusCount .skip rs)

theorem statusCount_cons (status : CheckStatus) (r : CheckResult) (rs : List CheckResult) :
    statusCount status (r :: rs) = statusCount status rs + if r.status = status then 1 else 0 := by
  rw [statusCount, List.map_cons, List.count_cons]
  simp [statusCount]

/-- The loop adds up the results of each status. -/
theorem countsLoop_eq : ∀ (rs : List CheckResult) (counts : ℕ × ℕ × ℕ × ℕ),
    countsLoop rs counts = counts + statusCounts rs
  | [], counts => (add_zero counts).symm
  | r :: rs, (p, w, f, s) => by
    rw [countsLoop, statusCounts]
    simp only [statusCount_cons]
    cases r.status <;>
      simp only [countsLoop_eq rs, statusCounts, Prod.mk_add_mk, Prod.mk.injEq, reduceCtorEq,
        if_true, if_false] <;> omega

/-- The four counts are those of the four statuses. -/
theorem Report.counts_eq (report : Report) : report.counts = statusCounts report.results := by
  rw [Report.counts, countsLoop_eq]
  exact zero_add _

/-- The counts of two lists of results add up. -/
theorem statusCounts_append (rs rs' : List CheckResult) :
    statusCounts (rs ++ rs') = statusCounts rs + statusCounts rs' := by
  simp only [statusCounts, statusCount, List.map_append, List.count_append, Prod.mk_add_mk]

/-- The counts of some reports add up. -/
theorem statusCounts_flatMap (parts : List Report) :
    statusCounts (parts.flatMap Report.results) = (parts.map Report.counts).sum := by
  induction parts with
  | nil => rfl
  | cons part parts ih =>
    rw [List.flatMap_cons, statusCounts_append, ih, List.map_cons, List.sum_cons, Report.counts_eq]

/-- Every result counts once. -/
theorem statusCounts_total : ∀ rs : List CheckResult,
    statusCount .pass rs + statusCount .warn rs + statusCount .fail rs + statusCount .skip rs =
      rs.length
  | [] => rfl
  | r :: rs => by
    have ih := statusCounts_total rs
    simp only [statusCount_cons, List.length_cons]
    cases r.status <;> simp <;> omega

/-- A count is positive exactly if a result has the status. -/
theorem statusCount_pos_iff {status : CheckStatus} {rs : List CheckResult} :
    0 < statusCount status rs ↔ ∃ r ∈ rs, r.status = status := by
  rw [statusCount, List.count_pos_iff, List.mem_map]

theorem statusCount_eq_zero_iff {status : CheckStatus} {rs : List CheckResult} :
    statusCount status rs = 0 ↔ ∀ r ∈ rs, r.status ≠ status := by
  rw [statusCount, List.count_eq_zero, List.mem_map]
  simp only [not_exists, not_and, Ne]

/-! ## The worst of reports -/

/-- The verdict is the worst of those of the parts, and the counts are the sums of theirs. -/
structure Report.WorstOf (report : Report) (parts : List Report) : Prop where
  results : report.results = parts.flatMap Report.results
  verdict : IsGreatest (Report.verdict '' {part | part ∈ parts}) report.verdict
  counts : report.counts = (parts.map Report.counts).sum
  fromCounts : ∀ p w f s, report.counts = (p, w, f, s) → p + w + f + s = report.results.length ∧
    (report.verdict = .failed ↔ 0 < f) ∧ (report.verdict = .warnings ↔ f = 0 ∧ 0 < w)

/-- The verdict on some reports together is the worst of theirs. -/
theorem Report.isGreatest_verdict {report : Report} {parts : List Report} (hne : parts ≠ [])
    (h : report.results = parts.flatMap Report.results) :
    IsGreatest (Report.verdict '' {part | part ∈ parts}) report.verdict := by
  have hle : ∀ part ∈ parts, part.verdict ≤ report.verdict := by
    intro part hpart
    rcases Report.le_verdict_iff.1 (le_refl part.verdict) with hhealthy | ⟨r, hr, hle⟩
    · exact hhealthy ▸ Verdict.healthy_le _
    · exact Report.le_verdict_iff.2 (Or.inr ⟨r, h ▸ List.mem_flatMap.2 ⟨part, hpart, hr⟩, hle⟩)
  refine ⟨?_, by rintro _ ⟨part, hpart, rfl⟩; exact hle part hpart⟩
  rcases Report.le_verdict_iff.1 (le_refl report.verdict) with hhealthy | ⟨r, hr, hworst⟩
  · obtain ⟨part, hpart⟩ := List.exists_mem_of_ne_nil parts hne
    have hpartLe := hle part hpart
    rw [hhealthy, Verdict.le_healthy_iff] at hpartLe
    exact ⟨part, hpart, hpartLe.trans hhealthy.symm⟩
  · rw [h] at hr
    obtain ⟨part, hpart, hr⟩ := List.mem_flatMap.1 hr
    exact ⟨part, hpart, le_antisymm (hle part hpart)
      (Report.le_verdict_iff.2 (Or.inr ⟨r, hr, hworst⟩))⟩

/-- A report of the results of its parts is the worst of them. -/
theorem Report.worstOf {report : Report} {parts : List Report} (hne : parts ≠ [])
    (h : report.results = parts.flatMap Report.results) : report.WorstOf parts where
  results := h
  verdict := Report.isGreatest_verdict hne h
  counts := by rw [Report.counts_eq, h, statusCounts_flatMap]
  fromCounts p w f s hcounts := by
    rw [Report.counts_eq] at hcounts
    obtain ⟨rfl, rfl, rfl, rfl⟩ : _ ∧ _ ∧ _ ∧ _ := by simpa [statusCounts] using hcounts
    refine ⟨statusCounts_total _, ?_, ?_⟩
    · rw [Report.verdict_eq_failed_iff, statusCount_pos_iff]
    · rw [Report.verdict_eq_warnings_iff, statusCount_pos_iff, statusCount_eq_zero_iff]

/-! ## The targets of `full` -/

/-- A target with its URL. -/
inductive FullTarget where
  | signaling (url : String)
  | stun (url : String)
  | turn (url : String)
  | turns (url : String)

/-- The secrets a run is given. -/
structure Credentials where
  user : Option String
  pass : Option String
  auth : Option String

/-- The targets that are given, in the order in which `full` runs them. -/
def fullTargets (stun turn turns signaling : Option String) : List FullTarget :=
  (signaling.map .signaling).toList ++ (stun.map .stun).toList ++ (turn.map .turn).toList ++
    (turns.map .turns).toList

/-- The secrets as `full` reads them. -/
def readCredentials (user pass auth : Secret) : Reader Credentials := do
  let user ← resolveSecret user "TURN username"
  let pass ← resolveSecret pass "TURN password"
  let auth ← resolveSecret auth "Authorization header"
  return ⟨user, pass, auth⟩

namespace FullTarget

/-- What the outside world gives the target's pipeline. -/
def pipelineEnv (env : CliEnv) : FullTarget → PipelineEnv
  | signaling _ => env.fullSignaling
  | stun _ => env.fullStun
  | turn _ => env.fullTurn
  | turns _ => env.fullTurns

/-- The subcommand for the target alone. -/
def command (user pass auth : Secret) (echoCount : UInt32) : FullTarget → Command
  | signaling url => .signaling url auth
  | stun url => .stun url
  | turn url => .turn url user pass echoCount
  | turns url => .turns url user pass

/-- The subcommand accepts the URL. -/
def Accepted (env : CliEnv) : FullTarget → Prop
  | signaling url => schemeOk url ∧ (env.hostFromUrl url).isSome
  | stun url => ∃ t, parseStunLike url ["stun"] 3478 = .ok t
  | turn url => ∃ t, parseStunLike url ["turn"] 3478 = .ok t
  | turns url => ∃ t, parseStunLike url ["turns"] 5349 = .ok t

/-- The secrets of the subcommand are `c`, as flags or as lines of `stdin`. -/
def Given (c : Credentials) (user pass auth : Secret) (stdin : List (Except String String)) :
    FullTarget → Prop
  | signaling _ => ∃ rest, resolveSecret auth "Authorization header" stdin = .ok (c.auth, rest)
  | stun _ => True
  | turn _ | turns _ => ∃ rest rest',
    resolveSecret user "TURN username" stdin = .ok (c.user, rest) ∧
      resolveSecret pass "TURN password" rest = .ok (c.pass, rest')

/-- Alone, with the credentials `c` and the same outside world, the target's report is
`part`. -/
def ReportsAlone (env : CliEnv) (c : Credentials) (echoCount : UInt32) (target : FullTarget)
    (part : Report) : Prop :=
  ∀ user pass auth stdin, target.Given c user pass auth stdin → ∃ header,
    main { env with single := target.pipelineEnv env, stdin := stdin }
      (target.command user pass auth echoCount) = .ok (.report header part)

/-- The target's part of the header and its pipeline, as `full` builds them. -/
def build (env : CliEnv) (c : Credentials) (echoCount : UInt32) :
    FullTarget → Except String (String × Job)
  | signaling url => do
    let host ← signalingHost env url s!"--signaling expects a ws:// or wss:// URL, got `{url}`"
      s!"could not parse host from --signaling `{url}`"
    return (s!"signaling {host}", signalingJob env.fullSignaling host url c.auth)
  | stun url => do
    let t ← parseStunLike url ["stun"] 3478
    return (s!"stun {t.host}", stunJob env.fullStun t)
  | turn url => do
    let t ← parseStunLike url ["turn"] 3478
    return (s!"turn {t.host}", turnJob env.fullTurn t c.user c.pass echoCount)
  | turns url => do
    let t ← parseStunLike url ["turns"] 5349
    return (s!"turns {t.host}", turnsJob env.fullTurns t c.user c.pass)

variable {env : CliEnv} {c : Credentials} {echoCount : UInt32}

/-- A target reports what its subcommand alone does, if that plans the same pipeline. -/
theorem reportsAlone_of_plan {target : FullTarget} {job : Job}
    (h : ∀ user pass auth stdin, target.Given c user pass auth stdin → ∃ header rest,
      plan { env with single := target.pipelineEnv env, stdin := stdin }
        (target.command user pass auth echoCount) stdin = .ok (.single header job, rest)) :
    target.ReportsAlone env c echoCount job.report := by
  intro user pass auth stdin hgiven
  obtain ⟨header, rest, hplan⟩ := h user pass auth stdin hgiven
  exact ⟨header, by rw [main, hplan]; rfl⟩

/-- For an accepted URL `full` builds the pipeline of the subcommand. -/
theorem build_of_accepted {target : FullTarget} (h : target.Accepted env) :
    ∃ part : String × Job, target.build env c echoCount = .ok part ∧
      target.ReportsAlone env c echoCount part.2.report := by
  cases target with
  | signaling url =>
    obtain ⟨hscheme, hhost⟩ := h
    obtain ⟨host, hhost⟩ := Option.isSome_iff_exists.1 hhost
    have hsignaling : ∀ env' : CliEnv, env'.hostFromUrl = env.hostFromUrl → ∀ badScheme badHost,
        signalingHost env' url badScheme badHost = .ok host := by
      intro env' henv badScheme badHost
      simp [signalingHost, hscheme, henv, hhost]
    refine ⟨_, except_bind_eq_ok.2 ⟨host, hsignaling env rfl _ _, rfl⟩, reportsAlone_of_plan ?_⟩
    rintro user pass auth stdin ⟨rest, hauth⟩
    exact ⟨_, rest, reader_bind_eq_ok.2 ⟨host, stdin, lift_eq_ok.2 ⟨hsignaling _ rfl _ _, rfl⟩,
      reader_bind_eq_ok.2 ⟨c.auth, rest, hauth, rfl⟩⟩⟩
  | stun url =>
    obtain ⟨t, ht⟩ := h
    refine ⟨_, except_bind_eq_ok.2 ⟨t, ht, rfl⟩, reportsAlone_of_plan ?_⟩
    rintro user pass auth stdin -
    exact ⟨_, stdin, reader_bind_eq_ok.2 ⟨t, stdin, lift_eq_ok.2 ⟨ht, rfl⟩, rfl⟩⟩
  | turn url =>
    obtain ⟨t, ht⟩ := h
    refine ⟨_, except_bind_eq_ok.2 ⟨t, ht, rfl⟩, reportsAlone_of_plan ?_⟩
    rintro user pass auth stdin ⟨rest, rest', huser, hpass⟩
    exact ⟨_, rest', reader_bind_eq_ok.2 ⟨t, stdin, lift_eq_ok.2 ⟨ht, rfl⟩,
      reader_bind_eq_ok.2 ⟨c.user, rest, huser, reader_bind_eq_ok.2 ⟨c.pass, rest', hpass, rfl⟩⟩⟩⟩
  | turns url =>
    obtain ⟨t, ht⟩ := h
    refine ⟨_, except_bind_eq_ok.2 ⟨t, ht, rfl⟩, reportsAlone_of_plan ?_⟩
    rintro user pass auth stdin ⟨rest, rest', huser, hpass⟩
    exact ⟨_, rest', reader_bind_eq_ok.2 ⟨t, stdin, lift_eq_ok.2 ⟨ht, rfl⟩,
      reader_bind_eq_ok.2 ⟨c.user, rest, huser, reader_bind_eq_ok.2 ⟨c.pass, rest', hpass, rfl⟩⟩⟩⟩

end FullTarget

/-- A block of `full` is its target, if it is given. -/
theorem fullBlock_eq_mapM (build : FullTarget → Except String (String × Job))
    (target : String → FullTarget) (url : Option String) :
    fullBlock url (fun url => build (target url)) = (url.map target).toList.mapM build := by
  cases url with
  | none => rfl
  | some url =>
    rw [fullBlock, Option.map_some, Option.toList_some, List.mapM_cons, List.mapM_nil]
    cases build (target url) <;> rfl

/-- The blocks of `full` are one loop over the targets. -/
theorem planFull_eq_mapM (env : CliEnv) (stun turn turns signaling : Option String)
    (c : Credentials) (echoCount : UInt32) :
    planFull env stun turn turns signaling c.user c.pass c.auth echoCount =
      (fullTargets stun turn turns signaling).mapM (FullTarget.build env c echoCount) := by
  simp only [fullTargets, List.mapM_append, ← fullBlock_eq_mapM, bind_assoc, pure_bind]
  rfl

/-- Where every URL is accepted, each target is planned as it is alone. -/
theorem mapM_build_of_accepted {env : CliEnv} {c : Credentials} {echoCount : UInt32} :
    ∀ {targets : List FullTarget}, (∀ target ∈ targets, target.Accepted env) →
      ∃ parts : List (String × Job), targets.mapM (FullTarget.build env c echoCount) = .ok parts ∧
        List.Forall₂ (FullTarget.ReportsAlone env c echoCount) targets
          (parts.map fun part => part.2.report)
  | [], _ => ⟨[], rfl, .nil⟩
  | target :: targets, h => by
    obtain ⟨part, hbuild, hpart⟩ := FullTarget.build_of_accepted (h target List.mem_cons_self)
    obtain ⟨parts, hmap, hparts⟩ := mapM_build_of_accepted
      fun target' htarget => h target' (List.mem_cons_of_mem _ htarget)
    refine ⟨part :: parts, ?_, .cons hpart hparts⟩
    rw [List.mapM_cons, hbuild, hmap]
    rfl

/-! ## The run of `full` -/

section

variable (env : CliEnv) (stun turn turns signaling : Option String) (user pass auth : Secret)
  (echoCount : UInt32)

/-- `full` reads the credentials and then builds its targets in order. -/
theorem plan_full (hne : fullTargets stun turn turns signaling ≠ []) :
    plan env (.full stun turn turns signaling user pass auth echoCount) = (do
      let c ← readCredentials user pass auth
      let parts ← ((fullTargets stun turn turns signaling).mapM
        (FullTarget.build env c echoCount) : Except String (List (String × Job)))
      let header := " + ".intercalate (parts.map Prod.fst)
      return .full s!"probing {header} (full)" (parts.map Prod.snd) : Reader Plan) := by
  have hsome : ¬(stun.isNone && turn.isNone && turns.isNone && signaling.isNone) := by
    intro hnone
    simp only [Bool.and_eq_true, Option.isNone_iff_eq_none] at hnone
    obtain ⟨⟨⟨rfl, rfl⟩, rfl⟩, rfl⟩ := hnone
    exact hne rfl
  rw [plan, if_neg hsome, readCredentials]
  simp only [bind_assoc, pure_bind, ← planFull_eq_mapM]

/-- `full` is the worst of its parts. For accepted URLs it reads the secrets and fails if one
cannot be read. Otherwise its results are those of the targets' subcommands, run alone on the
same credentials, one after the other in its order, and so are its verdict and its counts. -/
theorem full_worst (hne : fullTargets stun turn turns signaling ≠ [])
    (haccepted : ∀ target ∈ fullTargets stun turn turns signaling, target.Accepted env) :
    (∀ e, readCredentials user pass auth env.stdin = .error e →
      main env (.full stun turn turns signaling user pass auth echoCount) = .error e) ∧
    ∀ c rest, readCredentials user pass auth env.stdin = .ok (c, rest) →
      ∃ header report parts,
        main env (.full stun turn turns signaling user pass auth echoCount) =
          .ok (.report header report) ∧
        List.Forall₂ (FullTarget.ReportsAlone env c echoCount)
          (fullTargets stun turn turns signaling) parts ∧
        report.WorstOf parts := by
  have hplan := congrFun (plan_full env stun turn turns signaling user pass auth echoCount hne)
    env.stdin
  refine ⟨fun e he => ?_, fun c rest hc => ?_⟩
  · have herror : plan env (.full stun turn turns signaling user pass auth echoCount) env.stdin =
        .error e := by
      rw [hplan]
      show (readCredentials user pass auth env.stdin >>= _) = _
      rw [he]
      rfl
    rw [main, herror]
    rfl
  · obtain ⟨parts, hparts, halone⟩ := mapM_build_of_accepted haccepted
    obtain ⟨header, hfull⟩ : ∃ header,
        plan env (.full stun turn turns signaling user pass auth echoCount) env.stdin =
          .ok (.full header (parts.map Prod.snd), rest) := by
      rw [hplan]
      exact ⟨_, reader_bind_eq_ok.2 ⟨c, rest, hc,
        reader_bind_eq_ok.2 ⟨parts, rest, lift_eq_ok.2 ⟨hparts, rfl⟩, rfl⟩⟩⟩
    refine ⟨header, _, _, by rw [main, hfull]; rfl, halone, Report.worstOf ?_ ?_⟩
    · intro hnil
      rw [hnil] at halone
      exact hne (List.forall₂_nil_right_iff.1 halone)
    · rw [List.flatMap_map, List.flatMap_map]

end

open Sample in
/-- `full --stun stun:192.0.2.1 --turn turn:192.0.2.1 --user user --pass pass`. -/
theorem full_worst_two : ∃ header report parts,
    main (cliEnv [challenge (txid 1), grant (txid 2)]) (.full (some "stun:192.0.2.1")
      (some "turn:192.0.2.1") none none ⟨some "user", false⟩ ⟨some "pass", false⟩
      ⟨none, false⟩ 10) = .ok (.report header report) ∧
    parts.length = 2 ∧ report.WorstOf parts := by
  obtain ⟨header, report, parts, hmain, halone, hworst⟩ :=
    (full_worst (cliEnv [challenge (txid 1), grant (txid 2)]) (some "stun:192.0.2.1")
      (some "turn:192.0.2.1") none none ⟨some "user", false⟩ ⟨some "pass", false⟩ ⟨none, false⟩ 10
      (List.cons_ne_nil _ _) (List.forall_mem_cons.2 ⟨⟨⟨"192.0.2.1", 3478⟩, by decide⟩,
        List.forall_mem_singleton.2 ⟨⟨"192.0.2.1", 3478⟩, by decide⟩⟩)).2
      ⟨some "user", some "pass", none⟩ [] rfl
  exact ⟨header, report, parts, hmain, halone.length_eq.symm, hworst⟩

end WebrtcDoctor
