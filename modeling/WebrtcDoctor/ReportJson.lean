import Mathlib.Data.Rat.Lemmas
import WebrtcDoctor.FrameEffect

/-!
# The JSON report

`--json` prints the value of a report : its verdict first, then the total time and the results. A
result without detail has no `detail` field, and the derived `Deserialize` reads a missing field and
`null` alike. So a result reads back as it was unless its detail is `null`
(`CheckResult.ofJson?_toJson`).

No check makes such a detail : each reports under its own id, and its detail is an object
(`ProbeCheck.run_reports`). So the value that any subcommand prints gives back the report, field by
field (`report_reads_back`). The text of the value is left out, and with it the decimal digits of
`loss_pct`, which need not read back as the same float.
-/

open NetAddr

namespace WebrtcDoctor

/-! ## Serialisation -/

/-- The variants in lower case. -/
def CheckStatus.text : CheckStatus → String
  | .pass => "pass"
  | .warn => "warn"
  | .fail => "fail"
  | .skip => "skip"

/-- The variants in lower case. -/
def Verdict.text : Verdict → String
  | .healthy => "healthy"
  | .warnings => "warnings"
  | .failed => "failed"

/-- The derived `Serialize`. A detail of none is left out. -/
def CheckResult.toJson (r : CheckResult) : Json :=
  .obj ([("id", .str r.id), ("name", .str r.name), ("status", .str r.status.text),
    ("latency_ms", .num r.latencyMs), ("summary", .str r.summary)] ++
    (r.detail.map fun detail => ("detail", detail)).toList)

/-- The verdict is not a field of the report. It is computed. -/
def Report.toJson (report : Report) : Json :=
  .obj [("verdict", .str report.verdict.text), ("total_ms", .num report.totalMs),
    ("results", .arr (report.results.map CheckResult.toJson))]

/-! ## Deserialisation -/

/-- The status of a text, in lower case only. -/
def CheckStatus.ofText? (text : String) : Option CheckStatus :=
  [CheckStatus.pass, .warn, .fail, .skip].find? fun status => status.text = text

/-- The verdict of a text, in lower case only. -/
def Verdict.ofText? (text : String) : Option Verdict :=
  [Verdict.healthy, .warnings, .failed].find? fun verdict => verdict.text = text

namespace Json

/-- `serde_json::Value::as_u64`. -/
def asU64? : Json → Option ℕ
  | .num q => if q.den = 1 ∧ 0 ≤ q.num then some q.num.toNat else none
  | _ => none

/-- `serde_json::Value::as_array`. -/
def asArray? : Json → Option (List Json)
  | .arr items => some items
  | _ => none

/-- A field of type `Option<Value>` is none also for `null`. -/
def orNone : Option Json → Option Json
  | some .null => none
  | detail => detail

@[simp] theorem asU64?_natCast (n : ℕ) : asU64? (.num n) = some n := by
  simp [asU64?]

theorem orNone_eq_self_iff {detail : Option Json} :
    orNone detail = detail ↔ detail ≠ some .null := by
  rcases detail with _ | _ | _ <;> simp [orNone]

end Json

/-- The derived `Deserialize`, of an object. -/
def CheckResult.ofJson? (j : Json) : Option CheckResult := do
  let id ← (← j.get? "id").asStr?
  let name ← (← j.get? "name").asStr?
  let status ← CheckStatus.ofText? (← (← j.get? "status").asStr?)
  let latencyMs ← (← j.get? "latency_ms").asU64?
  let summary ← (← j.get? "summary").asStr?
  return ⟨id, name, status, latencyMs, summary, Json.orNone (j.get? "detail")⟩

/-- The derived `Deserialize` of a verdict. -/
def Verdict.ofJson? (j : Json) : Option Verdict := j.asStr?.bind Verdict.ofText?

/-- The derived `Deserialize` of a list of results. -/
def CheckResult.listOfJson? (j : Json) : Option (List CheckResult) := do
  (← j.asArray?).mapM CheckResult.ofJson?

/-- The three fields of a printed report give back its verdict, its total and its results. -/
structure Report.ReadsBack (report : Report) : Prop where
  verdict : (report.toJson.get? "verdict").bind Verdict.ofJson? = some report.verdict
  totalMs : (report.toJson.get? "total_ms").bind Json.asU64? = some report.totalMs
  results : (report.toJson.get? "results").bind CheckResult.listOfJson? = some report.results

/-! ## Round trips -/

@[simp] theorem CheckStatus.ofText?_text (status : CheckStatus) :
    CheckStatus.ofText? status.text = some status := by
  cases status <;> decide

@[simp] theorem Verdict.ofText?_text (verdict : Verdict) :
    Verdict.ofText? verdict.text = some verdict := by
  cases verdict <;> decide

/-- What a result reads back as. -/
def CheckResult.readBack (r : CheckResult) : CheckResult :=
  { r with detail := Json.orNone r.detail }

theorem CheckResult.readBack_eq_self_iff (r : CheckResult) :
    r.readBack = r ↔ r.detail ≠ some .null := by
  obtain ⟨id, name, status, latencyMs, summary, detail⟩ := r
  simp [readBack, Json.orNone_eq_self_iff]

/-- The derived `Deserialize` undoes the derived `Serialize`, up to a detail of `null`. -/
theorem CheckResult.ofJson?_toJson (r : CheckResult) :
    CheckResult.ofJson? r.toJson = some r.readBack := by
  obtain ⟨id, name, status, latencyMs, summary, detail⟩ := r
  have hdetail : (CheckResult.mk id name status latencyMs summary detail).toJson.get? "detail" =
      detail := by
    cases detail <;> rfl
  rw [CheckResult.ofJson?, hdetail]
  simp [CheckResult.toJson, CheckResult.readBack, Json.get?, Json.asStr?]

theorem CheckResult.listOfJson?_map_toJson : ∀ rs : List CheckResult,
    listOfJson? (.arr (rs.map toJson)) = some (rs.map readBack)
  | [] => rfl
  | r :: rs => by
    have ih : (rs.map toJson).mapM ofJson? = some (rs.map readBack) := listOfJson?_map_toJson rs
    show ((r :: rs).map toJson).mapM ofJson? = _
    rw [List.map_cons, List.mapM_cons, ih, ofJson?_toJson]
    rfl

/-- A report reads back exactly if no detail is `null`. -/
theorem Report.readsBack_iff (report : Report) :
    report.ReadsBack ↔ ∀ r ∈ report.results, r.detail ≠ some .null := by
  have hresults : (report.toJson.get? "results").bind CheckResult.listOfJson? =
      some (report.results.map CheckResult.readBack) :=
    CheckResult.listOfJson?_map_toJson report.results
  have hself : report.results.map CheckResult.readBack = report.results ↔
      ∀ r ∈ report.results, r.detail ≠ some .null := by
    rw [← forall₂_congr fun r _ => r.readBack_eq_self_iff, ← List.map_inj_left, List.map_id_fun',
      id]
  have hverdict : (report.toJson.get? "verdict").bind Verdict.ofJson? = some report.verdict :=
    Verdict.ofText?_text report.verdict
  have htotal : (report.toJson.get? "total_ms").bind Json.asU64? = some report.totalMs :=
    Json.asU64?_natCast report.totalMs
  rw [← hself]
  constructor
  · intro h
    exact Option.some.inj (hresults.symm.trans h.results)
  · intro h
    exact ⟨hverdict, htotal, by rw [hresults, h]⟩

/-! ## What the checks report -/

/-- What the renderers rely on of a result of the check `c`. -/
structure Check.Reports (c : Check ProbeContext) (r : CheckResult) : Prop where
  id : r.id = c.id
  detail : ∀ detail ∈ r.detail, ∃ fields, detail = .obj fields

namespace Check.Reports

variable {c : Check ProbeContext} {r : CheckResult}

theorem of_none (hid : r.id = c.id) (hdetail : r.detail = none) : c.Reports r :=
  ⟨hid, by simp [hdetail]⟩

theorem of_obj {fields : List (String × Json)} (hid : r.id = c.id)
    (hdetail : r.detail = some (.obj fields)) : c.Reports r :=
  ⟨hid, by simp [hdetail]⟩

theorem detail_ne_null (h : c.Reports r) : r.detail ≠ some .null := by
  intro hnull
  obtain ⟨fields, hfields⟩ := h.detail _ hnull
  cases hfields

end Check.Reports

theorem DnsCheck.run_reports (env : DnsEnv) (ctx : ProbeContext) :
    (check env).Reports (run env ctx).2 := by
  unfold run
  split
  · exact .of_none rfl rfl
  dsimp only
  split
  · exact .of_none rfl rfl
  split
  · exact .of_none rfl rfl
  · exact .of_obj rfl rfl

theorem StunBindingCheck.run_reports (env : StunEnv) (ctx : ProbeContext) :
    (check env).Reports (run env ctx).2 := by
  unfold run
  split
  · exact .of_none rfl rfl
  split
  · exact .of_none rfl rfl
  dsimp only
  split
  · exact .of_none rfl rfl
  split
  · exact .of_none rfl rfl
  split
  · exact .of_none rfl rfl
  · exact .of_none rfl rfl
  split
  · exact .of_obj rfl rfl
  · exact .of_none rfl rfl

theorem TurnAllocateCheck.runAuthed_reports (env : TurnAllocEnv) (ctx : ProbeContext)
    (server : SocketAddr) (started recvTimeout : ℕ) (sock : UdpSocket) (realm : String)
    (nonce : List UInt8) (user pass : String) : (check env).Reports
      (runAuthed env ctx server started recvTimeout sock realm nonce user pass).1.2 := by
  unfold runAuthed
  dsimp only
  split
  · exact .of_none rfl rfl
  split
  · exact .of_obj rfl rfl
  · exact .of_none rfl rfl
  · exact .of_none rfl rfl

theorem TurnAllocateCheck.run_reports (env : TurnAllocEnv) (ctx : ProbeContext) :
    (check env).Reports (run env ctx).2 := by
  unfold run
  split
  · exact .of_none rfl rfl
  split
  · exact .of_none rfl rfl
  split
  · exact .of_none rfl rfl
  unfold runOn
  dsimp only
  split
  · exact .of_none rfl rfl
  split
  · exact .of_obj rfl rfl
  · exact .of_none rfl rfl
  split
  · exact runAuthed_reports _ _ _ _ _ _ _ _ _ _
  · exact .of_obj rfl rfl

theorem TurnEchoCheck.run_reports (env : TurnEchoEnv) (ctx : ProbeContext) :
    (check env).Reports (run env ctx).2 := by
  unfold run
  split
  · exact .of_none rfl rfl
  split
  · exact .of_none rfl rfl
  unfold runSession
  dsimp only
  split
  · exact .of_none rfl rfl
  split
  · exact .of_none rfl rfl
  unfold collect
  dsimp only
  split
  · exact .of_none rfl rfl
  unfold report
  dsimp only
  split
  · exact .of_obj rfl rfl
  split
  · exact .of_obj rfl rfl
  · exact .of_obj rfl rfl

theorem TurnsAllocateCheck.runAuthed_reports (env : TurnsAllocEnv) (ctx : ProbeContext)
    (server : SocketAddr) (host : String) (tlsMs recvTimeout : ℕ) (tls : TlsStream)
    (realm : String) (nonce : List UInt8) (user pass : String) : (check env).Reports
      (runAuthed env ctx server host tlsMs recvTimeout tls realm nonce user pass).1.2 := by
  unfold runAuthed
  dsimp only
  split
  · exact .of_none rfl rfl
  split
  · exact .of_obj rfl rfl
  · exact .of_none rfl rfl
  · exact .of_none rfl rfl

theorem TurnsAllocateCheck.runOn_reports (env : TurnsAllocEnv) (ctx : ProbeContext)
    (server : SocketAddr) (host : String) (tlsMs recvTimeout : ℕ) (tls : TlsStream) :
    (check env).Reports (runOn env ctx server host tlsMs recvTimeout tls).1.2 := by
  unfold runOn
  dsimp only
  split
  · exact .of_none rfl rfl
  split
  · exact .of_obj rfl rfl
  · exact .of_none rfl rfl
  split
  · exact runAuthed_reports _ _ _ _ _ _ _ _ _ _ _
  · exact .of_obj rfl rfl

theorem TurnsAllocateCheck.run_reports (env : TurnsAllocEnv) (ctx : ProbeContext) :
    (check env).Reports (run env ctx).2 := by
  unfold run
  split
  · exact .of_none rfl rfl
  split
  · exact .of_none rfl rfl
  split
  · exact .of_none rfl rfl
  dsimp only
  split
  · exact .of_none rfl rfl
  split
  · exact .of_none rfl rfl
  · exact .of_none rfl rfl
  split
  · exact .of_none rfl rfl
  · exact .of_none rfl rfl
  · exact runOn_reports _ _ _ _ _ _ _

theorem IceGatherCheck.run_reports (env : IceGatherEnv) (ctx : ProbeContext) :
    (check env).Reports (run env ctx).2 := by
  unfold run
  split
  · exact .of_none rfl rfl
  dsimp only
  split
  · exact .of_obj rfl rfl
  · exact .of_obj rfl rfl

theorem SignalingCheck.run_reports (env : SignalingEnv) (self : SignalingCheck)
    (ctx : ProbeContext) : (check env self).Reports (run env self ctx).2 := by
  unfold run
  split
  · exact .of_none rfl rfl
  split
  · exact .of_none rfl rfl
  dsimp only
  split
  · exact .of_obj rfl rfl
  · exact .of_none rfl rfl
  · exact .of_none rfl rfl

theorem DtlsLoopbackCheck.run_reports (env : DtlsEnv) (ctx : ProbeContext) :
    (check env).Reports (run env ctx).2 := by
  unfold run
  dsimp only
  split
  · exact .of_obj rfl rfl
  · exact .of_none rfl rfl
  · exact .of_none rfl rfl

theorem DtlsRemoteCheck.run_reports (env : DtlsEnv) (ctx : ProbeContext) :
    (check env).Reports (run env ctx).2 := by
  unfold run
  split
  · exact .of_none rfl rfl
  split
  · exact .of_none rfl rfl
  dsimp only
  split
  · exact .of_obj rfl rfl
  · exact .of_none rfl rfl
  · exact .of_none rfl rfl

theorem ProbeCheck.run_reports (p : ProbeCheck) (ctx : ProbeContext) :
    p.check.Reports (p.check.run ctx).2 := by
  cases p with
  | dns env => exact DnsCheck.run_reports env ctx
  | stun env => exact StunBindingCheck.run_reports env ctx
  | turnAlloc env => exact TurnAllocateCheck.run_reports env ctx
  | turnEcho env => exact TurnEchoCheck.run_reports env ctx
  | turnsAlloc env => exact TurnsAllocateCheck.run_reports env ctx
  | iceGather env => exact IceGatherCheck.run_reports env ctx
  | signaling env self => exact SignalingCheck.run_reports env self ctx
  | dtlsLoopback env => exact DtlsLoopbackCheck.run_reports env ctx
  | dtlsRemote env => exact DtlsRemoteCheck.run_reports env ctx

theorem ProbeCheck.reports_of_gives {p : ProbeCheck} {r : CheckResult}
    (h : Pipeline.Gives p.check r) : p.check.Reports r := by
  rcases h with ⟨ctx, rfl⟩ | ⟨passed, rfl⟩
  · exact p.run_reports ctx
  · exact .of_none rfl rfl

/-! ## What a subcommand prints -/

/-- The checks of the pipelines that the subcommands build are the checks of the library. -/
theorem Job.Built.exists_probeCheck {job : Job} (hjob : job.Built) {c : Check ProbeContext}
    (hc : c ∈ job.checks) : ∃ p : ProbeCheck, p.check = c := by
  cases hjob with
  | stun env t =>
    rcases List.mem_pair.1 hc with rfl | rfl
    · exact ⟨.dns _, rfl⟩
    · exact ⟨.stun _, rfl⟩
  | turn env t user pass echoCount =>
    simp only [turnJob, List.mem_cons, List.not_mem_nil, or_false] at hc
    rcases hc with rfl | rfl | rfl | rfl
    · exact ⟨.dns _, rfl⟩
    · exact ⟨.stun _, rfl⟩
    · exact ⟨.turnAlloc _, rfl⟩
    · exact ⟨.turnEcho _, rfl⟩
  | turns env t user pass =>
    rcases List.mem_pair.1 hc with rfl | rfl
    · exact ⟨.dns _, rfl⟩
    · exact ⟨.turnsAlloc _, rfl⟩
  | signaling env host url auth =>
    rcases List.mem_pair.1 hc with rfl | rfl
    · exact ⟨.dns _, rfl⟩
    · exact ⟨.signaling _ _, rfl⟩
  | dtlsRemote env t =>
    rcases List.mem_pair.1 hc with rfl | rfl
    · exact ⟨.dns _, rfl⟩
    · exact ⟨.dtlsRemote _, rfl⟩
  | dtlsLoopback env =>
    obtain rfl := List.mem_singleton.1 hc
    exact ⟨.dtlsLoopback _, rfl⟩
  | iceStun env t =>
    simp only [iceStunJob, List.mem_cons, List.not_mem_nil, or_false] at hc
    rcases hc with rfl | rfl | rfl
    · exact ⟨.dns _, rfl⟩
    · exact ⟨.stun _, rfl⟩
    · exact ⟨.iceGather _, rfl⟩
  | iceTurn env t user pass =>
    simp only [iceTurnJob, List.mem_cons, List.not_mem_nil, or_false] at hc
    rcases hc with rfl | rfl | rfl | rfl
    · exact ⟨.dns _, rfl⟩
    · exact ⟨.stun _, rfl⟩
    · exact ⟨.turnAlloc _, rfl⟩
    · exact ⟨.iceGather _, rfl⟩

/-- Every result of a report is of a check of the library. -/
theorem exists_gives_of_main {env : CliEnv} {command : Command} {header : String}
    {report : Report} (h : main env command = .ok (.report header report)) {r : CheckResult}
    (hr : r ∈ report.results) : ∃ p : ProbeCheck, Pipeline.Gives p.check r := by
  unfold main at h
  cases hplan : plan env command env.stdin with
  | error e =>
    rw [hplan] at h
    cases h
  | ok planned =>
    rw [hplan] at h
    rw [Plan.results_of_outcome (Except.ok.inj h)] at hr
    obtain ⟨job, hjob, hr⟩ := List.mem_flatMap.1 hr
    obtain ⟨c, hc, hgives⟩ := Pipeline.exists_gives_of_mem hr
    obtain ⟨p, rfl⟩ := (built_of_mem_jobs hplan job hjob).exists_probeCheck hc
    exact ⟨p, hgives⟩

/-- What any subcommand prints as JSON reads back as the report it made : its verdict, its total
and every result whole. -/
theorem report_reads_back {env : CliEnv} {command : Command} {header : String} {report : Report}
    (h : main env command = .ok (.report header report)) : report.ReadsBack := by
  refine report.readsBack_iff.2 fun r hr => ?_
  obtain ⟨p, hgives⟩ := exists_gives_of_main h hr
  exact (ProbeCheck.reports_of_gives hgives).detail_ne_null

open Sample in
/-- `stun stun:192.0.2.1` with a server that answers. -/
theorem report_reads_back_binding :
    main (cliEnv []) (.stun "stun:192.0.2.1") = .ok (.report "probing 192.0.2.1 (stun)"
      (stunJob (env []) ⟨"192.0.2.1", 3478⟩).report) ∧
    (stunJob (env []) ⟨"192.0.2.1", 3478⟩).report.ReadsBack := by
  have ht : parseStunLike "stun:192.0.2.1" ["stun"] 3478 = .ok ⟨"192.0.2.1", 3478⟩ := by decide
  have hmain : main (cliEnv []) (.stun "stun:192.0.2.1") =
      .ok (.report "probing 192.0.2.1 (stun)" (stunJob (env []) ⟨"192.0.2.1", 3478⟩).report) := by
    simp only [main, plan, ht]
    rfl
  exact ⟨hmain, report_reads_back hmain⟩

end WebrtcDoctor
