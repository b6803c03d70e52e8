import Mathlib.Data.Rat.Defs

/-!
# Results of checks

`CheckResult` is what one check of a pipeline reports, with the detail that goes into the
JSON report.
-/

namespace WebrtcDoctor

/-- How a check ends. -/
inductive CheckStatus where
  | pass
  | warn
  | fail
  /-- A prerequisite did not pass, or the target was not supplied. -/
  | skip
deriving DecidableEq, Repr

/-- `serde_json::Value`. A number is the exact rational the report computes, before it is
rounded to a double. -/
inductive Json where
  | null
  | bool (b : Bool)
  | num (q : ℚ)
  | str (s : String)
  | arr (items : List Json)
  | obj (fields : List (String × Json))

/-- `serde_json::Value::get` with a string key. -/
def Json.get? : Json → String → Option Json
  | .obj fields, key => (fields.find? fun f => f.1 = key).map Prod.snd
  | _, _ => none

/-- `serde_json::Value::as_str`. -/
def Json.asStr? : Json → Option String
  | .str s => some s
  | _ => none

/-- Outcome of a single check in a probe pipeline. -/
structure CheckResult where
  id : String
  name : String
  status : CheckStatus
  /-- Wall-clock duration in milliseconds. -/
  latencyMs : ℕ
  summary : String
  detail : Option Json

namespace CheckResult

/-- A pass without detail. -/
def pass (id name : String) (latencyMs : ℕ) (summary : String) : CheckResult :=
  ⟨id, name, .pass, latencyMs, summary, none⟩

/-- A failure without detail. -/
def fail (id name : String) (latencyMs : ℕ) (summary : String) : CheckResult :=
  ⟨id, name, .fail, latencyMs, summary, none⟩

/-- A warning without detail. -/
def warn (id name : String) (latencyMs : ℕ) (summary : String) : CheckResult :=
  ⟨id, name, .warn, latencyMs, summary, none⟩

/-- A check that was not run. It took no time. -/
def skip (id name : String) (summary : String) : CheckResult :=
  ⟨id, name, .skip, 0, summary, none⟩

/-- The result with a detail. -/
def withDetail (r : CheckResult) (detail : Json) : CheckResult := { r with detail := some detail }

/-- The text under `key` in the detail. -/
def detailStr? (r : CheckResult) (key : String) : Option String :=
  (r.detail.bind (·.get? key)).bind Json.asStr?

variable (id name summary : String) (ms : ℕ) (r : CheckResult) (detail : Json)

@[simp] theorem status_pass : (pass id name ms summary).status = .pass := rfl

@[simp] theorem status_fail : (fail id name ms summary).status = .fail := rfl

@[simp] theorem status_warn : (warn id name ms summary).status = .warn := rfl

@[simp] theorem status_skip : (skip id name summary).status = .skip := rfl

@[simp] theorem status_withDetail : (r.withDetail detail).status = r.status := rfl

@[simp] theorem detail_withDetail : (r.withDetail detail).detail = some detail := rfl

@[simp] theorem id_pass : (pass id name ms summary).id = id := rfl

@[simp] theorem id_fail : (fail id name ms summary).id = id := rfl

@[simp] theorem id_warn : (warn id name ms summary).id = id := rfl

@[simp] theorem id_skip : (skip id name summary).id = id := rfl

@[simp] theorem id_withDetail : (r.withDetail detail).id = r.id := rfl

end CheckResult

end WebrtcDoctor
