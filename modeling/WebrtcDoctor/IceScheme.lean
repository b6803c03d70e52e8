import WebrtcDoctor.Session
import WebrtcDoctor.UriForms

/-!
# The scheme of the `ice` subcommand

`parseStunLike` compares the scheme in lower case. The `ice` subcommand then tests the URL again,
for the literal prefix `turn:`. The two agree on every accepted URL except one whose scheme is
`turn` in another case (`iceAgrees_iff`). There the relay candidate is dropped, or the
credentials are refused as those of a `stun:` URL.
-/

open Checked NetAddr

namespace WebrtcDoctor

/-- The scheme as it is written. -/
def writtenScheme (url : String) : String :=
  match splitOnce ':' url.toList with
  | some (scheme, _) => String.ofList scheme
  | none => ""

/-- The scheme as `parseStunLike` compares it. -/
def matchedScheme (url : String) : String :=
  String.ofList (toAsciiLowercase (writtenScheme url).toList)

/-- Some credential option is given. -/
def supplied (user pass : Secret) : Bool :=
  user.flag.isSome || pass.flag.isSome || user.fromStdin || pass.fromStdin

/-- The refusal of credentials for a URL that does not take them. -/
def credentialsError : String :=
  "credentials supplied but URL scheme is `stun:`; use a `turn:` URL " ++
    "to collect a relay candidate"

/-- The allocation over UDP is one of the checks. -/
def Job.HasAllocate (job : Job) : Prop := TurnAllocateCheck.id ∈ job.checks.map Check.id

/-- The plan of the subcommand follows the scheme that was matched. For `turn`, wherever the
credentials can be read, it has the allocation and the credentials. No other plan has either,
and credentials are refused exactly with `stun`. -/
structure IceAgrees (env : CliEnv) (url : String) (user pass : Secret)
    (stdin : List (Except String String)) : Prop where
  turn : matchedScheme url = "turn" → ∀ u s p s',
    resolveSecret user "TURN username" stdin = .ok (u, s) →
    resolveSecret pass "TURN password" s = .ok (p, s') →
      ∃ header job, plan env (.ice url user pass) stdin = .ok (.single header job, s') ∧
        job.HasAllocate ∧ job.ctx.turnUser = u ∧ job.ctx.turnPass = p
  only : ∀ p s, plan env (.ice url user pass) stdin = .ok (p, s) → ∀ job ∈ p.jobs,
    (job.HasAllocate ∨ job.ctx.turnUser ≠ none ∨ job.ctx.turnPass ≠ none) →
      matchedScheme url = "turn"
  refused : plan env (.ice url user pass) stdin = .error credentialsError ↔
    matchedScheme url = "stun" ∧ supplied user pass

/-! ## The two tests -/

/-- The scheme is the text before the first colon. -/
theorem writtenScheme_eq {url : String} {scheme rest : List Char}
    (hurl : url.toList = scheme ++ ':' :: rest) (hcolon : ':' ∉ scheme) :
    writtenScheme url = String.ofList scheme := by
  rw [writtenScheme, hurl, splitOnce_append rest hcolon]

/-- The prefix test is one of the scheme as it is written. -/
theorem startsWith_turn_iff {url : String} {scheme rest : List Char}
    (hurl : url.toList = scheme ++ ':' :: rest) (hcolon : ':' ∉ scheme) :
    startsWith url "turn:" ↔ writtenScheme url = "turn" := by
  rw [writtenScheme_eq hurl hcolon, startsWith, List.isPrefixOf_iff_prefix, hurl]
  constructor
  · rintro ⟨tail, htail⟩
    have hsplit : splitOnce ':' ("turn:".toList ++ tail) = some ("turn".toList, tail) :=
      splitOnce_append tail (show ':' ∉ "turn".toList by decide)
    rw [htail, splitOnce_append rest hcolon] at hsplit
    rw [(Prod.mk.inj (Option.some.inj hsplit)).1]
    rfl
  · intro h
    have hscheme : scheme = "turn".toList := by
      rw [← h, String.toList_ofList]
    exact ⟨rest, by rw [hscheme]; rfl⟩

/-! ## Credentials -/

/-- A sequence of readers fails exactly if the first part does, or the second after it. -/
theorem reader_bind_eq_error {α β : Type} {x : Reader α} {f : α → Reader β}
    {stdin : List (Except String String)} {e : String} :
    (x >>= f) stdin = .error e ↔
      x stdin = .error e ∨ ∃ a s, x stdin = .ok (a, s) ∧ f a s = .error e := by
  show (x stdin >>= fun p => f p.1 p.2) = .error e ↔ _
  rcases x stdin with e' | ⟨a, s⟩
  · simp [bind, Except.bind]
  · simp [bind, Except.bind]

/-- Reading a line fails for the system's reason or for an empty line. -/
theorem readLineFromStdin_error {label e : String} {stdin : List (Except String String)}
    (h : readLineFromStdin label stdin = .error e) :
    .error e ∈ stdin ∨ e = s!"got empty input for {label} on stdin" := by
  unfold readLineFromStdin at h
  split at h
  · cases h
    exact .inl List.mem_cons_self
  · dsimp only at h
    split_ifs at h
    cases h
    exact .inr rfl

/-- Reading a line takes one line. -/
theorem readLineFromStdin_rest {label line : String} {stdin rest : List (Except String String)}
    (h : readLineFromStdin label stdin = .ok (line, rest)) : rest = stdin.tail := by
  unfold readLineFromStdin at h
  split at h
  · cases h
  · dsimp only at h
    split_ifs at h
    cases h
    rfl

/-- A read of a credential fails as standard input does, or because the line is empty. -/
theorem resolveSecret_error {secret : Secret} {label e : String}
    {stdin : List (Except String String)} (h : resolveSecret secret label stdin = .error e) :
    .error e ∈ stdin ∨ e = s!"got empty input for {label} on stdin" := by
  by_cases hstdin : secret.fromStdin
  · rw [resolveSecret, if_pos hstdin] at h
    rcases reader_bind_eq_error.1 h with hline | ⟨line, s, -, hpure⟩
    · exact readLineFromStdin_error hline
    · cases hpure
  · rw [resolveSecret, if_neg hstdin] at h
    cases h

/-- What is left to read is part of what there was. -/
theorem resolveSecret_rest {secret : Secret} {label : String} {u : Option String}
    {stdin rest : List (Except String String)}
    (h : resolveSecret secret label stdin = .ok (u, rest)) : rest ⊆ stdin := by
  by_cases hstdin : secret.fromStdin
  · rw [resolveSecret, if_pos hstdin] at h
    obtain ⟨line, s, hline, hrest⟩ := reader_bind_eq_ok.1 h
    cases hrest
    rw [readLineFromStdin_rest hline]
    exact List.tail_subset stdin
  · rw [resolveSecret, if_neg hstdin] at h
    cases h
    exact List.Subset.refl _

/-! ## The plan -/

section

variable (env : CliEnv) {url : String} {t : Target} {user pass : Secret}
  {stdin : List (Except String String)} (hparse : parseStunLike url ["stun", "turn"] 3478 = .ok t)

include hparse

/-- With `turn:` the subcommand reads the credentials and plans the allocation. -/
theorem plan_ice_turn (h : startsWith url "turn:") : plan env (.ice url user pass) stdin =
    (do
      let u ← resolveSecret user "TURN username"
      let p ← resolveSecret pass "TURN password"
      return .single s!"probing {t.host} (ice)" (iceTurnJob env.single t u p) : Reader Plan)
      stdin := by
  rw [plan, hparse]
  show (if startsWith url "turn:" then _ else _ : Reader Plan) stdin = _
  rw [if_pos h]

/-- Without `turn:` credentials are refused. -/
theorem plan_ice_refused (h : ¬startsWith url "turn:") (hsupplied : supplied user pass) :
    plan env (.ice url user pass) stdin = .error credentialsError := by
  rw [plan, hparse]
  show (if startsWith url "turn:" then _ else if supplied user pass then _ else _ : Reader Plan)
    stdin = _
  rw [if_neg h, if_pos hsupplied]
  rfl

/-- Without `turn:` and credentials the subcommand plans no allocation. -/
theorem plan_ice_stun (h : ¬startsWith url "turn:") (hsupplied : ¬supplied user pass) :
    plan env (.ice url user pass) stdin =
      .ok (.single s!"probing {t.host} (ice)" (iceStunJob env.single t), stdin) := by
  rw [plan, hparse]
  show (if startsWith url "turn:" then _ else if supplied user pass then _ else _ : Reader Plan)
    stdin = _
  rw [if_neg h, if_neg hsupplied]
  rfl

end

/-! ## Agreement -/

/-- No failure to read a credential has the text of the refusal. -/
theorem resolveSecret_ne_credentialsError {secret : Secret} {label : String}
    {stdin : List (Except String String)} (hstdin : ∀ e, .error e ∈ stdin → e ≠ credentialsError)
    (hlabel : s!"got empty input for {label} on stdin" ≠ credentialsError) :
    resolveSecret secret label stdin ≠ .error credentialsError := by
  intro h
  rcases resolveSecret_error h with hmem | heq
  · exact hstdin _ hmem rfl
  · exact hlabel heq.symm

/-- An accepted URL matches `stun` or `turn`. -/
theorem matchedScheme_cases {url : String} {t : Target}
    (hparse : parseStunLike url ["stun", "turn"] 3478 = .ok t) :
    matchedScheme url = "stun" ∨ matchedScheme url = "turn" := by
  obtain ⟨scheme, rest, hurl, ⟨hcolon, hallowed⟩, -⟩ := of_parse hparse
  rw [matchedScheme, writtenScheme_eq hurl hcolon, String.toList_ofList]
  simpa using hallowed

/-- An accepted URL begins with `turn:` exactly if the scheme is written so. -/
theorem startsWith_turn_of_parse {url : String} {t : Target}
    (hparse : parseStunLike url ["stun", "turn"] 3478 = .ok t) :
    startsWith url "turn:" ↔ writtenScheme url = "turn" := by
  obtain ⟨scheme, rest, hurl, ⟨hcolon, -⟩, -⟩ := of_parse hparse
  exact startsWith_turn_iff hurl hcolon

/-- A scheme written `turn` is matched as `turn`. -/
theorem matchedScheme_of_written {url : String} (h : writtenScheme url = "turn") :
    matchedScheme url = "turn" := by
  rw [matchedScheme, h]
  decide

theorem hasAllocate_iceTurnJob (env : PipelineEnv) (t : Target) (user pass : Option String) :
    (iceTurnJob env t user pass).HasAllocate := by
  simp [Job.HasAllocate, iceTurnJob, TurnAllocateCheck.check]

theorem not_hasAllocate_iceStunJob (env : PipelineEnv) (t : Target) :
    ¬(iceStunJob env t).HasAllocate := by
  show TurnAllocateCheck.id ∉ [DnsCheck.id, StunBindingCheck.id, IceGatherCheck.id]
  decide

section

variable (env : CliEnv) {url : String} {t : Target} (user pass : Secret)
  {stdin : List (Except String String)} (hparse : parseStunLike url ["stun", "turn"] 3478 = .ok t)

include hparse

/-- A scheme written `turn` takes the branch of the allocation. -/
theorem iceAgrees_of_written (hstdin : ∀ e, .error e ∈ stdin → e ≠ credentialsError)
    (h : writtenScheme url = "turn") : IceAgrees env url user pass stdin := by
  have hmatched := matchedScheme_of_written h
  have hplan : plan env (.ice url user pass) stdin = _ :=
    plan_ice_turn env hparse ((startsWith_turn_of_parse hparse).2 h)
  refine ⟨fun _ u s p s' hu hp => ?_, fun _ _ _ _ _ _ => hmatched, fun herr => ?_, fun hstun => ?_⟩
  · refine ⟨s!"probing {t.host} (ice)", iceTurnJob env.single t u p, ?_,
      hasAllocate_iceTurnJob env.single t u p, rfl, rfl⟩
    rw [hplan]
    exact reader_bind_eq_ok.2 ⟨u, s, hu, reader_bind_eq_ok.2 ⟨p, s', hp, rfl⟩⟩
  · rw [hplan] at herr
    exfalso
    rcases reader_bind_eq_error.1 herr with hu | ⟨u, s, hu, herr⟩
    · exact resolveSecret_ne_credentialsError hstdin (by decide) hu
    rcases reader_bind_eq_error.1 herr with hp | ⟨p, s', hp, herr⟩
    · exact resolveSecret_ne_credentialsError (fun e he => hstdin e (resolveSecret_rest hu he))
        (by decide) hp
    cases herr
  · rw [hmatched] at hstun
    exact absurd hstun.1 (by decide)

/-- A scheme matched as `stun` takes the other branch. -/
theorem iceAgrees_of_stun (h : matchedScheme url = "stun") :
    IceAgrees env url user pass stdin := by
  have hturn : matchedScheme url ≠ "turn" := by
    rw [h]
    decide
  have hstart : ¬startsWith url "turn:" := fun hstart =>
    hturn (matchedScheme_of_written ((startsWith_turn_of_parse hparse).1 hstart))
  refine ⟨fun hmatched => absurd hmatched hturn, fun p s hp job hjob hhas => ?_, fun herr => ?_,
    fun hstun => plan_ice_refused env hparse hstart hstun.2⟩
  · by_cases hsupplied : supplied user pass
    · rw [plan_ice_refused env hparse hstart hsupplied] at hp
      cases hp
    rw [plan_ice_stun env hparse hstart hsupplied] at hp
    cases hp
    rw [List.mem_singleton.1 hjob] at hhas
    rcases hhas with hhas | hhas | hhas
    · exact absurd hhas (not_hasAllocate_iceStunJob _ _)
    · exact absurd rfl hhas
    · exact absurd rfl hhas
  · by_contra hsupplied
    rw [plan_ice_stun env hparse hstart fun hs => hsupplied ⟨h, hs⟩] at herr
    cases herr

/-- `turn` in another case is refused, or loses the relay candidate. -/
theorem not_iceAgrees (h : matchedScheme url = "turn") (hwritten : writtenScheme url ≠ "turn") :
    ¬IceAgrees env url user pass stdin := by
  intro hagrees
  have hstart : ¬startsWith url "turn:" := fun hstart =>
    hwritten ((startsWith_turn_of_parse hparse).1 hstart)
  by_cases hsupplied : supplied user pass
  · have hstun := (hagrees.refused.1 (plan_ice_refused env hparse hstart hsupplied)).1
    rw [h] at hstun
    exact absurd hstun (by decide)
  · obtain ⟨⟨⟨huser, hpass⟩, huserStdin⟩, hpassStdin⟩ : ((user.flag = none ∧ pass.flag = none) ∧
        user.fromStdin = false) ∧ pass.fromStdin = false := by
      simpa [supplied] using hsupplied
    have hread : ∀ (secret : Secret) (label : String), secret.flag = none →
        secret.fromStdin = false → resolveSecret secret label stdin = .ok (none, stdin) := by
      intro secret label hflag hfrom
      rw [resolveSecret, hfrom, hflag]
      rfl
    obtain ⟨header, job, hplan, hhas, -, -⟩ := hagrees.turn h none stdin none stdin
      (hread user _ huser huserStdin) (hread pass _ hpass hpassStdin)
    rw [plan_ice_stun env hparse hstart hsupplied] at hplan
    cases hplan
    exact not_hasAllocate_iceStunJob _ _ hhas

end

/-- The subcommand agrees with the URL parser exactly when `turn` is written in lower case.
A line of standard input that cannot be read is reported with an error text of the operating
system, which is not the refusal's. -/
theorem iceAgrees_iff (env : CliEnv) {url : String} {t : Target} (user pass : Secret)
    {stdin : List (Except String String)}
    (hparse : parseStunLike url ["stun", "turn"] 3478 = .ok t)
    (hstdin : ∀ e, .error e ∈ stdin → e ≠ credentialsError) :
    IceAgrees env url user pass stdin ↔
      (matchedScheme url = "turn" → writtenScheme url = "turn") := by
  constructor
  · intro hagrees hmatched
    by_contra hwritten
    exact not_iceAgrees env user pass hparse hmatched hwritten hagrees
  · intro h
    rcases matchedScheme_cases hparse with hstun | hturn
    · exact iceAgrees_of_stun env user pass hparse hstun
    · exact iceAgrees_of_written env user pass hparse hstdin (h hturn)

open Sample in
/-- `turn:192.0.2.1` with the user name on standard input. -/
theorem iceAgrees_iff_login :
    IceAgrees (cliEnv []) "turn:192.0.2.1" ⟨none, true⟩ ⟨some "pass", false⟩
        [.ok "user", .error "stream did not contain valid UTF-8"] ↔
      (matchedScheme "turn:192.0.2.1" = "turn" → writtenScheme "turn:192.0.2.1" = "turn") := by
  have hparse : parseStunLike "turn:192.0.2.1" ["stun", "turn"] 3478 = .ok ⟨"192.0.2.1", 3478⟩ := by
    decide
  refine iceAgrees_iff (cliEnv []) ⟨none, true⟩ ⟨some "pass", false⟩ hparse fun e he => ?_
  obtain rfl : e = "stream did not contain valid UTF-8" := by simpa using he
  decide

open Sample in
/-- `TURN:192.0.2.1` is accepted. With credentials it is refused as a `stun:` URL, and without
them it has no allocation. -/
theorem upperCase_turn :
    parseStunLike "TURN:192.0.2.1" ["stun", "turn"] 3478 = .ok ⟨"192.0.2.1", 3478⟩ ∧
      matchedScheme "TURN:192.0.2.1" = "turn" ∧
      plan (cliEnv []) (.ice "TURN:192.0.2.1" ⟨some "user", false⟩ ⟨some "pass", false⟩) [] =
        .error credentialsError ∧
      (∃ header job,
        plan (cliEnv []) (.ice "TURN:192.0.2.1" ⟨none, false⟩ ⟨none, false⟩) [] =
          .ok (.single header job, []) ∧ ¬job.HasAllocate) ∧
      ∀ user pass : Secret, ¬IceAgrees (cliEnv []) "TURN:192.0.2.1" user pass [] := by
  have hparse : parseStunLike "TURN:192.0.2.1" ["stun", "turn"] 3478 = .ok ⟨"192.0.2.1", 3478⟩ := by
    decide
  have hstart : ¬startsWith "TURN:192.0.2.1" "turn:" := by decide
  refine ⟨hparse, by decide, plan_ice_refused _ hparse hstart (by decide),
    ⟨_, _, plan_ice_stun _ hparse hstart (by decide), not_hasAllocate_iceStunJob _ _⟩,
    fun user pass => not_iceAgrees _ user pass hparse (by decide) (by decide)⟩

end WebrtcDoctor
