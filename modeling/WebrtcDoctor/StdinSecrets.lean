import WebrtcDoctor.Cli

/-!
# Secrets from standard input

A secret is given as a flag or, with its `-stdin` variant, as a line of standard input, so that it
stays out of the process list. `Command.Reads` is what a subcommand makes of the lines : the same
subcommand with the lines as flags, the username before the password and the password before the
header, one line each. The program ends as it does with these flags, and if a line is missing or
empty it does not run (`stdin_as_flags`).
-/

open Checked

namespace WebrtcDoctor

/-- Lines of standard input, or errors of reading one. -/
abbrev Stdin := List (Except String String)

/-- A line without its line ending. -/
def lineText (line : String) : String :=
  String.ofList (line.toList.reverse.dropWhile fun c => c = '\n' ∨ c = '\r').reverse

/-- The secret as a flag, and the lines left. -/
inductive Secret.Reads : Secret → Stdin → Secret → Stdin → Prop
  | flag (value : Option String) (stdin : Stdin) : Reads ⟨value, false⟩ stdin ⟨value, false⟩ stdin
  | line (value : Option String) {line : String} (h : lineText line ≠ "") (rest : Stdin) :
      Reads ⟨value, true⟩ (.ok line :: rest) ⟨some (lineText line), false⟩ rest

theorem Secret.Reads.exists_flag {secret secret' : Secret} {stdin rest : Stdin}
    (h : secret.Reads stdin secret' rest) : ∃ value, secret' = ⟨value, false⟩ := by
  cases h with
  | flag value => exact ⟨value, rfl⟩
  | line => exact ⟨_, rfl⟩

theorem readLineFromStdin_eq_ok {label text : String} {stdin rest : Stdin} :
    readLineFromStdin label stdin = .ok (text, rest) ↔
      ∃ line, stdin = .ok line :: rest ∧ lineText line = text ∧ text ≠ "" := by
  rcases stdin with _ | ⟨e | line, lines⟩
  · exact ⟨nofun, nofun⟩
  · exact ⟨nofun, nofun⟩
  have hread : readLineFromStdin label (.ok line :: lines) =
      if lineText line = "" then .error s!"got empty input for {label} on stdin"
      else .ok (lineText line, lines) := by
    unfold readLineFromStdin lineText
    dsimp only
    by_cases h : (line.toList.reverse.dropWhile fun c => c = '\n' ∨ c = '\r').reverse = []
    · rw [if_pos h, h, if_pos rfl]
    · rw [if_neg h, if_neg fun hempty => h (String.ofList_injective hempty)]
      rfl
  rw [hread]
  constructor
  · intro h
    split at h
    · cases h
    next hne =>
    cases h
    exact ⟨line, rfl, rfl, hne⟩
  · rintro ⟨_, h, rfl, hne⟩
    cases h
    rw [if_neg hne]

/-- A secret is resolved exactly as it reads the lines of standard input. -/
theorem resolveSecret_eq_ok {secret : Secret} {label : String} {stdin rest : Stdin}
    {value : Option String} : resolveSecret secret label stdin = .ok (value, rest) ↔
      secret.Reads stdin ⟨value, false⟩ rest := by
  obtain ⟨flag, fromStdin⟩ := secret
  cases fromStdin with
  | false =>
    constructor
    · intro h
      cases h
      exact .flag _ _
    · intro h
      cases h
      rfl
  | true =>
    rw [resolveSecret, if_pos rfl, reader_bind_eq_ok]
    constructor
    · rintro ⟨text, s, hread, h⟩
      cases h
      obtain ⟨line, rfl, rfl, hne⟩ := readLineFromStdin_eq_ok.1 hread
      exact .line _ hne _
    · intro h
      cases h with
      | line _ hne _ => exact ⟨_, rest, readLineFromStdin_eq_ok.2 ⟨_, rfl, rfl, hne⟩, rfl⟩

/-- The subcommand with its secrets as flags, and the lines left. -/
inductive Command.Reads : Command → Stdin → Command → Stdin → Prop
  | stun (url : String) (stdin : Stdin) : Reads (.stun url) stdin (.stun url) stdin
  | turn (url : String) (echoCount : UInt32) {user pass user' pass' : Secret}
      {stdin stdin' rest : Stdin} (huser : user.Reads stdin user' stdin')
      (hpass : pass.Reads stdin' pass' rest) :
      Reads (.turn url user pass echoCount) stdin (.turn url user' pass' echoCount) rest
  | turns (url : String) {user pass user' pass' : Secret} {stdin stdin' rest : Stdin}
      (huser : user.Reads stdin user' stdin') (hpass : pass.Reads stdin' pass' rest) :
      Reads (.turns url user pass) stdin (.turns url user' pass') rest
  | signaling (url : String) {auth auth' : Secret} {stdin rest : Stdin}
      (hauth : auth.Reads stdin auth' rest) :
      Reads (.signaling url auth) stdin (.signaling url auth') rest
  | dtls (target : Option String) (serve : Bool) (bind : String) (stdin : Stdin) :
      Reads (.dtls target serve bind) stdin (.dtls target serve bind) stdin
  | ice (url : String) {user pass user' pass' : Secret} {stdin stdin' rest : Stdin}
      (huser : user.Reads stdin user' stdin') (hpass : pass.Reads stdin' pass' rest) :
      Reads (.ice url user pass) stdin (.ice url user' pass') rest
  | full (stun turn turns signaling : Option String) (echoCount : UInt32)
      {user pass auth user' pass' auth' : Secret} {stdin stdin' stdin'' rest : Stdin}
      (huser : user.Reads stdin user' stdin') (hpass : pass.Reads stdin' pass' stdin'')
      (hauth : auth.Reads stdin'' auth' rest) :
      Reads (.full stun turn turns signaling user pass auth echoCount) stdin
        (.full stun turn turns signaling user' pass' auth' echoCount) rest

/-! ## Plans -/

theorem lift_bind_eq_ok {α β : Type} {x : Except String α} {f : α → Reader β} {stdin : Stdin}
    {r : β × Stdin} : ((liftM x : Reader α) >>= f) stdin = .ok r ↔
      ∃ a, x = .ok a ∧ f a stdin = .ok r := by
  rw [reader_bind_eq_ok]
  constructor
  · rintro ⟨a, s, hx, hf⟩
    obtain ⟨hx, hs⟩ := lift_eq_ok.1 hx
    exact ⟨a, hx, hs ▸ hf⟩
  · rintro ⟨a, hx, hf⟩
    exact ⟨a, stdin, lift_eq_ok.2 ⟨hx, rfl⟩, hf⟩

theorem resolve_bind_eq_ok {β : Type} {secret : Secret} {label : String}
    {f : Option String → Reader β} {stdin : Stdin} {r : β × Stdin} :
    (resolveSecret secret label >>= f) stdin = .ok r ↔
      ∃ value rest, secret.Reads stdin ⟨value, false⟩ rest ∧ f value rest = .ok r := by
  rw [reader_bind_eq_ok]
  exact exists_congr fun _ => exists_congr fun _ => and_congr_left fun _ => resolveSecret_eq_ok

variable {env : CliEnv} {command : Command} {stdin rest : Stdin} {p : Plan}

/-- A plan is that of the subcommand with the lines as flags. -/
theorem exists_reads_of_plan (h : plan env command stdin = .ok (p, rest)) :
    ∃ command', command.Reads stdin command' rest ∧
      ∀ lines, plan env command' lines = .ok (p, lines) := by
  cases command with
  | stun url =>
    obtain ⟨t, ht, h⟩ := lift_bind_eq_ok.1 h
    cases h
    exact ⟨_, .stun url _, fun lines => lift_bind_eq_ok.2 ⟨t, ht, rfl⟩⟩
  | turn url user pass echoCount =>
    obtain ⟨t, ht, h⟩ := lift_bind_eq_ok.1 h
    obtain ⟨user', s, huser, h⟩ := resolve_bind_eq_ok.1 h
    obtain ⟨pass', s, hpass, h⟩ := resolve_bind_eq_ok.1 h
    cases h
    exact ⟨_, .turn url echoCount huser hpass, fun lines => lift_bind_eq_ok.2 ⟨t, ht, rfl⟩⟩
  | turns url user pass =>
    obtain ⟨t, ht, h⟩ := lift_bind_eq_ok.1 h
    obtain ⟨user', s, huser, h⟩ := resolve_bind_eq_ok.1 h
    obtain ⟨pass', s, hpass, h⟩ := resolve_bind_eq_ok.1 h
    cases h
    exact ⟨_, .turns url huser hpass, fun lines => lift_bind_eq_ok.2 ⟨t, ht, rfl⟩⟩
  | signaling url auth =>
    obtain ⟨host, hhost, h⟩ := lift_bind_eq_ok.1 h
    obtain ⟨auth', s, hauth, h⟩ := resolve_bind_eq_ok.1 h
    cases h
    exact ⟨_, .signaling url hauth, fun lines => lift_bind_eq_ok.2 ⟨host, hhost, rfl⟩⟩
  | dtls target serve bind =>
    obtain ⟨hp, hrest⟩ := lift_eq_ok.1 h
    cases hrest
    exact ⟨_, .dtls target serve bind _, fun lines => lift_eq_ok.2 ⟨hp, rfl⟩⟩
  | ice url user pass =>
    obtain ⟨t, ht, h⟩ := lift_bind_eq_ok.1 h
    split at h
    · next hturn =>
      obtain ⟨user', s, huser, h⟩ := resolve_bind_eq_ok.1 h
      obtain ⟨pass', s, hpass, h⟩ := resolve_bind_eq_ok.1 h
      cases h
      refine ⟨_, .ice url huser hpass, fun lines => lift_bind_eq_ok.2 ⟨t, ht, ?_⟩⟩
      rw [if_pos hturn]
      rfl
    next hturn =>
    split at h
    · cases h
    next hnone =>
    cases h
    -- Without the `turn:` scheme no secret is given at all.
    obtain ⟨userFlag, userStdin⟩ := user
    obtain ⟨passFlag, passStdin⟩ := pass
    simp only [Bool.or_eq_true, not_or, Bool.not_eq_true, Option.isSome_eq_false_iff,
      Option.isNone_iff_eq_none] at hnone
    obtain ⟨⟨⟨rfl, rfl⟩, rfl⟩, rfl⟩ := hnone
    refine ⟨_, .ice url (.flag none _) (.flag none _), fun lines =>
      lift_bind_eq_ok.2 ⟨t, ht, ?_⟩⟩
    rw [if_neg hturn]
    rfl
  | full stun turn turns signaling user pass auth echoCount =>
    rw [plan] at h
    by_cases hnone : (stun.isNone && turn.isNone && turns.isNone && signaling.isNone) = true
    · rw [if_pos hnone] at h
      cases h
    rw [if_neg hnone] at h
    obtain ⟨user', s, huser, h⟩ := resolve_bind_eq_ok.1 h
    obtain ⟨pass', s', hpass, h⟩ := resolve_bind_eq_ok.1 h
    obtain ⟨auth', s'', hauth, h⟩ := resolve_bind_eq_ok.1 h
    obtain ⟨parts, hparts, h⟩ := lift_bind_eq_ok.1 h
    cases h
    refine ⟨_, .full stun turn turns signaling echoCount huser hpass hauth, fun lines => ?_⟩
    rw [plan, if_neg hnone]
    exact resolve_bind_eq_ok.2 ⟨user', _, .flag _ _, resolve_bind_eq_ok.2 ⟨pass', _, .flag _ _,
      resolve_bind_eq_ok.2 ⟨auth', lines, .flag _ _, lift_bind_eq_ok.2 ⟨parts, hparts, rfl⟩⟩⟩⟩

/-- The subcommand with the lines as flags plans the same. -/
theorem plan_of_reads {command' : Command} {rest' : Stdin}
    (hreads : command.Reads stdin command' rest) (h : plan env command' rest = .ok (p, rest')) :
    plan env command stdin = .ok (p, rest) := by
  cases hreads with
  | stun url =>
    obtain ⟨t, ht, h⟩ := lift_bind_eq_ok.1 h
    cases h
    exact lift_bind_eq_ok.2 ⟨t, ht, rfl⟩
  | turn url echoCount huser hpass =>
    obtain ⟨user', rfl⟩ := huser.exists_flag
    obtain ⟨pass', rfl⟩ := hpass.exists_flag
    obtain ⟨t, ht, h⟩ := lift_bind_eq_ok.1 h
    cases h
    exact lift_bind_eq_ok.2 ⟨t, ht, resolve_bind_eq_ok.2 ⟨user', _, huser,
      resolve_bind_eq_ok.2 ⟨pass', rest, hpass, rfl⟩⟩⟩
  | turns url huser hpass =>
    obtain ⟨user', rfl⟩ := huser.exists_flag
    obtain ⟨pass', rfl⟩ := hpass.exists_flag
    obtain ⟨t, ht, h⟩ := lift_bind_eq_ok.1 h
    cases h
    exact lift_bind_eq_ok.2 ⟨t, ht, resolve_bind_eq_ok.2 ⟨user', _, huser,
      resolve_bind_eq_ok.2 ⟨pass', rest, hpass, rfl⟩⟩⟩
  | signaling url hauth =>
    obtain ⟨auth', rfl⟩ := hauth.exists_flag
    obtain ⟨host, hhost, h⟩ := lift_bind_eq_ok.1 h
    cases h
    exact lift_bind_eq_ok.2 ⟨host, hhost, resolve_bind_eq_ok.2 ⟨auth', rest, hauth, rfl⟩⟩
  | dtls target serve bind => exact lift_eq_ok.2 ⟨(lift_eq_ok.1 h).1, rfl⟩
  | ice url huser hpass =>
    obtain ⟨user', rfl⟩ := huser.exists_flag
    obtain ⟨pass', rfl⟩ := hpass.exists_flag
    obtain ⟨t, ht, h⟩ := lift_bind_eq_ok.1 h
    refine lift_bind_eq_ok.2 ⟨t, ht, ?_⟩
    split at h
    · next hturn =>
      cases h
      rw [if_pos hturn]
      exact resolve_bind_eq_ok.2 ⟨user', _, huser,
        resolve_bind_eq_ok.2 ⟨pass', rest, hpass, rfl⟩⟩
    next hturn =>
    rw [if_neg hturn]
    split at h
    · cases h
    next hnone =>
    cases h
    simp only [Bool.or_false, Bool.or_eq_true, not_or, Bool.not_eq_true,
      Option.isSome_eq_false_iff, Option.isNone_iff_eq_none] at hnone
    obtain ⟨rfl, rfl⟩ := hnone
    cases huser
    cases hpass
    rfl
  | full stun turn turns signaling echoCount huser hpass hauth =>
    obtain ⟨user', rfl⟩ := huser.exists_flag
    obtain ⟨pass', rfl⟩ := hpass.exists_flag
    obtain ⟨auth', rfl⟩ := hauth.exists_flag
    rw [plan] at h ⊢
    by_cases hnone : (stun.isNone && turn.isNone && turns.isNone && signaling.isNone) = true
    · rw [if_pos hnone] at h
      cases h
    rw [if_neg hnone] at h ⊢
    obtain ⟨_, _, ⟨_, _⟩, h⟩ := resolve_bind_eq_ok.1 h
    obtain ⟨_, _, ⟨_, _⟩, h⟩ := resolve_bind_eq_ok.1 h
    obtain ⟨_, _, ⟨_, _⟩, h⟩ := resolve_bind_eq_ok.1 h
    obtain ⟨parts, hparts, h⟩ := lift_bind_eq_ok.1 h
    cases h
    exact resolve_bind_eq_ok.2 ⟨user', _, huser, resolve_bind_eq_ok.2 ⟨pass', _, hpass,
      resolve_bind_eq_ok.2 ⟨auth', rest, hauth, lift_bind_eq_ok.2 ⟨parts, hparts, rfl⟩⟩⟩⟩

/-- The program ends with the outcome of its plan. -/
theorem main_eq_ok {outcome : Outcome} : main env command = .ok outcome ↔
    ∃ p rest, plan env command env.stdin = .ok (p, rest) ∧ p.outcome env = outcome := by
  rw [main]
  cases plan env command env.stdin with
  | error e => exact ⟨nofun, nofun⟩
  | ok r =>
    constructor
    · intro h
      exact ⟨r.1, r.2, rfl, Except.ok.inj h⟩
    · rintro ⟨p, rest, h, rfl⟩
      cases h
      rfl

/-- The program ends with an outcome exactly if standard input holds the lines it asks for, the
username first, then the password, then the header, none of them empty, and if it ends with the same
outcome on the subcommand with these lines as flags, which reads no line. -/
theorem stdin_as_flags (env : CliEnv) (command : Command) (outcome : Outcome) :
    main env command = .ok outcome ↔ ∃ command' rest, command.Reads env.stdin command' rest ∧
      ∀ stdin, main { env with stdin := stdin } command' = .ok outcome := by
  have hplan : ∀ stdin command, plan { env with stdin := stdin } command = plan env command := by
    intro stdin command
    cases command <;> rfl
  have houtcome : ∀ stdin (p : Plan), p.outcome { env with stdin := stdin } = p.outcome env := by
    intro stdin p
    cases p <;> rfl
  constructor
  · intro h
    obtain ⟨p, rest, hp, rfl⟩ := main_eq_ok.1 h
    obtain ⟨command', hreads, hp'⟩ := exists_reads_of_plan hp
    refine ⟨command', rest, hreads, fun stdin => main_eq_ok.2 ⟨p, stdin, ?_, houtcome stdin p⟩⟩
    rw [hplan]
    exact hp' stdin
  · rintro ⟨command', rest, hreads, h⟩
    obtain ⟨p, rest', hp, hout⟩ := main_eq_ok.1 (h rest)
    rw [hplan] at hp
    rw [houtcome] at hout
    exact main_eq_ok.2 ⟨p, rest, plan_of_reads hreads hp, hout⟩

end WebrtcDoctor
