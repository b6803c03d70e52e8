import WebrtcDoctor.FirstAddress
import WebrtcDoctor.ReportJson

/-!
# The certificate fingerprint

A DTLS check reports the digest of the peer's certificate as in SDP, upper-case pairs of hexadecimal
digits between colons. `readFingerprint` reads such a text and no other : a digest has one text and
a text one digest (`readFingerprint_iff`). So what a check reports of a certificate is its digest,
in full in the detail and its first eight bytes in the summary (`fingerprint_reads_back`).
-/

open NetAddr

namespace WebrtcDoctor

namespace DtlsCheck

/-- The value of an upper-case hexadecimal digit. -/
def hexValue (c : Char) : Option ℕ :=
  if '0' ≤ c ∧ c ≤ '9' then some (c.toNat - 48)
  else if 'A' ≤ c ∧ c ≤ 'F' then some (c.toNat - 55)
  else none

/-- The byte of two digits. -/
def readOctet (hi lo : Char) : Option UInt8 := do
  return UInt8.ofNat ((← hexValue hi) * 16 + (← hexValue lo))

/-- The bytes between the colons. -/
def readOctets : List Char → Option (List UInt8)
  | [hi, lo] => do return [← readOctet hi lo]
  | hi :: lo :: sep :: cs => do
    guard (sep = ':')
    return (← readOctet hi lo) :: (← readOctets cs)
  | _ => none

/-- The bytes of a fingerprint. -/
def readFingerprint (text : String) : Option (List UInt8) := readOctets text.toList

/-! ## One byte -/

/-- The upper-case digit of a number below sixteen. -/
def hexDigit (n : ℕ) : Char := (Nat.digitChar n).toUpper

theorem hexUpper_toList (b : UInt8) :
    (hexUpper b).toList = [hexDigit (b.toNat / 16), hexDigit (b.toNat % 16)] :=
  String.toList_ofList

theorem hexValue_hexDigit : ∀ n < 16, hexValue (hexDigit n) = some n := by decide

/-- A character with a value is the digit of that value. -/
theorem hexDigit_of_hexValue {c : Char} {n : ℕ} (h : hexValue c = some n) :
    n < 16 ∧ hexDigit n = c := by
  have hdigit : ∀ k < 10, hexDigit k = Char.ofNat (48 + k) := by decide
  have hletter : ∀ k < 6, hexDigit (10 + k) = Char.ofNat (65 + k) := by decide
  unfold hexValue at h
  split at h
  · next hc =>
    cases h
    have hlo : 48 ≤ c.toNat := hc.1
    have hhi : c.toNat ≤ 57 := hc.2
    refine ⟨by omega, ?_⟩
    rw [hdigit _ (by omega), show 48 + (c.toNat - 48) = c.toNat by omega, Char.ofNat_toNat]
  · split at h
    · next hc =>
      cases h
      have hlo : 65 ≤ c.toNat := hc.1
      have hhi : c.toNat ≤ 70 := hc.2
      refine ⟨by omega, ?_⟩
      rw [show c.toNat - 55 = 10 + (c.toNat - 65) by omega, hletter _ (by omega),
        show 65 + (c.toNat - 65) = c.toNat by omega, Char.ofNat_toNat]
    · cases h

/-- Two characters read as a byte exactly if they are its text. -/
theorem readOctet_iff {hi lo : Char} {b : UInt8} :
    readOctet hi lo = some b ↔ [hi, lo] = (hexUpper b).toList := by
  have hb := b.toNat_lt
  rw [hexUpper_toList]
  constructor
  · intro h
    obtain ⟨x, hx, h⟩ := Option.bind_eq_some_iff.1 h
    obtain ⟨y, hy, h⟩ := Option.bind_eq_some_iff.1 h
    cases h
    obtain ⟨hx, rfl⟩ := hexDigit_of_hexValue hx
    obtain ⟨hy, rfl⟩ := hexDigit_of_hexValue hy
    have hnat : (UInt8.ofNat (x * 16 + y)).toNat = x * 16 + y := by
      rw [UInt8.toNat_ofNat', Nat.mod_eq_of_lt (by omega)]
    rw [hnat, show (x * 16 + y) / 16 = x by omega, show (x * 16 + y) % 16 = y by omega]
  · intro h
    cases h
    rw [readOctet, hexValue_hexDigit _ (by omega), hexValue_hexDigit _ (by omega)]
    show some (UInt8.ofNat (b.toNat / 16 * 16 + b.toNat % 16)) = some b
    rw [Nat.div_add_mod', UInt8.ofNat_toNat]

/-! ## All bytes -/

/-- The text of some bytes. -/
def fingerprintChars (bytes : List UInt8) : List Char :=
  List.intercalate [':'] (bytes.map fun b => (hexUpper b).toList)

theorem fingerprintChars_cons_cons (b b' : UInt8) (bytes : List UInt8) :
    fingerprintChars (b :: b' :: bytes) = hexDigit (b.toNat / 16) :: hexDigit (b.toNat % 16) ::
      ':' :: fingerprintChars (b' :: bytes) := by
  simp [fingerprintChars, List.intercalate_cons_cons, hexUpper_toList]

theorem fingerprintChars_singleton (b : UInt8) : fingerprintChars [b] = (hexUpper b).toList := by
  simp [fingerprintChars]

/-- The text of some bytes reads as them. -/
theorem readOctets_fingerprintChars : ∀ {bytes : List UInt8}, bytes ≠ [] →
    readOctets (fingerprintChars bytes) = some bytes
  | [], h => absurd rfl h
  | [b], _ => by
    rw [fingerprintChars_singleton, hexUpper_toList, readOctets,
      readOctet_iff.2 (hexUpper_toList b).symm]
    rfl
  | b :: b' :: bytes, _ => by
    have ih := readOctets_fingerprintChars (List.cons_ne_nil b' bytes)
    rw [fingerprintChars_cons_cons, readOctets, ih, readOctet_iff.2 (hexUpper_toList b).symm]
    rfl

/-- The texts that are read, and what is read of them. -/
theorem readOctets_iff {cs : List Char} {bytes : List UInt8} :
    readOctets cs = some bytes ↔ bytes ≠ [] ∧ cs = fingerprintChars bytes := by
  refine ⟨fun h => ?_, fun ⟨hne, hcs⟩ => hcs ▸ readOctets_fingerprintChars hne⟩
  induction cs using readOctets.induct generalizing bytes with
  | case1 hi lo =>
    obtain ⟨b, hb, h⟩ := Option.bind_eq_some_iff.1 h
    cases h
    exact ⟨List.cons_ne_nil _ _, by rw [fingerprintChars_singleton, ← readOctet_iff.1 hb]⟩
  | case2 hi lo sep cs ih =>
    obtain ⟨_, hsep, h⟩ := Option.bind_eq_some_iff.1 h
    obtain ⟨b, hb, h⟩ := Option.bind_eq_some_iff.1 h
    obtain ⟨more, hmore, h⟩ := Option.bind_eq_some_iff.1 h
    cases h
    obtain rfl : sep = ':' := by
      by_contra hne
      rw [guard, if_neg hne] at hsep
      cases hsep
    obtain ⟨hne, rfl⟩ := ih hmore
    obtain ⟨b', bytes, rfl⟩ := List.exists_cons_of_ne_nil hne
    have hpair := readOctet_iff.1 hb
    rw [hexUpper_toList] at hpair
    injection hpair with hhi hpair
    injection hpair with hlo
    exact ⟨List.cons_ne_nil _ _, by rw [fingerprintChars_cons_cons, hhi, hlo]⟩
  | case3 cs hpair hmore =>
    rw [readOctets] at h
    · cases h
    · exact hpair
    · exact hmore

/-- The text of the first bytes is the beginning of the text. -/
theorem take_fingerprintChars : ∀ (n : ℕ) (bytes : List UInt8),
    (fingerprintChars bytes).take (3 * n + 2) = fingerprintChars (bytes.take (n + 1))
  | _, [] => rfl
  | n, [b] => by
    rw [List.take_of_length_le (show [b].length ≤ n + 1 by simp), List.take_of_length_le]
    simp [fingerprintChars_singleton, hexUpper_toList]
  | 0, b :: b' :: bytes => by
    rw [fingerprintChars_cons_cons, List.take_succ_cons, List.take_succ_cons]
    exact (hexUpper_toList b).symm.trans (fingerprintChars_singleton b).symm
  | n + 1, b :: b' :: bytes => by
    rw [fingerprintChars_cons_cons, show 3 * (n + 1) + 2 = 3 * n + 2 + 1 + 1 + 1 by omega,
      List.take_succ_cons, List.take_succ_cons, List.take_succ_cons, take_fingerprintChars n,
      List.take_succ_cons, List.take_succ_cons, List.take_succ_cons, fingerprintChars_cons_cons]

/-- A text is read as `bytes` exactly if it is their text. -/
theorem readFingerprint_iff {text : String} {bytes : List UInt8} :
    readFingerprint text = some bytes ↔
      bytes ≠ [] ∧ text = ":".intercalate (bytes.map hexUpper) := by
  have htext : fingerprintChars bytes = (":".intercalate (bytes.map hexUpper)).toList := by
    rw [String.toList_intercalate, List.map_map]
    rfl
  rw [readFingerprint, readOctets_iff, htext, String.toList_inj]

/-- The full text gives the digest, and the text of the summary its first eight bytes. -/
theorem readFingerprint_sha256Fingerprint (sha256 : List UInt8 → Vector UInt8 32)
    {certDer : List UInt8} (h : certDer ≠ []) :
    readFingerprint (sha256Fingerprint sha256 certDer) = some (sha256 certDer).toList ∧
      readFingerprint (String.ofList ((sha256Fingerprint sha256 certDer).toList.take 23)) =
        some ((sha256 certDer).toList.take 8) := by
  have hne : ∀ n, (sha256 certDer).toList.take (n + 1) ≠ [] := by
    intro n hnil
    have hlen := congrArg List.length hnil
    simp at hlen
  have htext : sha256Fingerprint sha256 certDer =
      ":".intercalate ((sha256 certDer).toList.map hexUpper) := by
    rw [sha256Fingerprint, if_neg (by simpa using h)]
  have hchars : (sha256Fingerprint sha256 certDer).toList =
      fingerprintChars (sha256 certDer).toList := by
    rw [htext, String.toList_intercalate, List.map_map]
    rfl
  refine ⟨readFingerprint_iff.2 ⟨fun hnil => hne 0 (by rw [hnil]; rfl), htext⟩, ?_⟩
  rw [hchars, take_fingerprintChars 7, readFingerprint, String.toList_ofList]
  exact readOctets_fingerprintChars (hne 7)

end DtlsCheck

/-! ## Reports -/

open DtlsCheck

/-- The part of a fingerprint that the summary shows. -/
def short (text : String) : String := String.ofList (text.toList.take 23)

/-- The result shows the digest of the peer's certificate, in full in the detail and the first eight
bytes in the summary, and nothing in its place if the peer has none. -/
def Shows (sha256 : List UInt8 → Vector UInt8 32) (label : String) (h : Handshake)
    (r : CheckResult) : Prop :=
  let certDer := h.peerCertificates.headD []
  ∃ text, r.detailStr? "fingerprint_sha256" = some text ∧
    r.summary =
      s!"handshake OK in {h.handshakeMs} ms ({label}); peer fp sha-256 " ++ short text ∧
    (certDer = [] → text = "") ∧
    (certDer ≠ [] → readFingerprint text = some (sha256 certDer).toList ∧
      readFingerprint (short text) = some ((sha256 certDer).toList.take 8))

/-- The result of a finished handshake shows its certificate. -/
theorem shows_finishPass (sha256 : List UInt8 → Vector UInt8 32) (h : Handshake)
    (id name : String) (totalMs : ℕ) (label : String) :
    Shows sha256 label h (finishPass id name totalMs (outcome sha256 h) label) := by
  refine ⟨sha256Fingerprint sha256 (h.peerCertificates.headD []), rfl, ?_, fun hnil => ?_,
    fun hne => readFingerprint_sha256Fingerprint sha256 hne⟩
  · have htoString : ∀ s : String, toString s = s := fun _ => rfl
    have hsep : ("); " ++ "peer fp sha-256 ").toList = "); peer fp sha-256 ".toList := by decide
    rw [String.toList_append] at hsep
    rw [← String.toList_inj]
    simp [finishPass, outcome, short, CheckResult.pass, CheckResult.withDetail, htoString, ← hsep]
  · rw [sha256Fingerprint, hnil]
    rfl

/-- The context of a run against a target : it names the target, and its first address is the first
that the resolver gives for it. -/
structure Aimed (dns : DnsEnv) (t : Target) (ctx : ProbeContext) : Prop where
  host : ctx.host = some t.host
  port : ctx.port = some t.port
  defaultTimeout : ctx.defaultTimeout = Duration.fromSecs 5
  resolvedIps : ∀ ip, ctx.resolvedIps.head? = some ip →
    dns.first s!"{t.host}:{t.port}" = some ip

/-- The fresh context of a target is aimed at it. -/
theorem aimed_targetCtx (dns : DnsEnv) (t : Target) : Aimed dns t (targetCtx t) :=
  ⟨rfl, rfl, rfl, fun _ h => by cases h⟩

/-- The DNS check takes its addresses from the resolver. -/
theorem Aimed.dns {dns : DnsEnv} {t : Target} {ctx : ProbeContext} (h : Aimed dns t ctx) :
    Aimed dns t (DnsCheck.run dns ctx).1 := by
  unfold DnsCheck.run
  rw [h.host, h.port]
  dsimp only [Option.getD_some]
  split
  · exact h
  next addrs hlookup =>
  split
  · exact h
  next ip more hips =>
  refine ⟨rfl, rfl, h.defaultTimeout, fun ip' hip => ?_⟩
  rw [DnsEnv.first, hlookup]
  dsimp only
  rw [← DnsCheck.head?_dedupIps, hips]
  exact hip

/-- The remote check leaves the context as it is. -/
theorem Aimed.dtlsRemote {dns : DnsEnv} {t : Target} {ctx : ProbeContext} (h : Aimed dns t ctx)
    (env : DtlsEnv) : Aimed dns t (DtlsRemoteCheck.run env ctx).1 := by
  rcases DtlsRemoteCheck.run_leaves env ctx with ⟨-, hctx⟩ | ⟨-, hctx⟩ <;> rwa [hctx]

/-- A pass of the remote check comes of a handshake with the target's first address. -/
theorem DtlsRemoteCheck.run_shows {env : DtlsEnv} {dns : DnsEnv} {t : Target} {ctx : ProbeContext}
    (haimed : Aimed dns t ctx) (hpass : (run env ctx).2.status = .pass) :
    ∃ ip h, dns.first s!"{t.host}:{t.port}" = some ip ∧
      (env.remote ⟨ip, t.port⟩ (Duration.fromSecs 5)).1 = .received h ∧
      Shows env.sha256 s!"via {SocketAddr.mk ip t.port}" h (run env ctx).2 := by
  have hbudget : ctx.timeoutOr (Duration.fromSecs 5) = Duration.fromSecs 5 := by
    rw [ProbeContext.timeoutOr, haimed.defaultTimeout]
    rfl
  unfold run at hpass ⊢
  rw [haimed.port, hbudget] at hpass ⊢
  dsimp only at hpass ⊢
  split at hpass
  · cases hpass
  next ip hip =>
  split at hpass
  · next h hrecv =>
    exact ⟨ip, h, haimed.resolvedIps ip hip, hrecv, shows_finishPass _ _ _ _ _ _⟩
  · cases hpass
  · cases hpass

/-- A pass of the loopback check comes of a handshake within five seconds. -/
theorem DtlsLoopbackCheck.run_shows {env : DtlsEnv}
    (hpass : (run env ProbeContext.new).2.status = .pass) : ∃ h,
      (env.loopback (Duration.fromSecs 5)).1 = .received h ∧
      Shows env.sha256 "loopback" h (run env ProbeContext.new).2 := by
  have hbudget : ProbeContext.new.timeoutOr (Duration.fromSecs 5) = Duration.fromSecs 5 := rfl
  unfold run at hpass ⊢
  rw [hbudget] at hpass ⊢
  dsimp only at hpass ⊢
  split at hpass
  · next h hrecv => exact ⟨h, hrecv, shows_finishPass _ _ _ _ _ _⟩
  · cases hpass
  · cases hpass

/-- Every pass of a DTLS check comes of a handshake that was finished within its five seconds, with
ourselves or with the first address of the target, and shows the digest of its certificate : a
fingerprint in a report is read as that digest and as nothing else. -/
theorem fingerprint_reads_back (env : PipelineEnv) :
    (∀ r ∈ (dtlsLoopbackJob env).report.results, r.status = .pass → ∃ h,
      (env.dtls.loopback (Duration.fromSecs 5)).1 = .received h ∧
        Shows env.dtls.sha256 "loopback" h r) ∧
    (∀ t, ∀ r ∈ (dtlsRemoteJob env t).report.results, r.status = .pass → r.id ≠ DnsCheck.id →
      ∃ ip h, env.dns.first s!"{t.host}:{t.port}" = some ip ∧
        (env.dtls.remote ⟨ip, t.port⟩ (Duration.fromSecs 5)).1 = .received h ∧
        Shows env.dtls.sha256 s!"via {SocketAddr.mk ip t.port}" h r) ∧
    ∀ text bytes, readFingerprint text = some bytes ↔
      bytes ≠ [] ∧ text = ":".intercalate (bytes.map hexUpper) := by
  refine ⟨fun r hr hpass => ?_, fun t r hr hpass hid => ?_, fun _ _ => readFingerprint_iff⟩
  · have hresults : (dtlsLoopbackJob env).report.results =
        [(DtlsLoopbackCheck.run env.dtls ProbeContext.new).2] := rfl
    rw [hresults] at hr
    obtain rfl := List.mem_singleton.1 hr
    exact DtlsLoopbackCheck.run_shows hpass
  · have hkept : ∀ check ∈ (dtlsRemoteJob env t).checks, ∀ ctx, Aimed env.dns t ctx →
        Aimed env.dns t (check.run ctx).1 := by
      intro check hcheck ctx hctx
      rcases List.mem_pair.1 hcheck with rfl | rfl
      · exact hctx.dns
      · exact hctx.dtlsRemote env.dtls
    obtain ⟨check, hcheck, hgives⟩ :=
      Pipeline.exists_run_of_mem hkept (aimed_targetCtx env.dns t) hr
    rcases List.mem_pair.1 hcheck with rfl | rfl
    · have hreports : (ProbeCheck.dns env.dns).check.Reports r :=
        ProbeCheck.reports_of_gives (hgives.imp_left fun ⟨ctx, _, hctx⟩ => ⟨ctx, hctx⟩)
      exact absurd hreports.id hid
    rcases hgives with ⟨ctx, hctx, rfl⟩ | ⟨passed, rfl⟩
    · exact DtlsRemoteCheck.run_shows hctx hpass
    · cases hpass

namespace Sample

/-- A loopback handshake with a certificate of one byte, whose digest begins with `AB`. -/
def dtlsEnv : DtlsEnv where
  sha256 _ := #v[0xAB, 1, 2, 3, 4, 5, 6, 7, 8, 9, 10, 11, 12, 13, 14, 15,
    16, 17, 18, 19, 20, 21, 22, 23, 24, 25, 26, 27, 28, 29, 30, 0xFF]
  loopback _ := (.received ⟨7, "Unsupported", [[0x30]]⟩, Duration.fromMillis 8)
  remote _ _ := (.elapsed, 0)

end Sample

open Sample

/-- A loopback handshake with that certificate. -/
theorem fingerprint_reads_back_loopback :
    ∃ r ∈ (dtlsLoopbackJob { env [] with dtls := dtlsEnv }).report.results, ∃ text,
      r.detailStr? "fingerprint_sha256" = some text ∧
      readFingerprint text = some (dtlsEnv.sha256 [0x30]).toList ∧
      readFingerprint (short text) = some [0xAB, 1, 2, 3, 4, 5, 6, 7] := by
  obtain ⟨r, hr, hpass⟩ : ∃ r ∈ (dtlsLoopbackJob { env [] with dtls := dtlsEnv }).report.results,
      r.status = .pass := ⟨_, List.mem_singleton_self _, rfl⟩
  obtain ⟨h, hrecv, text, htext, -, -, hreads⟩ :=
    (fingerprint_reads_back { env [] with dtls := dtlsEnv }).1 r hr hpass
  cases hrecv
  obtain ⟨hfull, hshort⟩ := hreads (by decide)
  exact ⟨r, hr, text, htext, hfull, hshort⟩

end WebrtcDoctor
