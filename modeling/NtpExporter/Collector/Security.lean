import NtpExporter.Collector.Common
import NtpExporter.Ntp.Validator

/-!
# The security collector

`SecurityCollector.Collect`: through `IterateServers`, one `Query` per configured server, and for
its response the trust score that `Validate` gives, a kiss of death counted under its code, a
suspicious response counted under the reason `GetSuspicionReason` names, and a malformed response
counted. The validator is the one `NewValidator` builds. `time.Duration.String` is the parameter
`durationString`, and the client's answers are inputs.
-/

namespace NtpExporter

namespace SecurityCollector

open Validator

/-- `collectFromServer`: the query's error wrapped, or the response's gauges and counters. -/
def collectFromServer (durationString : Duration → String) (v : Validator) (m : NTPMetrics)
    (server : String) (answer : Except String Response) : Except String NTPMetrics :=
  match answer with
  | .error err => .error ("failed to query NTP server " ++ server ++ " for security metrics: " ++ err)
  | .ok resp =>
      let validation := v.validate durationString resp
      let m := { m with serverTrustScore := m.serverTrustScore.set server validation.trustScore }
      let m := if resp.isKissOfDeath then
          { m with kissOfDeathTotal := m.kissOfDeathTotal.inc (server, resp.kissCode) }
        else m
      let m := if resp.isSuspicious then
          { m with serverSuspiciousTotal :=
              m.serverSuspiciousTotal.inc (server, v.getSuspicionReason resp) }
        else m
      let m := if !resp.isValid then
          { m with malformedResponsesTotal := m.malformedResponsesTotal.inc server }
        else m
      .ok m

/-- `Collect`: every configured server's collection, with the validator of `NewValidator`. -/
def collect (durationString : Duration → String) (cfg : NTPConfig)
    (query : String → Except String Response) (m : NTPMetrics) : NTPMetrics :=
  CommonCollector.iterateServers
    (fun server m => collectFromServer durationString newValidator m server (query server))
    cfg.servers m

/-- What a response does to the kiss-of-death and suspicious-response counters. -/
theorem collectFromServer_ok (durationString : Duration → String) (v : Validator) (m : NTPMetrics)
    (server : String) (resp : Response) :
    ∃ after, collectFromServer durationString v m server (.ok resp) = .ok after ∧
      after.kissOfDeathTotal = (if resp.isKissOfDeath then
        m.kissOfDeathTotal.inc (server, resp.kissCode) else m.kissOfDeathTotal) ∧
      after.serverSuspiciousTotal = (if resp.isSuspicious then
        m.serverSuspiciousTotal.inc (server, v.getSuspicionReason resp) else m.serverSuspiciousTotal) := by
  refine ⟨_, rfl, ?_⟩
  split_ifs <;> exact ⟨rfl, rfl⟩

/-- Every kiss of death comes with stratum zero, which `GetSuspicionReason` checks first: the
reason `kod_received` is given to no such response, and a kiss of death is counted as suspicious
under `invalid_stratum`, while its code is counted as a kiss of death. -/
theorem collectFromServer_kod_invalid_stratum (durationString : Duration → String)
    (m : NTPMetrics) (server : String) (resp : Response)
    (wire : resp.kissCode ≠ "" → resp.stratum = 0) (kod : resp.kissCode ≠ "") :
    (∀ r : Response, (r.kissCode ≠ "" → r.stratum = 0) →
      newValidator.getSuspicionReason r ≠ "kod_received") ∧
    newValidator.getSuspicionReason resp = "invalid_stratum" ∧
    ∃ after, collectFromServer durationString newValidator m server (.ok resp) = .ok after ∧
      after.serverSuspiciousTotal (server, "invalid_stratum") =
        m.serverSuspiciousTotal (server, "invalid_stratum") + 1 ∧
      after.serverSuspiciousTotal (server, "kod_received") =
        m.serverSuspiciousTotal (server, "kod_received") ∧
      after.kissOfDeathTotal (server, resp.kissCode) = m.kissOfDeathTotal (server, resp.kissCode) + 1 := by
  have zero := wire kod
  have reason : newValidator.getSuspicionReason resp = "invalid_stratum" := by
    simp [getSuspicionReason, zero]
  have suspicious : resp.isSuspicious = true := by simp [Response.isSuspicious, zero]
  have kissed : resp.isKissOfDeath = true := by simpa [Response.isKissOfDeath] using kod
  obtain ⟨after, collected, kisses, suspicions⟩ := collectFromServer_ok durationString newValidator m
    server resp
  refine ⟨fun r wire => getSuspicionReason_ne_kod newValidator wire, reason, after, collected, ?_⟩
  simp only [suspicions, kisses, suspicious, kissed, reason, if_true, CounterVec.inc_apply]
  exact ⟨by simp, by simp, by simp⟩

theorem collectFromServer_kod_invalid_stratum_rate :
    let kissOfDeath : Response := ⟨"192.0.2.1", 0, 0, 0, ⟨0, 0⟩, 0, 0, 0, 0, 0, none, "RATE"⟩
    ((kissOfDeath.kissCode ≠ "" → kissOfDeath.stratum = 0) ∧ kissOfDeath.kissCode ≠ "") ∧
      ((∀ r : Response, (r.kissCode ≠ "" → r.stratum = 0) →
        newValidator.getSuspicionReason r ≠ "kod_received") ∧
      newValidator.getSuspicionReason kissOfDeath = "invalid_stratum" ∧
      ∃ after, collectFromServer (fun _ => "0s") newValidator NTPMetrics.empty "192.0.2.1"
          (.ok kissOfDeath) = .ok after ∧
        after.serverSuspiciousTotal ("192.0.2.1", "invalid_stratum") =
          NTPMetrics.empty.serverSuspiciousTotal ("192.0.2.1", "invalid_stratum") + 1 ∧
        after.serverSuspiciousTotal ("192.0.2.1", "kod_received") =
          NTPMetrics.empty.serverSuspiciousTotal ("192.0.2.1", "kod_received") ∧
        after.kissOfDeathTotal ("192.0.2.1", kissOfDeath.kissCode) =
          NTPMetrics.empty.kissOfDeathTotal ("192.0.2.1", kissOfDeath.kissCode) + 1) :=
  ⟨⟨fun _ => rfl, by decide⟩, collectFromServer_kod_invalid_stratum _ _ _ _ (fun _ => rfl)
    (by decide)⟩

/-- `IsSuspicious` holds exactly when the validator names a reason other than `unknown`, so each
response counted as suspicious is counted under its specific reason and each response with one is
counted: a collection adds one to the series of the server and the reason when the reason is not
`unknown`, and nothing otherwise, and no collection ever counts a server under `unknown`. -/
theorem collect_counts_suspicious_with_reason (durationString : Duration → String) :
    (∀ r : Response, r.isSuspicious = true ↔ newValidator.getSuspicionReason r ≠ "unknown") ∧
    (∀ m server resp, ∃ after,
      collectFromServer durationString newValidator m server (.ok resp) = .ok after ∧
      ∀ labels, after.serverSuspiciousTotal labels = m.serverSuspiciousTotal labels +
        if labels = (server, newValidator.getSuspicionReason resp) ∧
          newValidator.getSuspicionReason resp ≠ "unknown" then 1 else 0) ∧
    ∀ cfg query m server, (collect durationString cfg query m).serverSuspiciousTotal
      (server, "unknown") = m.serverSuspiciousTotal (server, "unknown") := by
  have counted : ∀ m server resp, ∃ after,
      collectFromServer durationString newValidator m server (.ok resp) = .ok after ∧
      ∀ labels, after.serverSuspiciousTotal labels = m.serverSuspiciousTotal labels +
        if labels = (server, newValidator.getSuspicionReason resp) ∧
          newValidator.getSuspicionReason resp ≠ "unknown" then 1 else 0 := by
    intro m server resp
    obtain ⟨after, collected, -, suspicions⟩ := collectFromServer_ok durationString newValidator m
      server resp
    refine ⟨after, collected, fun labels => ?_⟩
    have iff := isSuspicious_iff_getSuspicionReason resp
    by_cases suspicious : resp.isSuspicious = true
    · simp [suspicions, suspicious, iff.mp suspicious]
    · simp [suspicions, suspicious, not_not.mp (mt iff.mpr suspicious)]
  refine ⟨isSuspicious_iff_getSuspicionReason, counted, fun cfg query m server => ?_⟩
  refine @CommonCollector.iterateServers_rel (fun m after => after.serverSuspiciousTotal
    (server, "unknown") = m.serverSuspiciousTotal (server, "unknown")) (fun _ => rfl)
    (fun first second => second.trans first) _ (fun server' m after collected => ?_) _ m
  cases answer : query server' with
  | error err => simp [collectFromServer, answer] at collected
  | ok resp =>
      obtain ⟨after', collected', unchanged⟩ := counted m server' resp
      rw [answer, collected', Except.ok.injEq] at collected
      subst collected
      simp only [unchanged, add_right_eq_self, ite_eq_right_iff, one_ne_zero, imp_false, not_and,
        not_not, Prod.mk.injEq]
      exact fun same => same.2.symm

end SecurityCollector

end NtpExporter
