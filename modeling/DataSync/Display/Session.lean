import DataSync.Display.Items
import DataSync.Session.LocalTarget
import DataSync.Session.Synchronizer

/-!
# Displays of sessions

Configurations, offers, reports and counts as records.
-/

namespace DataSync.Display

open Cbor (Value)

instance : Display SyncStatus where
  display status := .record [
    ("code", status.code), ("text", status.text), ("success", status.isSuccess)]

instance : Display SessionRequest := ⟨fun request => request.name⟩

instance : Display ChangeCounts where
  display counts := [counts.added, counts.updated, counts.deleted, counts.total]

instance : Display ItemError where
  display e := .record [
    ("luid", e.luid), ("status", e.status.code), ("message", e.message)]

instance : Display SourceReport where
  display report := .record [
    ("name", report.name), ("mode", report.mode), ("local", report.localChanges),
    ("remote", report.remoteChanges), ("sent", report.itemsSent), ("errors", report.itemErrors),
    ("committed", report.committed), ("status", report.status), ("error", report.error)]

/-- The fields of a report. -/
def results (report : SyncReport) : List (String × Value) := [
  ("config", report.config), ("status", report.status), ("error", report.error),
  ("sources", report.sources), ("messages", report.messagesSent), ("retries", report.retries),
  ("success", report.isSuccess), ("item_errors", report.itemErrorCount)]

instance : Display SyncReport := ⟨fun report => .record (results report)⟩

instance : Display SessionInfo where
  display session := .record [
    ("name", session.config), ("url", session.url), ("username", session.username),
    ("password", session.password), ("content_type", session.contentType)]

instance : Display SourceOffer where
  display offer := .record [
    ("name", offer.name), ("mode", offer.mode), ("mime", offer.mimeType),
    ("changes", offer.changes)]

instance : Display Http.Proxy where
  display proxy := .record [
    ("url", proxy.url), ("username", proxy.credentials.map (·.user)),
    ("password", proxy.credentials.map (·.password))]

instance : Display SourceConfig where
  display source := .array [source.name, source.mode]

/-- A duration in milliseconds. -/
def milliseconds (time : Duration) : Value :=
  digits (Duration.milliseconds time)

/-- What a local child is told to do, as a short record. -/
def localRequest (start : Local.StartSync) : Value :=
  .record [
    ("config", start.config), ("parent", start.parentConfig), ("username", start.username),
    ("password", start.password),
    ("sources", start.sources.map fun source => [source.name, source.mode])]

/-- The fields of a configuration. -/
def settings (config : SyncConfig) : List (String × Value) := [
  ("name", config.name), ("url", config.url), ("username", config.username),
  ("password", config.password), ("proxy", config.proxy), ("use_proxy", config.usesProxy),
  ("effective_proxy", config.effectiveProxy), ("verify", config.tls.verifyServer),
  ("certificates", config.tls.certificates), ("wbxml", config.wbxml),
  ("content_type", config.contentType), ("retry_duration_ms", milliseconds config.retry.budget),
  ("retry_interval_ms", milliseconds config.retry.interval),
  ("message_timeout_ms", config.retry.messageTimeout.map milliseconds),
  ("sources", config.sources), ("helper", config.helper)]

/-- The fields of a synchronizer: what it is doing and its counts. -/
def progress (synchronizer : Synchronizer) : List (String × Value) :=
  let counts := synchronizer.statistics
  [("state", synchronizer.activity.name), ("can_start", synchronizer.activity.canStart),
    ("completed", counts.completed), ("failed", counts.failed),
    ("messages", counts.messagesSent), ("retries", counts.retries),
    ("last_error", counts.lastError), ("synced", counts.hasSynced),
    ("config", synchronizer.config.name)]

end DataSync.Display
