import DataSync.Session.Config
import DataSync.Session.Exchange

/-!
# The synchronizer

A synchronizer runs sessions with one configuration, one after the other.  A session resolves the
password, begins all sources that take part, exchanges messages until the engine ends it, commits the
sources if all went well, and reports what it did.  However it ended, the sources that took part are
closed, the agent is shut down, the session leaves the registry and is counted once.
-/

namespace DataSync

/-- What a synchronizer is doing. -/
inductive Activity where
  | idle
  | running
  | done
  | error
deriving DecidableEq

namespace Activity

/-- The name of an activity. -/
def name : Activity → String
  | idle => "Idle"
  | running => "Exchanging"
  | done => "Done"
  | error => "Error"

/-- Whether a session can be started. -/
def canStart (activity : Activity) : Bool :=
  activity ≠ running

end Activity

/-- Counts over all sessions. -/
structure Statistics where
  completed : Nat := 0
  failed : Nat := 0
  messagesSent : Nat := 0
  retries : Nat := 0
  lastError : Option String := none
  /-- Whether a session was ever run to its end. -/
  hasSynced : Bool := false
deriving DecidableEq

namespace Statistics

/-- The counts after one more session that ended with a report. -/
def count (report : SyncReport) (statistics : Statistics) : Statistics :=
  let statistics := { statistics with
    messagesSent := statistics.messagesSent + report.messagesSent
    retries := statistics.retries + report.retries
    hasSynced := true }
  if report.isSuccess then
    { statistics with completed := statistics.completed + 1, lastError := none }
  else { statistics with failed := statistics.failed + 1, lastError := report.error }

/-- The counts after one more session that could not even begin. -/
def countRefusal (e : SyncError) (statistics : Statistics) : Statistics :=
  { statistics with failed := statistics.failed + 1, lastError := some e.message }

end Statistics

/-- A configuration and what became of the sessions with it. -/
structure Synchronizer where
  config : SyncConfig
  activity : Activity := .idle
  statistics : Statistics := {}
deriving DecidableEq

/-! ## The start and the end of sources -/

namespace SessionItems

variable {β ν : Type} [Backend β] [PropertyNode ν]

/-- What the report says of the changes in a source that began. -/
def countChanges (changes : ChangeSet) : ChangeCounts :=
  { added := changes.added.length
    updated := changes.updated.length
    deleted := changes.deleted.length }

/-- Begin a source if it takes part. -/
def beginSource (config : SyncConfig) (source : Source β ν) :
    Source β ν × SourceReport × Option SourceOffer :=
  let mode := config.modeFor source.name
  let report : SourceReport := { name := source.name, mode }
  if mode.isEnabled then
    match (Source.beginSync mode).on source with
    | (.ok changes, source) =>
      (source, { report with localChanges := countChanges changes },
        some { name := source.name, mode, mimeType := source.mimeType, changes })
    | (.error e, source) => (source, report.failStore e.message, none)
  else (source, report, none)

/-- Begin all sources, with the reports and the offers made so far. -/
def beginAll (config : SyncConfig) (reports : Table SourceReport) (offers : List SourceOffer) :
    List (Source β ν) → SessionItems β ν × List SourceOffer
  | [] => ({ sources := [], reports }, offers)
  | source :: rest =>
    let (source, report, offer) := beginSource config source
    let (items, offers) :=
      beginAll config (reports.insert source.name report) (offers ++ offer.toList) rest
    ({ items with sources := source :: items.sources }, offers)

/-- End a source, and commit it if the session and the source itself went well. -/
def endSource (success : Bool) (source : Source β ν) (report : SourceReport) :
    Source β ν × SourceReport :=
  let report := match source.failure with
    | some reason => report.failStore reason
    | none => report
  match (Source.endSync (success && report.status.isSuccess)).on source with
  | (.ok committed, source) => (source, { report with committed })
  | (.error e, source) => (source, report.failStore e.message)

/-- End all sources that took part. -/
def endAll (success : Bool) (reports : Table SourceReport) :
    List (Source β ν) → SessionItems β ν
  | [] => { sources := [], reports }
  | source :: rest =>
    let (source, reports) := match reports.get? source.name with
      | none => (source, reports)
      | some report =>
        if report.mode.isEnabled then
          let (ended, report) := endSource success source report
          (ended, reports.insert source.name report)
        else (source, reports)
    let items := endAll success reports rest
    { items with sources := source :: items.sources }

end SessionItems

/-! ## Sessions -/

/-- Everything that a session works with. -/
structure Setting (α β ν χ υ : Type) where
  synchronizer : Synchronizer
  registry : Registry
  person : υ
  sources : List (Source β ν)
  engine : χ
  agent : α

namespace SyncReport

/-- The report of a session that ended, with its status and the reason for it. -/
def conclude (ending : Except SyncError SessionEnd) (report : SyncReport) : SyncReport :=
  match ending with
  | .ok (.failed status reason) => { report with status, error := some reason }
  | .ok ending => { report with status := ending.status }
  | .error e => { report with status := e.status, error := some e.message }

/-- The report with the sources as they ended.  A session that went well takes over the failure of
the first source that did not. -/
def withSources (sources : Table SourceReport) (report : SyncReport) : SyncReport :=
  let report := { report with sources }
  match sources.entries.find? fun entry => !entry.2.status.isSuccess with
  | some (_, failed) =>
    if report.status.isSuccess then { report with status := failed.status, error := failed.error }
    else report
  | none => report

end SyncReport

namespace Synchronizer

variable {α β ν χ υ : Type} [Agent α] [Backend β] [PropertyNode ν] [UserInterface υ]

/-- What an engine is told about a session. -/
def sessionInfo (config : SyncConfig) (password : String) : SessionInfo :=
  { config := config.name, url := config.url, username := config.username, password
    contentType := config.contentType }

/-- The agent with the settings of a configuration. -/
def equip (config : SyncConfig) (agent : α) : α :=
  Agent.setTimeout config.retry.messageTimeout (Agent.setContentType config.contentType agent)

/-- Let the engine begin and take its steps. -/
def converse [Surroundings α (Happening β ν)] [Engine χ (Happening β ν)] (policy : RetryPolicy)
    (horizon : Nat) (info : SessionInfo) (offers : List SourceOffer) (engine : χ)
    (session : Session α β ν) : Option (Except SyncError SessionEnd) × χ × Session α β ν :=
  match (Engine.begin (Happening β ν) info offers).on engine with
  | (.error e, engine) => (some (.error e), engine, session)
  | (.ok (), engine) => session.converse policy horizon .none .start engine

/-- The report of a session that ended, and its sources after that. -/
def finish (config : SyncConfig) (ending : Except SyncError SessionEnd) (session : Session α β ν) :
    SyncReport × List (Source β ν) :=
  let report : SyncReport :=
    { config := config.name, messagesSent := session.messagesSent, retries := session.retries }
  let report := report.conclude ending
  let items := SessionItems.endAll report.status.isSuccess session.items.reports
    session.items.sources
  (report.withSources items.reports, items.sources)

/-- The synchronizer after a session that ended with a report. -/
def recordReport (report : SyncReport) (synchronizer : Synchronizer) : Synchronizer :=
  { synchronizer with
    activity := if report.isSuccess then .done else .error
    statistics := synchronizer.statistics.count report }

/-- The synchronizer after a session that could not even begin. -/
def recordRefusal (e : SyncError) (synchronizer : Synchronizer) : Synchronizer :=
  { synchronizer with
    activity := .error, statistics := synchronizer.statistics.countRefusal e }

/-- Begin the sources and exchange messages, with a password, until the session ends or the engine has
taken a number of steps. -/
def proceed [Surroundings α (Happening β ν)] [Engine χ (Happening β ν)] (horizon : Nat)
    (password : String) (setting : Setting α β ν χ υ) :
    Option (Except SyncError SessionEnd) × χ × Session α β ν :=
  let config := setting.synchronizer.config
  let (items, offers) := SessionItems.beginAll config .empty [] setting.sources
  let session : Session α β ν := { agent := equip config setting.agent, items }
  converse config.retry horizon (sessionInfo config password) offers setting.engine session

/-- A session that ended; there is no result if it goes on after a number of steps of the engine. -/
def exchange [Surroundings α (Happening β ν)] [Engine χ (Happening β ν)] (horizon : Nat)
    (password : String) (setting : Setting α β ν χ υ) :
    Option (Except SyncError SessionEnd × χ × Session α β ν) :=
  let (ending, engine, session) := proceed horizon password setting
  ending.map fun ending => (ending, engine, session)

/-- Run a session with a password. -/
def conduct [Surroundings α (Happening β ν)] [Engine χ (Happening β ν)] (horizon : Nat)
    (password : String) (setting : Setting α β ν χ υ) :
    Option (SyncReport × Setting α β ν χ υ) :=
  (exchange horizon password setting).map fun (ending, engine, session) =>
    let (report, sources) := finish setting.synchronizer.config ending session
    (report, { setting with
      synchronizer := setting.synchronizer.recordReport report
      sources, engine, agent := Agent.shutdown session.agent })

/-- Run a session.  One that is running already, or has the name of a session that is, is refused and
changes nothing. -/
def run [Surroundings α (Happening β ν)] [Engine χ (Happening β ν)] (horizon : Nat)
    (setting : Setting α β ν χ υ) :
    Option (Except SyncError SyncReport × Setting α β ν χ υ) :=
  let name := setting.synchronizer.config.name
  if !setting.synchronizer.activity.canStart then some (.error (.sessionBusy name), setting)
  else match (Registry.register name {}).on setting.registry with
    | (.error e, _) => some (.error e, setting)
    | (.ok (), registry) =>
      let registry := registry.release name
      match (setting.synchronizer.config.resolvePassword).on setting.person with
      | (.error e, person) =>
        some (.error e, { setting with
          registry, person, synchronizer := setting.synchronizer.recordRefusal e })
      | (.ok password, person) =>
        (conduct horizon password { setting with registry, person }).map
          fun (report, setting) => (.ok report, setting)

end Synchronizer

end DataSync
