import NetworkAgent.Lab.Bundle
import NetworkAgent.Library.Csv
import NetworkAgent.Library.Table

/-! The adapter of the interference dataset: the records of one file become observations, and its
anomaly labels the ground-truth episodes of a bundle. -/
namespace NetworkAgent.Adapters
open Checks (require)
open Lab (AdapterError)
open NetworkAgent.Bundle

/-- An exception of an adapter: one of its own errors, or one that it does not raise itself. -/
inductive Failure where
  | adapter (error : AdapterError)
  | validationError
  | overflowError
  | typeError
  deriving DecidableEq

def invalid : Failure := .adapter .invalidInput
def unsafeField : Failure := .adapter .unsafeField
def limitExceeded : Failure := .adapter .limitExceeded

def orInvalid {α : Type} : Option α → Except Failure α
  | some a => .ok a
  | none => .error invalid

def maxInputCsvBytes : Nat := 128 * 1024 * 1024
def maxCsvColumns : Nat := 256
def maxCsvFieldBytes : Nat := 64 * 1024
def maxCsvRowBytes : Nat := 256 * 1024
def maxGnbIdentifier : Nat := 2 ^ 36 - 1

/-! Columns. -/

/-- `_COLUMN_MAP`: a column, its metric and the unit. -/
def columnMap : List (String × String × String) :=
  [("mac_bsr", "ran.mac.buffer_status_report", "count"),
   ("mac_dl_aggr_prb", "ran.mac.dl_aggregated_prb", "PRB"),
   ("mac_ul_aggr_prb", "ran.mac.ul_aggregated_prb", "PRB"),
   ("mac_dl_aggr_retx_prb", "ran.mac.dl_retransmission_prb", "PRB"),
   ("mac_ul_aggr_retx_prb", "ran.mac.ul_retransmission_prb", "PRB"),
   ("mac_dl_sched_rb", "ran.mac.dl_scheduled_rb", "PRB"),
   ("mac_ul_sched_rb", "ran.mac.ul_scheduled_rb", "PRB"),
   ("mac_dl_bler", "ran.mac.dl_bler", "ratio"), ("mac_ul_bler", "ran.mac.ul_bler", "ratio"),
   ("mac_dl_mcs1", "ran.mac.dl_mcs", "index"), ("mac_ul_mcs1", "ran.mac.ul_mcs", "index"),
   ("mac_ul_harq2", "ran.mac.ul_harq_process_2", "count"),
   ("mac_ul_harq3", "ran.mac.ul_harq_process_3", "count"),
   ("mac_pucch_snr", "ran.mac.pucch_snr", "dB"), ("mac_pusch_snr", "ran.mac.pusch_snr", "dB"),
   ("mac_phr", "ran.mac.power_headroom", "dB"), ("mac_wb_cqi", "ran.mac.wideband_cqi", "index"),
   ("mac_dlsch_errors", "ran.mac.dl_shared_channel_errors", "count"),
   ("mac_ulsch_errors", "ran.mac.ul_shared_channel_errors", "count"),
   ("rlc_txpdu_retx_pkts", "ran.rlc.tx_retransmitted_pdus", "count"),
   ("rlc_txbuf_occ_bytes", "ran.rlc.tx_buffer_occupancy", "bytes"),
   ("rlc_rxpdu_dd_pkts", "ran.rlc.rx_dropped_pdus", "count"),
   ("rlc_rxbuf_occ_bytes", "ran.rlc.rx_buffer_occupancy", "bytes"),
   ("rlc_txsdu_avg_time_to_tx", "ran.rlc.average_sdu_tx_delay", "microseconds"),
   ("rlc_txsdu_wt_us", "ran.rlc.head_of_line_sdu_delay", "microseconds"),
   ("pdcp_rxpdu_oo_pkts", "ran.pdcp.rx_out_of_order_pdus", "count"),
   ("pdcp_rxpdu_dd_pkts", "ran.pdcp.rx_discarded_pdus", "count"),
   ("kpm_drb_ue_thp_dl", "ran.kpm.dl_throughput", "bps"),
   ("kpm_drb_ue_thp_ul", "ran.kpm.ul_throughput", "bps"),
   ("kpm_rru_prb_used_dl", "ran.kpm.dl_used_prb", "PRB"),
   ("kpm_rru_prb_used_ul", "ran.kpm.ul_used_prb", "PRB"),
   ("kpm_rru_prb_tot_dl", "ran.kpm.dl_total_prb", "PRB"),
   ("kpm_rru_prb_tot_ul", "ran.kpm.ul_total_prb", "PRB")]

/-- `_BASE_COLUMNS`. -/
def baseColumns : List String :=
  ["timestamp", "timestamp_iso", "ran_ue_id", "e2node_nb_id", "persistent_anomaly"]

def requiredColumns : List String := baseColumns ++ columnMap.map (·.1)

def ignoredUpstreamMetricColumns : List String :=
  ["kpm_carr_mupdschmcs_dist_bin", "kpm_carr_wbcqi_dist_bin", "kpm_drb_pdcp_sdu_volume_dl",
   "kpm_drb_pdcp_sdu_volume_ul", "kpm_drb_rlc_sdu_delay_dl", "kpm_rru_prb_avail_dl",
   "kpm_rru_prb_avail_ul", "mac_dl_aggr_bytes_sdus", "mac_dl_aggr_sdus", "mac_dl_aggr_tbs",
   "mac_dl_curr_tbs", "mac_dl_harq0", "mac_dl_harq1", "mac_dl_harq2", "mac_dl_harq3",
   "mac_dl_mcs2", "mac_dl_num_harq", "mac_frame", "mac_slot", "mac_ul_aggr_bytes_sdus",
   "mac_ul_aggr_sdus", "mac_ul_aggr_tbs", "mac_ul_curr_tbs", "mac_ul_harq0", "mac_ul_harq1",
   "mac_ul_mcs2", "mac_ul_num_harq", "pdcp_rxpdu_bytes", "pdcp_rxpdu_dd_bytes",
   "pdcp_rxpdu_oo_bytes", "pdcp_rxpdu_pkts", "pdcp_rxpdu_ro_count", "pdcp_rxpdu_sn",
   "pdcp_rxsdu_bytes", "pdcp_rxsdu_pkts", "pdcp_txpdu_bytes", "pdcp_txpdu_pkts", "pdcp_txpdu_sn",
   "pdcp_txsdu_bytes", "pdcp_txsdu_pkts", "rlc_rxbuf_occ_pkts", "rlc_rxpdu_bytes",
   "rlc_rxpdu_dd_bytes", "rlc_rxpdu_dup_bytes", "rlc_rxpdu_dup_pkts", "rlc_rxpdu_ow_bytes",
   "rlc_rxpdu_ow_pkts", "rlc_rxpdu_pkts", "rlc_rxpdu_status_bytes", "rlc_rxpdu_status_pkts",
   "rlc_rxsdu_bytes", "rlc_rxsdu_dd_bytes", "rlc_rxsdu_dd_pkts", "rlc_rxsdu_pkts",
   "rlc_txbuf_occ_pkts", "rlc_txpdu_bytes", "rlc_txpdu_dd_bytes", "rlc_txpdu_dd_pkts",
   "rlc_txpdu_pkts", "rlc_txpdu_retx_bytes", "rlc_txpdu_segmented", "rlc_txpdu_status_bytes",
   "rlc_txpdu_status_pkts", "rlc_txpdu_wt_ms", "rlc_txsdu_bytes", "rlc_txsdu_pkts"]

def allowedSchemaVariants : List (List String) :=
  [requiredColumns, "" :: requiredColumns, requiredColumns ++ ignoredUpstreamMetricColumns,
   "" :: requiredColumns ++ ignoredUpstreamMetricColumns]

/-! Fields. -/

/-- `datetime.min` and `datetime.max` in UTC. -/
def representable (t : Instant) : Prop := -62135596800000000 ≤ t ∧ t ≤ 253402300799999999

instance (t : Instant) : Decidable (representable t) := inferInstanceAs (Decidable (_ ∧ _))

/-- What `datetime.fromisoformat` reads: a time of the calendar, with or without an offset. -/
structure IsoTime where
  wall : Instant
  offset : Option Int
  calendar : representable wall

structure Readers where
  /-- The text over the bytes of a file, line by line, as far as it decodes. -/
  openText : List Nat → Csv.Stream (List Char)
  /-- `none` for a text that is no number, and for an infinite one. -/
  float : String → Option ℚ
  fromisoformat : String → Option IsoTime
  casefold : String → String

/-- `astimezone(UTC)`, of a time with an offset. -/
def astimezone (wall : Instant) (offset : Int) : Except Failure Instant := do
  require (representable (wall - offset)) .overflowError
  return wall - offset

def isDigits (maximum : Nat) (s : String) : Bool :=
  decide (1 ≤ s.length) && decide (s.length ≤ maximum) && s.toList.all Char.isDigit

/-- `int` of a text of digits. -/
def intOf (s : String) : Nat := Nat.ofDigitChars 10 s.toList 0

/-- The text before a final `Z`, with the offset zero after it. -/
def withOffset (raw : String) : String :=
  match raw.toList.reverse with
  | c :: rest => if c = 'Z' ∨ c = 'z' then String.ofList rest.reverse ++ "+00:00" else raw
  | [] => raw

def parseFloat (r : Readers) (value : String) : Except Failure (Option ℚ) :=
  let normalized := strip value
  if r.casefold normalized ∈ ["", "null", "none"] then .ok none
  else some <$> orInvalid (r.float normalized)

def parseLabel (r : Readers) (value : String) : Except Failure Bool :=
  let normalized := r.casefold (strip value)
  if normalized ∈ ["1", "true"] then .ok true
  else if normalized ∈ ["0", "false"] then .ok false
  else .error invalid

def IsoTime.toUtc (t : IsoTime) : Except Failure Instant := match t.offset with
  | none => .ok t.wall
  | some offset => astimezone t.wall offset

/-- The first instants of the years 2000 and 2101. -/
def isDatasetTime (t : Instant) : Prop := 946684800000000 ≤ t ∧ t < 4133980800000000

instance (t : Instant) : Decidable (isDatasetTime t) := inferInstanceAs (Decidable (_ ∧ _))

def parseCsvTime (r : Readers) (unixValue isoValue : String) : Except Failure Instant := do
  require (isDigits 11 (strip unixValue) = true) invalid
  let unixTime : Instant := 1000000 * (intOf (strip unixValue) : Int)
  let isoTime ← orInvalid (r.fromisoformat (withOffset (strip isoValue)))
  let isoTime ← isoTime.toUtc
  require (isoTime = unixTime ∧ isDatasetTime unixTime) invalid
  return unixTime

structure Provenance where
  datasetId : String
  datasetVersion : String
  sourceSha256 : Sha256.Digest

def safeResourceId (h : Host) (p : Provenance) (rawGnbId : String) : Except Failure String := do
  require (isDigits 11 (strip rawGnbId) = true) unsafeField
  require (intOf (strip rawGnbId) ≤ maxGnbIdentifier) unsafeField
  let digest := h.sha256 (utf8 "telco-lab:safe-gnb-alias:v1" ++ 0 :: utf8 p.datasetId ++
    0 :: utf8 p.datasetVersion ++ 0 :: utf8 (toString (intOf (strip rawGnbId))))
  return "lab:5g-sa:gnb:" ++ String.ofList (digest.text.toList.take 24)

/-! Episodes. -/

structure OpenEpisode where
  resourceId : String
  windowStart : Instant
  windowEnd : Instant
  sampleCount : Nat
  firstObservationId : String
  lastObservationId : String
  deriving DecidableEq

def closeEpisode (h : Host) (p : Provenance) (state : OpenEpisode) : Option LabEpisode :=
  let payload : LabEpisode := {
    episodeId := ""
    datasetId := p.datasetId
    datasetVersion := p.datasetVersion
    sourceArtifactSha256 := p.sourceSha256
    resourceId := state.resourceId
    windowStart := state.windowStart
    windowEnd := state.windowEnd
    sampleCount := state.sampleCount
    firstObservationId := state.firstObservationId
    lastObservationId := state.lastObservationId }
  LabEpisode.modelValidate h
    { payload with episodeId := stableContentId h "truth" (.obj payload.identity) }

structure Limits where
  observations : Nat
  episodes : Nat
  outputBytes : Nat

structure Reading where
  observations : List LabObservation := []
  episodes : List LabEpisode := []
  openEpisodes : Table String OpenEpisode := ∅
  previousTime : Table String Instant := ∅
  outputBytes : Nat := 0

def appendEpisode (h : Host) (p : Provenance) (limits : Limits) (s : Reading)
    (state : OpenEpisode) : Except Failure Reading := do
  require (s.episodes.length < limits.episodes) limitExceeded
  match closeEpisode h p state with
  | none => .error .validationError
  | some episode =>
    let outputBytes := s.outputBytes + serializedBytes h episode.dump
    require (outputBytes ≤ limits.outputBytes) limitExceeded
    return { s with episodes := s.episodes ++ [episode], outputBytes }

def startEpisode (observation : LabObservation) : OpenEpisode where
  resourceId := observation.resourceId
  windowStart := observation.observedAt
  windowEnd := observation.observedAt
  sampleCount := 1
  firstObservationId := observation.observationId
  lastObservationId := observation.observationId

def extendEpisode (current : OpenEpisode) (observation : LabObservation) : OpenEpisode :=
  { current with
    windowEnd := observation.observedAt
    sampleCount := current.sampleCount + 1
    lastObservationId := observation.observationId }

/-- What the label of an observation does to the episode of its resource. -/
def trackLabel (h : Host) (p : Provenance) (limits : Limits) (s : Reading)
    (observation : LabObservation) (isAnomalous : Bool) : Except Failure Reading := do
  let resourceId := observation.resourceId
  match isAnomalous, s.openEpisodes.lookup resourceId with
  | true, some current =>
    if observation.observedAt = current.windowEnd + 1000000 then
      return { s with
        openEpisodes := s.openEpisodes.insert resourceId (extendEpisode current observation) }
    else do
      let s ← appendEpisode h p limits s current
      return { s with openEpisodes := s.openEpisodes.insert resourceId (startEpisode observation) }
  | true, none =>
    return { s with openEpisodes := s.openEpisodes.insert resourceId (startEpisode observation) }
  | false, some current => do
    let s ← appendEpisode h p limits s current
    return { s with openEpisodes := s.openEpisodes.erase resourceId }
  | false, none => return s

/-! Records. -/

/-- `row[positions[name]]`. -/
def cell (headers row : List String) (name : String) : String :=
  ((headers.zip row).lookup name).getD ""

def textBytes (s : String) : Nat := (utf8 s).length

def checkRow (r : Readers) (headers row : List String) : Except Failure Unit := do
  require (row.length = headers.length) invalid
  require (row.map strip ≠ headers) invalid
  require (r.casefold (strip (cell headers row "timestamp")) ≠ "timestamp") invalid
  require ((∀ item ∈ row, textBytes item ≤ maxCsvFieldBytes) ∧
    (row.map textBytes).sum ≤ maxCsvRowBytes) limitExceeded
  Checks.each (fun name => do let _ ← parseFloat r (cell headers row name))
    (ignoredUpstreamMetricColumns.filter (· ∈ headers))

def readMetrics (r : Readers) (headers row : List String) :
    Except Failure (List (Option (String × ℚ × String))) :=
  columnMap.mapM fun column => do
    let value ← parseFloat r (cell headers row column.1)
    return value.map fun q => (column.2.1, q, column.2.2)

/-- What a record says, without its label. -/
structure Sample where
  observedAt : Instant
  resourceId : String
  metrics : List (String × ℚ)
  units : List (String × String)
  qualityFlags : List String
  deriving DecidableEq

def readSample (h : Host) (r : Readers) (p : Provenance) (headers : List String) (s : Reading)
    (row : List String) : Except Failure Sample := do
  let observedAt ← parseCsvTime r (cell headers row "timestamp") (cell headers row "timestamp_iso")
  let resourceId ← safeResourceId h p (cell headers row "e2node_nb_id")
  require (∀ previous ∈ s.previousTime.lookup resourceId, previous < observedAt) invalid
  let values ← readMetrics r headers row
  let given := values.reduceOption
  require (given ≠ []) invalid
  return {
    observedAt
    resourceId
    metrics := Json.sortFields (given.map fun m => (m.1, m.2.1))
    units := Json.sortFields (given.map fun m => (m.1, m.2.2))
    qualityFlags := if none ∈ values then ["MISSING_METRIC_VALUES"] else [] }

def buildObservation (h : Host) (p : Provenance) (recordNumber : Nat) (sample : Sample) :
    Option LabObservation :=
  let payload : LabObservation := {
    observationId := ""
    datasetId := p.datasetId
    datasetVersion := p.datasetVersion
    sourceArtifactSha256 := p.sourceSha256
    sourceRowNumber := recordNumber
    observedAt := sample.observedAt
    resourceId := sample.resourceId
    technology := .fiveGSa
    metrics := sample.metrics
    units := sample.units
    qualityFlags := sample.qualityFlags }
  LabObservation.modelValidate h
    { payload with observationId := stableContentId h "obs" (.obj payload.identity) }

def readRow (h : Host) (r : Readers) (p : Provenance) (limits : Limits) (headers : List String)
    (s : Reading) (record : List String × Nat) : Except Failure Reading := do
  let row := record.1
  require (s.observations.length < limits.observations) limitExceeded
  checkRow r headers row
  let sample ← readSample h r p headers s row
  match buildObservation h p record.2 sample with
  | none => .error .validationError
  | some observation =>
    let outputBytes := s.outputBytes + serializedBytes h observation.dump
    require (outputBytes ≤ limits.outputBytes) limitExceeded
    let s := { s with observations := s.observations ++ [observation], outputBytes }
    let isAnomalous ← parseLabel r (cell headers row "persistent_anomaly")
    let s ← trackLabel h p limits s observation isAnomalous
    return { s with previousTime := s.previousTime.insert sample.resourceId sample.observedAt }

def readHeaders (r : Readers) (rawHeaders : List String) : Except Failure (List String) := do
  require (rawHeaders ≠ [] ∧ rawHeaders.length ≤ maxCsvColumns) limitExceeded
  let headers := rawHeaders.map strip
  require (headers.map r.casefold).Nodup invalid
  require (∀ item ∈ headers, textBytes item ≤ maxCsvFieldBytes ∧
    item.toList.all (fun c => decide (32 ≤ c.toNat)) = true) invalid
  if ∃ variant ∈ allowedSchemaVariants, headers ⊆ variant ∧ variant ⊆ headers then return headers
  else if requiredColumns ⊆ headers then .error unsafeField
  else .error invalid

/-- The records after the first one, numbered as the loop numbers them, and the end of the file. -/
def readRecords (h : Host) (r : Readers) (p : Provenance) (limits : Limits)
    (stream : Csv.Stream (List String)) : Except Failure Reading :=
  match stream.items, stream.error with
  | [], _ => .error invalid
  | rawHeaders :: records, error => do
    let headers ← readHeaders r rawHeaders
    let s ← (records.zipIdx 2).foldlM (readRow h r p limits headers) {}
    require (error = none) invalid
    return s

/-- The exceptions that the loop's `try` turns into errors of the adapter. -/
def caught {α : Type} : Except Failure α → Except Failure α
  | .error .validationError => .error unsafeField
  | .error (.adapter error) => .error (.adapter error)
  | .error .overflowError => .error .overflowError
  | .error .typeError => .error .typeError
  | .ok a => .ok a

/-- The episodes that are open when the file ends, in the order of their resources. -/
def flush (h : Host) (p : Provenance) (limits : Limits) (s : Reading) : Except Failure Reading :=
  ((s.openEpisodes.keys.insertionSort fun a b => textLe a b).filterMap fun resourceId =>
    s.openEpisodes.lookup resourceId).foldlM (appendEpisode h p limits) s

/-! The bundle. -/

def episodeOrder (a b : LabEpisode) : Bool :=
  if a.windowStart = b.windowStart then
    if a.resourceId = b.resourceId then textLe a.episodeId b.episodeId
    else textLe a.resourceId b.resourceId
  else decide (a.windowStart ≤ b.windowStart)

def orderedEpisodes (s : Reading) : List LabEpisode :=
  s.episodes.insertionSort fun a b => episodeOrder a b

def buildManifest (h : Host) (p : Provenance) (s : Reading) : LabBundleManifest :=
  let times := s.observations.map (·.observedAt)
  let payload : LabBundleManifest := {
    bundleId := ""
    datasetId := p.datasetId
    datasetVersion := p.datasetVersion
    sourceArtifactSha256 := p.sourceSha256
    sourceLicense := "CC-BY-SA-4.0"
    adapterId := "bubbleran_persistent_interference_v1"
    adapterVersion := "1.0"
    contentSha256 := computeBundleContentSha256 h s.observations (orderedEpisodes s)
    observationCount := s.observations.length
    groundTruthEpisodeCount := s.episodes.length
    windowStart := times.min?.getD 0
    windowEnd := times.max?.getD 0
    resourceIds := sortedSet (s.observations.map (·.resourceId))
    metricNames := sortedSet (s.observations.flatMap fun o => o.metrics.map Prod.fst) }
  { payload with bundleId := stableContentId h "bundle" (.obj payload.identityPayload) }

def assemble (h : Host) (p : Provenance) (limits : Limits) (s : Reading) :
    Except Failure LabBundle := do
  require (s.observations ≠ []) invalid
  match LabBundleManifest.modelValidate h (buildManifest h p s) with
  | none => .error unsafeField
  | some manifest => match LabBundle.modelValidate h ⟨manifest, s.observations, orderedEpisodes s⟩ with
    | none => .error unsafeField
    | some bundle => do
      require (s.outputBytes + serializedBytes h manifest.dump ≤ limits.outputBytes) limitExceeded
      return bundle

/-! The adapter. -/

structure Arguments where
  datasetId : String := "bubbleran-persistent-interference"
  datasetVersion : String := "fa4e3333855d64474e710bc5bebf11a9ec075e0b"
  maxObservations : Option Int := none
  maxEpisodes : Option Int := none
  maxOutputBytes : Option Int := none

def boundedPositiveLimit (value : Option Int) (hardLimit : Nat) : Except Failure Nat :=
  match value with
  | none => .ok hardLimit
  | some n => do
    require (1 ≤ n ∧ n ≤ hardLimit) limitExceeded
    return n.toNat

def readLimits (a : Arguments) : Except Failure Limits := do
  let observations ← boundedPositiveLimit a.maxObservations maxBundleObservations
  let episodes ← boundedPositiveLimit a.maxEpisodes maxBundleEpisodes
  let outputBytes ← boundedPositiveLimit a.maxOutputBytes maxBundleSerializedBytes
  return { observations, episodes, outputBytes }

def streamSha256 (h : Host) (byteLimit : Nat) (content : List Nat) :
    Except Failure Sha256.Digest := do
  require (content.length ≤ byteLimit) limitExceeded
  require (content ≠ []) invalid
  return h.sha256 content

def csvReader (r : Readers) (content : List Nat) : Csv.Stream (List String) :=
  let text := r.openText content
  Csv.records 131072 {} text.items text.error

/-- `adapt_bubbleran_persistent_interference_csv`, of the content of a file that does not change
meanwhile. -/
def adaptCsv (h : Host) (r : Readers) (a : Arguments) (content : List Nat) :
    Except Failure LabBundle := do
  let limits ← readLimits a
  let sourceSha256 ← streamSha256 h maxInputCsvBytes content
  let p : Provenance := ⟨a.datasetId, a.datasetVersion, sourceSha256⟩
  let s ← caught (readRecords h r p limits (csvReader r content))
  let s ← flush h p limits s
  assemble h p limits s

end NetworkAgent.Adapters
