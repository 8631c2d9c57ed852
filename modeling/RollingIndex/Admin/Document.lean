import RollingIndex.Report.Basic

/-!
# Statistics and reports as JSON

The forms in which statistics, settings, reports of sweeps and reports of a deployment leave the
program. A value that is absent is `null`, but the storage type of settings is left out.
-/

namespace RollingIndex

/-- The JSON form of statistics. -/
def IndexStats.toJson (stats : IndexStats) : Json := .ofFields [
  ("name", .text stats.name),
  ("primary_docs", .nat stats.primaryDocs),
  ("store_size_bytes", .nat stats.sizeBytes),
  ("creation_order", .nat stats.creationOrder)]

/-- The JSON form of settings. -/
def IndexSettings.toJson (settings : IndexSettings) : Json :=
  let storeType := match settings.storeType with
    | some storeType => [("store_type", Json.text storeType)]
    | none => []
  .ofFields ([
    ("number_of_shards", .nat settings.shards),
    ("number_of_replicas", .nat settings.replicas)] ++ storeType)

/-- The JSON form of the report of a sweep. -/
def SweepReport.toJson (report : SweepReport) : Json := .ofFields [
  ("index_count", .nat report.indexCount),
  ("max_indices", .nat report.maxIndices),
  ("deleted", .texts report.deleted),
  ("skipped", .texts report.skipped),
  ("failed", .texts report.failed)]

/-- The JSON form of a report. -/
def Report.toJson (report : Report) : Json := .ofFields [
  ("node_count", .nat report.nodeCount),
  ("deflector_alias", .text report.writeAlias),
  ("deflector_target", .ofOption .text report.target),
  ("recent_index", .text report.recentIndex),
  ("recent_index_docs", .ofOption .nat report.recentDocs),
  ("total_messages", .nat report.totalMessages),
  ("total_size_bytes", .nat report.totalBytes),
  ("total_size_mb", .nat report.totalMegabytes),
  ("indices", .array (report.indices.map IndexStats.toJson))]

end RollingIndex
