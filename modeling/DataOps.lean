import DataOps.WorkerReaper
import DataOps.WorkerRunner
import DataOps.ApiApprovals
import DataOps.ApiRemediationDecisions
import DataOps.LibDict
import DataOps.CsvTable
import DataOps.MatchUnionFind
import DataOps.MatchComparison
import DataOps.MatchEngine
import DataOps.MatchStages
import DataOps.MatchPairs
import DataOps.MatchGraph
import DataOps.MatchGroups
import DataOps.MatchPersist
import DataOps.ExportEngine
import DataOps.ExportGroups
import DataOps.ExportRoundTrip
import DataOps.LibCsv
import DataOps.LibCsvCells
import DataOps.LibCsvLosses
import DataOps.LibCsvBadRows
import DataOps.CsvLoader
import DataOps.CsvHandOff
import DataOps.ApiDecisionReaders
import DataOps.LibTextRuns
import DataOps.LibPython
import DataOps.DetectEngine
import DataOps.ValidateMirror
import DataOps.QualityRowCount
import DataOps.QualityConsistency
import DataOps.QualityCap
import DataOps.QualityBaseline
import DataOps.RemediateClears
import DataOps.ScheduleSkew
import DataOps.ScheduleOnce
import DataOps.RetentionAudit
import DataOps.CleaningEngine
import DataOps.StandardizationEngine
import DataOps.ChangeReplay
import DataOps.PersistenceCaps
import DataOps.PersistenceWidths
import DataOps.RemediateOrder
import DataOps.ValidateOrder
import DataOps.DownloadArtifacts
import DataOps.DownloadAudit
import DataOps.MatchRuleSets
import DataOps.MatchRuleSetVersions
import DataOps.ReviewQueueIsolation
import DataOps.QualityChainRuns
import DataOps.QualityChainLinks
import DataOps.WorkerLeaseLoss
import DataOps.WorkerMetrics
import DataOps.RemediatePartition
import DataOps.StandardizeNumbers
import DataOps.QualityMonotone
import DataOps.QualityWellFormed
import DataOps.ColumnRules
import DataOps.ApprovedChanges
import DataOps.ReadEndpoints
import DataOps.ReadIsolation
import DataOps.ReadPages
import DataOps.ReadTables
import DataOps.CleaningValues
import DataOps.CleaningRaises
import DataOps.CleaningIdempotent
import DataOps.StandardizeIdempotent
import DataOps.Slugs
import DataOps.ProfileDuplicates
import DataOps.DetectBlanks
import DataOps.ReviewQueueSearch
import DataOps.RetentionRuns
import DataOps.RetentionStarvation
import DataOps.ScheduleLoop
import DataOps.LibPages
import DataOps.ScheduleRuns
import DataOps.AuditLogs
import DataOps.MatchOnce
import DataOps.ChangeOrder
import DataOps.AuditLogPages
import DataOps.MatchUnionFindRuns
import DataOps.SecretKeys
import DataOps.LibPrograms
import DataOps.PipelineDescribed
import DataOps.PipelineOverlap
import DataOps.PipelineLooks
import DataOps.PipelineLeases
import DataOps.PipelineRecords
import DataOps.PipelineLineage
import DataOps.PipelineReviewed
import DataOps.PipelineFlow
import DataOps.PipelineTenants
import DataOps.PipelineProfiling
import DataOps.Accounts
import DataOps.AccountRuns
import DataOps.LibRegistry
import DataOps.DataSources
import DataOps.DataSourceWrites
import DataOps.DataSourceRuns
import DataOps.CredentialRuns
import DataOps.ScheduleWrites
import DataOps.ScheduleNames
import DataOps.StandardizationConfiguration
