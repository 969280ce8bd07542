import LiveData.Events.ReaderTotality
import LiveData.Events.NoEventLost
import LiveData.Events.FirstWrite
import LiveData.Events.BatchLimit
import LiveData.Events.Ordering
import LiveData.Events.Storability
import LiveData.Events.ProducerRuns
import LiveData.Events.Trimming
import LiveData.Events.EndToEnd
import LiveData.Generator.OccurredAt
import LiveData.Generator.TrafficProfile
import LiveData.Generator.CatalogShape
import LiveData.Generator.CommandLine
import LiveData.Analytics.PolicySoundness
import LiveData.Analytics.PolicyCompleteness
import LiveData.Analytics.SqlText
import LiveData.Analytics.Acyclicity
import LiveData.Analytics.Lockstep
import LiveData.Analytics.BuiltinViews
import LiveData.Analytics.ViewTableNames
import LiveData.Analytics.ExploreColumns
import LiveData.Analytics.RouteErrors
import LiveData.Analytics.ReaderGrants
import LiveData.Analytics.ChartSuggestion
import LiveData.Analytics.ViewTableMetadata
import LiveData.Analytics.ViewStability
import LiveData.Analytics.ExploreResolution
import LiveData.Frontend.ExplorePreview
import LiveData.Frontend.PreviewTotality
import LiveData.Frontend.ProxyRoutes
import LiveData.Frontend.ProxyPaths
import LiveData.Frontend.ResultPreview
import LiveData.Frontend.WorkspaceRequests
import LiveData.Platform.Readiness
import LiveData.Platform.Restart
import LiveData.Platform.Resources
import LiveData.Platform.Draining
import LiveData.Platform.TraceContext
import LiveData.Guardrails.LazyImportReports
import LiveData.Guardrails.DynamicAttributes
