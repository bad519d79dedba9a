import PrivateAiWorkspace.ControlPlane.RateWindow
import PrivateAiWorkspace.ControlPlane.ModelRequests.OpenCap
import PrivateAiWorkspace.ControlPlane.ModelRequests.Lifecycle
import PrivateAiWorkspace.ControlPlane.Server.OneResponse
import PrivateAiWorkspace.ModelInstaller.DenyByDefault
import PrivateAiWorkspace.ModelInstaller.Cluster
import PrivateAiWorkspace.ModelInstaller.Rollout
import PrivateAiWorkspace.ModelInstaller.AtMostOnce
import PrivateAiWorkspace.ModelInstaller.Stranded
import PrivateAiWorkspace.ModelInstaller.Drain
import PrivateAiWorkspace.ControlPlane.Services
import PrivateAiWorkspace.Effects.Discipline
import PrivateAiWorkspace.ControlPlane.AgentTools
import PrivateAiWorkspace.ControlPlane.AgentLoop
import PrivateAiWorkspace.ControlPlane.DeepResearch
import PrivateAiWorkspace.Python.IpAddress
import PrivateAiWorkspace.Python.Url
import PrivateAiWorkspace.ControlPlane.Outbound
import PrivateAiWorkspace.ControlPlane.Integrations
import PrivateAiWorkspace.ControlPlane.Compare
import PrivateAiWorkspace.ControlPlane.Mcp
import PrivateAiWorkspace.ControlPlane.Media
import PrivateAiWorkspace.ControlPlane.Chat
import PrivateAiWorkspace.ControlPlane.Permits
import PrivateAiWorkspace.ControlPlane.PermitPool
import PrivateAiWorkspace.ControlPlane.MediaPayload
import PrivateAiWorkspace.ControlPlane.Artifacts
import PrivateAiWorkspace.ControlPlane.TokenCache
import PrivateAiWorkspace.ControlPlane.TokenScope
import PrivateAiWorkspace.Effects.Isolation
import PrivateAiWorkspace.ControlPlane.Conversations
import PrivateAiWorkspace.ControlPlane.Memory
import PrivateAiWorkspace.ControlPlane.Notes
import PrivateAiWorkspace.ControlPlane.AgentTurns
import PrivateAiWorkspace.ControlPlane.AgentAuthorization
import PrivateAiWorkspace.ControlPlane.AgentEnd
import PrivateAiWorkspace.ControlPlane.ToolContract
import PrivateAiWorkspace.ControlPlane.AgentAudit
import PrivateAiWorkspace.ControlPlane.IntegrationSecrets
import PrivateAiWorkspace.ControlPlane.SecretRotation
import PrivateAiWorkspace.ControlPlane.SecretWindow
import PrivateAiWorkspace.ControlPlane.IntegrationsGoogle
import PrivateAiWorkspace.ControlPlane.InvokeClosure
import PrivateAiWorkspace.Python.Utf8
import PrivateAiWorkspace.Dispatcher.JobRunner
import PrivateAiWorkspace.Dispatcher.JobReading
import PrivateAiWorkspace.Dispatcher.JobLedger
import PrivateAiWorkspace.Dispatcher.JobPolls
import PrivateAiWorkspace.Dispatcher.JobClosure
import PrivateAiWorkspace.Dispatcher.Cluster
import PrivateAiWorkspace.Dispatcher.RunPhases
import PrivateAiWorkspace.Dispatcher.RunIsolation
import PrivateAiWorkspace.ControlPlane.SandboxBackends
import PrivateAiWorkspace.Dispatcher.PodRuns
import PrivateAiWorkspace.Dispatcher.BackendAgreement
import PrivateAiWorkspace.ControlPlane.InferenceClient
import PrivateAiWorkspace.ControlPlane.ChatDegradation
import PrivateAiWorkspace.ControlPlane.NotificationStream
import PrivateAiWorkspace.Lists.Framing
import PrivateAiWorkspace.Ui.NotificationStream
import PrivateAiWorkspace.ControlPlane.RateAdmission
import PrivateAiWorkspace.ControlPlane.Retrieval
import PrivateAiWorkspace.ControlPlane.McpExecutor
import PrivateAiWorkspace.ControlPlane.MetadataBlock
import PrivateAiWorkspace.ControlPlane.RequestBodies
import PrivateAiWorkspace.ModelInstaller.Nodegroup
import PrivateAiWorkspace.ControlPlane.ResearchRuns
import PrivateAiWorkspace.Effects.Agreement
import PrivateAiWorkspace.Postgres.Statements
import PrivateAiWorkspace.Postgres.Mirrors
import PrivateAiWorkspace.ControlPlane.NotesBackends
import PrivateAiWorkspace.ControlPlane.NotificationBackends
import PrivateAiWorkspace.ControlPlane.ConversationBackends
import PrivateAiWorkspace.Effects.Linearization
import PrivateAiWorkspace.Postgres.Sessions
import PrivateAiWorkspace.ControlPlane.ConversationTransactions
import PrivateAiWorkspace.ControlPlane.SecretIds
import PrivateAiWorkspace.Whitelists
import PrivateAiWorkspace.SharedTokens
import PrivateAiWorkspace.Dispatcher.ManifestNames
import PrivateAiWorkspace.ControlPlane.DocumentIndexing
import PrivateAiWorkspace.ControlPlane.EmbeddingClient
import PrivateAiWorkspace.ControlPlane.WebSearch
import PrivateAiWorkspace.ControlPlane.GoogleCalendar
import PrivateAiWorkspace.ControlPlane.BaseUrl
import PrivateAiWorkspace.Python.JsonText
import PrivateAiWorkspace.ControlPlane.JsonExtraction
import PrivateAiWorkspace.Python.JsonRoundTrip
import PrivateAiWorkspace.ControlPlane.MemoryEndpoints
import PrivateAiWorkspace.Effects.HostingWorld
import PrivateAiWorkspace.Lists.Survivors
import PrivateAiWorkspace.Lists.Ranking
import PrivateAiWorkspace.Python.FloatOrder
import PrivateAiWorkspace.ControlPlane.MemoryService
import PrivateAiWorkspace.ControlPlane.RetrievalService
import PrivateAiWorkspace.Python.PrintedJson
import PrivateAiWorkspace.Sandbox.Runner
