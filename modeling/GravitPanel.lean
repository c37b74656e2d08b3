import GravitPanel.Core.Action
import GravitPanel.Agent.AtMostOnce
import GravitPanel.Servers.AgentStore
import GravitPanel.Servers.AgentService
import GravitPanel.Servers.CommandTable
import GravitPanel.Servers.CommandView
import GravitPanel.Servers.ServiceChanges
import GravitPanel.Servers.AgentNetwork
import GravitPanel.Servers.SerialDispatch
import GravitPanel.Servers.Reconnect
import GravitPanel.Servers.EventTable
import GravitPanel.Journal.Delivery
import GravitPanel.Journal.ExactlyOnce
import GravitPanel.Core.Program
import GravitPanel.Jobs.Store
import GravitPanel.Jobs.Runner
import GravitPanel.Core.SerialQueues
import GravitPanel.Jobs.RunnerLanes
import GravitPanel.Jobs.Queues
import GravitPanel.Jobs.Life
import GravitPanel.Jobs.ReliableSteps
import GravitPanel.Jobs.LifeCycle
import GravitPanel.Jobs.Exclusion
import GravitPanel.Agent.CacheRoundTrip
import GravitPanel.Core.History
import GravitPanel.Servers.Registry
import GravitPanel.Servers.Expiry
import GravitPanel.Servers.FilesystemRequests
import GravitPanel.Servers.RequestsSettled
import GravitPanel.Servers.ProfileServers
import GravitPanel.Core.Roster
import GravitPanel.Servers.BindingService
import GravitPanel.Servers.DefaultServer
import GravitPanel.Servers.BindingFailures
import GravitPanel.Core.IsoDate
import GravitPanel.Portal.Tickets
import GravitPanel.Portal.SingleUse
import GravitPanel.Portal.Skins
import GravitPanel.Portal.ServedSkins
import GravitPanel.Core.Dictionary
import GravitPanel.Launcher.DiscordAuth
import GravitPanel.Launcher.ConsumedOnce
import GravitPanel.Core.FileSystem
import GravitPanel.Agent.Filesystem
import GravitPanel.Agent.FilesystemConfined
import GravitPanel.Core.PosixPath
import GravitPanel.Gravit.ContainerVolume
import GravitPanel.Gravit.LaunchServerFiles
import GravitPanel.Gravit.ProtectedFiles
import GravitPanel.Agent.Rcon
import GravitPanel.Servers.ConsoleCommands
import GravitPanel.Mods.ModpackArchive
import GravitPanel.Servers.OutputTransport
import GravitPanel.Mods.ModpackImport
import GravitPanel.Mods.PackPaths
import GravitPanel.Mods.OptionalIds
import GravitPanel.Core.Words
import GravitPanel.Servers.UnitNames
import GravitPanel.Core.Volume
import GravitPanel.Clients.BuildClient
import GravitPanel.Clients.BuildRuns
import GravitPanel.Clients.RebuiltMetadata
import GravitPanel.Clients.FailedRebuild
import GravitPanel.Clients.Workspace
import GravitPanel.Clients.WorkspaceRollback
import GravitPanel.Clients.PrestarterRollback
import GravitPanel.Launcher.Nicknames
import GravitPanel.Launcher.UserStorage
import GravitPanel.Launcher.UserIndexes
import GravitPanel.Launcher.RegisteredNames
import GravitPanel.Core.Faults
import GravitPanel.Clients.LauncherRuntime
import GravitPanel.Clients.RuntimeRollback
import GravitPanel.Core.TextDecoder
import GravitPanel.ModuleManagement.Removal
import GravitPanel.ModuleManagement.RemovalTransaction
import GravitPanel.RemoteControl.Setup
import GravitPanel.RemoteControl.FailClosed
import GravitPanel.LauncherDockered.Install
import GravitPanel.LauncherDockered.InstallRollback
import GravitPanel.Clients.JavaRuntimes
import GravitPanel.Clients.JavaRuntimeRollback
import GravitPanel.Clients.LoaderInstallers
import GravitPanel.Clients.LoaderVersions
import GravitPanel.Clients.LoaderCache
import GravitPanel.Clients.LoaderMarker
import GravitPanel.Agent.RconCodec
import GravitPanel.Agent.RconOutput
import GravitPanel.Agent.Units
import GravitPanel.Servers.UnitValidity
import GravitPanel.Servers.TerminalRecords
import GravitPanel.Clients.OptionalNames
import GravitPanel.Clients.OptionalProfiles
import GravitPanel.Clients.OptionalConversion
import GravitPanel.Agent.FilesystemErrors
import GravitPanel.Mods.ModrinthResolve
import GravitPanel.Mods.ModInstall
import GravitPanel.Mods.InstallForms
import GravitPanel.Auth.ApplyProvider
import GravitPanel.Auth.DefaultProvider
import GravitPanel.Auth.ProviderDetail
import GravitPanel.Auth.DetailRequests
import GravitPanel.Auth.ReappliedDetails
import GravitPanel.PanelAuth.Sessions
import GravitPanel.Clients.ForgeArtifacts
import GravitPanel.Clients.NeoForgeReleases
import GravitPanel.Clients.ProfileLoaders
import GravitPanel.Core.AbsolutePath
import GravitPanel.Gravit.VolumePaths
import GravitPanel.Mods.PackSelections
import GravitPanel.LauncherDockered.Removal
import GravitPanel.Clients.MinecraftAssets
import GravitPanel.Mods.ModUpdate
import GravitPanel.Core.DepthFirst
import GravitPanel.Mods.DependencyOrder
import GravitPanel.Core.JavaProperties
import GravitPanel.Clients.RuntimeProperties
import GravitPanel.Clients.WebAuthFxml
import GravitPanel.Clients.WebAuthResources
import GravitPanel.SelfUpdate.Deploy
import GravitPanel.SelfUpdate.RateLimit
import GravitPanel.Core.PercentEncoding
import GravitPanel.Core.UrlEncoded
import GravitPanel.Core.WebUrl
import GravitPanel.PanelAuth.Cookies
import GravitPanel.PanelAuth.Redirects
import GravitPanel.LauncherDockered.JvmOptions
import GravitPanel.LauncherDockered.JvmCompatibility
import GravitPanel.PanelAuth.AdmittedRequests
import GravitPanel.Servers.BootstrapDrafts
import GravitPanel.Servers.BootstrapRuns
import GravitPanel.Servers.BootstrapHistory
import GravitPanel.Servers.AgentTokens
import GravitPanel.Core.LogWindow
import GravitPanel.Jobs.LogStream
import GravitPanel.Jobs.ShownLog
import GravitPanel.Servers.ServerConsole
import GravitPanel.Servers.ShownConsole
