import CorosyncClient.Interaction.Program
import CorosyncClient.Interaction.Simulation
import CorosyncClient.Interaction.Composition
import CorosyncClient.Interaction.Atomicity
import CorosyncClient.Interaction.Processes
import CorosyncClient.Lists.Grouped
import CorosyncClient.Lists.Reader
import CorosyncClient.CLib.Text
import CorosyncClient.CLib.Memory
import CorosyncClient.CLib.Heap
import CorosyncClient.CLib.Files
import CorosyncClient.CLib.Argz
import CorosyncClient.Errors
import CorosyncClient.Calls
import CorosyncClient.Cmapctl
import CorosyncClient.QuorumManager
import CorosyncClient.PrintManager
import CorosyncClient.Monitor
import CorosyncClient.SshManager
import CorosyncClient.SftpManager
import CorosyncClient.Client
import CorosyncClient.Handles
import CorosyncClient.MonitorWaits
import CorosyncClient.Services
import CorosyncClient.Connections
import CorosyncClient.RemoteOutput
import CorosyncClient.RemoteFile
import CorosyncClient.ConfCopy
import CorosyncClient.Votes
import CorosyncClient.VoteProtocol
import CorosyncClient.QuorumReaders
import CorosyncClient.CmapStore
import CorosyncClient.CmapRaces
import CorosyncClient.DeleteRaces
import CorosyncClient.Membership
import CorosyncClient.MemberScan
import CorosyncClient.MemberBounds
import CorosyncClient.MemberTable
import CorosyncClient.MemberText
import CorosyncClient.MemberAccess
import CorosyncClient.Uninitialised
import CorosyncClient.Failures
import CorosyncClient.SshOption
import CorosyncClient.Operands
import CorosyncClient.Interaction.Expansion
import CorosyncClient.MemberKeys
import CorosyncClient.VoteOperands
import CorosyncClient.NodeIds
import CorosyncClient.Reports
import CorosyncClient.CmapClients
import CorosyncClient.VoteClients
import CorosyncClient.VoteChains
import CorosyncClient.VoteRaces
import CorosyncClient.Tasks
import CorosyncClient.RemoteMachines
import CorosyncClient.Deployment
import CorosyncClient.Operators
import CorosyncClient.Screens
import CorosyncClient.ScreenReader
import CorosyncClient.Notifications
import CorosyncClient.Authority
import CorosyncClient.Users
import CorosyncClient.Prints
