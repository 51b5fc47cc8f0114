import MessagingStack.App.AgentReplies
import MessagingStack.App.BrowserStore
import MessagingStack.App.Pager
import MessagingStack.App.Pagination
import MessagingStack.App.ReadMarks
import MessagingStack.Contract.AgentGroups
import MessagingStack.Contract.Conversations
import MessagingStack.Contract.EscrowExit
import MessagingStack.Contract.GroupHandleRegistry
import MessagingStack.Indexer.CheckpointListener
import MessagingStack.Mls.DeviceSnapshot
import MessagingStack.Relayer.AcceptedCommits
import MessagingStack.Relayer.AgentGroupDetector
import MessagingStack.Relayer.ArchiveContent
import MessagingStack.Relayer.ArchivePages
import MessagingStack.Relayer.ChainPermissions
import MessagingStack.Relayer.GroupAuthorisation
import MessagingStack.Relayer.GroupInfos
import MessagingStack.Relayer.KeyPackages
import MessagingStack.Relayer.MembershipDurability
import MessagingStack.Relayer.MemoryAccess
import MessagingStack.Relayer.MessageGate
import MessagingStack.Relayer.OpenedConversation
import MessagingStack.Relayer.PostgresStorage
import MessagingStack.Relayer.Presence
import MessagingStack.Relayer.RealtimeDelivery
import MessagingStack.Relayer.SelfLog
import MessagingStack.Relayer.TimestampCheck
import MessagingStack.Relayer.WorkflowPages
import MessagingStack.Relayer.ZkLogin
import MessagingStack.Sdk.ArchiveRecovery
import MessagingStack.Sdk.AttachmentsManager
import MessagingStack.Sdk.AuthorityRotation
import MessagingStack.Sdk.ContentEnvelope
import MessagingStack.Sdk.DekAgreement
import MessagingStack.Sdk.GroupName
import MessagingStack.Sdk.HostedHistory
import MessagingStack.Sdk.HybridTransport
import MessagingStack.Sdk.MlsPages
import MessagingStack.Sdk.MyDataPolicy
import MessagingStack.Sdk.NoDowngrade
import MessagingStack.Sdk.RatchetDurability
import MessagingStack.Sdk.ReadStateSync
import MessagingStack.Sdk.RevocationBound
import MessagingStack.Sdk.RoomHistory
import MessagingStack.Sdk.SharedHistory
import MessagingStack.Sdk.TimelineReports
import MessagingStack.Sdk.IssuedCertificate
import MessagingStack.Relayer.StorageIndexes
import MessagingStack.Sdk.PaddedLengths
import MessagingStack.Contract.Conversations
