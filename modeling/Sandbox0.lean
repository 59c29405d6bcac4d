import Sandbox0.S0fsTree
import Sandbox0.S0fsHostNames
import Sandbox0.CoordFlush
import Sandbox0.PortalManager
import Sandbox0.PortalHandoff
import Sandbox0.PortalFresh
import Sandbox0.SessionStage
import Sandbox0.HttpVolumeDelete
import Sandbox0.VolumeDirect
import Sandbox0.VolumeBarrier
import Sandbox0.NetdClassify
import Sandbox0.NetdHttpConn
import Sandbox0.NetdMetering
import Sandbox0.NetdSpelling
import Sandbox0.GatewayTokens
import Sandbox0.InternalAuth
import Sandbox0.NamingClash
import Sandbox0.NamingImage
import Sandbox0.OidcLogin
import Sandbox0.PoolClaim
import Sandbox0.TemplateReconciler
import Sandbox0.TemplateService
import Sandbox0.AutoScaler
import Sandbox0.CredentialBindings
import Sandbox0.MeteringExport
import Sandbox0.WebhookOutbox
import Sandbox0.S0fsRequests
import Sandbox0.S0fsSync
import Sandbox0.NetdReassembly
import Sandbox0.NetdPlatformLists
import Sandbox0.TemplateAllocator
import Sandbox0.SyncClock
import Sandbox0.TeamAdmins
import Sandbox0.ReadyToken
