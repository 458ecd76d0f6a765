import V2rayA.Service.SubscriptionDistinct
import V2rayA.Controller.References
import V2rayA.Kernel.ProcessManager.Coverage
import V2rayA.Kernel.Template.Targets
import V2rayA.Kernel.Template.FailClosed
import V2rayA.Kernel.Startup
import V2rayA.Service.GroupPass
import V2rayA.Service.DirectRecovery
import V2rayA.Db.Catalog
import V2rayA.Configure.WriteBack
import V2rayA.Db.Migrate
import V2rayA.Db.Schema
import V2rayA.Kernel.ServerObj.Reimport
import V2rayA.Kernel.Template.DnsMeaning
import V2rayA.Kernel.Template.DnsUpstreams
import V2rayA.Core.TunMips.DnsHijack
import V2rayA.Db.Accounts
import V2rayA.Db.AppendFaults
import V2rayA.Kernel.Template.Whitelist
import V2rayA.Log.Memory
import V2rayA.Server.ReqCache
import V2rayA.Service.EditNode
import V2rayA.Service.Latency
import V2rayA.Kernel.Template.Selectors
import V2rayA.Kernel.DnsRedirect
import V2rayA.Kernel.TunResidual
import V2rayA.Core.Dns.ClientEdns
import V2rayA.Core.Dns.Prefetch
import V2rayA.Core.Dns.CollectBootstrap
import V2rayA.Kernel.LocalIPWatcher
import V2rayA.Gui.Proxies
import V2rayA.NetTools.Netstat
