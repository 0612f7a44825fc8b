import MinimalRouter.Api.Accounting
import MinimalRouter.Api.AuditThrottle
import MinimalRouter.Api.Gate
import MinimalRouter.Api.Redaction
import MinimalRouter.Api.Releases
import MinimalRouter.Apply.Blocking
import MinimalRouter.Apply.Preview
import MinimalRouter.Applyd.Destinations
import MinimalRouter.Applyd.PauseRuns
import MinimalRouter.Applyd.StalePauses
import MinimalRouter.Applyd.TunnelGate
import MinimalRouter.Auth.Lifetime
import MinimalRouter.Auth.Lockout
import MinimalRouter.Auth.Totp
import MinimalRouter.Config.Audit
import MinimalRouter.Config.LeaseTime
import MinimalRouter.Config.Leases
import MinimalRouter.Config.Migration
import MinimalRouter.Config.Trust
import MinimalRouter.Firewall.Segments
import MinimalRouter.Firewall.Sources
import MinimalRouter.Goish.HostPort
import MinimalRouter.Httpd.Framing
import MinimalRouter.Recovery.Manager
import MinimalRouter.Services.Admitted
import MinimalRouter.Services.Enforcement
import MinimalRouter.Slots.Floor
import MinimalRouter.System.LateConfirm
import MinimalRouter.System.Overlap
import MinimalRouter.System.PowerLoss
import MinimalRouter.System.Revisions
import MinimalRouter.Wireguard.Sites
