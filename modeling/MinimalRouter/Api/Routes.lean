import MinimalRouter.Httpd.Router

namespace MinimalRouter.Api

open Httpd

inductive Endpoint
  | login | discoverSetupInterfaces | setupStatus | setupApply | logout | getSession
  | changePassword | totpEnable | totpQr | totpDisable | getSystem | getDiagnostics | getAuditEvents
  | getConfig | updateConfig | getPendingTransaction | confirmTransaction | wakeOnLan
  | recoveryReconcile | recoveryStatus | recoveryDns | recoveryDismiss | getSnapshots
  | createSnapshot | deleteSnapshot | restoreSnapshot | snapshotPreview | pfsenseImportPreview
  | pfsenseImportApply | backupExport | backupImportPreview | backupImportApply | firmwareVerify
  | discoverInterfaces | lanStatus | networkDevices | dhcpLeases | lanAddressCheck
  | getGatewaySummary | getGatewayHistory | getGatewayInsights | gatewayProbe | gatewayEvents
  | gatewayRecoveryStatus | getGatewaySettings | putGatewaySettings | networkDiagnose
  | serviceAction | getDevicePauses | pauseDevice | resumeDevice | configPreview | getHealth
  | startupBoots | startupBoot | firewallStatus | firewallExplain | firewallActivity
  | accountingInsights | getAccounting | provisionWireguardPeer | reissueWireguardPeerConfiguration
  | deleteWireguardPeer | wireguardProvisioningPreview | wireguardClientKeys | speedtest
  | dnsActivity | getDnsActivitySettings | putDnsActivitySettings | dnsActivityRecent
  | dnsActivityClear | dnsRiskSummary | dnsRiskAlerts | dnsRiskAcknowledge | dnsRiskIgnore
  | dnsRiskExceptions | dnsRiskRemoveException | dnsRiskRefresh | dnsFilterStatus | dnsFilterSave
  | dnsFilterRefresh | dnsFilterCheck | dnsFilterProfiles | dnsFilterOperations | firmwareStatus
  | firmwareCheck | firmwareChannel | firmwareUpdate | firmwareUpload | firmwareLocalStatus
  deriving DecidableEq

inductive Mounted
  | api : Endpoint → Bool → Mounted
  | files
  deriving DecidableEq

def publicRoutes : List (String × Endpoint) := [
  ("POST /api/v1/auth/login", .login),
  ("GET /api/v1/setup/interfaces", .discoverSetupInterfaces),
  ("GET /api/v1/setup/status", .setupStatus),
  ("POST /api/v1/setup/apply", .setupApply)]

def protectedRoutes : List (String × Endpoint) := [
  ("POST /api/v1/auth/logout", .logout),
  ("GET /api/v1/auth/session", .getSession),
  ("POST /api/v1/auth/change-password", .changePassword),
  ("POST /api/v1/auth/totp/enable", .totpEnable),
  ("POST /api/v1/auth/totp/enroll", .totpQr),
  ("POST /api/v1/auth/totp/disable", .totpDisable),
  ("GET /api/v1/system", .getSystem),
  ("GET /api/v1/system/diagnostics", .getDiagnostics),
  ("GET /api/v1/audit/events", .getAuditEvents),
  ("GET /api/v1/config", .getConfig),
  ("PUT /api/v1/config", .updateConfig),
  ("GET /api/v1/transactions/pending", .getPendingTransaction),
  ("POST /api/v1/transactions/\x7bid\x7d/confirm", .confirmTransaction),
  ("POST /api/v1/network/wol", .wakeOnLan),
  ("POST /api/v1/recovery/reconcile", .recoveryReconcile),
  ("GET /api/v1/recovery/status", .recoveryStatus),
  ("POST /api/v1/recovery/operations/\x7bid\x7d/dns", .recoveryDns),
  ("POST /api/v1/recovery/operations/\x7bid\x7d/dismiss", .recoveryDismiss),
  ("GET /api/v1/snapshots", .getSnapshots),
  ("POST /api/v1/snapshots", .createSnapshot),
  ("DELETE /api/v1/snapshots/\x7bid\x7d", .deleteSnapshot),
  ("POST /api/v1/snapshots/\x7bid\x7d/restore", .restoreSnapshot),
  ("GET /api/v1/snapshots/\x7bid\x7d/preview", .snapshotPreview),
  ("POST /api/v1/import/pfsense/preview", .pfsenseImportPreview),
  ("POST /api/v1/import/pfsense/\x7bid\x7d/apply", .pfsenseImportApply),
  ("POST /api/v1/backup/export", .backupExport),
  ("POST /api/v1/backup/import/preview", .backupImportPreview),
  ("POST /api/v1/import/backup/\x7bid\x7d/apply", .backupImportApply),
  ("POST /api/v1/firmware/verify", .firmwareVerify),
  ("GET /api/v1/system/interfaces", .discoverInterfaces),
  ("GET /api/v1/network/lan", .lanStatus),
  ("GET /api/v1/network/devices", .networkDevices),
  ("GET /api/v1/network/leases", .dhcpLeases),
  ("GET /api/v1/network/address-check", .lanAddressCheck),
  ("GET /api/v1/gateway/summary", .getGatewaySummary),
  ("GET /api/v1/gateway/history", .getGatewayHistory),
  ("GET /api/v1/gateway/insights", .getGatewayInsights),
  ("POST /api/v1/gateway/probe", .gatewayProbe),
  ("GET /api/v1/gateway/events", .gatewayEvents),
  ("GET /api/v1/gateway/recovery", .gatewayRecoveryStatus),
  ("GET /api/v1/gateway/settings", .getGatewaySettings),
  ("PUT /api/v1/gateway/settings", .putGatewaySettings),
  ("POST /api/v1/gateway/diagnose", .networkDiagnose),
  ("POST /api/v1/system/actions/\x7baction\x7d", .serviceAction),
  ("GET /api/v1/devices/pauses", .getDevicePauses),
  ("POST /api/v1/devices/pause", .pauseDevice),
  ("POST /api/v1/devices/resume", .resumeDevice),
  ("POST /api/v1/config/preview", .configPreview),
  ("GET /api/v1/health", .getHealth),
  ("GET /api/v1/startup/boots", .startupBoots),
  ("GET /api/v1/startup/boots/\x7bid\x7d", .startupBoot),
  ("GET /api/v1/firewall/status", .firewallStatus),
  ("GET /api/v1/firewall/explain", .firewallExplain),
  ("GET /api/v1/firewall/activity", .firewallActivity),
  ("GET /api/v1/accounting/insights", .accountingInsights),
  ("GET /api/v1/accounting", .getAccounting),
  ("POST /api/v1/wireguard/peers", .provisionWireguardPeer),
  ("POST /api/v1/wireguard/peers/\x7bid\x7d/configuration", .reissueWireguardPeerConfiguration),
  ("DELETE /api/v1/wireguard/peers/\x7bid\x7d", .deleteWireguardPeer),
  ("GET /api/v1/wireguard/provisioning-preview", .wireguardProvisioningPreview),
  ("POST /api/v1/wireguard/client/keys", .wireguardClientKeys),
  ("POST /api/v1/qos/speedtest", .speedtest),
  ("GET /api/v1/dns-activity", .dnsActivity),
  ("GET /api/v1/dns-activity/settings", .getDnsActivitySettings),
  ("PUT /api/v1/dns-activity/settings", .putDnsActivitySettings),
  ("GET /api/v1/dns-activity/recent", .dnsActivityRecent),
  ("POST /api/v1/dns-activity/clear", .dnsActivityClear),
  ("GET /api/v1/dns-activity/alerts/summary", .dnsRiskSummary),
  ("GET /api/v1/dns-activity/alerts", .dnsRiskAlerts),
  ("POST /api/v1/dns-activity/alerts/\x7bid\x7d/acknowledge", .dnsRiskAcknowledge),
  ("POST /api/v1/dns-activity/alerts/\x7bid\x7d/ignore", .dnsRiskIgnore),
  ("GET /api/v1/dns-activity/alerts/exceptions", .dnsRiskExceptions),
  ("DELETE /api/v1/dns-activity/alerts/exceptions/\x7bid\x7d", .dnsRiskRemoveException),
  ("POST /api/v1/dns-activity/alerts/refresh", .dnsRiskRefresh),
  ("GET /api/v1/dns-filter", .dnsFilterStatus),
  ("PUT /api/v1/dns-filter", .dnsFilterSave),
  ("POST /api/v1/dns-filter/refresh", .dnsFilterRefresh),
  ("POST /api/v1/dns-filter/check", .dnsFilterCheck),
  ("GET /api/v1/dns-filter/check", .dnsFilterCheck),
  ("GET /api/v1/dns-filter/profiles", .dnsFilterProfiles),
  ("GET /api/v1/dns-filter/operations", .dnsFilterOperations),
  ("GET /api/v1/firmware/status", .firmwareStatus),
  ("POST /api/v1/firmware/check", .firmwareCheck),
  ("POST /api/v1/firmware/channel", .firmwareChannel),
  ("POST /api/v1/firmware/update", .firmwareUpdate),
  ("POST /api/v1/firmware/upload", .firmwareUpload),
  ("GET /api/v1/firmware/local-status", .firmwareLocalStatus)]

def routes (web : Bool) : List (Route Mounted) :=
  publicRoutes.map (fun (pattern, endpoint) => route pattern (.api endpoint false)) ++
    protectedRoutes.map (fun (pattern, endpoint) => route pattern (.api endpoint true)) ++
    if web then [route "/" .files] else []

def logoutPath : Text := "/api/v1/auth/logout".toList

/-- Whatever part of the path is escaped, the routes that fit the path of the logout are its own and
that of the web interface. -/
theorem matches_logoutPath : ∀ r ∈ routes true, ∀ segments ∈ segmentations logoutPath,
    ∀ slash, (r.matches segments slash).isSome = true →
      r.handler = .api .logout true ∨ r.handler = .files := by
  decide +kernel

end MinimalRouter.Api
