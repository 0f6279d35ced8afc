import ClusterAccess.Base64
import ClusterAccess.CommandLine.Report
import ClusterAccess.Kubeconfig.Printer
import ClusterAccess.Main
import ClusterAccess.Proofs.Authentication
import ClusterAccess.Proofs.Cache.Retention
import ClusterAccess.Proofs.Precedence
import ClusterAccess.Proofs.RefreshFailure
import ClusterAccess.Proofs.Resolution
import ClusterAccess.Proofs.ServerTrust
import ClusterAccess.Cache.Family
import ClusterAccess.Proofs.Cache.Clones
import ClusterAccess.Proofs.Diagnostics
import ClusterAccess.Proofs.FileSystem
import ClusterAccess.Proofs.Relocation
import ClusterAccess.Proofs.Secrecy
import ClusterAccess.Proofs.Selector
import ClusterAccess.Proofs.PluginOutput
import ClusterAccess.Proofs.ProviderOutput
import ClusterAccess.Proofs.Tokens
import ClusterAccess.Proofs.ProviderDocument
import ClusterAccess.Proofs.Json.RoundTrip
import ClusterAccess.Proofs.PluginInvocation
import ClusterAccess.Proofs.SettingsFile
import ClusterAccess.Proofs.Base64
import ClusterAccess.Proofs.CertificateEncoding
import ClusterAccess.Proofs.Pem
import ClusterAccess.Proofs.SharedAuthority
import ClusterAccess.Proofs.ConnectionValidity
import ClusterAccess.Proofs.SequentialUse
import ClusterAccess.Proofs.Cache.Retries
import ClusterAccess.Proofs.Timestamp
import ClusterAccess.Proofs.Endpoint
import ClusterAccess.Proofs.KubeconfigTolerance
import ClusterAccess.Proofs.ErrorMessage
import ClusterAccess.Proofs.Base64.Standard
import ClusterAccess.Proofs.MaterialLoading
import ClusterAccess.Proofs.ClientIdentity
