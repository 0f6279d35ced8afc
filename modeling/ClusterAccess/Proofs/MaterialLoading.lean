import ClusterAccess.Proofs.Library
import ClusterAccess.Proofs.Text

namespace ClusterAccess

structure MaterialLoading [Library] : Prop where
  readers : ∀ {α : Type} (r : Reader α) (F : Forms α), r.Reads F → r.LoadsAlike F
  certificates : Certificate.reader.Reads Certificate.IsForm ∧
    Certificate.reader.LoadsAlike Certificate.IsForm
  keys : ∀ F : Forms PrivateKey, PrivateKey.reader.Reads F → PrivateKey.reader.LoadsAlike F
  lacking : ∀ (h : Host) (m : Material),
    (∃ reason, m.Lacks h reason) ↔ ∀ bytes, ¬ m.Carries h bytes
  written : ∀ bytes c, Certificate.ofBytes? bytes = some c →
    Forms.Encodes Certificate.IsForm c c.encode ∧ Forms.Encodes Certificate.IsForm c c.toPem

open Crypto.SecretNumbers

end ClusterAccess
