import ClusterAccess.Crypto.Keys
import ClusterAccess.Proofs.Material
import ClusterAccess.Proofs.Precedence
import ClusterAccess.Proofs.Resolution

namespace ClusterAccess

theorem Named.IsFirst.unique {α : Type} {items : List (Named α)} {name : String} {body body' : α}
    (h : IsFirst items name body) (h' : IsFirst items name body') : body = body' :=
  Option.some.inj ((find?_eq_some_iff.2 h).symm.trans (find?_eq_some_iff.2 h'))

/-- A text is strict base64 of a certificate, in either of its forms. -/
structure Certificate.IsData [Library] (c : Certificate) (data : String) : Prop where
  unbroken : ∀ ch ∈ data.toList, Text.isBlank ch = false
  strict : ∃ bytes, data = Base64.encodeText bytes ∧
    Base64.decode (Text.utf8 data) = .ok bytes ∧ ∀ source, Certificate.parse bytes source = .ok c

variable {c : Certificate} {bytes : List UInt8}

theorem Certificate.isData_encodeText [Library] (h : ofBytes? bytes = some c) :
    c.IsData (Base64.encodeText bytes) where
  unbroken := Base64.isBlank_encodeText
  strict := by
    refine ⟨bytes, rfl, Base64.decode_eq_ok_iff.2 (Base64.utf8_encodeText bytes), fun _ => ?_⟩
    exact parse_eq_ok_iff.2 h

theorem Certificate.exists_bytes_of_load [Library] {h : Host} {m : Material}
    (hl : load h m = .ok c) :
    ∃ bytes, m.read h "certificate" = .ok bytes ∧ ofBytes? bytes = some c := by
  obtain ⟨bytes, hread, hparse⟩ := Except.bind_eq_ok_iff.1 hl
  exact ⟨bytes, hread, parse_eq_ok_iff.1 hparse⟩

namespace Resolver

open Text (Missing)

variable {h : Host} {directory : Option String} {c : Cluster} {a : Option ClusterAuthority}

/-- The text for plugins stands for the certificate, from wherever that was loaded. -/
theorem IsAuthority.isData [Library] {a : ClusterAuthority}
    (ha : IsAuthority h directory c (some a)) : a.certificate.IsData a.data := by
  cases ha with
  | @inline data ca hd hl =>
    obtain ⟨bytes, hread, hbytes⟩ := Certificate.exists_bytes_of_load hl
    rw [Material.read, Except.mapError_eq_ok_iff] at hread
    -- what is passed on is what was decoded, so it is strict already
    rw [Base64.decodeText_eq_ok_iff.1 hread]
    exact Certificate.isData_encodeText hbytes
  | @file path ca hd hf hl =>
    obtain ⟨bytes, -, hbytes⟩ := Certificate.exists_bytes_of_load hl
    exact Certificate.isData_encodeText (Certificate.ofBytes?_written hbytes)

theorem IsAuthority.eq_none_iff [Library] (ha : IsAuthority h directory c a) :
    a = none ↔ Missing c.authorityData ∧ Missing c.authorityFile := by
  constructor
  · intro hnone
    cases ha with
    | inline => cases hnone
    | file => cases hnone
    | absent hd hf => exact ⟨hd, hf⟩
  · intro hm
    cases ha with
    | inline hd hl => exact absurd (hm.1 _ hd.1) hd.2
    | file hd hf hl => exact absurd (hm.2 _ hf.1) hf.2
    | absent => rfl

namespace Query

variable {q : Query} {x x' : Context} {c' : Cluster} {u u' : User} {o : Options} {e : ExecEntry}

theorem IsContext.unique (hx : q.IsContext x) (hx' : q.IsContext x') : x = x' := by
  obtain ⟨name, hname, hfirst⟩ := hx
  obtain ⟨name', hname', hfirst'⟩ := hx'
  have heq := (contextName_eq_ok_iff.2 hname).symm.trans (contextName_eq_ok_iff.2 hname')
  obtain rfl := Except.ok.inj heq
  exact hfirst.unique hfirst'

theorem IsCluster.unique (hc : q.IsCluster c) (hc' : q.IsCluster c') : c = c' := by
  obtain ⟨x, hx, hfirst⟩ := hc
  obtain ⟨x', hx', hfirst'⟩ := hc'
  obtain rfl := hx.unique hx'
  exact hfirst.unique hfirst'

theorem IsUser.unique (hu : q.IsUser u) (hu' : q.IsUser u') : u = u' := by
  obtain ⟨x, hx, hfirst⟩ := hu
  obtain ⟨x', hx', hfirst'⟩ := hu'
  obtain rfl := hx.unique hx'
  exact hfirst.unique hfirst'

structure SharesAuthority [Library] (c : Cluster) (o : Options) (i : ClusterInfo) : Prop where
  absent : i.authorityData = none ↔ o.authority = none
  present : ∀ data, i.authorityData = some data → ∃ ca, o.authority = some ca ∧ ca.IsData data
  missing : o.authority = none ↔ Missing c.authorityData ∧ Missing c.authorityFile

theorem Describes.sharesAuthority [Library] (hd : q.Describes x c u a o) :
    SharesAuthority c o (clusterInfo c a) := by
  have hnone : o.authority = none ↔ a = none := by
    rw [hd.authority_eq, Option.map_eq_none_iff]
  constructor
  · rw [hnone, clusterInfo, Option.map_eq_none_iff]
  · intro data hdata
    obtain ⟨authority, rfl, rfl⟩ := Option.map_eq_some_iff.1 hdata
    exact ⟨authority.certificate, hd.authority_eq, hd.authority.isData⟩
  · rw [hnone]
    exact hd.authority.eq_none_iff

/-- What is resolved for a user of a plugin that wants to know about the cluster. -/
theorem authority_shared [Library] (ho : q.answer = .ok o) (hc : q.IsCluster c) (hu : q.IsUser u)
    (hw : Source.winner u = .exec) (he : u.exec = some e) (hi : e.provideClusterInfo = true) :
    ∃ p margin i, o.strategy = .renewable ⟨.plugin p, none, margin⟩ ∧ p.cluster = some i ∧
      SharesAuthority c o i := by
  obtain ⟨-, ⟨x, c', u', a, hd⟩, -⟩ := answer_eq_ok_iff.1 ho
  obtain rfl := hc.unique ⟨x, hd.context, hd.cluster⟩
  obtain rfl := hu.unique ⟨x, hd.context, hd.user⟩
  have hst := hd.strategy
  rw [strategy_eq, hw, Source.offer, he] at hst
  obtain ⟨margin, -, hst⟩ := renewable_eq_ok_iff.1 hst
  have hcluster : (plugin e c a).cluster = some (clusterInfo c a) := by
    rw [plugin, hi, if_pos rfl]
  exact ⟨plugin e c a, margin, clusterInfo c a, hst.symm, hcluster, hd.sharesAuthority⟩

/-- The least that is read as a certificate. -/
def smallCertificate : List UInt8 :=
  [0x30, 0x26, 0x30, 0x1c, 0x02, 0x01, 0x01, 0x30, 0x03, 0x06, 0x01, 0x2a, 0x30, 0x00, 0x30, 0x04,
    0x17, 0x00, 0x17, 0x00, 0x30, 0x00, 0x30, 0x08, 0x30, 0x03, 0x06, 0x01, 0x2a, 0x03, 0x01, 0x00,
    0x30, 0x03, 0x06, 0x01, 0x2a, 0x03, 0x01, 0x00]

def informedUser : User :=
  { User.anonymous with
    exec := some ⟨some "client.authentication.k8s.io/v1", "get-token", [], [], none, true⟩ }

def ofFile : Query where
  host := ⟨FileSystem.empty.put ["ca"] (.file smallCertificate), none, []⟩
  settings := .default
  kubeconfig := { Kubeconfig.empty with
    contexts := [⟨"c", ⟨"k", "u", none⟩⟩]
    clusters := [⟨"k", ⟨"https://h", none, some "/ca", false⟩⟩]
    users := [⟨"u", informedUser⟩] }
  contextName := some "c"
  namespaceName := none

theorem authority_shared_ofFile : ∃ o c ca p margin i, ofFile.answer = .ok o ∧
    ofFile.IsCluster c ∧ o.authority = some ca ∧
      o.strategy = .renewable ⟨.plugin p, none, margin⟩ ∧ p.cluster = some i ∧
        SharesAuthority c o i := by
  have hresolved : (ofFile.answer.toOption.bind (·.authority)).isSome = true := by decide +kernel
  obtain ⟨ca, hca⟩ := Option.isSome_iff_exists.1 hresolved
  obtain ⟨o, ho, hca⟩ := Option.bind_eq_some_iff.1 hca
  have ho := Except.toOption_eq_some_iff.1 ho
  have hcontext : ofFile.IsContext ⟨"k", "u", none⟩ :=
    ⟨"c", contextName_eq_ok_iff.1 rfl, Named.find?_eq_some_iff.1 rfl⟩
  have hc : ofFile.IsCluster ⟨"https://h", none, some "/ca", false⟩ :=
    ⟨_, hcontext, Named.find?_eq_some_iff.1 rfl⟩
  have hu : ofFile.IsUser informedUser := ⟨_, hcontext, Named.find?_eq_some_iff.1 rfl⟩
  obtain ⟨p, margin, i, hst, hi, hshared⟩ := authority_shared ho hc hu rfl rfl rfl
  exact ⟨o, _, ca, p, margin, i, ho, hc, hca, hst, hi, hshared⟩

end Query

end Resolver

end ClusterAccess
