import ClusterAccess.Proofs.Json.RoundTrip
import ClusterAccess.Proofs.TextTable
import ClusterAccess.Resolver

namespace ClusterAccess

/-- A value is the object that has these members, each once, and no others. -/
def Json.IsObject (v : Json) (member : String → Option Json) : Prop :=
  ∃ members, v = .object members ∧ (members.map (·.1)).Nodup ∧
    ∀ name, members.lookup name = member name

namespace ExecEntry

/-- The last of the variables of a name that an entry declares has a value. -/
def Declares (e : ExecEntry) (name value : String) : Prop :=
  ∃ before after, e.env = before ++ ⟨name, value⟩ :: after ∧ ∀ v ∈ after, v.name ≠ name

/-- The server, the authority if there is one, and whether the server goes unchecked. -/
def clusterMember (c : Cluster) (a : Option ClusterAuthority) : String → Option Json
  | "server" => some (.string (Text.trim c.server))
  | "certificate-authority-data" => a.map fun a => .string a.data
  | "insecure-skip-tls-verify" => if c.insecure then some (.bool true) else none
  | _ => none

/-- Nobody can be asked, and the cluster is told if the entry wants that. -/
def specMember (e : ExecEntry) (cluster : Json) : String → Option Json
  | "interactive" => some (.bool false)
  | "cluster" => if e.provideClusterInfo then some cluster else none
  | _ => none

def requestMember (e : ExecEntry) (spec : Json) : String → Option Json
  | "apiVersion" => some (.string (e.apiVersion.getD ""))
  | "kind" => some (.string "ExecCredential")
  | "spec" => some spec
  | _ => none

def IsRequest (e : ExecEntry) (c : Cluster) (a : Option ClusterAuthority) (v : Json) : Prop :=
  ∃ spec cluster, v.IsObject (e.requestMember spec) ∧ spec.IsObject (e.specMember cluster) ∧
    cluster.IsObject (clusterMember c a)

/-- A plugin is run as its entry says. -/
structure RunsAs (e : ExecEntry) (c : Cluster) (a : Option ClusterAuthority) (i : Invocation) :
    Prop where
  program : i.program = e.command
  args : i.args = e.args
  once : (i.env.map (·.1)).Nodup
  names : ∀ name, name ∈ i.env.map (·.1) ↔
    name = "KUBERNETES_EXEC_INFO" ∨ ∃ v ∈ e.env, v.name = name
  declared : ∀ name value, name ≠ "KUBERNETES_EXEC_INFO" →
    (i.env.lookup name = some value ↔ e.Declares name value)
  info : ∃ text v, i.env.lookup "KUBERNETES_EXEC_INFO" = some text ∧ Json.parse? text = some v ∧
    e.IsRequest c a v

end ExecEntry

open ExecEntry

variable {e : ExecEntry} {c : Cluster} {a : Option ClusterAuthority} {name value : String}
  {depth : Nat}

theorem Json.IsObject.fits {v : Json} {member : String → Option Json} (h : v.IsObject member)
    (hm : ∀ name w, member name = some w → w.Fits depth) : v.Fits (depth + 1) := by
  obtain ⟨members, rfl, hnames, hlookup⟩ := h
  apply Fits.object hnames
  intro m hmem
  apply hm m.1 m.2
  rw [← hlookup, List.lookup_eq_some_iff]
  obtain ⟨before, after, rfl⟩ := List.append_of_mem hmem
  refine ⟨before, after, rfl, ?_⟩
  intro p hp
  rw [List.map_append, List.nodup_append] at hnames
  have hne := hnames.2.2 p.1 (List.mem_map_of_mem hp) m.1 List.mem_cons_self
  exact bne_iff_ne.2 hne.symm

namespace Resolver

theorem isObject_clusterInfo (c : Cluster) (a : Option ClusterAuthority) :
    (clusterInfo c a).toJson.IsObject (clusterMember c a) := by
  refine ⟨_, rfl, ?_, ?_⟩
  · cases a <;> cases hc : c.insecure <;> simp [clusterInfo, hc]
  · intro name
    by_cases hserver : name = "server"
    · subst hserver
      rfl
    by_cases hdata : name = "certificate-authority-data"
    · subst hdata
      cases a <;> cases hc : c.insecure <;>
        simp [clusterInfo, clusterMember, hc, TextTable.lookup_cons]
    by_cases hinsecure : name = "insecure-skip-tls-verify"
    · subst hinsecure
      cases a <;> cases hc : c.insecure <;>
        simp [clusterInfo, clusterMember, hc, TextTable.lookup_cons]
    · cases a <;> cases hc : c.insecure <;>
        simp [clusterInfo, clusterMember, hc, TextTable.lookup_cons, hserver, hdata, hinsecure]

theorem isObject_info (e : ExecEntry) (c : Cluster) (a : Option ClusterAuthority) :
    ∃ spec, (plugin e c a).info.IsObject (e.requestMember spec) ∧
      spec.IsObject (e.specMember (clusterInfo c a).toJson) := by
  refine ⟨_, ⟨_, rfl, by simp, ?_⟩, ⟨("interactive", .bool false) ::
    (plugin e c a).cluster.toList.map fun c => ("cluster", c.toJson), rfl, ?_, ?_⟩⟩
  · intro name
    by_cases hversion : name = "apiVersion"
    · subst hversion
      rfl
    by_cases hkind : name = "kind"
    · subst hkind
      rfl
    by_cases hspec : name = "spec"
    · subst hspec
      rfl
    · simp [requestMember, TextTable.lookup_cons, hversion, hkind, hspec]
  · cases he : e.provideClusterInfo <;> simp [plugin, he]
  · intro name
    by_cases hinteractive : name = "interactive"
    · subst hinteractive
      rfl
    by_cases hcluster : name = "cluster"
    · subst hcluster
      cases he : e.provideClusterInfo <;> simp [plugin, specMember, he, TextTable.lookup_cons]
    · cases he : e.provideClusterInfo <;>
        simp [plugin, specMember, he, TextTable.lookup_cons, hinteractive, hcluster]

theorem isRequest_info (e : ExecEntry) (c : Cluster) (a : Option ClusterAuthority) :
    e.IsRequest c a (plugin e c a).info := by
  obtain ⟨spec, hinfo, hspec⟩ := isObject_info e c a
  exact ⟨spec, _, hinfo, hspec, isObject_clusterInfo c a⟩

theorem fits_info (e : ExecEntry) (c : Cluster) (a : Option ClusterAuthority) :
    (plugin e c a).info.Fits Json.maxDepth := by
  obtain ⟨spec, cluster, hinfo, hspec, hcluster⟩ := isRequest_info e c a
  have hcluster : cluster.Fits 125 := by
    apply hcluster.fits
    intro name w hw
    unfold clusterMember at hw
    split at hw
    case h_1 => exact Option.some.inj hw ▸ .string
    case h_2 =>
      obtain ⟨a, -, rfl⟩ := Option.map_eq_some_iff.1 hw
      exact .string
    case h_3 => exact Option.some.inj (Option.ite_none_right_eq_some.1 hw).2 ▸ .bool
    case h_4 => cases hw
  have hspec : spec.Fits 126 := by
    apply hspec.fits
    intro name w hw
    unfold specMember at hw
    split at hw
    case h_1 => exact Option.some.inj hw ▸ .bool
    case h_2 => exact Option.some.inj (Option.ite_none_right_eq_some.1 hw).2 ▸ hcluster
    case h_3 => cases hw
  apply hinfo.fits
  intro name w hw
  unfold requestMember at hw
  split at hw
  case h_1 => exact Option.some.inj hw ▸ .string
  case h_2 => exact Option.some.inj hw ▸ .string
  case h_3 => exact Option.some.inj hw ▸ hspec
  case h_4 => cases hw

theorem lookup_env_plugin :
    (plugin e c a).env.lookup name = some value ↔ e.Declares name value := by
  rw [plugin, TextTable.lookup_ofList, List.lookup_eq_some_iff]
  constructor
  · rintro ⟨later, earlier, henv, hlater⟩
    rw [List.reverse_eq_iff, List.reverse_append, List.reverse_cons, List.append_assoc,
      List.singleton_append, List.map_eq_append_iff] at henv
    obtain ⟨before, rest, hsplit, -, hrest⟩ := henv
    obtain ⟨v, after, rfl, hv, hafter⟩ := List.map_eq_cons_iff.1 hrest
    obtain ⟨rfl, rfl⟩ := Prod.mk.inj hv
    refine ⟨before, after, hsplit, ?_⟩
    intro v hmem he
    have hmem : (v.name, v.value) ∈ later := by
      rw [← List.mem_reverse, ← hafter]
      exact List.mem_map_of_mem hmem
    exact bne_iff_ne.1 (hlater _ hmem) he.symm
  · rintro ⟨before, after, henv, hafter⟩
    refine ⟨(after.map fun v => (v.name, v.value)).reverse,
      (before.map fun v => (v.name, v.value)).reverse, ?_, ?_⟩
    · rw [henv, List.map_append, List.map_cons, List.reverse_append, List.reverse_cons,
        List.append_assoc, List.singleton_append]
    · intro p hp
      obtain ⟨v, hv, rfl⟩ := List.mem_map.1 (List.mem_reverse.1 hp)
      exact bne_iff_ne.2 (hafter v hv).symm

theorem plugin_runsAs (e : ExecEntry) (c : Cluster) (a : Option ClusterAuthority) :
    e.RunsAs c a (plugin e c a).invocation where
  program := rfl
  args := rfl
  once := ((TextTable.ascends_ofList _).insert _ _).nodup
  names name := by
    rw [Plugin.invocation, TextTable.mem_names_insert, plugin, TextTable.mem_names_ofList]
    simp [Plugin.infoVariable]
  declared name value hne := by
    rw [Plugin.invocation, TextTable.lookup_insert, Plugin.infoVariable, if_neg hne]
    exact lookup_env_plugin
  info := by
    refine ⟨_, _, ?_, Json.parse?_compact (fits_info e c a), isRequest_info e c a⟩
    rw [Plugin.invocation, TextTable.lookup_insert, Plugin.infoVariable, if_pos rfl,
      Plugin.infoText]

end Resolver

end ClusterAccess
