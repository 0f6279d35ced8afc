import ClusterAccess.Kubeconfig.Decode
import ClusterAccess.Proofs.Yaml.Tolerance
import Mathlib.Logic.Relation

namespace ClusterAccess

open Yaml Decoder

def Context.shape : Shape :=
  .record [("cluster", .required, .text), ("user", .required, .text),
    ("namespace", .nullable, .text)]

def Cluster.shape : Shape :=
  .record [("server", .required, .text), ("certificate-authority-data", .nullable, .text),
    ("certificate-authority", .nullable, .text), ("insecure-skip-tls-verify", .defaulted, .flag)]

def AuthProvider.shape : Shape :=
  .record [("name", .required, .text), ("config", .nullable, .table)]

def EnvironmentVariable.shape : Shape :=
  .record [("name", .required, .text), ("value", .required, .text)]

def ExecEntry.shape : Shape :=
  .record [("apiVersion", .nullable, .text), ("command", .required, .text),
    ("args", .nullable, .list .text), ("env", .nullable, .list EnvironmentVariable.shape),
    ("installHint", .nullable, .text), ("provideClusterInfo", .defaulted, .flag)]

def User.shape : Shape :=
  .record [("client-certificate-data", .nullable, .text), ("client-certificate", .nullable, .text),
    ("client-key-data", .nullable, .text), ("client-key", .nullable, .text),
    ("token", .nullable, .text), ("tokenFile", .nullable, .text), ("username", .nullable, .text),
    ("password", .nullable, .text), ("auth-provider", .nullable, AuthProvider.shape),
    ("exec", .nullable, ExecEntry.shape)]

def Named.shape (label : String) (body : Shape) : Shape :=
  .record [("name", .required, .text), (label, .required, body)]

def User.namedShape : Shape :=
  .record [("name", .required, .text), ("user", .defaulted, User.shape)]

def Kubeconfig.shape : Shape :=
  .record [("apiVersion", .nullable, .text), ("kind", .nullable, .text),
    ("current-context", .nullable, .text),
    ("contexts", .nullable, .list (Named.shape "context" Context.shape)),
    ("clusters", .nullable, .list (Named.shape "cluster" Cluster.shape)),
    ("users", .nullable, .list User.namedShape)]

variable {free : Prop} {d d' : Document}

theorem Context.tolerant : Tolerant free d d' shape ofNode := by
  intro n n' hn h
  refine (keeps_fields hn h).bind fun fs fs' hfs => ?_
  refine (hfs.requiredText rfl).bind_eq fun cluster => ?_
  refine (hfs.requiredText rfl).bind_eq fun user => ?_
  exact (hfs.optionalText rfl).bind_eq fun namespaceName => .pure rfl

theorem Cluster.tolerant : Tolerant free d d' shape ofNode := by
  intro n n' hn h
  refine (keeps_fields hn h).bind fun fs fs' hfs => ?_
  refine (hfs.requiredText rfl).bind_eq fun server => ?_
  refine (hfs.optionalText rfl).bind_eq fun authorityData => ?_
  refine (hfs.optionalText rfl).bind_eq fun authorityFile => ?_
  exact (hfs.withDefault rfl tolerant_bool false).bind_eq fun insecure => .pure rfl

theorem AuthProvider.tolerant (depth : Nat) : Tolerant free d d' shape (ofNode depth) := by
  intro n n' hn h
  refine (keeps_fields hn h).bind fun fs fs' hfs => ?_
  refine (hfs.requiredText rfl).bind_eq fun name => ?_
  exact (hfs.table rfl depth).bind fun config config' hconfig => .pure (by rw [hconfig])

theorem EnvironmentVariable.tolerant : Tolerant free d d' shape ofNode := by
  intro n n' hn h
  refine (keeps_fields hn h).bind fun fs fs' hfs => ?_
  refine (hfs.requiredText rfl).bind_eq fun name => ?_
  exact (hfs.requiredText rfl).bind_eq fun value => .pure rfl

theorem ExecEntry.tolerant : Tolerant free d d' shape ofNode := by
  intro n n' hn h
  refine (keeps_fields hn h).bind fun fs fs' hfs => ?_
  refine (hfs.optionalText rfl).bind_eq fun apiVersion => ?_
  refine (hfs.requiredText rfl).bind_eq fun command => ?_
  refine (hfs.listField rfl tolerant_text).bind_eq fun args => ?_
  refine (hfs.listField rfl EnvironmentVariable.tolerant).bind_eq fun env => ?_
  refine (hfs.optionalText rfl).bind_eq fun installHint => ?_
  exact (hfs.withDefault rfl tolerant_bool false).bind_eq fun provideClusterInfo => .pure rfl

theorem User.tolerant : Tolerant free d d' shape ofNode := by
  intro n n' hn h
  refine (keeps_fields hn h).bind fun fs fs' hfs => ?_
  refine (hfs.optionalText rfl).bind_eq fun certificateData => ?_
  refine (hfs.optionalText rfl).bind_eq fun certificateFile => ?_
  refine (hfs.optionalText rfl).bind_eq fun keyData => ?_
  refine (hfs.optionalText rfl).bind_eq fun keyFile => ?_
  refine (hfs.optionalText rfl).bind_eq fun token => ?_
  refine (hfs.optionalText rfl).bind_eq fun tokenFile => ?_
  refine (hfs.optionalText rfl).bind_eq fun username => ?_
  refine (hfs.optionalText rfl).bind_eq fun password => ?_
  refine (hfs.optionalField rfl (AuthProvider.tolerant _) nofun).bind_eq fun authProvider => ?_
  exact (hfs.optionalField rfl ExecEntry.tolerant nofun).bind_eq fun exec => .pure rfl

theorem Named.tolerant {α : Type} (label : String) {body : Shape} {f : Node → Decoder α}
    (hlabel : label ≠ "name") (hf : Tolerant free d d' body f) :
    Tolerant free d d' (shape label body) (ofNode label f) := by
  intro n n' hn h
  refine (keeps_fields hn h).bind fun fs fs' hfs => ?_
  refine (hfs.requiredText rfl).bind_eq fun name => ?_
  have hlookup : List.lookup label [("name", Presence.required, Shape.text),
      (label, .required, body)] = some (.required, body) := by
    rw [TextTable.lookup_cons, if_neg hlabel, TextTable.lookup_cons, if_pos rfl]
  exact (hfs.required hlookup hf).bind_eq fun body => .pure rfl

theorem User.namedTolerant : Tolerant free d d' namedShape namedOfNode := by
  intro n n' hn h
  refine (keeps_fields hn h).bind fun fs fs' hfs => ?_
  refine (hfs.requiredText rfl).bind_eq fun name => ?_
  exact (hfs.withDefault rfl User.tolerant anonymous).bind_eq fun body => .pure rfl

theorem Kubeconfig.tolerant : Tolerant free d d' shape ofNode := by
  intro n n' hn h
  refine (keeps_fields hn h).bind fun fs fs' hfs => ?_
  refine (hfs.optionalText rfl).bind_eq fun apiVersion => ?_
  refine (hfs.optionalText rfl).bind_eq fun kind => ?_
  refine (hfs.optionalText rfl).bind_eq fun currentContext => ?_
  refine (hfs.listField rfl (Named.tolerant "context" (by decide) Context.tolerant)).bind_eq
    fun contexts => ?_
  refine (hfs.listField rfl (Named.tolerant "cluster" (by decide) Cluster.tolerant)).bind_eq
    fun clusters => ?_
  exact (hfs.listField rfl User.namedTolerant).bind_eq fun users => .pure rfl

namespace Kubeconfig

/-- One edit after another leads from a node to another. -/
def Edited (n n' : Node) : Prop := Relation.ReflTransGen (Edit shape) n n'

variable {n n' : Node} {k : Kubeconfig}

theorem keeps_edited (hn : free → n.IsTree) (h : Edited n n') :
    Keeps free d d' Eq (ofNode n) (ofNode n') := by
  induction h generalizing d' with
  | refl => exact tolerant.same hn
  | tail _ hedit ih =>
    -- the nodes between need not be trees: what has been inserted is not read
    exact ih.trans_eq (tolerant _ _ False.elim hedit)

theorem decode?_eq (d : Document) : d.decode? ofNode =
    ((ofNode d.root).runFrom d (followsPerSize * d.size)).map (·.1) :=
  rfl

theorem decode?_of_edited (hanchors : d'.anchored = d.anchored) (hsize : d.size ≤ d'.size)
    (hk : d.decode? ofNode = some k) (h : Edited d.root d'.root) :
    d'.decode? ofNode = some k := by
  rw [decode?_eq, Option.map_eq_some_iff] at hk
  obtain ⟨⟨_, b₁⟩, hrun, rfl⟩ := hk
  obtain ⟨t, _, hle, -, rfl, hrun'⟩ :=
    keeps_edited False.elim h _ _ _ (.inr hanchors) hrun
  have hbudget : t ≤ followsPerSize * d'.size := by
    have := Nat.mul_le_mul_left followsPerSize hsize
    omega
  rw [decode?_eq, ← Nat.add_sub_cancel' hbudget, hrun']
  rfl

/-- A tree is read without following aliases, so neither anchors nor sizes count. -/
theorem decode?_of_edited_tree (htree : d.root.IsTree) (hk : d.decode? ofNode = some k)
    (h : Edited d.root d'.root) : d'.decode? ofNode = some k := by
  rw [decode?_eq, Option.map_eq_some_iff] at hk
  obtain ⟨⟨_, b₁⟩, hrun, rfl⟩ := hk
  have hkeeps : Keeps True d d Eq (ofNode d.root) (ofNode d.root) :=
    keeps_edited (fun _ => htree) .refl
  obtain ⟨t, _, hle, hfree, rfl, hrun₀⟩ := hkeeps _ _ _ (.inr rfl) hrun
  obtain rfl : t = 0 := by
    have := hfree trivial
    omega
  obtain ⟨t, _, hle', -, rfl, hrun'⟩ :=
    keeps_edited False.elim h 0 _ _ (.inl rfl) (hrun₀ 0)
  obtain rfl : t = 0 := by omega
  rw [decode?_eq, ← Nat.zero_add (followsPerSize * d'.size), hrun']
  rfl

/-- What makes no difference to the kubeconfig that is read. -/
structure Tolerance : Prop where
  tree : ∀ (d d' : Document) (k : Kubeconfig), d.root.IsTree → d.decode? ofNode = some k →
    Edited d.root d'.root → d'.decode? ofNode = some k
  aliased : ∀ (d d' : Document) (k : Kubeconfig), d'.anchored = d.anchored → d.size ≤ d'.size →
    d.decode? ofNode = some k → Edited d.root d'.root → d'.decode? ofNode = some k
  blank : ∀ origin text : String, Text.isBlankText text = true → parse origin text = .ok empty

theorem edits_tolerated : Tolerance where
  tree _ _ _ := decode?_of_edited_tree
  aliased _ _ _ := decode?_of_edited
  blank origin text hblank := by rw [parse, parse?, if_pos hblank]

end Kubeconfig

end ClusterAccess
