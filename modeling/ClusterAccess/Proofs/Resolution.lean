import ClusterAccess.Proofs.Except
import ClusterAccess.Proofs.Text
import ClusterAccess.Resolver

namespace ClusterAccess

namespace Named

variable {α : Type} {items : List (Named α)} {name : String} {body : α}

def IsFirst (items : List (Named α)) (name : String) (body : α) : Prop :=
  ∃ before after, items = before ++ ⟨name, body⟩ :: after ∧ ∀ x ∈ before, x.name ≠ name

def Lacks (items : List (Named α)) (name : String) : Prop := ∀ x ∈ items, x.name ≠ name

theorem find?_eq_some_iff : find? items name = some body ↔ IsFirst items name body := by
  simp only [find?, Option.map_eq_some_iff, List.find?_eq_some_iff_append]
  constructor
  · rintro ⟨⟨n, b⟩, ⟨hn, before, after, rfl, hb⟩, rfl⟩
    cases beq_iff_eq.1 hn
    exact ⟨before, after, rfl, fun x hx => by simpa using hb x hx⟩
  · rintro ⟨before, after, rfl, hb⟩
    exact ⟨⟨name, body⟩, ⟨beq_self_eq_true name, before, after, rfl, fun x hx => by
      simpa using hb x hx⟩, rfl⟩

theorem find?_eq_none_iff : find? items name = none ↔ Lacks items name := by
  simp [find?, Lacks]

end Named

namespace Resolver

open Text (Given Missing FirstGiven)

def IsEndpoint (server : String) (u : Url) : Prop :=
  Text.trim server ≠ "" ∧ Url.parse (Text.trim server) = .ok u

inductive EndpointFault (server : String) : Error → Prop where
  | blank (h : Text.trim server = "") :
    EndpointFault server (.badEndpoint "" "the cluster has no server configured")
  | malformed {e : UrlError} (h : Text.trim server ≠ "")
    (hp : Url.parse (Text.trim server) = .error e) :
    EndpointFault server (.badEndpoint (Text.trim server) e.message)

/-- The authority of a cluster: the one in the document before the one in a file. -/
inductive IsAuthority [Library] (h : Host) (directory : Option String) (c : Cluster) :
    Option ClusterAuthority → Prop where
  | inline {data : String} {ca : Certificate} (hd : Given c.authorityData data)
    (hl : Certificate.load h (.inline data) = .ok ca) :
    IsAuthority h directory c (some ⟨ca, Text.withoutBlanks data⟩)
  | file {path : String} {ca : Certificate} (hd : Missing c.authorityData)
    (hf : Given c.authorityFile path)
    (hl : Certificate.load h (.file (resolvePath h directory path)) = .ok ca) :
    IsAuthority h directory c (some ⟨ca, Base64.encodeText ca.toPem⟩)
  | absent (hd : Missing c.authorityData) (hf : Missing c.authorityFile) :
    IsAuthority h directory c none

/-- A fault of the one in the document is not made good by the one in a file. -/
inductive AuthorityFault [Library] (h : Host) (directory : Option String) (c : Cluster) :
    Error → Prop where
  | inline {data : String} {e : Error} (hd : Given c.authorityData data)
    (hl : Certificate.load h (.inline data) = .error e) : AuthorityFault h directory c e
  | file {path : String} {e : Error} (hd : Missing c.authorityData)
    (hf : Given c.authorityFile path)
    (hl : Certificate.load h (.file (resolvePath h directory path)) = .error e) :
    AuthorityFault h directory c e

variable {h : Host} {directory : Option String} {c : Cluster} {server : String} {u : Url}
  {e : Error} {a : Option ClusterAuthority} {k : Kubeconfig} {asked : Option String}
  {name : String}

theorem contextName_eq_ok_iff :
    contextName k asked = .ok name ↔ FirstGiven [asked, k.currentContext] name :=
  Except.elim_eq_ok_iff.trans Text.orElse_eq_some_iff

theorem contextName_eq_error_iff :
    contextName k asked = .error e ↔ Missing asked ∧ Missing k.currentContext ∧ e = .noContext :=
  Except.elim_eq_error_iff.trans ((and_congr_left' Text.orElse_eq_none_iff).trans and_assoc)

theorem endpoint_eq_ok_iff : endpoint server = .ok u ↔ IsEndpoint server u := by
  simp only [endpoint, IsEndpoint, String.isEmpty_iff]
  split
  next hs => simp [hs]
  next hs => simp only [Except.mapError_eq_ok_iff, Ne, hs, not_false_eq_true, true_and]

theorem endpoint_eq_error_iff : endpoint server = .error e ↔ EndpointFault server e := by
  simp only [endpoint, String.isEmpty_iff]
  split
  next hs =>
    constructor
    · intro h
      cases h
      exact .blank hs
    · intro h
      cases h with
      | blank => rfl
      | malformed hne => exact absurd hs hne
  next hs =>
    rw [Except.mapError_eq_error_iff]
    constructor
    · rintro ⟨e', hp, rfl⟩
      exact .malformed hs hp
    · intro h
      cases h with
      | blank h => exact absurd h hs
      | malformed _ hp => exact ⟨_, hp, rfl⟩

theorem authority_of_data [Library] {data : String} (hd : Given c.authorityData data) :
    authority h directory c =
      (Certificate.load h (.inline data)).map fun ca => some ⟨ca, Text.withoutBlanks data⟩ := by
  rw [authority, Text.nonBlank?_eq_some_iff.2 hd]

theorem authority_of_file [Library] {path : String} (hd : Missing c.authorityData)
    (hf : Given c.authorityFile path) : authority h directory c =
      (Certificate.load h (.file (resolvePath h directory path))).map fun ca =>
        some ⟨ca, Base64.encodeText ca.toPem⟩ := by
  rw [authority, Text.nonBlank?_eq_none_iff.2 hd, Text.nonBlank?_eq_some_iff.2 hf]

theorem authority_of_missing [Library] (hd : Missing c.authorityData)
    (hf : Missing c.authorityFile) : authority h directory c = .ok none := by
  rw [authority, Text.nonBlank?_eq_none_iff.2 hd, Text.nonBlank?_eq_none_iff.2 hf]

theorem authority_eq_ok_iff [Library] :
    authority h directory c = .ok a ↔ IsAuthority h directory c a := by
  constructor
  · intro ha
    rcases Text.given_or_missing c.authorityData with ⟨data, hd⟩ | hd
    · rw [authority_of_data hd] at ha
      obtain ⟨ca, hl, rfl⟩ := Except.map_eq_ok_iff.1 ha
      exact .inline hd hl
    · rcases Text.given_or_missing c.authorityFile with ⟨path, hf⟩ | hf
      · rw [authority_of_file hd hf] at ha
        obtain ⟨ca, hl, rfl⟩ := Except.map_eq_ok_iff.1 ha
        exact .file hd hf hl
      · rw [authority_of_missing hd hf] at ha
        cases ha
        exact .absent hd hf
  · intro ha
    cases ha with
    | inline hd hl =>
      rw [authority_of_data hd, hl]
      rfl
    | file hd hf hl =>
      rw [authority_of_file hd hf, hl]
      rfl
    | absent hd hf => exact authority_of_missing hd hf

theorem authority_eq_error_iff [Library] :
    authority h directory c = .error e ↔ AuthorityFault h directory c e := by
  constructor
  · intro ha
    rcases Text.given_or_missing c.authorityData with ⟨data, hd⟩ | hd
    · rw [authority_of_data hd] at ha
      exact .inline hd (Except.map_eq_error_iff.1 ha)
    · rcases Text.given_or_missing c.authorityFile with ⟨path, hf⟩ | hf
      · rw [authority_of_file hd hf] at ha
        exact .file hd hf (Except.map_eq_error_iff.1 ha)
      · rw [authority_of_missing hd hf] at ha
        cases ha
  · intro ha
    cases ha with
    | inline hd hl => rw [authority_of_data hd, Except.map_eq_error_iff.2 hl]
    | file hd hf hl => rw [authority_of_file hd hf, Except.map_eq_error_iff.2 hl]

/-- All that options are resolved from. -/
structure Query where
  host : Host
  settings : Settings
  kubeconfig : Kubeconfig
  contextName : Option String
  namespaceName : Option String

namespace Query

def answer [Library] (q : Query) : Except Error Options :=
  (resolve q.host q.settings q.kubeconfig q.contextName q.namespaceName).2

def IsName (q : Query) (name : String) : Prop :=
  FirstGiven [q.contextName, q.kubeconfig.currentContext] name

def IsContext (q : Query) (x : Context) : Prop :=
  ∃ name, q.IsName name ∧ Named.IsFirst q.kubeconfig.contexts name x

def IsCluster (q : Query) (c : Cluster) : Prop :=
  ∃ x, q.IsContext x ∧ Named.IsFirst q.kubeconfig.clusters x.cluster c

def IsUser (q : Query) (u : User) : Prop :=
  ∃ x, q.IsContext x ∧ Named.IsFirst q.kubeconfig.users x.user u

/-- The namespace: the one that is asked for, or else that of the context, or the default. -/
inductive IsNamespace (q : Query) (x : Context) : String → Prop where
  | given {t : String} (h : FirstGiven [q.namespaceName, x.namespaceName] t) :
    IsNamespace q x (Text.trim t)
  | default (ha : Missing q.namespaceName) (hx : Missing x.namespaceName) :
    IsNamespace q x q.settings.defaultNamespace

/-- The options that settings, a kubeconfig and files describe. -/
structure Describes [Library] (q : Query) (x : Context) (c : Cluster) (u : User)
    (a : Option ClusterAuthority) (o : Options) : Prop where
  context : q.IsContext x
  cluster : Named.IsFirst q.kubeconfig.clusters x.cluster c
  user : Named.IsFirst q.kubeconfig.users x.user u
  endpoint : IsEndpoint c.server o.endpoint
  authority : IsAuthority q.host q.kubeconfig.directory c a
  authority_eq : o.authority = a.map (·.certificate)
  namespaceName : q.IsNamespace x o.namespaceName
  insecure : o.allowInsecure = c.insecure
  strategy : Resolver.strategy q.host q.settings q.kubeconfig.directory c a u = .ok o.strategy
  certificate : ∀ p, o.certificate = some p ↔ o.strategy = .certificate p
  logHeaders : o.logHeaders = q.settings.logHeaders
  credentialWait : o.credentialWait = q.settings.credentialWait * 1000

inductive Stage where
  | settings
  | contextName
  | context
  | cluster
  | user
  | endpoint
  | authority
  | strategy
  | validity

/-- The stages in the order in which their failures count. -/
def Stage.order : List Stage :=
  [settings, contextName, context, cluster, user, endpoint, authority, strategy, validity]

/-- How a stage fails, whether or not others do. -/
def Fails [Library] (q : Query) : Stage → Error → Prop
  | .settings, e => q.settings.validate = .error e
  | .contextName, e =>
    Missing q.contextName ∧ Missing q.kubeconfig.currentContext ∧ e = .noContext
  | .context, e =>
    ∃ name, q.IsName name ∧ Named.Lacks q.kubeconfig.contexts name ∧ e = .unknownContext name
  | .cluster, e => ∃ x, q.IsContext x ∧ Named.Lacks q.kubeconfig.clusters x.cluster ∧
      e = .unknownCluster x.cluster
  | .user, e => ∃ x, q.IsContext x ∧ Named.Lacks q.kubeconfig.users x.user ∧
      e = .unknownUser x.user
  | .endpoint, e => ∃ c, q.IsCluster c ∧ EndpointFault c.server e
  | .authority, e => ∃ c, q.IsCluster c ∧ AuthorityFault q.host q.kubeconfig.directory c e
  | .strategy, e => ∃ c u a, q.IsCluster c ∧ q.IsUser u ∧
      IsAuthority q.host q.kubeconfig.directory c a ∧
        Resolver.strategy q.host q.settings q.kubeconfig.directory c a u = .error e
  | .validity, e => ∃ x c u a o, q.Describes x c u a o ∧ o.validate = .error e

/-- Of several stages one fails with an error, and none before it fails. -/
def FailsFirst [Library] (q : Query) (stages : List Stage) (e : Error) : Prop :=
  ∃ before stage after, stages = before ++ stage :: after ∧
    (∀ earlier ∈ before, ∀ e', ¬ q.Fails earlier e') ∧ q.Fails stage e

variable {q : Query} {stage : Stage} {stages : List Stage} {e : Error} {x : Context} {n : String}
  {p : ClientCertificate} {st : Strategy}

theorem failsFirst_cons [Library] : q.FailsFirst (stage :: stages) e ↔
    q.Fails stage e ∨ ((∀ e', ¬ q.Fails stage e') ∧ q.FailsFirst stages e) := by
  constructor
  · rintro ⟨_ | ⟨s, before⟩, st, after, h, hb, he⟩
    · cases h
      exact .inl he
    · cases h
      exact .inr ⟨hb stage List.mem_cons_self, before, st, after, rfl,
        fun x hx => hb x (List.mem_cons_of_mem _ hx), he⟩
  · rintro (he | ⟨hs, before, st, after, rfl, hb, he⟩)
    · exact ⟨[], stage, stages, rfl, nofun, he⟩
    · refine ⟨stage :: before, st, after, rfl, fun x hx => ?_, he⟩
      rcases List.mem_cons.1 hx with rfl | hx
      · exact hs
      · exact hb x hx

theorem failsFirst_singleton [Library] : q.FailsFirst [stage] e ↔ q.Fails stage e := by
  have hnil : ¬ q.FailsFirst [] e := by
    rintro ⟨before, st, after, h, -⟩
    simp at h
  rw [failsFirst_cons]
  simp only [hnil, and_false, or_false]

theorem bind_eq_error_iff [Library] {α β : Type} {x : Except Error α} {f : α → Except Error β}
    (hx : ∀ e, x = .error e ↔ q.Fails stage e)
    (hf : ∀ a, x = .ok a → (f a = .error e ↔ q.FailsFirst stages e)) :
    x >>= f = .error e ↔ q.FailsFirst (stage :: stages) e := by
  rw [failsFirst_cons, ← hx e]
  cases x with
  | error e' =>
    -- the stage fails, so none after it counts
    have hs : ¬ ∀ e, ¬ q.Fails stage e := fun h => h e' ((hx e').1 rfl)
    simp [bind, Except.bind, hs]
  | ok a =>
    have hs : ∀ e, ¬ q.Fails stage e := fun e h => by cases (hx e).2 h
    simpa [bind, Except.bind, hs] using hf a rfl

theorem isNamespace_iff :
    q.IsNamespace x n ↔ n = namespaceOf q.settings q.namespaceName x := by
  have htrim : namespaceOf q.settings q.namespaceName x = (((Text.nonBlank? q.namespaceName).orElse
      fun _ => Text.nonBlank? x.namespaceName).map Text.trim).getD q.settings.defaultNamespace := by
    rw [namespaceOf, trimmed?, trimmed?]
    cases Text.nonBlank? q.namespaceName <;> rfl
  rw [htrim]
  cases ho : (Text.nonBlank? q.namespaceName).orElse fun _ => Text.nonBlank? x.namespaceName with
  | some t =>
    have hg := Text.orElse_eq_some_iff.1 ho
    constructor
    · intro hn
      cases hn with
      | given h' =>
        cases ho.symm.trans (Text.orElse_eq_some_iff.2 h')
        rfl
      | default ha hx => cases ho.symm.trans (Text.orElse_eq_none_iff.2 ⟨ha, hx⟩)
    · rintro rfl
      exact .given hg
  | none =>
    have hm := Text.orElse_eq_none_iff.1 ho
    constructor
    · intro hn
      cases hn with
      | given h' => cases ho.symm.trans (Text.orElse_eq_some_iff.2 h')
      | default => rfl
    · rintro rfl
      exact .default hm.1 hm.2

theorem strategyCertificate?_eq_some_iff :
    strategyCertificate? st = some p ↔ st = .certificate p := by
  cases st <;> simp [strategyCertificate?]

theorem describes_iff [Library] {c : Cluster} {u : User} {a : Option ClusterAuthority}
    {o : Options} :
    q.Describes x c u a o ↔ q.IsContext x ∧ Named.IsFirst q.kubeconfig.clusters x.cluster c ∧
      Named.IsFirst q.kubeconfig.users x.user u ∧
      ∃ server, IsEndpoint c.server server ∧ IsAuthority q.host q.kubeconfig.directory c a ∧
        ∃ st, Resolver.strategy q.host q.settings q.kubeconfig.directory c a u = .ok st ∧
          options q.settings q.namespaceName x c server a st = o := by
  constructor
  · intro h
    refine ⟨h.context, h.cluster, h.user, _, h.endpoint, h.authority, _, h.strategy, ?_⟩
    have hcert : strategyCertificate? o.strategy = o.certificate := by
      refine Option.ext fun p => ?_
      rw [strategyCertificate?_eq_some_iff, h.certificate]
    rw [options, hcert, ← isNamespace_iff.1 h.namespaceName, ← h.authority_eq, ← h.insecure,
      ← h.logHeaders, ← h.credentialWait]
  · rintro ⟨hx, hc, hu, server, hs, ha, st, hst, rfl⟩
    exact ⟨hx, hc, hu, hs, ha, rfl, isNamespace_iff.2 rfl, rfl, hst,
      fun p => strategyCertificate?_eq_some_iff, rfl, rfl⟩

theorem answer_eq [Library] (q : Query) : q.answer = (do
    q.settings.validate
    let name ← Resolver.contextName q.kubeconfig q.contextName
    let x ← (q.kubeconfig.context? name).elim (.error (.unknownContext name)) .ok
    let c ← (q.kubeconfig.cluster? x.cluster).elim (.error (.unknownCluster x.cluster)) .ok
    let u ← (q.kubeconfig.user? x.user).elim (.error (.unknownUser x.user)) .ok
    let server ← endpoint c.server
    let a ← authority q.host q.kubeconfig.directory c
    let st ← Resolver.strategy q.host q.settings q.kubeconfig.directory c a u
    let o := options q.settings q.namespaceName x c server a st
    o.validate.map fun _ => o) := by
  have hr : q.answer = (resolution q.host q.settings q.kubeconfig q.contextName
      q.namespaceName >>= fun r => r.options.validate.map fun _ => r.options) := by
    rw [answer, resolve]
    cases resolution q.host q.settings q.kubeconfig q.contextName q.namespaceName <;> rfl
  rw [hr, resolution]
  simp only [select, bind_assoc, pure_bind]

theorem answer_eq_ok_iff [Library] {o : Options} :
    q.answer = .ok o ↔ q.settings.validate = .ok () ∧
      (∃ x c u a, q.Describes x c u a o) ∧ o.validate = .ok () := by
  rw [answer_eq, Except.bind_unit_eq_ok_iff]
  simp only [Except.bind_eq_ok_iff, Except.elim_eq_ok_iff, contextName_eq_ok_iff,
    endpoint_eq_ok_iff, authority_eq_ok_iff, Except.map_eq_ok_iff, Kubeconfig.context?,
    Kubeconfig.cluster?, Kubeconfig.user?, Named.find?_eq_some_iff, describes_iff]
  constructor
  · rintro ⟨hv, name, hn, x, hx, c, hc, u, hu, server, hs, a, ha, st, hst, ⟨⟩, ho, rfl⟩
    exact ⟨hv, ⟨x, c, u, a, ⟨name, hn, hx⟩, hc, hu, server, hs, ha, st, hst, rfl⟩, ho⟩
  · rintro ⟨hv, ⟨x, c, u, a, ⟨name, hn, hx⟩, hc, hu, server, hs, ha, st, hst, rfl⟩, ho⟩
    exact ⟨hv, name, hn, x, hx, c, hc, u, hu, server, hs, a, ha, st, hst, (), ho, rfl⟩

theorem answer_eq_error_iff [Library] : q.answer = .error e ↔ q.FailsFirst Stage.order e := by
  rw [answer_eq]
  refine bind_eq_error_iff (fun e => Iff.rfl) fun _ _ => ?_
  refine bind_eq_error_iff (fun e => contextName_eq_error_iff) fun name hn => ?_
  have hname (n : String) : q.IsName n ↔ n = name := by
    rw [IsName, ← contextName_eq_ok_iff, hn, Except.ok.injEq, eq_comm]
  refine bind_eq_error_iff (fun e => ?_) fun x hx => ?_
  · simp only [Fails, hname, exists_eq_left, Except.elim_eq_error_iff, Kubeconfig.context?,
      Named.find?_eq_none_iff]
  have hcontext (y : Context) : q.IsContext y ↔ y = x := by
    simp only [IsContext, hname, exists_eq_left, ← Named.find?_eq_some_iff]
    rw [← Kubeconfig.context?, Except.elim_eq_ok_iff.1 hx, Option.some.injEq, eq_comm]
  refine bind_eq_error_iff (fun e => ?_) fun c hc => ?_
  · simp only [Fails, hcontext, exists_eq_left, Except.elim_eq_error_iff, Kubeconfig.cluster?,
      Named.find?_eq_none_iff]
  have hfirst (d : Cluster) : Named.IsFirst q.kubeconfig.clusters x.cluster d ↔ d = c := by
    rw [← Named.find?_eq_some_iff, ← Kubeconfig.cluster?, Except.elim_eq_ok_iff.1 hc,
      Option.some.injEq, eq_comm]
  have hcluster (d : Cluster) : q.IsCluster d ↔ d = c := by
    simp only [IsCluster, hcontext, exists_eq_left, hfirst]
  refine bind_eq_error_iff (fun e => ?_) fun u hu => ?_
  · simp only [Fails, hcontext, exists_eq_left, Except.elim_eq_error_iff, Kubeconfig.user?,
      Named.find?_eq_none_iff]
  have hlast (v : User) : Named.IsFirst q.kubeconfig.users x.user v ↔ v = u := by
    rw [← Named.find?_eq_some_iff, ← Kubeconfig.user?, Except.elim_eq_ok_iff.1 hu,
      Option.some.injEq, eq_comm]
  have huser (v : User) : q.IsUser v ↔ v = u := by
    simp only [IsUser, hcontext, exists_eq_left, hlast]
  refine bind_eq_error_iff (fun e => ?_) fun server hs => ?_
  · simp only [Fails, hcluster, exists_eq_left, endpoint_eq_error_iff]
  have hserver (t : Url) : IsEndpoint c.server t ↔ t = server := by
    rw [← endpoint_eq_ok_iff, hs, Except.ok.injEq, eq_comm]
  refine bind_eq_error_iff (fun e => ?_) fun a ha => ?_
  · simp only [Fails, hcluster, exists_eq_left, authority_eq_error_iff]
  have hauthority (b : Option ClusterAuthority) :
      IsAuthority q.host q.kubeconfig.directory c b ↔ b = a := by
    rw [← authority_eq_ok_iff, ha, Except.ok.injEq, eq_comm]
  refine bind_eq_error_iff (fun e => ?_) fun st hst => ?_
  · simp only [Fails, hcluster, huser, hauthority, exists_eq_left, exists_and_left]
  rw [Except.map_eq_error_iff, failsFirst_singleton]
  simp only [Fails, describes_iff, hcontext, exists_eq_left, exists_and_left, hfirst, hlast,
    hserver, hauthority, hst, Except.ok.injEq, exists_eq_left', and_assoc]

/-- A name is missing that resolution needs, with all before it there. -/
inductive MissesName (q : Query) : Error → Prop where
  | none (ha : Missing q.contextName) (hk : Missing q.kubeconfig.currentContext) :
    MissesName q .noContext
  | context {name : String} (hn : q.IsName name) (hl : Named.Lacks q.kubeconfig.contexts name) :
    MissesName q (.unknownContext name)
  | cluster {x : Context} (hx : q.IsContext x)
    (hl : Named.Lacks q.kubeconfig.clusters x.cluster) : MissesName q (.unknownCluster x.cluster)
  | user {x : Context} {c : Cluster} (hx : q.IsContext x)
    (hc : Named.IsFirst q.kubeconfig.clusters x.cluster c)
    (hl : Named.Lacks q.kubeconfig.users x.user) : MissesName q (.unknownUser x.user)

variable [Library]

theorem answer_of_missesName (hv : q.settings.validate = .ok ()) (h : q.MissesName e) :
    q.answer = .error e := by
  have hnone {α : Type} {items : List (Named α)} {name : String} {e : Error}
      (hl : Named.Lacks items name) :
      (Named.find? items name).elim (.error e) .ok = (.error e : Except Error α) :=
    Except.elim_eq_error_iff.2 ⟨Named.find?_eq_none_iff.2 hl, rfl⟩
  have hsome {α : Type} {items : List (Named α)} {name : String} {body : α} {e : Error}
      (hf : Named.IsFirst items name body) :
      (Named.find? items name).elim (.error e) .ok = (.ok body : Except Error α) :=
    Except.elim_eq_ok_iff.2 (Named.find?_eq_some_iff.2 hf)
  rw [answer_eq]
  simp only [Except.bind_eq_error_iff]
  refine .inr ⟨(), hv, ?_⟩
  cases h with
  | none ha hk => exact .inl (contextName_eq_error_iff.2 ⟨ha, hk, rfl⟩)
  | context hn hl => exact .inr ⟨_, contextName_eq_ok_iff.2 hn, .inl (hnone hl)⟩
  | @cluster x hx hl =>
    obtain ⟨name, hn, hx⟩ := hx
    exact .inr ⟨name, contextName_eq_ok_iff.2 hn, .inr ⟨x, hsome hx, .inl (hnone hl)⟩⟩
  | @user x c hx hc hl =>
    obtain ⟨name, hn, hx⟩ := hx
    exact .inr ⟨name, contextName_eq_ok_iff.2 hn,
      .inr ⟨x, hsome hx, .inr ⟨c, hsome hc, .inl (hnone hl)⟩⟩⟩

structure Answered (q : Query) : Prop where
  ok : ∀ o, q.answer = .ok o ↔ q.settings.validate = .ok () ∧
    (∃ x c u a, q.Describes x c u a o) ∧ o.validate = .ok ()
  error : ∀ e, q.answer = .error e ↔ q.FailsFirst Stage.order e
  missing : q.settings.validate = .ok () → ∀ e, q.MissesName e → q.answer = .error e

/-- Resolution answers all queries as described. -/
theorem resolve_answered (q : Query) : q.Answered where
  ok _ := answer_eq_ok_iff
  error _ := answer_eq_error_iff
  missing hv _ := answer_of_missesName hv

end Query

end Resolver

end ClusterAccess
