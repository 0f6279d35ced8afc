import ClusterAccess.Proofs.Except
import ClusterAccess.Resolver

namespace ClusterAccess

def Material.files : Material → List String
  | inline _ => []
  | file path => [path]

theorem Material.read_congr {h h' : Host} {m : Material} (what : String)
    (hm : ∀ p ∈ m.files, h'.read p = h.read p) : m.read h' what = m.read h what := by
  cases m with
  | inline => rfl
  | file path => simp only [Material.read, hm path (List.mem_singleton_self path)]

theorem Reader.load_congr {α : Type} {h h' : Host} {m : Material} (r : Reader α)
    (hm : ∀ p ∈ m.files, h'.read p = h.read p) : r.load h' m = r.load h m := by
  rw [load, load, Material.read_congr _ hm]

theorem ClientCertificate.load_eq_error_iff [Library] {h : Host} {m : Material}
    {key : Option Material} {e : Error} :
    ClientCertificate.load h m key = .error e ↔
      Certificate.load h m = .error e ∨
        ∃ c k, Certificate.load h m = .ok c ∧ key = some k ∧ PrivateKey.load h k = .error e := by
  simp only [ClientCertificate.load]
  cases Certificate.load h m with
  | error e' => simp [bind, Except.bind]
  | ok c =>
    cases key with
    | none => simp [bind, Except.bind, pure, Except.pure]
    | some k => cases hk : PrivateKey.load h k <;> simp [bind, Except.bind, pure, Except.pure, hk]

namespace Resolver

def Offer.files : Offer → List String
  | .certificate m key => m.files ++ key.elim [] Material.files
  | .tokenFile path => [path]
  | _ => []

theorem authority_congr [Library] {h h' : Host} {directory : Option String} {c : Cluster}
    (hh : h'.home = h.home)
    (hc : ∀ p, Text.nonBlank? c.authorityFile = some p →
      h'.read (resolvePath h directory p) = h.read (resolvePath h directory p)) :
    authority h' directory c = authority h directory c := by
  have hpath (p : String) : resolvePath h' directory p = resolvePath h directory p := by
    rw [resolvePath, resolvePath, hh]
  simp only [authority, hpath]
  cases Text.nonBlank? c.authorityData with
  | some data => rfl
  | none =>
    cases hp : Text.nonBlank? c.authorityFile with
    | none => rfl
    | some p =>
      refine congrArg (Except.map _) (Certificate.reader.load_congr fun q hq => ?_)
      rw [List.mem_singleton.1 hq]
      exact hc p hp

/-- What a way to authenticate comes to depends on no other files than its own. -/
theorem Offer.strategy_congr [Library] {h h' : Host} {o : Offer} (s : Settings) (c : Cluster)
    (a : Option ClusterAuthority) (ho : ∀ p ∈ o.files, h'.read p = h.read p) :
    o.strategy h' s c a = o.strategy h s c a := by
  cases o with
  | certificate m key =>
    have hm : Certificate.load h' m = Certificate.load h m :=
      Certificate.reader.load_congr fun p hp => ho p (List.mem_append_left _ hp)
    cases key with
    | none => simp only [Offer.strategy, ClientCertificate.load, hm]
    | some k =>
      have hk : PrivateKey.load h' k = PrivateKey.load h k :=
        PrivateKey.reader.load_congr fun p hp => ho p (List.mem_append_right _ hp)
      simp only [Offer.strategy, ClientCertificate.load, hm, hk]
  | tokenFile path =>
    simp only [Offer.strategy, Host.readText, ho path (List.mem_singleton_self path)]
  | keyOnly => rfl
  | token => rfl
  | password => rfl
  | provider => rfl
  | exec => rfl
  | nothing => rfl

inductive Source where
  | certificate
  | keyOnly
  | token
  | tokenFile
  | password
  | provider
  | exec
  | nothing

namespace Source

/-- The sources in the order in which they are taken. -/
def ranking : List Source :=
  [certificate, keyOnly, token, tokenFile, password, provider, exec, nothing]

def isGiven (u : User) : Source → Bool
  | certificate => u.hasCertificate
  | keyOnly => u.hasKey
  | token => Text.isSet u.token
  | tokenFile => Text.isSet u.tokenFile
  | password => Text.isSet u.username && Text.isSet u.password
  | provider => u.authProvider.isSome
  | exec => u.exec.isSome
  | nothing => true

/-- The source that wins: the first that the user entry gives. -/
def winner (u : User) : Source := (ranking.find? (isGiven u)).getD nothing

/-- What a source offers by its own fields. -/
def offer (path : String → String) (u : User) : Source → Offer
  | certificate =>
    (material? path u.certificateData u.certificateFile).elim .nothing fun m =>
      .certificate m (material? path u.keyData u.keyFile)
  | keyOnly => .keyOnly
  | token => .token (Text.trim (u.token.getD ""))
  | tokenFile => .tokenFile (path (u.tokenFile.getD ""))
  | password => .password (u.username.getD "") (u.password.getD "")
  | provider => u.authProvider.elim .nothing .provider
  | exec => u.exec.elim .nothing .exec
  | nothing => .nothing

def materialFiles (path : String → String) (data file : Option String) : List String :=
  match Text.nonBlank? data with
  | some _ => []
  | none => ((Text.nonBlank? file).map path).toList

def files (path : String → String) (u : User) : Source → List String
  | certificate =>
    materialFiles path u.certificateData u.certificateFile ++
      materialFiles path u.keyData u.keyFile
  | tokenFile => [path (u.tokenFile.getD "")]
  | _ => []

def SameMaterial (data file data' file' : Option String) : Prop :=
  Text.nonBlank? data' = Text.nonBlank? data ∧
    (Text.nonBlank? data = none → Text.nonBlank? file' = Text.nonBlank? file)

/-- Two user entries agree on the fields of a source. -/
def SameFields (u u' : User) : Source → Prop
  | certificate =>
    SameMaterial u.certificateData u.certificateFile u'.certificateData u'.certificateFile ∧
      SameMaterial u.keyData u.keyFile u'.keyData u'.keyFile
  | keyOnly => True
  | token => u'.token = u.token
  | tokenFile => u'.tokenFile = u.tokenFile
  | password => u'.username = u.username ∧ u'.password = u.password
  | provider => u'.authProvider = u.authProvider
  | exec => u'.exec = u.exec
  | nothing => True

inductive Makes : Source → Strategy → Prop where
  | certificate (c : ClientCertificate) : Makes .certificate (.certificate c)
  | token (t : String) : Makes .token (.token t)
  | tokenFile (t : String) : Makes .tokenFile (.token t)
  | password (name word : String) : Makes .password (.basic name word)
  | provider (p : Provider) (cached : Option Credential) (margin : Time.Span) :
    Makes .provider (.renewable ⟨.provider p, cached, margin⟩)
  | exec (p : Plugin) (margin : Time.Span) : Makes .exec (.renewable ⟨.plugin p, none, margin⟩)
  | nothing : Makes .nothing .none

inductive Fails [Library] (h : Host) (s : Settings) (path : String → String) (u : User) :
    Source → Error → Prop where
  | certificate {m : Material} {e : Error}
    (hm : material? path u.certificateData u.certificateFile = some m)
    (he : Certificate.load h m = .error e) : Fails h s path u .certificate e
  | key {m k : Material} {c : Certificate} {e : Error}
    (hm : material? path u.certificateData u.certificateFile = some m)
    (hc : Certificate.load h m = .ok c) (hk : material? path u.keyData u.keyFile = some k)
    (he : PrivateKey.load h k = .error e) : Fails h s path u .certificate e
  | keyOnly : Fails h s path u .keyOnly
      (.badAuthentication "a client key is configured without a client certificate")
  | unreadable {e : FileError} (he : h.readText (path (u.tokenFile.getD "")) = .error e) :
    Fails h s path u .tokenFile (.badAuthentication
      ("cannot read token file " ++ path (u.tokenFile.getD "") ++ ": " ++ e.message))
  | expiry {p : AuthProvider} {e : Error} (hp : u.authProvider = some p)
    (he : Provider.expiryOfConfig p = .error e) : Fails h s path u .provider e
  | providerMargin {p : AuthProvider} {t : Option Time.Instant} {e : Error}
    (hp : u.authProvider = some p) (ht : Provider.expiryOfConfig p = .ok t)
    (he : s.margin = .error e) : Fails h s path u .provider e
  | execMargin {x : ExecEntry} {e : Error} (hx : u.exec = some x) (he : s.margin = .error e) :
    Fails h s path u .exec e

end Source

variable {path : String → String} {u u' : User}

theorem material?_isSome (path : String → String) (data file : Option String) :
    (material? path data file).isSome = (Text.isSet data || Text.isSet file) := by
  simp only [material?, Text.isSet]
  cases Text.nonBlank? data <;> cases Text.nonBlank? file <;> rfl

theorem getD_of_nonBlank? {s : Option String} {t : String} (h : Text.nonBlank? s = some t) :
    s.getD "" = t := by
  rw [(Option.filter_eq_some_iff.1 h).1, Option.getD_some]

/-- What a user entry offers is what the winning source offers by its own fields. -/
theorem offer_eq (path : String → String) (u : User) :
    Resolver.offer path u = (Source.winner u).offer path u := by
  have hcert : u.hasCertificate = _ := (material?_isSome path _ _).symm
  have hkey : u.hasKey = _ := (material?_isSome path _ _).symm
  simp only [Resolver.offer, Source.winner, Source.ranking, List.find?, Source.isGiven, hcert,
    hkey, Text.isSet]
  cases hc : material? path u.certificateData u.certificateFile with
  | some m => simp only [Option.isSome_some, Option.getD_some, Source.offer, hc, Option.elim_some]
  | none =>
    cases hk : material? path u.keyData u.keyFile with
    | some m => rfl
    | none =>
      cases ht : Text.nonBlank? u.token with
      | some t => simp [Source.offer, getD_of_nonBlank? ht]
      | none =>
        cases hf : Text.nonBlank? u.tokenFile with
        | some f => simp [Source.offer, getD_of_nonBlank? hf]
        | none =>
          cases hn : Text.nonBlank? u.username with
          | none => cases hp : u.authProvider <;> cases he : u.exec <;> simp [Source.offer, hp, he]
          | some name =>
            cases hw : Text.nonBlank? u.password with
            | none =>
              cases hp : u.authProvider <;> cases he : u.exec <;> simp [Source.offer, hp, he]
            | some word => simp [Source.offer, getD_of_nonBlank? hn, getD_of_nonBlank? hw]

variable {h : Host} {s : Settings} {c : Cluster} {a : Option ClusterAuthority} {w : Source}

namespace Source

theorem find?_ranking (u : User) : ranking.find? (isGiven u) = some (winner u) := by
  have hsome : (ranking.find? (isGiven u)).isSome :=
    List.find?_isSome.2 ⟨nothing, by simp [ranking], rfl⟩
  obtain ⟨w, hw⟩ := Option.isSome_iff_exists.1 hsome
  rw [winner, hw, Option.getD_some]

theorem isGiven_winner (u : User) : isGiven u (winner u) = true :=
  List.find?_some (find?_ranking u)

theorem SameMaterial.eq {data file data' file' : Option String}
    (hs : SameMaterial data file data' file') :
    material? path data' file' = material? path data file := by
  obtain ⟨hdata, hfile⟩ := hs
  simp only [material?, hdata]
  cases hd : Text.nonBlank? data with
  | some d => rfl
  | none => rw [hfile hd]

theorem offer_congr (hu : w.SameFields u u') : w.offer path u' = w.offer path u := by
  cases w with
  | certificate => simp only [offer, hu.1.eq, hu.2.eq]
  | keyOnly => rfl
  | token => rw [offer, offer, hu]
  | tokenFile => rw [offer, offer, hu]
  | password => rw [offer, offer, hu.1, hu.2]
  | provider => rw [offer, offer, hu]
  | exec => rw [offer, offer, hu]
  | nothing => rfl

theorem files_of_material? {data file : Option String} {m : Material}
    (hm : material? path data file = some m) : m.files = materialFiles path data file := by
  simp only [material?, materialFiles] at hm ⊢
  cases hd : Text.nonBlank? data with
  | some d =>
    simp only [hd, Option.some.injEq] at hm
    subst hm
    rfl
  | none =>
    cases hf : Text.nonBlank? file with
    | some f =>
      simp only [hd, hf, Option.some.injEq] at hm
      subst hm
      rfl
    | none => simp only [hd, hf, reduceCtorEq] at hm

theorem files_offer_subset (path : String → String) (u : User) (w : Source) :
    (w.offer path u).files ⊆ w.files path u := by
  cases w with
  | certificate =>
    simp only [offer, files]
    cases hm : material? path u.certificateData u.certificateFile with
    | none => exact List.nil_subset _
    | some m =>
      simp only [Option.elim_some, Offer.files, files_of_material? hm]
      cases hk : material? path u.keyData u.keyFile with
      | none => simp
      | some k => simp [files_of_material? hk]
  | tokenFile => exact List.Subset.refl _
  | provider => cases hp : u.authProvider <;> simp [offer, Offer.files, hp]
  | exec => cases he : u.exec <;> simp [offer, Offer.files, he]
  | keyOnly => exact List.nil_subset _
  | token => exact List.nil_subset _
  | password => exact List.nil_subset _
  | nothing => exact List.nil_subset _

end Source

theorem renewable_eq_ok_iff {source : CredentialSource} {cached : Option Credential}
    {st : Strategy} :
    renewable s source cached = .ok st ↔
      ∃ margin, s.margin = .ok margin ∧ .renewable ⟨source, cached, margin⟩ = st :=
  Except.map_eq_ok_iff

theorem renewable_eq_error_iff {source : CredentialSource} {cached : Option Credential}
    {e : Error} : renewable s source cached = .error e ↔ s.margin = .error e :=
  Except.map_eq_error_iff

variable [Library]

namespace Source

theorem makes_of_strategy {st : Strategy} (hg : isGiven u w = true)
    (hw : (w.offer path u).strategy h s c a = .ok st) : w.Makes st := by
  cases w with
  | certificate =>
    obtain ⟨m, hm⟩ := Option.isSome_iff_exists.1 ((material?_isSome path _ _).trans hg)
    simp only [offer, hm, Option.elim_some, Offer.strategy] at hw
    obtain ⟨l, -, rfl⟩ := Except.map_eq_ok_iff.1 hw
    exact .certificate l
  | keyOnly => simp only [offer, Offer.strategy, reduceCtorEq] at hw
  | token =>
    simp only [offer, Offer.strategy, Except.ok.injEq] at hw
    subst hw
    exact .token _
  | tokenFile =>
    simp only [offer, Offer.strategy] at hw
    split at hw
    next t _ =>
      simp only [Except.ok.injEq] at hw
      subst hw
      exact .tokenFile _
    next => cases hw
  | password =>
    simp only [offer, Offer.strategy, Except.ok.injEq] at hw
    subst hw
    exact .password _ _
  | provider =>
    obtain ⟨p, hp⟩ := Option.isSome_iff_exists.1 hg
    simp only [offer, hp, Option.elim_some, Offer.strategy] at hw
    cases hq : Provider.ofConfig p with
    | error e => simp only [hq, bind, Except.bind, reduceCtorEq] at hw
    | ok q =>
      simp only [hq, bind, Except.bind] at hw
      obtain ⟨margin, -, rfl⟩ := renewable_eq_ok_iff.1 hw
      exact .provider q _ margin
  | exec =>
    obtain ⟨x, hx⟩ := Option.isSome_iff_exists.1 hg
    simp only [offer, hx, Option.elim_some, Offer.strategy] at hw
    obtain ⟨margin, -, rfl⟩ := renewable_eq_ok_iff.1 hw
    exact .exec _ margin
  | nothing =>
    simp only [offer, Offer.strategy, Except.ok.injEq] at hw
    subst hw
    exact .nothing

theorem certificate_fails_iff {e : Error} :
    (certificate.offer path u).strategy h s c a = .error e ↔ Fails h s path u .certificate e := by
  constructor
  · intro hw
    cases hm : material? path u.certificateData u.certificateFile with
    | none => simp only [offer, hm, Option.elim_none, Offer.strategy, reduceCtorEq] at hw
    | some m =>
      simp only [offer, hm, Option.elim_some, Offer.strategy, Except.map_eq_error_iff,
        ClientCertificate.load_eq_error_iff] at hw
      obtain he | ⟨l, k, hl, hk, he⟩ := hw
      · exact .certificate hm he
      · exact .key hm hl hk he
  · intro hf
    cases hf with
    | certificate hm he =>
      simp only [offer, hm, Option.elim_some, Offer.strategy, Except.map_eq_error_iff]
      exact ClientCertificate.load_eq_error_iff.2 (.inl he)
    | key hm hc hk he =>
      simp only [offer, hm, Option.elim_some, Offer.strategy, Except.map_eq_error_iff]
      exact ClientCertificate.load_eq_error_iff.2 (.inr ⟨_, _, hc, hk, he⟩)

theorem tokenFile_fails_iff {e : Error} :
    (tokenFile.offer path u).strategy h s c a = .error e ↔ Fails h s path u .tokenFile e := by
  simp only [offer, Offer.strategy]
  cases hr : h.readText (path (u.tokenFile.getD "")) with
  | ok t =>
    refine ⟨nofun, fun hf => ?_⟩
    cases hf with
    | unreadable he => cases hr.symm.trans he
  | error e' =>
    constructor
    · intro hw
      cases hw
      exact .unreadable hr
    · intro hf
      cases hf with
      | unreadable he =>
        cases hr.symm.trans he
        rfl

theorem provider_fails_iff {e : Error} :
    (provider.offer path u).strategy h s c a = .error e ↔ Fails h s path u .provider e := by
  constructor
  · intro hw
    cases hp : u.authProvider with
    | none => simp only [offer, hp, Option.elim_none, Offer.strategy, reduceCtorEq] at hw
    | some p =>
      simp only [offer, hp, Option.elim_some, Offer.strategy, Provider.ofConfig] at hw
      cases ht : Provider.expiryOfConfig p with
      | error e' =>
        simp only [ht, bind, Except.bind, Except.error.injEq] at hw
        subst hw
        exact .expiry hp ht
      | ok t =>
        simp only [ht, bind, Except.bind, pure, Except.pure] at hw
        exact .providerMargin hp ht (renewable_eq_error_iff.1 hw)
  · intro hf
    cases hf with
    | expiry hp he =>
      simp only [offer, hp, Option.elim_some, Offer.strategy, Provider.ofConfig, he, bind,
        Except.bind]
    | providerMargin hp ht he =>
      simp only [offer, hp, Option.elim_some, Offer.strategy, Provider.ofConfig, ht, bind,
        Except.bind, pure, Except.pure]
      exact renewable_eq_error_iff.2 he

theorem exec_fails_iff {e : Error} :
    (exec.offer path u).strategy h s c a = .error e ↔ Fails h s path u .exec e := by
  constructor
  · intro hw
    cases hx : u.exec with
    | none => simp only [offer, hx, Option.elim_none, Offer.strategy, reduceCtorEq] at hw
    | some x =>
      simp only [offer, hx, Option.elim_some, Offer.strategy] at hw
      exact .execMargin hx (renewable_eq_error_iff.1 hw)
  · intro hf
    cases hf with
    | execMargin hx he =>
      simp only [offer, hx, Option.elim_some, Offer.strategy]
      exact renewable_eq_error_iff.2 he

theorem fails_iff {e : Error} (w : Source) :
    (w.offer path u).strategy h s c a = .error e ↔ w.Fails h s path u e := by
  cases w with
  | certificate => exact certificate_fails_iff
  | keyOnly =>
    constructor
    · intro hw
      cases hw
      exact .keyOnly
    · intro hf
      cases hf
      rfl
  | token => exact ⟨nofun, nofun⟩
  | tokenFile => exact tokenFile_fails_iff
  | password => exact ⟨nofun, nofun⟩
  | provider => exact provider_fails_iff
  | exec => exact exec_fails_iff
  | nothing => exact ⟨nofun, nofun⟩

end Source

structure Decides (h : Host) (s : Settings) (directory : Option String) (c : Cluster)
    (a : Option ClusterAuthority) (u : User) (w : Source) : Prop where
  first : Source.ranking.find? (Source.isGiven u) = some w
  alone : strategy h s directory c a u =
    (w.offer (resolvePath h directory) u).strategy h s c a
  makes : ∀ {st}, strategy h s directory c a u = .ok st → w.Makes st
  fails : ∀ {e}, strategy h s directory c a u = .error e ↔
    w.Fails h s (resolvePath h directory) u e
  independent : ∀ {h' : Host} {u' : User}, h'.home = h.home → Source.winner u' = w →
    w.SameFields u u' → (∀ p ∈ w.files (resolvePath h directory) u, h'.read p = h.read p) →
    strategy h' s directory c a u' = strategy h s directory c a u

theorem strategy_eq (h : Host) (s : Settings) (directory : Option String) (c : Cluster)
    (a : Option ClusterAuthority) (u : User) :
    strategy h s directory c a u =
      ((Source.winner u).offer (resolvePath h directory) u).strategy h s c a := by
  rw [strategy, offer_eq]

/-- Of the sources of credentials in a user entry the winner decides. -/
theorem winner_decides (h : Host) (s : Settings) (directory : Option String) (c : Cluster)
    (a : Option ClusterAuthority) (u : User) :
    Decides h s directory c a u (Source.winner u) where
  first := Source.find?_ranking u
  alone := strategy_eq h s directory c a u
  makes hst := Source.makes_of_strategy (Source.isGiven_winner u)
    ((strategy_eq h s directory c a u).symm.trans hst)
  fails := by
    rw [strategy_eq]
    exact Source.fails_iff _
  independent {h' u'} hhome hwin hfields hfiles := by
    have hpath : resolvePath h' directory = resolvePath h directory := by
      funext p
      rw [resolvePath, resolvePath, hhome]
    rw [strategy_eq, strategy_eq, hwin, hpath, Source.offer_congr hfields]
    exact Offer.strategy_congr s c a fun p hp => hfiles p (Source.files_offer_subset _ _ _ hp)

end Resolver

end ClusterAccess
