import ClusterAccess.Proofs.Precedence
import ClusterAccess.Proofs.Secrecy.Resemblance
import ClusterAccess.Proofs.Text
import ClusterAccess.Pod

namespace ClusterAccess

open Text (isBlankText)

/-- What comes of reading a file with a token: the same, or two texts that are not blank. -/
inductive SameToken : Except FileError String → Except FileError String → Prop where
  | same (x : Except FileError String) : SameToken x x
  | other {t t' : String} (h : isBlankText t = false) (h' : isBlankText t' = false) :
    SameToken (.ok t) (.ok t')

namespace AuthProvider.Resembles

variable {p p' : AuthProvider}

theorem ofConfig (h : p.Resembles p') :
    Except.Rel Eq (fun q q' : Provider => ∃ initialToken,
        q' = { q with initialToken } ∧ initialToken.isSome = q.initialToken.isSome)
      (Provider.ofConfig p) (Provider.ofConfig p') := by
  have hexpiry : Provider.expiryOfConfig p' = Provider.expiryOfConfig p := by
    simp only [Provider.expiryOfConfig, h.settings "expiry" (by decide), h.name]
  simp only [Provider.ofConfig, hexpiry, h.name, h.settings "cmd-path" (by decide),
    h.settings "cmd-args" (by decide), h.settings "token-key" (by decide),
    h.settings "expiry-key" (by decide)]
  cases Provider.expiryOfConfig p with
  | error e => exact .error rfl
  | ok expiry => exact .ok ⟨_, rfl, h.secret.isSome_eq⟩

end AuthProvider.Resembles

namespace Resolver

inductive Offer.Resembles : Offer → Offer → Prop where
  | same (o : Offer) : Resembles o o
  | token {t t' : String} (h : isBlankText t = false) (h' : isBlankText t' = false) :
    Resembles (.token t) (.token t')
  | password (username : String) {password password' : String} (h : isBlankText password = false)
    (h' : isBlankText password' = false) :
    Resembles (.password username password) (.password username password')
  | provider {p p' : AuthProvider} (h : p.Resembles p') : Resembles (.provider p) (.provider p')
  | exec {e e' : ExecEntry} (h : e.Alike e') : Resembles (.exec e) (.exec e')

inductive Offer.ReadsAlike (h h' : Host) : Offer → Prop where
  | tokenFile {path : String} (ht : SameToken (h.readText path) (h'.readText path)) :
    ReadsAlike h h' (.tokenFile path)
  | other {o : Offer} (ho : ∀ p ∈ o.files, h'.read p = h.read p) : ReadsAlike h h' o

/-- Two hosts whose files are the same for a context, but for the token in a file. -/
structure ReadsAlike (h h' : Host) (k : Kubeconfig) (context : Option String) : Prop where
  home : h'.home = h.home
  authority : ∀ name x c u, select k context = .ok (name, x, c, u) →
    ∀ p, Text.nonBlank? c.authorityFile = some p →
      h'.read (resolvePath h k.directory p) = h.read (resolvePath h k.directory p)
  offer : ∀ name x c u, select k context = .ok (name, x, c, u) →
    (offer (resolvePath h k.directory) u).ReadsAlike h h'

variable {h h' : Host} {u u' : User} {k k' : Kubeconfig}

def Offer.ofCommands (p : Option AuthProvider) (e : Option ExecEntry) : Offer :=
  match p, e with
  | some p, _ => .provider p
  | none, some e => .exec e
  | none, none => .nothing

theorem Offer.ofCommands_resembles {p p' : Option AuthProvider} {e e' : Option ExecEntry}
    (hp : Option.Rel AuthProvider.Resembles p p') (he : Option.Rel ExecEntry.Alike e e') :
    (ofCommands p e).Resembles (ofCommands p' e') := by
  cases hp with
  | some hp => exact .provider hp
  | none =>
    cases he with
    | some he => exact .exec he
    | none => exact .same _

theorem offer_resembles (hu : u.Resembles u') (path : String → String) :
    (offer path u).Resembles (offer path u') := by
  obtain ⟨ht, hp, ha, he⟩ := hu
  replace ht := ht.nonBlank?
  replace hp := hp.nonBlank?
  simp only [offer]
  generalize Text.nonBlank? u.token = t at ht
  generalize Text.nonBlank? _ = t' at ht
  split
  · exact .same _
  · exact .same _
  · cases ht with
    | other ht ht' => exact .token (Text.isBlankText_trim ht) (Text.isBlankText_trim ht')
    | same =>
      split
      · exact .same _
      · exact .same _
      · generalize Text.nonBlank? u.password = w at hp
        generalize Text.nonBlank? _ = w' at hp
        cases Text.nonBlank? u.username with
        | none => exact Offer.ofCommands_resembles ha he
        | some name =>
          cases hp with
          | other hw hw' => exact .password name hw hw'
          | same =>
            cases w with
            | some w => exact .same _
            | none => exact Offer.ofCommands_resembles ha he

theorem renewable_resembles (s : Settings) {source source' : CredentialSource}
    {cached cached' : Option Credential} (hs : source.Resembles source')
    (hc : cached'.map Credential.veil = cached.map Credential.veil) :
    Except.Rel Eq Strategy.Resembles (renewable s source cached) (renewable s source' cached') := by
  rw [renewable, renewable]
  cases s.margin with
  | error e => exact .error rfl
  | ok margin => exact .ok (.renewable hs hc)

theorem Offer.Resembles.strategy [Library] {o o' : Offer} (ho : o.Resembles o')
    (hr : o.ReadsAlike h h') (s : Settings) (c : Cluster) (a : Option ClusterAuthority) :
    Except.Rel Eq Strategy.Resembles (o.strategy h s c a) (o'.strategy h' s c a) := by
  cases ho with
  | same =>
    cases hr with
    | other ho =>
      rw [Offer.strategy_congr s c a ho]
      exact .refl (fun _ => rfl) .same _
    | @tokenFile path ht =>
      simp only [Offer.strategy]
      generalize h.readText path = x at ht
      generalize h'.readText path = x' at ht
      cases ht with
      | same => exact .refl (fun _ => rfl) .same _
      | other ht ht' => exact .ok (.token (Text.isBlankText_trim ht) (Text.isBlankText_trim ht'))
  | token ht ht' => exact .ok (.token ht ht')
  | password username hw hw' => exact .ok (.basic username hw hw')
  | provider hp =>
    refine hp.ofConfig.bind ?_
    rintro q _ - ⟨initialToken, rfl, hsome⟩
    refine renewable_resembles s (.provider hsome) ?_
    simp only [Provider.initialCredential, Option.map_map]
    exact map_const_of_isSome hsome (Credential.mk (.token "") q.initialExpiry)
  | @exec e _ he =>
    obtain ⟨-⟩ := he
    exact renewable_resembles s (.plugin (plugin e c a) _) rfl

theorem find?_resembles {users users' : List (Named User)}
    (hu : List.Forall₂ (fun n n' => n'.name = n.name ∧ n.body.Resembles n'.body) users users')
    (name : String) :
    Option.Rel User.Resembles (Named.find? users name) (Named.find? users' name) := by
  induction hu with
  | nil => exact .none
  | @cons n n' users users' hn _ ih =>
    simp only [Named.find?, List.find?_cons, hn.1]
    cases n.name == name with
    | true => exact .some hn.2
    | false => exact ih

theorem select_resembles (hk : k.Resembles k') (asked : Option String) :
    Except.Rel Eq (fun x x' : String × Context × Cluster × User =>
        x'.1 = x.1 ∧ x'.2.1 = x.2.1 ∧ x'.2.2.1 = x.2.2.1 ∧ x.2.2.2.Resembles x'.2.2.2)
      (select k asked) (select k' asked) := by
  obtain ⟨hu⟩ := hk
  refine Except.Rel.bind_self (fun _ => rfl) fun name _ => ?_
  refine Except.Rel.bind_self (fun _ => rfl) fun x _ => ?_
  refine Except.Rel.bind_self (fun _ => rfl) fun c _ => ?_
  have huser := find?_resembles hu x.user
  simp only [Kubeconfig.user?]
  generalize Named.find? k.users x.user = u at huser
  generalize Named.find? _ x.user = u' at huser
  cases huser with
  | none => exact .error rfl
  | some hu => exact .ok ⟨rfl, rfl, rfl, hu⟩

theorem options_resembles {st st' : Strategy} (hst : st.Resembles st') (s : Settings)
    (namespaceName : Option String) (x : Context) (c : Cluster) (e : Url)
    (a : Option ClusterAuthority) :
    (options s namespaceName x c e a st).Resembles (options s namespaceName x c e a st') := by
  have hcertificate : strategyCertificate? st' = strategyCertificate? st := by cases hst <;> rfl
  rw [options, options, hcertificate]
  exact .intro hst

theorem resolution_resembles [Library] (hk : k.Resembles k') (s : Settings)
    {context : Option String} (hr : ReadsAlike h h' k context) (namespaceName : Option String) :
    Except.Rel Eq (fun r r' : Resolution => ∃ options, r' = { r with options } ∧
        r.options.Resembles options)
      (resolution h s k context namespaceName) (resolution h' s k' context namespaceName) := by
  have hdirectory : k'.directory = k.directory := by
    obtain ⟨-⟩ := hk
    rfl
  rw [resolution, resolution, hdirectory]
  refine Except.Rel.bind_self (fun _ => rfl) fun _ _ => ?_
  refine (select_resembles hk context).bind ?_
  rintro ⟨name, x, c, u⟩ ⟨name', x', c', u'⟩ hselect ⟨rfl, rfl, rfl, hu⟩
  have hauthority := authority_congr hr.home (hr.authority _ _ _ _ hselect)
  have hpath : resolvePath h' k.directory = resolvePath h k.directory := by
    funext p
    rw [resolvePath, resolvePath, hr.home]
  refine Except.Rel.bind_self (fun _ => rfl) fun e _ => ?_
  dsimp only
  rw [hauthority]
  refine Except.Rel.bind_self (fun _ => rfl) fun a _ => ?_
  have hoffer := offer_resembles hu (resolvePath h k.directory)
  rw [strategy, strategy, hpath]
  refine (hoffer.strategy (hr.offer _ _ _ _ hselect) s c' a).bind ?_
  rintro st st' - hst
  exact .ok ⟨_, rfl, options_resembles hst s namespaceName x' c' e a⟩

/-- Kubeconfigs that differ only in secrets lead to options that resemble each other. -/
theorem resolve_resembles [Library] (hk : k.Resembles k') (s : Settings)
    {context : Option String} (hr : ReadsAlike h h' k context) (namespaceName : Option String) :
    (resolve h' s k' context namespaceName).1 = (resolve h s k context namespaceName).1 ∧
      Except.Rel Eq Options.Resembles (resolve h s k context namespaceName).2
        (resolve h' s k' context namespaceName).2 := by
  have hresolution := resolution_resembles hk s hr namespaceName
  rw [resolve, resolve]
  generalize resolution h s k context namespaceName = r at hresolution
  generalize resolution h' s k' context namespaceName = r' at hresolution
  cases hresolution with
  | error he => exact ⟨rfl, .error he⟩
  | @ok r _ hr =>
    obtain ⟨options, rfl, ho⟩ := hr
    have hendpoint : options.endpoint = r.options.endpoint := by
      obtain ⟨-⟩ := ho
      rfl
    dsimp only
    refine ⟨?_, ?_⟩
    · simp only [Resolution.entry, hendpoint, ho.strategy.kind_eq]
    · rw [ho.validate_eq]
      cases r.options.validate with
      | error e => exact .error rfl
      | ok _ => exact .ok ho

end Resolver

structure Pod.ReadsAlike (h h' : Host) (directory : String) : Prop where
  token : SameToken (h.readText (Path.join directory "token"))
    (h'.readText (Path.join directory "token"))
  certificate : h'.read (Path.join directory "ca.crt") = h.read (Path.join directory "ca.crt")
  namespaceName : h'.read (Path.join directory "namespace") =
    h.read (Path.join directory "namespace")

theorem Pod.ReadsAlike.options [Library] {h h' : Host} {directory : String}
    (hr : Pod.ReadsAlike h h' directory) (p : Pod) :
    Except.Rel Eq Options.Resembles (p.options h directory) (p.options h' directory) := by
  have hload : Certificate.load h' (.file (Path.join directory "ca.crt")) =
      Certificate.load h (.file (Path.join directory "ca.crt")) := by
    refine Certificate.reader.load_congr fun q hq => ?_
    rw [List.mem_singleton.1 hq]
    exact hr.certificate
  have hnamespace : h'.readText (Path.join directory "namespace") =
      h.readText (Path.join directory "namespace") := by
    rw [Host.readText, Host.readText, hr.namespaceName]
  have hfile : file? h' (Path.join directory "ca.crt") =
      file? h (Path.join directory "ca.crt") := by
    rw [file?, file?, hr.certificate]
  have htoken := hr.token
  simp only [Pod.options, hfile, hload, hnamespace]
  generalize h.readText (Path.join directory "token") = x at htoken
  generalize h'.readText (Path.join directory "token") = x' at htoken
  cases htoken with
  | same =>
    refine Except.Rel.refl (fun _ => rfl) (fun o => ?_) _
    exact .intro (.same _)
  | @other t t' ht ht' =>
    refine Except.Rel.bind_self (fun _ => rfl) fun e _ => ?_
    change Except.Rel Eq Options.Resembles (ite _ _ _) (ite _ _ _)
    split
    · exact .error rfl
    · refine Except.Rel.bind_self (fun _ => rfl) fun ca _ => ?_
      have hst := Strategy.Resembles.token (Text.isBlankText_trim ht) (Text.isBlankText_trim ht')
      apply Options.Resembles.checked
      exact .intro hst

end ClusterAccess
