import ClusterAccess.Crypto.Keys
import ClusterAccess.Pod
import ClusterAccess.Proofs.Authentication
import ClusterAccess.Proofs.PluginOutput
import ClusterAccess.Proofs.Precedence
import ClusterAccess.Proofs.ProviderOutput
import ClusterAccess.Proofs.Resolution

namespace ClusterAccess

open Text (IsClean isBlank isBlankText trim)

theorem Decimal.isBlankText_text (d : Decimal) : isBlankText d.text = false := by
  have hdigits : (Text.digits d.significand).all isBlank = false := by
    simpa only [Text.decimal, isBlankText, String.toList_ofList] using
      Text.isBlankText_decimal d.significand
  have hsigned {cs : List Char} (h : cs.all isBlank = false) :
      isBlankText (String.ofList (if d.negative then '-' :: cs else cs)) = false := by
    rw [isBlankText, String.toList_ofList]
    split
    · rfl
    · exact h
  rw [Decimal.text]
  apply hsigned
  split
  · rfl
  · split
    · rw [List.all_append, List.all_append, hdigits]
      rfl
    · split
      · rw [List.all_append, List.all_cons]
        exact Bool.and_false _
      · split
        · rfl
        · rw [List.all_append, List.all_cons]
          exact Bool.and_false _

theorem Yaml.Number.isBlankText_text (n : Yaml.Number) : isBlankText n.text = false := by
  cases n with
  | natural n => exact Text.isBlankText_decimal n
  | negative n => rw [text, Text.isBlankText_append]; rfl
  | real d => exact d.isBlankText_text
  | infinite minus => cases minus <;> rfl
  | undefined => rfl

theorem AuthProvider.isBlankText_of_value? {p : AuthProvider} {key t : String}
    (h : p.value? key = some t) : isBlankText t = false := by
  rw [value?] at h
  split at h
  next s _ => exact (Text.nonBlank?_eq_some_iff.1 h).not_blank
  next b _ =>
    cases h
    cases b <;> rfl
  next n _ =>
    cases h
    exact n.isBlankText_text
  next => cases h

theorem Plugin.Accepts.not_blank [Library] {p : Plugin} {stdout t : String}
    {e : Option Time.Instant} (h : p.Accepts stdout ⟨.token t, e⟩) : isBlankText t = false := by
  cases h with
  | intro _ _ _ _ _ _ hs =>
    cases hs with
    | token _ _ ht => exact ht.not_blank

theorem Provider.Accepts.isClean {p : Provider} {stdout t : String} {e : Option Time.Instant}
    (h : p.Accepts stdout ⟨.token t, e⟩) : IsClean t := by
  cases h with
  | raw _ hb => exact Text.isClean_trim hb
  | document _ _ _ hb _ => exact Text.isClean_trim hb

namespace Strategy

/-- What the cache of a strategy may answer; a fixed strategy asks no cache. -/
def MayAnswer [Library] (st : Strategy) (answer : Outcome) : Prop :=
  ∀ r, st = .renewable r → ∃ es cache i, (Cache.ofInitial r.cached).run es = some cache ∧
    Cache.FedBy r.source.Gives es ∧ cache.answer? i = some answer

/-- The credentials that a strategy may resolve to. -/
def Provides [Library] (st : Strategy) (c : Credential) : Prop :=
  ∃ answer, st.MayAnswer answer ∧ st.resolve answer = .ok (some c)

/-- How the strategies of connections are made. -/
inductive Made : Strategy → Prop where
  | none : Made .none
  | basic (username password : String) : Made (.basic username password)
  | token (t : String) : Made (.token (trim t))
  | certificate (c : ClientCertificate) : Made (.certificate c)
  | provider {config : AuthProvider} {p : Provider} (h : Provider.ofConfig config = .ok p)
    (margin : Time.Span) : Made (.renewable ⟨.provider p, p.initialCredential, margin⟩)
  | plugin (p : Plugin) (margin : Time.Span) :
    Made (.renewable ⟨.plugin p, Option.none, margin⟩)

/-- Tokens in the responses of a plugin, and the one in the configuration of a provider. -/
inductive Verbatim [Library] : Strategy → String → Prop where
  | response {p : Plugin} {cached : Option Credential} {margin : Time.Span} {stdout t : String}
    {e : Option Time.Instant} (h : p.Accepts stdout ⟨.token t, e⟩) :
    Verbatim (.renewable ⟨.plugin p, cached, margin⟩) t
  | seed {p : Provider} {cached : Option Credential} {margin : Time.Span} {t : String}
    (h : p.initialToken = some t) : Verbatim (.renewable ⟨.provider p, cached, margin⟩) t

variable {st : Strategy} {r : Renewable} {c : Credential} {t : String}

theorem provides_renewable_iff [Library] : (renewable r).Provides c ↔ ∃ es cache i,
    (Cache.ofInitial r.cached).run es = some cache ∧ Cache.FedBy r.source.Gives es ∧
      cache.answer? i = some (.ok c) := by
  constructor
  · rintro ⟨answer, ha, hc⟩
    have hans : answer = .ok c := by
      cases answer with
      | error e => cases hc
      | ok d =>
        cases hc
        rfl
    rw [hans] at ha
    exact ha r rfl
  · intro h
    refine ⟨.ok c, ?_, rfl⟩
    intro r' hr
    cases hr
    exact h

/-- What a renewable strategy provides is what it began with, or what a refresh has brought. -/
theorem origin_of_provides [Library] (h : (renewable r).Provides c) :
    r.cached = some c ∨ r.source.Gives (.ok c) := by
  obtain ⟨es, cache, i, hr, hf, ha⟩ := provides_renewable_iff.1 h
  rcases Cache.answer_origin hr ha with ⟨v, hv, ho⟩ | ⟨k, hk⟩ | hl
  · cases ho
    exact .inl hv
  · exact .inr (hf k _ hk)
  · cases hl

theorem provides_of_gives [Library] (hn : r.cached = Option.none) (h : r.source.Gives (.ok c)) :
    (renewable r).Provides c := by
  obtain ⟨cache, hr, -, ha⟩ := Cache.run_singleRun c
  rw [← hn] at hr
  exact provides_renewable_iff.2 ⟨_, cache, 0, hr, Cache.fedBy_singleRun h, ha⟩

theorem provides_of_cached [Library] {now : Time.Instant} {margin : Time.Span}
    (hc : r.cached = some c)
    (hf : c.needsRefresh now margin = false) : (renewable r).Provides c := by
  obtain ⟨cache, hr, ha⟩ := Cache.run_hit hf
  rw [← hc] at hr
  apply provides_renewable_iff.2
  refine ⟨_, cache, 0, hr, ?_, ha⟩
  intro k o hm
  simp only [List.mem_cons, List.not_mem_nil, reduceCtorEq, or_false] at hm

theorem Made.of_provider {p : Provider} {cached : Option Credential} {margin : Time.Span}
    (h : (renewable ⟨.provider p, cached, margin⟩).Made) :
    cached = p.initialCredential ∧ ∃ config, Provider.ofConfig config = .ok p := by
  cases h with
  | provider h => exact ⟨rfl, _, h⟩

theorem Made.of_plugin {p : Plugin} {cached : Option Credential} {margin : Time.Span}
    (h : (renewable ⟨.plugin p, cached, margin⟩).Made) : cached = Option.none := by
  cases h with
  | plugin => rfl

end Strategy

theorem Provider.isBlankText_of_initialToken {config : AuthProvider} {p : Provider} {t : String}
    (h : ofConfig config = .ok p) (ht : p.initialToken = some t) : isBlankText t = false := by
  obtain ⟨expiry, -, h⟩ := Except.bind_eq_ok_iff.1 h
  cases h
  exact config.isBlankText_of_value? ht

/-- Tokens are clean unless they are handed out as they stand, and none is blank. -/
theorem Strategy.Made.token_of_provides [Library] {st : Strategy} {c : Credential} {t : String}
    (hm : st.Made) (hv : st.validate = .ok ()) (hp : st.Provides c) (hc : c.secret = .token t) :
    isBlankText t = false ∧ (IsClean t ∨ st.Verbatim t) := by
  cases hm with
  | none =>
    obtain ⟨answer, -, h⟩ := hp
    cases h
  | basic username password =>
    obtain ⟨answer, -, h⟩ := hp
    cases h
    cases hc
  | certificate x =>
    obtain ⟨answer, -, h⟩ := hp
    cases h
    cases hc
  | token raw =>
    obtain ⟨answer, -, h⟩ := hp
    cases h
    cases hc
    have hb : isBlankText (trim raw) = false := by
      rw [Strategy.validate] at hv
      split at hv
      · cases hv
      next hb => exact Bool.eq_false_iff.2 hb
    exact ⟨hb, .inl (Text.isClean_trim_of_not_blank hb)⟩
  | @provider config p hconfig margin =>
    rcases origin_of_provides hp with hi | hg
    · obtain ⟨token, htoken, rfl⟩ := Option.map_eq_some_iff.1 hi
      cases hc
      exact ⟨Provider.isBlankText_of_initialToken hconfig htoken, .inr (.seed htoken)⟩
    · obtain ⟨-, stdout, ha⟩ := Provider.gives_ok_iff.1 hg
      obtain ⟨secret, expiresAt⟩ := c
      cases hc
      have hclean := ha.isClean
      exact ⟨hclean.not_blank, .inl hclean⟩
  | plugin p margin =>
    rcases origin_of_provides hp with hi | hg
    · cases hi
    · obtain ⟨stdout, ha⟩ := Plugin.gives_ok_iff.1 hg
      obtain ⟨secret, expiresAt⟩ := c
      cases hc
      exact ⟨ha.not_blank, .inr (.response ha)⟩

namespace Resolver

variable {h : Host} {s : Settings} {c : Cluster} {a : Option ClusterAuthority} {o : Offer}
  {st : Strategy}

theorem offer_token {path : String → String} {u : User} {t : String}
    (h : offer path u = .token t) : ∃ raw, t = trim raw := by
  rw [offer] at h
  split at h
  · cases h
  · cases h
  · split at h
    · cases h
      exact ⟨_, rfl⟩
    · cases h
    · split at h
      · cases h
      · split at h <;> cases h

theorem Offer.made [Library] (ho : ∀ t, o = .token t → ∃ raw, t = trim raw)
    (hst : o.strategy h s c a = .ok st) : st.Made := by
  cases o with
  | certificate m key =>
    obtain ⟨l, -, rfl⟩ := Except.map_eq_ok_iff.1 hst
    exact .certificate l
  | keyOnly => cases hst
  | token t =>
    obtain ⟨raw, rfl⟩ := ho t rfl
    cases hst
    exact .token raw
  | tokenFile path =>
    rw [Offer.strategy] at hst
    split at hst
    next t _ =>
      cases hst
      exact .token t
    next => cases hst
  | password name word =>
    cases hst
    exact .basic name word
  | provider p =>
    obtain ⟨q, hq, hst⟩ := Except.bind_eq_ok_iff.1 hst
    obtain ⟨margin, -, rfl⟩ := renewable_eq_ok_iff.1 hst
    exact .provider hq margin
  | exec e =>
    obtain ⟨margin, -, rfl⟩ := renewable_eq_ok_iff.1 hst
    exact .plugin _ margin
  | nothing =>
    cases hst
    exact .none

theorem made_of_strategy [Library] {directory : Option String} {u : User}
    (hst : strategy h s directory c a u = .ok st) : st.Made :=
  Offer.made (fun _ => offer_token) hst

end Resolver

/-- The options of connections: what a kubeconfig is resolved to, and those of a pod. -/
inductive Obtained [Library] : Options → Prop where
  | resolved {h : Host} {s : Settings} {k : Kubeconfig} {contextName namespaceName : Option String}
    {o : Options} (ho : (Resolver.resolve h s k contextName namespaceName).2 = .ok o) : Obtained o
  | mounted {h : Host} {pod : Pod} {directory : String} {o : Options}
    (ho : pod.options h directory = .ok o) : Obtained o

namespace Obtained

variable {o : Options}

theorem made [Library] (h : Obtained o) : o.strategy.Made ∧ o.strategy.validate = .ok () := by
  suffices hvalid : o.strategy.Made ∧ o.validate = .ok () by
    obtain ⟨hm, hv⟩ := hvalid
    obtain ⟨-, -, -, -, hv⟩ := Options.validate_eq_ok_iff.1 hv
    exact ⟨hm, hv⟩
  cases h with
  | @resolved h s k contextName namespaceName _ ho =>
    have hq : (⟨h, s, k, contextName, namespaceName⟩ : Resolver.Query).answer = .ok o := ho
    obtain ⟨-, ⟨x, c, u, a, hd⟩, hv⟩ := Resolver.Query.answer_eq_ok_iff.1 hq
    exact ⟨Resolver.made_of_strategy hd.strategy, hv⟩
  | @mounted h pod directory _ ho =>
    obtain ⟨endpoint, -, ho⟩ := Except.bind_eq_ok_iff.1 ho
    obtain ⟨token, -, ho⟩ := Except.bind_eq_ok_iff.1 ho
    dsimp only at ho
    split at ho
    · cases ho
    · obtain ⟨ca, -, ho⟩ := Except.bind_eq_ok_iff.1 ho
      obtain ⟨hv, ho⟩ := Except.bind_unit_eq_ok_iff.1 ho
      cases ho
      exact ⟨.token token, hv⟩

end Obtained

/-- What is known of the tokens that a connection comes to. -/
structure TokensKnown [Library] (o : Options) : Prop where
  shown : ∀ c t, o.strategy.Provides c → c.secret = .token t →
    isBlankText t = false ∧ c.authorization? = some ("Bearer " ++ t)
  clean : ∀ c t, o.strategy.Provides c → c.secret = .token t →
    IsClean t ∨ o.strategy.Verbatim t
  response : ∀ p cached margin stdout c, o.strategy = .renewable ⟨.plugin p, cached, margin⟩ →
    p.Accepts stdout c → o.strategy.Provides c
  seed : ∀ p cached margin t now m, o.strategy = .renewable ⟨.provider p, cached, margin⟩ →
    p.initialToken = some t → (Credential.bearer t p.initialExpiry).needsRefresh now m = false →
      o.strategy.Provides (.bearer t p.initialExpiry)

theorem tokensKnown [Library] {o : Options} (h : Obtained o) : TokensKnown o where
  shown c t hp hc := by
    obtain ⟨hm, hv⟩ := h.made
    refine ⟨(hm.token_of_provides hv hp hc).1, ?_⟩
    rw [Credential.authorization?, hc]
  clean c t hp hc := by
    obtain ⟨hm, hv⟩ := h.made
    exact (hm.token_of_provides hv hp hc).2
  response p cached margin stdout c hst ha := by
    obtain ⟨hm, -⟩ := h.made
    rw [hst] at hm ⊢
    exact Strategy.provides_of_gives hm.of_plugin (Plugin.gives_ok_iff.2 ⟨stdout, ha⟩)
  seed p cached margin t now m hst ht hf := by
    obtain ⟨hm, -⟩ := h.made
    rw [hst] at hm ⊢
    have hcached : cached = some (.bearer t p.initialExpiry) := by
      rw [hm.of_provider.1, Provider.initialCredential, ht]
      rfl
    exact Strategy.provides_of_cached hcached hf

def User.options [Library] (u : User) : Except Error Options :=
  let k : Kubeconfig := { Kubeconfig.empty with
    contexts := [⟨"c", ⟨"k", "u", none⟩⟩]
    clusters := [⟨"k", ⟨"https://h", none, none, false⟩⟩]
    users := [⟨"u", u⟩] }
  (Resolver.resolve ⟨.empty, none, []⟩ .default k (some "c") none).2

def Plugin.getToken : Plugin :=
  ⟨"client.authentication.k8s.io/v1", "get-token", [], .ofList [], none, none⟩

/-- A response whose token ends with a line break. -/
def Plugin.untrimmed : String :=
  "\x7b\"apiVersion\":\"client.authentication.k8s.io/v1\",\"kind\":\"ExecCredential\"," ++
    "\"status\":\x7b\"token\":\"xyz\\n\"\x7d\x7d"

theorem Plugin.accepts_untrimmed : getToken.Accepts untrimmed (.bearer "xyz\n" none) := by
  have hp : (getToken.parseOutput untrimmed).toOption = some (.bearer "xyz\n" none) := by
    decide +kernel
  exact parseOutput_eq_ok_iff.1 (Except.toOption_eq_some_iff.1 hp)

def User.ofPlugin : User :=
  { User.anonymous with
    exec := some ⟨some Plugin.getToken.apiVersion, Plugin.getToken.command, [], [], none, false⟩ }

def User.ofToken (token : String) : User :=
  { User.anonymous with authProvider := some ⟨"p", [("access-token", .string token)]⟩ }

theorem tokensKnown_ofPlugin : ∃ o, User.ofPlugin.options = .ok o ∧ TokensKnown o := by
  have hresolved : ∃ o, User.ofPlugin.options = .ok o := ⟨_, rfl⟩
  obtain ⟨o, ho⟩ := hresolved
  exact ⟨o, ho, tokensKnown (.resolved ho)⟩

/-- A plugin's token and a configured one are handed out with a line break at the end. -/
theorem unclean_tokens : ¬ IsClean "xyz\n" ∧
    (∃ o, User.ofPlugin.options = .ok o ∧ o.strategy.Provides (.bearer "xyz\n" none)) ∧
    ∃ o, (User.ofToken "xyz\n").options = .ok o ∧
      o.strategy.Provides (.bearer "xyz\n" none) := by
  refine ⟨?_, ⟨_, rfl, ?_⟩, ⟨_, rfl, ?_⟩⟩
  · intro h
    cases h.last '\n' rfl
  · have hg := Plugin.gives_ok_iff.2 ⟨_, Plugin.accepts_untrimmed⟩
    exact Strategy.provides_of_gives rfl hg
  · have hf : (Credential.bearer "xyz\n" none).needsRefresh ⟨0, 0, 0⟩ ⟨0⟩ = false := rfl
    exact Strategy.provides_of_cached rfl hf

end ClusterAccess
