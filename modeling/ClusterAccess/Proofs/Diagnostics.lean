import ClusterAccess.Kubeconfig.Printer
import ClusterAccess.Simulation.Session
import Mathlib.Data.List.Forall2

namespace ClusterAccess

section Lists

variable {α β γ : Type} {R : α → α → Prop} {f : α → β}

theorem map_eq_of_forall₂ {l l' : List α} (h : List.Forall₂ R l l')
    (hf : ∀ a a', R a a' → f a' = f a) : l'.map f = l.map f := by
  induction h with
  | nil => rfl
  | cons h _ ih => rw [List.map_cons, List.map_cons, hf _ _ h, ih]

theorem map_eq_of_rel {a a' : Option α} (h : Option.Rel R a a')
    (hf : ∀ a a', R a a' → f a' = f a) : a'.map f = a.map f := by
  cases h with
  | none => rfl
  | some h => exact congrArg some (hf _ _ h)

theorem rel_of_map_eq {a a' : Option α} (h : a'.map f = a.map f) :
    Option.Rel (fun x x' => f x' = f x) a a' := by
  cases a with
  | none =>
    cases Option.map_eq_none_iff.1 h
    exact .none
  | some x =>
    obtain ⟨x', rfl, hf⟩ := Option.map_eq_some_iff.1 h
    exact .some hf

theorem map_const_of_isSome {a a' : Option α} (h : a'.isSome = a.isSome) (b : β) :
    (a'.map fun _ => b) = a.map fun _ => b := by
  cases a <;> cases a' <;> first | rfl | cases h

end Lists

/-- The values of variables are secrets. -/
inductive ExecEntry.Alike (e : ExecEntry) : ExecEntry → Prop where
  | intro {env : List EnvironmentVariable} (h : env.map (·.name) = e.env.map (·.name)) :
    Alike e { e with env }

/-- Data of certificates and keys, tokens, passwords and the settings of providers are secrets. -/
inductive User.Alike (u : User) : User → Prop where
  | intro {certificateData keyData token password : Option String}
    {authProvider : Option AuthProvider} {exec : Option ExecEntry}
    (hc : certificateData.isSome = u.certificateData.isSome)
    (hk : keyData.isSome = u.keyData.isSome) (ht : token.isSome = u.token.isSome)
    (hp : password.isSome = u.password.isSome)
    (ha : authProvider.map (·.name) = u.authProvider.map (·.name))
    (he : Option.Rel ExecEntry.Alike u.exec exec) :
    Alike u { u with certificateData, keyData, token, password, authProvider, exec }

inductive Kubeconfig.Alike (k : Kubeconfig) : Kubeconfig → Prop where
  | intro {users : List (Named User)}
    (h : List.Forall₂ (fun n n' => n'.name = n.name ∧ n.body.Alike n'.body) k.users users) :
    Alike k { k with users }

inductive ClientCertificate.Alike (c : ClientCertificate) : ClientCertificate → Prop where
  | intro {key : Option PrivateKey} (h : key.isSome = c.key.isSome) : Alike c { c with key }

inductive Plugin.Alike (p : Plugin) : Plugin → Prop where
  | intro {env : TextTable} (h : env.map (·.1) = p.env.map (·.1)) : Alike p { p with env }

inductive Provider.Alike (p : Provider) : Provider → Prop where
  | intro {initialToken : Option String} (h : initialToken.isSome = p.initialToken.isSome) :
    Alike p { p with initialToken }

/-- All of a credential is secret but its kind and its expiry. -/
inductive Credential.Alike : Credential → Credential → Prop where
  | token (t t' : String) (e : Option Time.Instant) : Alike (.bearer t e) (.bearer t' e)
  | basic (u p u' p' : String) (e : Option Time.Instant) :
    Alike ⟨.basic u p, e⟩ ⟨.basic u' p', e⟩
  | certificate (c c' : ClientCertificate) (e : Option Time.Instant) :
    Alike (.certificate c e) (.certificate c' e)

inductive CredentialSource.Alike : CredentialSource → CredentialSource → Prop where
  | provider {p p' : Provider} (h : p.Alike p') : Alike (.provider p) (.provider p')
  | plugin {p p' : Plugin} (h : p.Alike p') : Alike (.plugin p) (.plugin p')

inductive Renewable.Alike (r : Renewable) : Renewable → Prop where
  | intro {source : CredentialSource} {cached : Option Credential} (hs : r.source.Alike source)
    (hc : Option.Rel Credential.Alike r.cached cached) : Alike r { r with source, cached }

inductive Strategy.Alike : Strategy → Strategy → Prop where
  | none : Alike .none .none
  | basic (username password password' : String) :
    Alike (.basic username password) (.basic username password')
  | token (t t' : String) : Alike (.token t) (.token t')
  | certificate {c c' : ClientCertificate} (h : c.Alike c') : Alike (.certificate c) (.certificate c')
  | renewable {r r' : Renewable} (h : r.Alike r') : Alike (.renewable r) (.renewable r')

inductive Options.Alike (o : Options) : Options → Prop where
  | intro {strategy : Strategy} {certificate : Option ClientCertificate}
    (hs : o.strategy.Alike strategy)
    (hc : Option.Rel ClientCertificate.Alike o.certificate certificate) :
    Alike o { o with strategy, certificate }

def Headers.Alike (h h' : Headers) : Prop := h'.names = h.names

structure Request.Alike (r r' : Request) : Prop where
  headers : r.headers.Alike r'.headers
  certificates : List.Forall₂ ClientCertificate.Alike r.certificates r'.certificates

inductive Handshake.Alike (h : Handshake) : Handshake → Prop where
  | intro {request : Request} (hr : h.request.Alike request) : Alike h { h with request }

theorem ExecEntry.Alike.debug_eq {e e' : ExecEntry} (h : e.Alike e') : e'.debug = e.debug := by
  obtain ⟨h⟩ := h
  have henv (l : List EnvironmentVariable) : l.map (·.debug) =
      (l.map (·.name)).map fun n => EnvironmentVariable.debug ⟨n, ""⟩ := by
    rw [List.map_map]
    rfl
  simp only [debug, henv, h]

theorem User.Alike.debug_eq {u u' : User} (h : u.Alike u') : u'.debug = u.debug := by
  obtain ⟨hc, hk, ht, hp, ha, he⟩ := h
  have hname (a : Option AuthProvider) :
      (a.map fun p => Text.quoted p.name) = (a.map (·.name)).map Text.quoted := by
    rw [Option.map_map]
    rfl
  simp only [debug, optionalSecret, map_const_of_isSome hc, map_const_of_isSome hk,
    map_const_of_isSome ht, map_const_of_isSome hp, hname, ha,
    map_eq_of_rel he fun _ _ h => h.debug_eq]

theorem Kubeconfig.Alike.debug_eq {k k' : Kubeconfig} (h : k.Alike k') : k'.debug = k.debug := by
  obtain ⟨h⟩ := h
  have husers := map_eq_of_forall₂ (f := Named.debug "NamedUser" "user" User.debug) h
    fun n n' h => by rw [Named.debug, Named.debug, h.1, h.2.debug_eq]
  simp only [debug, husers]

theorem ClientCertificate.Alike.debug_eq {c c' : ClientCertificate} (h : c.Alike c') :
    c'.debug = c.debug := by
  obtain ⟨h⟩ := h
  simp only [debug, subject, h]

theorem Plugin.Alike.debug_eq {p p' : Plugin} (h : p.Alike p') : p'.debug = p.debug := by
  obtain ⟨h⟩ := h
  simp only [debug, h]

theorem Provider.Alike.debug_eq {p p' : Provider} (h : p.Alike p') : p'.debug = p.debug := by
  obtain ⟨h⟩ := h
  simp only [debug, map_const_of_isSome h]

theorem Credential.Alike.debug_eq {c c' : Credential} (h : c.Alike c') : c'.debug = c.debug := by
  cases h <;> rfl

theorem CredentialSource.Alike.debug_eq {s s' : CredentialSource} (h : s.Alike s') :
    s'.debug = s.debug := by
  cases h with
  | provider h => exact h.debug_eq
  | plugin h => exact h.debug_eq

theorem Renewable.Alike.debug_eq {r r' : Renewable} (h : r.Alike r') : r'.debug = r.debug := by
  obtain ⟨hs, hc⟩ := h
  have hcached := map_eq_of_rel hc fun _ _ h => h.debug_eq
  simp only [debug, hs.debug_eq, hcached]

theorem Strategy.Alike.debug_eq {st st' : Strategy} (h : st.Alike st') :
    st'.debug = st.debug := by
  cases h with
  | none => rfl
  | basic => rfl
  | token => rfl
  | certificate h => rw [debug, debug, h.debug_eq]
  | @renewable r r' h =>
    have hr := h.debug_eq
    obtain ⟨source, cached, margin⟩ := r
    obtain ⟨hs, -⟩ := h
    cases hs with
    | provider => rw [debug, debug, hr]
    | plugin => rw [debug, debug, hr]

theorem Options.Alike.debug_eq {o o' : Options} (h : o.Alike o') : o'.debug = o.debug := by
  obtain ⟨hs, hc⟩ := h
  have hcertificate := map_eq_of_rel hc fun _ _ h => h.debug_eq
  simp only [debug, hs.debug_eq, hcertificate]

theorem Headers.Alike.debug_eq {h h' : Headers} (ha : h.Alike h') : h'.debug = h.debug := by
  rw [debug, debug, ha]

theorem Request.Alike.debug_eq {r r' : Request} (h : r.Alike r') : r'.debug = r.debug := by
  have hcertificates := map_eq_of_forall₂ h.certificates fun _ _ h => h.debug_eq
  rw [debug, debug, h.headers.debug_eq, hcertificates]

theorem Handshake.Alike.debug_eq {h h' : Handshake} (ha : h.Alike h') : h'.debug = h.debug := by
  obtain ⟨hr⟩ := ha
  have hcertificates := map_eq_of_forall₂ hr.certificates fun _ _ h => h.debug_eq
  simp only [debug, hr.headers.debug_eq, hcertificates]

/-- Diagnostic texts do not depend on secrets. -/
structure SecretsWithheld : Prop where
  kubeconfig : ∀ k k' : Kubeconfig, k.Alike k' → k'.debug = k.debug
  user : ∀ u u' : User, u.Alike u' → u'.debug = u.debug
  plugin : ∀ p p' : Plugin, p.Alike p' → p'.debug = p.debug
  provider : ∀ p p' : Provider, p.Alike p' → p'.debug = p.debug
  credential : ∀ c c' : Credential, c.Alike c' → c'.debug = c.debug
  strategy : ∀ st st' : Strategy, st.Alike st' → st'.debug = st.debug
  options : ∀ o o' : Options, o.Alike o' → o'.debug = o.debug
  certificate : ∀ c c' : ClientCertificate, c.Alike c' → c'.debug = c.debug
  headers : ∀ h h' : Headers, h.Alike h' → h'.debug = h.debug
  request : ∀ r r' : Request, r.Alike r' → r'.debug = r.debug
  handshake : ∀ h h' : Handshake, h.Alike h' → h'.debug = h.debug

theorem secrets_withheld : SecretsWithheld where
  kubeconfig _ _ h := h.debug_eq
  user _ _ h := h.debug_eq
  plugin _ _ h := h.debug_eq
  provider _ _ h := h.debug_eq
  credential _ _ h := h.debug_eq
  strategy _ _ h := h.debug_eq
  options _ _ h := h.debug_eq
  certificate _ _ h := h.debug_eq
  headers _ _ h := h.debug_eq
  request _ _ h := h.debug_eq
  handshake _ _ h := h.debug_eq

end ClusterAccess
