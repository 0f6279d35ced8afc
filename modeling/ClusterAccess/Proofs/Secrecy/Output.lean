import ClusterAccess.Proofs.ProviderOutput
import ClusterAccess.Proofs.Secrecy.Resemblance
import ClusterAccess.Proofs.Text
import ClusterAccess.Proofs.Work

namespace ClusterAccess

open Text (isBlankText)

namespace Json

/-- Documents with different texts at one place, neither of them blank. -/
inductive DiffersAt : List String → Json → Json → Prop where
  | token {t t' : String} (h : isBlankText t = false) (h' : isBlankText t' = false) :
    DiffersAt [] (.string t) (.string t')
  | member {name : String} {segments : List String} {v v' : Json}
    {before after : List (String × Json)} (hn : ∀ m ∈ before, m.1 ≠ name)
    (h : DiffersAt segments v v') :
    DiffersAt (name :: segments) (.object (before ++ (name, v) :: after))
      (.object (before ++ (name, v') :: after))
  | item {segment : String} {segments : List String} {v v' : Json} {before after : List Json}
    (hi : index? segment = some before.length) (h : DiffersAt segments v v') :
    DiffersAt (segment :: segments) (.array (before ++ v :: after)) (.array (before ++ v' :: after))

/-- Two ways to one place of a document; an index has several spellings. -/
inductive SamePlace : Json → List String → List String → Prop where
  | here (d : Json) : SamePlace d [] []
  | member {name : String} {members : List (String × Json)} {v : Json}
    {segments segments' : List String} (hv : members.lookup name = some v)
    (h : SamePlace v segments segments') :
    SamePlace (.object members) (name :: segments) (name :: segments')
  | item {segment segment' : String} {i : Nat} {items : List Json} {v : Json}
    {segments segments' : List String} (hi : index? segment = some i)
    (hi' : index? segment' = some i) (hv : items[i]? = some v)
    (h : SamePlace v segments segments') :
    SamePlace (.array items) (segment :: segments) (segment' :: segments')

variable {segments segments' : List String} {d d' : Json}

theorem lookup_member {name : String} {v : Json} {before : List (String × Json)}
    (hn : ∀ m ∈ before, m.1 ≠ name) (after : List (String × Json)) :
    (before ++ (name, v) :: after).lookup name = some v := by
  have hnone : before.lookup name = none :=
    List.lookup_eq_none_iff.2 fun m hm => bne_iff_ne.2 (hn m hm).symm
  rw [List.lookup_append, hnone, Option.none_or, List.lookup_cons_self]

theorem lookup_member_of_ne {name other : String} (hne : other ≠ name) (v : Json)
    (before after : List (String × Json)) :
    (before ++ (name, v) :: after).lookup other = (before ++ after).lookup other := by
  rw [List.lookup_append, List.lookup_append, List.lookup_cons, beq_false_of_ne hne]

theorem DiffersAt.follow?_eq (h : DiffersAt segments d d') :
    ∃ t t', isBlankText t = false ∧ isBlankText t' = false ∧
      Selector.follow? d segments = some (.string t) ∧
      Selector.follow? d' segments = some (.string t') := by
  induction h with
  | @token t t' h h' => exact ⟨t, t', h, h', rfl, rfl⟩
  | @member name segments v v' before after hn h ih =>
    simp only [Selector.follow?_cons, child?, lookup_member hn, Option.bind_some]
    exact ih
  | @item segment segments v v' before after hi h ih =>
    simp only [Selector.follow?_cons, child?, hi, Option.bind_some,
      List.getElem?_append_right (Nat.le_refl _), Nat.sub_self, List.getElem?_cons_zero]
    exact ih

/-- Anywhere else the same texts stand in both. -/
theorem DiffersAt.text_eq (h : DiffersAt segments d d') (hp : ¬ SamePlace d segments segments') :
    (Selector.follow? d' segments').bind string? = (Selector.follow? d segments').bind string? := by
  induction h generalizing segments' with
  | token h h' =>
    cases segments' with
    | nil => exact absurd (.here _) hp
    | cons segment segments' => rfl
  | @member name segments v v' before after hn h ih =>
    cases segments' with
    | nil => rfl
    | cons other segments' =>
      simp only [Selector.follow?_cons, child?]
      by_cases hne : other = name
      · subst hne
        rw [lookup_member hn, lookup_member hn]
        exact ih fun hs => hp (.member (lookup_member hn after) hs)
      · rw [lookup_member_of_ne hne, lookup_member_of_ne hne]
  | @item segment segments v v' before after hi h ih =>
    cases segments' with
    | nil => rfl
    | cons other segments' =>
      simp only [Selector.follow?_cons, child?]
      cases hother : index? other with
      | none => rfl
      | some i =>
        have hat (v : Json) : (before ++ v :: after)[before.length]? = some v := by
          rw [List.getElem?_append_right (Nat.le_refl _), Nat.sub_self, List.getElem?_cons_zero]
        simp only [Option.bind_some]
        by_cases hne : i = before.length
        · subst hne
          rw [hat, hat]
          exact ih fun hs => hp (.item hi hother (hat v) hs)
        · have hsame : (before ++ v' :: after)[i]? = (before ++ v :: after)[i]? := by
            rcases Nat.lt_or_gt_of_ne hne with hlt | hgt
            · rw [List.getElem?_append_left hlt, List.getElem?_append_left hlt]
            · obtain ⟨k, rfl⟩ := Nat.exists_eq_add_of_lt hgt
              rw [List.getElem?_append_right (by omega), List.getElem?_append_right (by omega),
                Nat.add_assoc, Nat.add_sub_cancel_left, List.getElem?_cons_succ,
                List.getElem?_cons_succ]
          rw [hsame]

end Json

inductive Plugin.Status.Resembles (s : Plugin.Status) : Plugin.Status → Prop where
  | intro {token : Option String} (h : SameSecret s.token token) : Resembles s { s with token }

inductive Plugin.Response.Resembles (r : Plugin.Response) : Plugin.Response → Prop where
  | intro {status : Option Plugin.Status} (h : Option.Rel Plugin.Status.Resembles r.status status) :
    Resembles r { r with status }

/-- Output of a plugin that differs at most in the token of its response. -/
inductive Plugin.SameOutput : String → String → Prop where
  | same (stdout : String) : SameOutput stdout stdout
  | response {stdout stdout' : String} {r r' : Plugin.Response}
    (hr : Plugin.Response.parse? (Text.trim stdout) = some r)
    (hr' : Plugin.Response.parse? (Text.trim stdout') = some r') (h : r.Resembles r') :
    SameOutput stdout stdout'

inductive Provider.SameOutput (p : Provider) : String → String → Prop where
  | same (stdout : String) : SameOutput p stdout stdout
  | plain {stdout stdout' : String} (hs : p.tokenSelector = none) (h : isBlankText stdout = false)
    (h' : isBlankText stdout' = false) : SameOutput p stdout stdout'
  | document {stdout stdout' selector : String} {d d' : Json} (hs : p.tokenSelector = some selector)
    (hd : Json.parse? (Text.trim stdout) = some d) (hd' : Json.parse? (Text.trim stdout') = some d')
    (h : Json.DiffersAt (Selector.segments selector) d d')
    (he : ∀ expiry, p.expirySelector = some expiry →
      ¬ d.SamePlace (Selector.segments selector) (Selector.segments expiry)) :
    SameOutput p stdout stdout'

namespace CredentialSource

def SameOutput : CredentialSource → String → String → Prop
  | .provider p => p.SameOutput
  | .plugin _ => Plugin.SameOutput

/-- Ends of a command that differ at most in the token, or in output that does not count. -/
inductive EndsAlike (s : CredentialSource) : CommandOutcome → CommandOutcome → Prop where
  | unlaunched (e : LaunchError) : EndsAlike s (.error e) (.error e)
  | ended {r : CommandResult} {stdout : String}
    (h : r.succeeded = true → s.SameOutput r.stdout stdout) :
    EndsAlike s (.ok r) (.ok { r with stdout })

end CredentialSource

namespace Plugin

theorem Status.Resembles.credential_veil [Library] {s s' : Status} (h : s.Resembles s') :
    Outcome.veil s'.credential = Outcome.veil s.credential := by
  obtain ⟨h⟩ := h
  have htoken := h.nonBlank?
  simp only [Status.credential]
  change Outcome.veil (s.expiresAt >>= _) = _
  cases s.expiresAt with
  | error e => rfl
  | ok expiresAt =>
    simp only [bind, Except.bind]
    generalize Text.nonBlank? s.token = t at htoken
    generalize Text.nonBlank? _ = t' at htoken
    cases Text.nonBlank? s.certificateData with
    | some certificate => cases Text.nonBlank? s.keyData <;> rfl
    | none =>
      cases Text.nonBlank? s.keyData with
      | some key => rfl
      | none => cases htoken <;> rfl

theorem parseOutput_veil [Library] {stdout stdout' : String} (h : SameOutput stdout stdout')
    (p : Plugin) : Outcome.veil (p.parseOutput stdout') = Outcome.veil (p.parseOutput stdout) := by
  cases h with
  | same => rfl
  | @response _ r r' hr hr' h =>
    obtain ⟨h⟩ := h
    simp only [parseOutput, hr, hr', status]
    split
    · rfl
    · split
      · rfl
      · generalize r.status = s at h
        cases h with
        | none => rfl
        | some h => exact h.credential_veil

end Plugin

namespace Provider

theorem instantAt_congr {d d' : Json} {selector : String}
    (h : (Selector.follow? d' (Selector.segments selector)).bind Json.string? =
      (Selector.follow? d (Selector.segments selector)).bind Json.string?) :
    instantAt d' selector = instantAt d selector := by
  rw [instantAt, instantAt, Selector.select?, Selector.select?, h]

theorem parseOutput_veil {p : Provider} {stdout stdout' : String}
    (h : p.SameOutput stdout stdout') :
    Outcome.veil (p.parseOutput stdout') = Outcome.veil (p.parseOutput stdout) := by
  cases h with
  | same => rfl
  | plain hs h h' =>
    simp only [parseOutput, hs, Text.isEmpty_trim h, Text.isEmpty_trim h']
    rfl
  | @document _ selector d d' hs hd hd' h he =>
    obtain ⟨t, t', ht, ht', hf, hf'⟩ := h.follow?_eq
    have htoken := tokenAt_eq_ok_iff.2 ⟨t, hf, ht, rfl⟩
    have htoken' := tokenAt_eq_ok_iff.2 ⟨t', hf', ht', rfl⟩
    simp only [parseOutput, hs, isEmpty_of_parse hd, isEmpty_of_parse hd', document, hd, hd',
      htoken, htoken', Bool.false_eq_true, if_false, bind, Except.bind]
    cases hexpiry : p.expirySelector with
    | none => rfl
    | some expiry =>
      dsimp only
      rw [instantAt_congr (h.text_eq (he expiry hexpiry))]
      cases instantAt d expiry <;> rfl

end Provider

/-- Commands that are run alike: only the environment may differ. -/
structure Invocation.Alike (i i' : Invocation) : Prop where
  program : i'.program = i.program
  args : i'.args = i.args

namespace CredentialSource

variable {s s' : CredentialSource} {i i' : Invocation} {o o' : CommandOutcome}

theorem Resembles.invocation (h : s.Resembles s') :
    Except.Rel Eq Invocation.Alike s.invocation s'.invocation := by
  cases h with
  | @provider p initialToken h =>
    exact Except.Rel.refl (fun _ => rfl) (fun _ => ⟨rfl, rfl⟩) p.invocation
  | plugin p env => exact .ok ⟨rfl, rfl⟩

theorem Resembles.beginEntry_eq (h : s.Resembles s') : s'.beginEntry = s.beginEntry := by
  rw [beginEntry, beginEntry, h.describe_eq]

theorem Resembles.startEntry_eq (h : s.Resembles s') (hi : i.Alike i') :
    s'.startEntry i' = s.startEntry i := by
  cases h <;> simp only [startEntry, hi.program, hi.args]

theorem Resembles.failureEntry_eq (h : s.Resembles s') (hi : i.Alike i') (code : Option Int) :
    s'.failureEntry i' code = s.failureEntry i code := by
  cases h <;> simp only [failureEntry, hi.program]

theorem Resembles.parseOutput_veil [Library] (h : s.Resembles s') {stdout stdout' : String}
    (ho : s.SameOutput stdout stdout') :
    Outcome.veil (s'.parseOutput stdout') = Outcome.veil (s.parseOutput stdout) := by
  cases h with
  | @provider p initialToken h =>
    have hsame : ({ p with initialToken } : Provider).parseOutput stdout' =
        p.parseOutput stdout' := by
      simp only [Provider.parseOutput, Provider.document, Provider.describe]
    have hveil := Provider.parseOutput_veil ho
    rw [← hsame] at hveil
    simpa only [CredentialSource.parseOutput] using hveil
  | plugin p env =>
    have hsame : ({ p with env } : Plugin).parseOutput stdout' = p.parseOutput stdout' := by
      simp only [Plugin.parseOutput, Plugin.status]
    have hveil := Plugin.parseOutput_veil ho p
    rw [← hsame] at hveil
    simpa only [CredentialSource.parseOutput] using hveil

theorem Resembles.conclude_veil [Library] (h : s.Resembles s') (hi : i.Alike i')
    (ho : s.EndsAlike o o') : Outcome.veil (s'.conclude i' o') = Outcome.veil (s.conclude i o) := by
  cases ho with
  | unlaunched e =>
    have hhint : s'.installHint = s.installHint := by cases h <;> rfl
    simp only [conclude, hi.program, hhint]
  | @ended r stdout ho =>
    have hsame : ({ r with stdout } : CommandResult).succeeded = r.succeeded := rfl
    simp only [conclude, hsame]
    cases hr : r.succeeded with
    | true => exact h.parseOutput_veil (ho hr)
    | false => simp only [CommandResult.toError, hi.program, Bool.false_eq_true, if_false]

theorem Resembles.endEntry_eq (h : s.Resembles s') {x x' : Outcome} (hx : x'.veil = x.veil) :
    s'.endEntry x' = s.endEntry x := by
  cases Outcome.rel_of_veil hx with
  | error he => simp only [he, endEntry, h.describe_eq]
  | ok hc => simp only [endEntry, h.describe_eq, Credential.expiresAt_of_veil hc]

theorem Resembles.failureEntries_eq (h : s.Resembles s') (hi : i.Alike i') (ho : s.EndsAlike o o') :
    s'.failureEntries i' o' = s.failureEntries i o := by
  cases ho with
  | unlaunched e => rfl
  | @ended r stdout ho =>
    have hsame : ({ r with stdout } : CommandResult).succeeded = r.succeeded := rfl
    simp only [failureEntries, hsame, h.failureEntry_eq hi]

end CredentialSource

end ClusterAccess
